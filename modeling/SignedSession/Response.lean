import SignedSession.Service

/-!
Responses in the making. A step may change the headers and may fail, and a failure does not take
back what was changed before it; so a token and an id are checked before either is written.
-/
namespace SignedSession

/-- A step in the making of a response. The headers that it leaves stand, whether it succeeds or
fails. -/
abbrev Responding (α : Type) := EStateM TokenError HeaderMap α

namespace Delivery

/-- Puts a token into a response, in the header or in both cookies. -/
def send (d : Delivery) (token : String) (c : Claims) : Responding Unit := do
  if d.sendsHeader then
    if ¬ HeaderValue.IsValid token then
      throw .invalidTokenHeader
    modify (·.insert d.tokenHeader token)
  else
    let session ← ofExcept (d.setCookie d.tokenCookie token true (d.maxAgeFor c))
    let xsrf ← ofExcept (d.setCookie d.xsrfCookie c.id false (d.maxAgeFor c))
    modify (·.append .setCookie session)
    modify (·.append .setCookie xsrf)

/-- Puts reset cookies into a response. -/
def reset (d : Delivery) : Responding Unit := do
  modify (·.append .setCookie (d.resetCookie d.tokenCookie).render)
  modify (·.append .setCookie (d.resetCookie d.xsrfCookie).render)

/-- What a delivery does to responses. -/
inductive Step
  | write (token : String) (c : Claims)
  | clear

def perform (d : Delivery) : Step → Responding Unit
  | .write token c => d.send token c
  | .clear => d.reset

/-- What becomes of a step, and the headers after it. -/
def attempt (d : Delivery) (step : Step) (h : HeaderMap) : Except TokenError Unit × HeaderMap :=
  match d.perform step h with
  | .ok _ h' => (.ok (), h')
  | .error e h' => (.error e, h')

/-- The steps one after the other, whether they fail or not; gives what became of each, and the
headers in the end. -/
def performAll (d : Delivery) : List Step → HeaderMap →
    List (Step × Except TokenError Unit) × HeaderMap
  | [], h => ([], h)
  | step :: steps, h =>
    let (outcome, h') := d.attempt step h
    let (log, h'') := d.performAll steps h'
    ((step, outcome) :: log, h'')

end Delivery

/-- Issues a session into a response; gives the claims as they were signed. -/
def Service.respond (svc : Service) (now : Instant) (freshId : String) (c : Claims) :
    Responding Claims := do
  let filled ← ofExcept (svc.fill now freshId c)
  let (token, signed) ← ofExcept (svc.codec.sign filled)
  svc.delivery.send token signed
  pure signed

end SignedSession
