import SignedSession.DoubleSubmit
import SignedSession.Token.Codec

/-!
The session service: it issues sessions into responses and accepts them from requests. A token
from the query or a header is accepted even if it is expired, so that whoever holds it can have
it renewed; a token from a cookie is not, and must pass the double-submit check. Fresh ids of tokens
are UUIDs of version 7, which begin with a time in milliseconds and so sort by it.
-/
namespace SignedSession

namespace TokenId

open Text

/-- The id of a time and of 74 further bits, with the version and the variant between them. -/
def ofParts (millis bits : Nat) : String :=
  String.ofList <| Hex.digits 8 ((millis >>> 16) % (1 <<< 32)) ++ ['-'] ++
    Hex.digits 4 (millis % (1 <<< 16)) ++ ['-', '7'] ++ Hex.digits 3 ((bits >>> 62) % (1 <<< 12)) ++
    ['-'] ++ Hex.digits 4 ((1 <<< 15) + (bits >>> 48) % (1 <<< 14)) ++ ['-'] ++
    Hex.digits 12 (bits % (1 <<< 48))

end TokenId

structure Service where
  settings : Settings
  hooks : Hooks
  codec : Codec
  delivery : Delivery
  guard : DoubleSubmit

namespace Service

/-- A service with defaults for what was not chosen. -/
def new (s : Settings) (h : Hooks) : Except TokenError Service := do
  let s := s.withDefaults
  let delivery ← Delivery.new s
  .ok ⟨s, h, .new s h, delivery, .new s⟩

/-- The expiry that issued claims get: their own unless it is zero, else the lifetime from now. -/
def expiryFor (svc : Service) (now : Instant) (c : Claims) : Except TokenError Int64 :=
  match c.expiry.filter (· ≠ 0) with
  | some e => .ok e
  | none =>
    match now.add? svc.settings.tokenLifetime with
    | some t => .ok t.timestamp
    | none => .error .durationOutOfRange

/-- A text, unless there is none or it is empty. -/
def textOr (s : Option String) (fallback : String) : String :=
  match s with
  | some s => if s = "" then fallback else s
  | none => fallback

/-- Claims with the members that an issued token must have: the expiry, the issuer, the time of
issue unless that is disabled, and an id. -/
def fill (svc : Service) (now : Instant) (freshId : String) (c : Claims) :
    Except TokenError Claims := do
  let expiry ← svc.expiryFor now c
  .ok { c with
    expiry := some expiry
    issuer := some (textOr c.issuer svc.settings.issuer)
    issuedAt := if svc.settings.issueTimeDisabled then c.issuedAt else some now.timestamp
    tokenId := some (textOr c.tokenId freshId) }

/-- Issues a session: signs the filled claims and adds the token to the response. Gives the
claims as they were signed and the response's headers. -/
def issue (svc : Service) (now : Instant) (freshId : String) (h : HeaderMap) (c : Claims) :
    Except TokenError (Claims × HeaderMap) := do
  let filled ← svc.fill now freshId c
  let (token, signed) ← svc.codec.sign filled
  let h ← svc.delivery.write h token signed
  .ok (signed, h)

/-- Gives a user the audience of the claims, of which there must be one. -/
def bindAudience (c : Claims) : Except TokenError Claims :=
  match c.user, c.audiences with
  | none, _ => .ok c
  | some u, [a] => .ok { c with user := some { u with audience := a } }
  | some _, _ => .error .notOneAudience

/-- The claims of a request's token. -/
def accept (svc : Service) (now : Instant) (method : String) (h : HeaderMap)
    (d : DeliveredToken) : Except TokenError Claims := do
  let verified ← svc.codec.verify now d.token
  let c ← bindAudience verified
  if d.channel = .cookie ∧ c.IsExpired now then
    .error .tokenExpired
  svc.guard.check method h c d.channel
  .ok c

/-- Reads the session of a request: the claims and the token that says them. -/
def read (svc : Service) (now : Instant) (method : String) (uri : Uri) (h : HeaderMap) :
    Except TokenError (Claims × String) := do
  let d ← svc.delivery.read uri h
  let c ← svc.accept now method h d
  .ok (c, d.token)

/-- Takes a session back from a browser. -/
def clear (svc : Service) (h : HeaderMap) : HeaderMap := svc.delivery.clear h

/-- Applies a rule of the host to a token and its claims. -/
def checkWith (validator : Validator) (token : String) (c : Claims) : Except TokenError Unit :=
  if validator token c then .ok () else .error (.vetoed c.id)

end Service

end SignedSession
