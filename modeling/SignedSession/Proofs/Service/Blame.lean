import SignedSession.Proofs.Service.Acceptance
import SignedSession.Proofs.Token.Refusal

/-!
Who is to blame when a request has no session. Each step of reading one fails in a few ways only.
Main statement: the server is to blame exactly when it has no secret for the token that it found;
all else is the fault of the request, and is answered as such.
-/
namespace SignedSession

/-- The request is to blame: for its token, for having none, for bringing one that has expired, or
for not repeating its id. -/
def TokenError.BlamesRequest (e : TokenError) : Prop :=
  e.BlamesToken ∨ e = .tokenNotFound ∨ e = .tokenExpired ∨ e = .xsrfMismatch

theorem Delivery.read_failsOnly (d : Delivery) (uri : Uri) (h : HeaderMap) :
    FailsOnly (· = .tokenNotFound) (d.read uri h) := by
  unfold read
  cases d.fromQuery? uri with
  | some t => exact .ok _ _
  | none =>
    cases d.fromHeader? h with
    | some t => exact .ok _ _
    | none =>
      cases d.fromCookie? h with
      | some t => exact .ok _ _
      | none => exact .error rfl

theorem DoubleSubmit.check_failsOnly (g : DoubleSubmit) (method : String) (h : HeaderMap)
    (c : Claims) (channel : Channel) :
    FailsOnly (· = .xsrfMismatch) (g.check method h c channel) :=
  .ite (.error rfl) (.ok _ ())

namespace Service

theorem bindAudience_failsOnly (c : Claims) :
    FailsOnly TokenError.BlamesToken (bindAudience c) := by
  unfold bindAudience
  cases c.user with
  | none => exact .ok _ c
  | some u =>
    match c.audiences with
    | [] => exact .error trivial
    | [a] => exact .ok _ _
    | _ :: _ :: _ => exact .error trivial

theorem accept_failsOnly (svc : Service) (now : Instant) (method : String) (h : HeaderMap)
    (d : DeliveredToken) :
    FailsOnly (fun e => e.BlamesRequest ∨ svc.codec.keyring.LacksSecretFor d.token e)
      (svc.accept now method h d) := by
  refine .bind ((svc.codec.verify_failsOnly now d.token).mono fun e he => ?_) fun verified _ => ?_
  · exact he.imp_left .inl
  refine .bind ((bindAudience_failsOnly verified).mono fun e he => .inl (.inl he)) fun c _ => ?_
  refine .ite (.error (.inl (.inr (.inr (.inl rfl))))) ?_
  refine .bind ((svc.guard.check_failsOnly method h c d.channel).mono fun e he => ?_) fun _ _ => ?_
  · exact .inl (.inr (.inr (.inr he)))
  · exact .ok _ c

/-- The server has no secret for the token of a request. -/
def LacksSecretFor (svc : Service) (uri : Uri) (h : HeaderMap) (e : TokenError) : Prop :=
  ∃ d, svc.delivery.read uri h = .ok d ∧ svc.codec.keyring.LacksSecretFor d.token e

theorem read_failsOnly (svc : Service) (now : Instant) (method : String) (uri : Uri)
    (h : HeaderMap) : FailsOnly (fun e => e.BlamesRequest ∨ svc.LacksSecretFor uri h e)
      (svc.read now method uri h) := by
  refine .bind ((svc.delivery.read_failsOnly uri h).mono fun e he => .inl (.inr (.inl he))) ?_
  intro d hd
  refine .bind ((svc.accept_failsOnly now method h d).mono fun e he => ?_) fun c _ => .ok _ _
  exact he.imp_right fun hlacks => ⟨d, hd, hlacks⟩

end Service

end SignedSession
