import SignedSession.Proofs.Token.Verification

/-!
Why verification fails. Either the token is to blame, for what it says or how it is signed, or no
secret was found to verify it with; and when there is no secret can be told from the token and the
host's reader of secrets.
-/
namespace SignedSession

open Json

namespace TokenError

/-- The form, the signature, the times or the audience of a token are to blame. -/
def BlamesToken : TokenError → Prop
  | audienceRejected _ => True
  | invalidSignature _ => True
  | malformed _ => True
  | _ => False

end TokenError

theorem checkAudience_failsOnly (allow : Option AllowList) (c : Claims) :
    FailsOnly TokenError.BlamesToken (checkAudience allow c) := by
  unfold checkAudience
  cases c.namedAudience? with
  | none => exact .error trivial
  | some a =>
    match allow with
    | none => exact .ok _ ()
    | some (.error reason) => exact .error trivial
    | some (.ok allowed) =>
      exact .ite (.ok _ ()) (.error trivial)

namespace Codec

theorem faultError_blamesToken (fault : DecodeFault) : (faultError fault).BlamesToken := by
  cases fault <;> trivial

theorem authenticate_failsOnly (secret : String) (t : CompactToken) :
    FailsOnly TokenError.BlamesToken (authenticate secret t) := by
  refine .bind (.mapError faultError_blamesToken) fun a _ => ?_
  cases a.hash? with
  | none => exact .error trivial
  | some h => exact .ite (.ok _ ()) (.error trivial)

theorem readPayload_failsOnly (t : CompactToken) :
    FailsOnly TokenError.BlamesToken (readPayload t) := by
  refine .bind (.mapError faultError_blamesToken) fun tree _ => ?_
  cases Claims.ofTree? tree with
  | none => exact .error trivial
  | some c =>
    cases Registered.notBefore? tree with
    | none => exact .error trivial
    | some notBefore => exact .ok _ (c, notBefore)

theorem checkTimes_failsOnly (now : Instant) (notBefore : Option Nat) (c : Claims) :
    FailsOnly TokenError.BlamesToken (checkTimes now notBefore c) :=
  .ite (.error trivial) (.ite (.error trivial) (.ok _ ()))

/-- With a secret at hand, only the token can be at fault. -/
theorem verifyWith_failsOnly (codec : Codec) (now : Instant) (secret token : String) :
    FailsOnly TokenError.BlamesToken (codec.verifyWith now secret token) := by
  unfold verifyWith
  cases CompactToken.ofString? token with
  | none => exact .error trivial
  | some t =>
    refine .bind (authenticate_failsOnly secret t) fun _ _ => ?_
    refine .bind (readPayload_failsOnly t) fun p _ => ?_
    refine .bind (checkTimes_failsOnly now p.2 p.1) fun _ _ => ?_
    exact .bind (checkAudience_failsOnly codec.allow p.1) fun _ _ => .ok _ p.1

end Codec

theorem ClaimedAudience.peek_failsOnly (token : String) :
    FailsOnly TokenError.BlamesToken (peek token) := by
  unfold peek
  cases read token with
  | error e => exact .error trivial
  | ok as =>
    simp only
    cases as.head? with
    | none => exact .error trivial
    | some a => exact .ite (.error trivial) (.ok _ _)

namespace Keyring

/-- The audience by which the secret for a token is asked for: the same for all tokens, or the
first that the token names, which may not be blank. -/
def AsksFor (k : Keyring) (token audience : String) : Prop :=
  match k.mode with
  | .shared => audience = placeholder
  | .perAudience => ∃ as, ClaimedAudience.read token = .ok as ∧ as.head? = some audience ∧
      Text.allBlank audience = false

/-- There is no secret for an audience, and how that is reported. -/
inductive LacksSecret (k : Keyring) (audience : String) : TokenError → Prop
  | noReader (h : k.reader = none) : LacksSecret k audience .noSecretReader
  | unknown {reader : SecretReader} {reason : String} (hr : k.reader = some reader)
      (h : reader audience = .error reason) : LacksSecret k audience (.secretResolution reason)
  | empty {reader : SecretReader} (hr : k.reader = some reader) (h : reader audience = .ok "") :
      LacksSecret k audience (.emptySecret audience)

theorem LacksSecret.isServerError {k : Keyring} {audience : String} {e : TokenError}
    (h : k.LacksSecret audience e) : e.IsServerError := by
  cases h <;> exact trivial

theorem LacksSecret.secretFor_eq {k : Keyring} {audience : String} {e : TokenError}
    (h : k.LacksSecret audience e) : k.secretFor audience = .error e := by
  cases h with
  | noReader h =>
    rw [secretFor, require, h]
    rfl
  | unknown hr h => rw [secretFor_of_reader hr, h]
  | empty hr h =>
    rw [secretFor_of_reader hr, h]
    exact if_pos rfl

theorem secretFor_failsOnly (k : Keyring) (audience : String) :
    FailsOnly (k.LacksSecret audience) (k.secretFor audience) := by
  cases hreader : k.reader with
  | none =>
    have hnone : k.secretFor audience = .error .noSecretReader :=
      (LacksSecret.noReader hreader).secretFor_eq
    rw [hnone]
    exact .error (.noReader hreader)
  | some reader =>
    rw [secretFor_of_reader hreader]
    cases hanswer : reader audience with
    | error reason => exact .error (.unknown hreader hanswer)
    | ok secret =>
      by_cases hsecret : secret = ""
      · subst hsecret
        exact .error (.empty hreader hanswer)
      · simp only [if_neg hsecret]
        exact .ok _ secret

/-- A keyring has no secret for a token. -/
def LacksSecretFor (k : Keyring) (token : String) (e : TokenError) : Prop :=
  ∃ audience, k.AsksFor token audience ∧ k.LacksSecret audience e

theorem LacksSecretFor.isServerError {k : Keyring} {token : String} {e : TokenError}
    (h : k.LacksSecretFor token e) : e.IsServerError := by
  obtain ⟨_, -, hlacks⟩ := h
  exact hlacks.isServerError

/-- Without a secret for a token, either the token hides its audience or the secret of that
audience is missing. -/
theorem secretForToken_failsOnly (k : Keyring) (token : String) :
    FailsOnly (fun e => e.BlamesToken ∨ k.LacksSecretFor token e) (k.secretForToken token) := by
  unfold secretForToken LacksSecretFor AsksFor
  cases k.mode with
  | shared => exact (k.secretFor_failsOnly placeholder).mono fun e he => .inr ⟨placeholder, rfl, he⟩
  | perAudience =>
    refine .bind ((ClaimedAudience.peek_failsOnly token).mono fun e he => .inl he) fun a ha => ?_
    exact (k.secretFor_failsOnly a.name).mono fun e he =>
      .inr ⟨a.name, ClaimedAudience.peek_eq_ok_iff.1 ha, he⟩

end Keyring

namespace Codec

theorem verify_failsOnly (codec : Codec) (now : Instant) (token : String) :
    FailsOnly (fun e => e.BlamesToken ∨ codec.keyring.LacksSecretFor token e)
      (codec.verify now token) := by
  refine .bind (codec.keyring.secretForToken_failsOnly token) fun secret _ => ?_
  exact (codec.verifyWith_failsOnly now secret token).mono fun e he => .inl he

end Codec

end SignedSession
