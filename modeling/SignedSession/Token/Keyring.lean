import SignedSession.Claims.Reader
import SignedSession.Hooks
import SignedSession.Text.Basic
import SignedSession.Token.Compact
import SignedSession.Token.Registered

/-!
Which secret signs or verifies a token. Where every audience has a secret of its own, the audience
of an incoming token is read before its signature can be checked, and is good for nothing but
finding that secret.
-/
namespace SignedSession

open Json

inductive KeyMode
  | shared
  | perAudience
  deriving DecidableEq, Repr

structure Keyring where
  reader : Option SecretReader
  mode : KeyMode

/-- The audience that a token of unknown origin claims. -/
structure ClaimedAudience where
  name : String
  deriving DecidableEq, Repr

namespace ClaimedAudience

/-- The audiences in a payload, whatever its other members are. -/
def audiences? (t : Tree) : Option (List String) :=
  (t.record? ["aud"]).bind Claims.audiencesOfFields?

/-- The audiences that a token names. Its algorithm, its signature and its times are not looked
at. -/
def read (token : String) : Except DecodeFault (List String) := do
  let some t := CompactToken.ofString? token | .error .notCompact
  let _ ← t.algorithm
  let tree ← t.payloadTree
  let some auds := audiences? tree | .error .notJson
  let some _ := Registered.notBefore? tree | .error .notJson
  .ok auds

/-- The first audience that a token names, which may not be blank. -/
def peek (token : String) : Except TokenError ClaimedAudience :=
  match read token with
  | .error e => .error (.malformed ("can't pre-parse token: " ++ e.message))
  | .ok auds =>
    match auds.head? with
    | none => .error .emptyAudience
    | some a => if Text.allBlank a then .error .emptyAudience else .ok ⟨a⟩

end ClaimedAudience

namespace Keyring

/-- The audience that a shared secret is asked for by. -/
def placeholder : String := "ignore"

/-- Fails unless there is a reader of secrets. -/
def require (k : Keyring) : Except TokenError SecretReader :=
  match k.reader with
  | some r => .ok r
  | none => .error .noSecretReader

/-- The secret of an audience. An empty one is refused. -/
def secretFor (k : Keyring) (audience : String) : Except TokenError String := do
  let reader ← k.require
  match reader audience with
  | .error reason => .error (.secretResolution reason)
  | .ok secret => if secret = "" then .error (.emptySecret audience) else .ok secret

/-- The secret of the audience that a token claims. -/
def secretForClaimed (k : Keyring) (a : ClaimedAudience) : Except TokenError String :=
  k.secretFor a.name

/-- The secret to verify a token with. -/
def secretForToken (k : Keyring) (token : String) : Except TokenError String :=
  match k.mode with
  | .shared => k.secretFor placeholder
  | .perAudience => do
    let a ← ClaimedAudience.peek token
    k.secretForClaimed a

end Keyring

end SignedSession
