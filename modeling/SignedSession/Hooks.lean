import SignedSession.Claims.Basic
import SignedSession.Error

/-!
What the host of a session service supplies: the signing secrets, the audiences that tokens may
be issued for, a last change to claims before they are signed, and a rule of its own for tokens.
-/
namespace SignedSession

/-- Gives the signing secret of an audience, or says why it cannot. -/
abbrev SecretReader := String → Except String String

/-- Secrets under the names of audiences, each name once. -/
structure SecretTable where
  entries : List (String × String)
  deriving DecidableEq, Repr

namespace SecretTable

def empty : SecretTable := ⟨[]⟩

/-- Sets the secret of an audience. -/
def insert (t : SecretTable) (audience secret : String) : SecretTable :=
  ⟨t.entries.filter (·.1 ≠ audience) ++ [(audience, secret)]⟩

def ofList (entries : List (String × String)) : SecretTable :=
  entries.foldl (fun t e => t.insert e.1 e.2) empty

def audiences (t : SecretTable) : List String := t.entries.map Prod.fst

end SecretTable

namespace SecretReader

/-- One secret for every audience. -/
def fixed (secret : String) : SecretReader := fun _ => .ok secret

/-- A secret for each audience in a table, and none for others. -/
def ofTable (t : SecretTable) : SecretReader := fun audience =>
  match t.entries.lookup audience with
  | some secret => .ok secret
  | none => .error ("no secret for audience " ++ Text.quoted audience)

end SecretReader

/-- The audiences that tokens may be issued for, or why they are not known. No audiences stand for
all of them. -/
abbrev AllowList := Except String (List String)

/-- Accepts or rejects a token and its claims. -/
abbrev Validator := String → Claims → Bool

structure Hooks where
  secrets : Option SecretReader := none
  audiences : Option AllowList := none
  update : Option (Claims → Claims) := none

end SignedSession
