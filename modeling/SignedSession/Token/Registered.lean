import SignedSession.Json.Faults
import SignedSession.Json.Tree

/-!
The registered members of a payload, read a second time and leniently: a value of a wrong type is
as good as none, but only where reading comes to its end and can go on behind it.
-/
namespace SignedSession.Registered

open Json

def fieldNames : List String := ["exp", "nbf", "sub", "iss", "aud"]

/-- A time counts if it is an integer not below zero. A container must be empty. -/
def time? : Tree → Option (Option Nat)
  | .num n => if n.IsAbandoned then none
    else some (n.toInt?.bind fun i => if i < 0 then none else some i.toNat)
  | .null => some none
  | .bool _ => some none
  | .str l => if l.isReadToEnd then some none else none
  | .arr items => if items.isEmpty then some none else none
  | .obj members => if members.isEmpty then some none else none

/-- A subject is no container. -/
def isSubject : Tree → Bool
  | .num n => ¬ n.IsAbandoned
  | .str l => l.isReadToEnd
  | .arr _ => false
  | .obj _ => false
  | _ => true

/-- Issuers and audiences lie one level down. -/
def maxNesting : Nat := 126

def isName (t : Tree) : Bool := t.isReadToEnd maxNesting

/-- The time before which a payload is not valid, if it names one. A payload that is an array must
have all the fields. -/
def notBefore? (t : Tree) : Option (Option Nat) := do
  let fs ← t.record? fieldNames
  if (t.items?.all fun items => items.length = fieldNames.length) &&
      ((fs.lookup "exp").all fun e => (time? e).isSome) &&
      (fs.lookup "sub").all isSubject && (fs.lookup "iss").all isName &&
      (fs.lookup "aud").all isName then
    match fs.lookup "nbf" with
    | some n => time? n
    | none => some none
  else none

end SignedSession.Registered
