import SignedSession.Json.Literal
import SignedSession.Json.Numeral

/-!
The syntax of a JSON text as a tree. A tree keeps what the text says and judges nothing: numerals
of any size, members in any number and order, and strings that hold no text. A record is a tree with
a fixed list of named fields: an object, whose unknown members are ignored, or an array of the
fields in order, whose end may be missing.
-/
namespace SignedSession.Json

/-- A JSON text's structure. A member's name is `none` if it stands for no text. -/
inductive Tree
  | null
  | bool (b : Bool)
  | num (n : Numeral)
  | str (l : Literal)
  | arr (items : List Tree)
  | obj (members : List (Option String × Tree))

/-- A name, possibly without text, and its value. -/
abbrev Member := Option String × Tree

namespace Tree

def text? : Tree → Option String
  | str l => l.text?
  | _ => none

def flag? : Tree → Option Bool
  | bool b => some b
  | _ => none

def int? : Tree → Option Int
  | num n => n.toInt?
  | _ => none

def items? : Tree → Option (List Tree)
  | arr items => some items
  | _ => none

/-- The texts of an array of strings. -/
def texts? (t : Tree) : Option (List String) :=
  t.items?.bind fun items => items.mapM text?

def members? : Tree → Option (List Member)
  | obj members => some members
  | _ => none

end Tree

/-- The fields found, by name. -/
abbrev Fields := List (String × Tree)

/-- The member under a name that is among the known ones. -/
def knownMember? (names : List String) : Member → Option (String × Tree)
  | (some k, t) => if k ∈ names then some (k, t) else none
  | (none, _) => none

namespace Tree

/-- The fields of a record. In an object every name must have a text, and no known one may stand
twice; an array may not have more items than there are names. -/
def record? (names : List String) : Tree → Option Fields
  | arr items => if items.length ≤ names.length then some (names.zip items) else none
  | obj ms =>
    let fields := ms.filterMap (knownMember? names)
    if ms.all (·.1.isSome) ∧ (fields.map Prod.fst).Nodup then some fields else none
  | _ => none

end Tree

namespace Fields

variable {α : Type}

/-- A field that may be missing or null. -/
def optional? (fs : Fields) (name : String) (read : Tree → Option α) : Option (Option α) :=
  match fs.lookup name with
  | none => some none
  | some .null => some none
  | some t => (read t).map some

/-- A field with a default if it is missing; null is not a value of it. -/
def withDefault? (fs : Fields) (name : String) (read : Tree → Option α) (default : α) :
    Option α :=
  match fs.lookup name with
  | none => some default
  | some t => read t

def text? (fs : Fields) (name : String) : Option String := fs.withDefault? name Tree.text? ""

def flag? (fs : Fields) (name : String) : Option Bool := fs.withDefault? name Tree.flag? false

end Fields

end SignedSession.Json
