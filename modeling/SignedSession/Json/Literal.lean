/-!
String literals of a JSON text, as pieces and as what the pieces stand for. A literal with half a
surrogate pair, or with octets that are not UTF-8, stands for no text.
-/
namespace SignedSession.Json

/-- What stands between the quotes of a string: characters, halves of surrogate pairs that were
escaped, and gaps, octets that are no character. -/
inductive Piece
  | char (c : Char)
  | half (unit : Nat)
  | gap
  deriving DecidableEq, Repr

namespace Piece

def IsHighHalf (u : Nat) : Prop := 0xd800 ≤ u ∧ u < 0xdc00

def IsLowHalf (u : Nat) : Prop := 0xdc00 ≤ u ∧ u < 0xe000

instance (u : Nat) : Decidable (IsHighHalf u) := inferInstanceAs (Decidable (_ ∧ _))

instance (u : Nat) : Decidable (IsLowHalf u) := inferInstanceAs (Decidable (_ ∧ _))

/-- The character of a surrogate pair. -/
def joinHalves (high low : Nat) : Char :=
  Char.ofNat (0x10000 + (high - 0xd800) * 0x400 + (low - 0xdc00))

/-- A code unit written as four hexadecimal digits. -/
def ofUnit (u : Nat) : Piece :=
  if IsHighHalf u ∨ IsLowHalf u then half u else char (Char.ofNat u)

/-- Prepends the text of pieces in reverse order, in which the low half of a pair comes first. A
gap or a half without its other half has no text. -/
def prependText? : List Piece → List Char → Option (List Char)
  | [], cs => some cs
  | char c :: ps, cs => prependText? ps (c :: cs)
  | half low :: half high :: ps, cs =>
    if IsLowHalf low ∧ IsHighHalf high then prependText? ps (joinHalves high low :: cs) else none
  | half _ :: _, _ => none
  | gap :: _, _ => none

/-- Whether pieces are read to their end before a fault in them is found. A gap is found at the
end only, and so is a high half that is the last piece; another half out of place is found where
it stands. -/
def readToEnd : List Piece → Bool
  | [] => true
  | char _ :: ps => readToEnd ps
  | gap :: ps => readToEnd ps
  | half high :: half low :: ps => decide (IsHighHalf high ∧ IsLowHalf low) && readToEnd ps
  | [half u] => decide (IsHighHalf u)
  | half _ :: _ => false

end Piece

/-- What a string literal stands for: a text, or none. One that is faulty may be read to its end
all the same. -/
inductive Literal
  | text (s : String)
  | faulty (readToEnd : Bool)
  deriving DecidableEq, Repr

namespace Literal

/-- The literal of pieces in reverse order. -/
def ofPieces (ps : List Piece) : Literal :=
  match Piece.prependText? ps [] with
  | some cs => text (String.ofList cs)
  | none => faulty (Piece.readToEnd ps.reverse)

def text? : Literal → Option String
  | text s => some s
  | faulty _ => none

/-- Whether reading comes to the closing quote. -/
def isReadToEnd : Literal → Bool
  | text _ => true
  | faulty b => b

end Literal

end SignedSession.Json
