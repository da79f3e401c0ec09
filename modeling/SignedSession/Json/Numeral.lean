/-!
JSON numerals as they are written. A numeral keeps its digits, so that nothing about its size is
decided by reading it; `Numeral.toInt?` is the value of one without fraction and exponent.
-/
namespace SignedSession.Json

structure Exponent where
  negative : Bool
  digits : List Char
  deriving DecidableEq, Repr

/-- The parts of a numeral. Its fraction has a digit if it is written at all, so no digits stand
for no fraction. -/
structure Numeral where
  negative : Bool
  whole : List Char
  fraction : List Char
  exponent : Option Exponent
  deriving DecidableEq, Repr

namespace Numeral

/-- Splits off the leading digits. -/
def spanDigits (cs : List Char) : List Char × List Char :=
  (cs.takeWhile Char.isDigit, cs.dropWhile Char.isDigit)

def sign? : List Char → Bool × List Char
  | '-' :: cs => (true, cs)
  | cs => (false, cs)

/-- A whole part is zero alone or starts with another digit. -/
def whole? (cs : List Char) : Option (List Char × List Char) :=
  match cs with
  | '0' :: cs => some (['0'], cs)
  | cs => if (spanDigits cs).1 = [] then none else some (spanDigits cs)

def fraction? : List Char → Option (List Char × List Char)
  | '.' :: cs => if (spanDigits cs).1 = [] then none else some (spanDigits cs)
  | cs => some ([], cs)

def exponentDigits? (negative : Bool) (cs : List Char) : Option (Option Exponent) :=
  if cs ≠ [] ∧ cs.all Char.isDigit then some (some ⟨negative, cs⟩) else none

def exponentSigned? : List Char → Option (Option Exponent)
  | '+' :: cs => exponentDigits? false cs
  | '-' :: cs => exponentDigits? true cs
  | cs => exponentDigits? false cs

/-- The exponent ends the numeral. -/
def exponent? : List Char → Option (Option Exponent)
  | [] => some none
  | 'e' :: cs => exponentSigned? cs
  | 'E' :: cs => exponentSigned? cs
  | _ :: _ => none

def ofChars? (cs : List Char) : Option Numeral := do
  let (negative, cs) := sign? cs
  let (whole, cs) ← whole? cs
  let (fraction, cs) ← fraction? cs
  let exponent ← exponent? cs
  some ⟨negative, whole, fraction, exponent⟩

/-- A numeral without fraction and exponent. -/
def IsPlain (n : Numeral) : Prop := n.fraction = [] ∧ n.exponent = none

instance (n : Numeral) : Decidable n.IsPlain := inferInstanceAs (Decidable (_ ∧ _))

/-- The integer that a plain numeral writes. Zero with a sign is not one. -/
def toInt? (n : Numeral) : Option Int :=
  if n.IsPlain then
    let m := Nat.ofDigitChars 10 n.whole 0
    if n.negative then if m = 0 then none else some (-m) else some m
  else none

/-- The plain numeral of an integer. -/
def ofInt (n : Int) : Numeral := ⟨n < 0, Nat.toDigits 10 n.natAbs, [], none⟩

end Numeral

/-- An integer in decimal digits, with a sign if it is negative. -/
def intChars (n : Int) : List Char :=
  (if n < 0 then ['-'] else []) ++ Nat.toDigits 10 n.natAbs

end SignedSession.Json
