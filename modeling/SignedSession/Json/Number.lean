import SignedSession.Json.Numeral

/-!
The numbers of JSON values: integers that fit a machine word of 64 bits, signed or unsigned, are
kept exactly, and every other numeral stands for a double.
-/
namespace SignedSession.Json

/-- An integer of a signed or an unsigned 64-bit word. -/
structure WordInt where
  val : Int
  mem_range : Int64.minValue.toInt ≤ val ∧ val < UInt64.size
  deriving DecidableEq, Repr

def WordInt.ofInt? (n : Int) : Option WordInt :=
  if h : Int64.minValue.toInt ≤ n ∧ n < UInt64.size then some ⟨n, h⟩ else none

@[simp] theorem WordInt.ofInt?_val (n : WordInt) : WordInt.ofInt? n.val = some n :=
  dif_pos n.mem_range

inductive Number
  | int (n : WordInt)
  | float (x : Float)

namespace Numeral

/-- Appends digits to a significand as long as it fits an unsigned 64-bit word, and gives the digits
left. -/
def fill (m : Nat) : List Char → Nat × List Char
  | [] => (m, [])
  | c :: cs =>
    let m' := 10 * m + (c.toNat - '0'.toNat)
    if m' < UInt64.size then fill m' cs else (m, c :: cs)

/-- The significand and the power of ten that goes with it. Whole digits that do not fit count in
the power; fraction digits are appended while they fit. -/
def significand (n : Numeral) : Nat × Int :=
  let (m, above) := fill 0 n.whole
  let (m', below) := fill m n.fraction
  (m', (above.length : Int) - ((n.fraction.length : Int) - below.length))

/-- A power of ten as a double, up to the largest. -/
def powerOfTen (k : Nat) : Float := Float.ofScientific 1 false k

/-- Divides by a power of ten, in steps of the largest that is a double. -/
def scaleDown (x : Float) (k : Nat) : Float :=
  if k ≤ 308 then x / powerOfTen k
  else if x == 0 then x
  else scaleDown (x / powerOfTen 308) (k - 308)
termination_by k

/-- Multiplies by a power of ten, unless the result has no double. -/
def scaleUp? (x : Float) (k : Nat) : Option Float :=
  if k ≤ 308 then
    let y := x * powerOfTen k
    if y.isInf then none else some y
  else if x == 0 then some x
  else none

def scale? (x : Float) (k : Int) : Option Float :=
  if k < 0 then some (scaleDown x k.natAbs) else scaleUp? x k.toNat

/-- The largest exponent, the largest signed 32-bit word. -/
def maxExponent : Nat := 0x7fffffff

/-- The size of a numeral's exponent, unless it is beyond the largest. -/
def Exponent.size? (e : Exponent) : Option Nat :=
  let k := Nat.ofDigitChars 10 e.digits 0
  if k ≤ maxExponent then some k else none

/-- Whether a positive exponent is beyond the largest before its last digit, so that the numeral is
given up in the middle. -/
def IsAbandoned (n : Numeral) : Prop :=
  ∃ e ∈ n.exponent, ¬ e.negative ∧ maxExponent < Nat.ofDigitChars 10 e.digits.dropLast 0 ∧
    n.significand.1 ≠ 0

instance (n : Numeral) : Decidable n.IsAbandoned := by
  unfold IsAbandoned
  cases n.exponent with
  | none => exact isFalse (by simp)
  | some e => exact decidable_of_iff (¬ e.negative ∧
      maxExponent < Nat.ofDigitChars 10 e.digits.dropLast 0 ∧ n.significand.1 ≠ 0) (by simp)

/-- The double of a numeral without its sign: the significand, scaled by its power of ten. An
exponent beyond all measure gives zero, or no double if it is positive and the significand not
zero. -/
def magnitude? (n : Numeral) : Option Float :=
  let (m, k) := n.significand
  let x := Float.ofNat m
  match n.exponent with
  | none => scale? x k
  | some e =>
    match Exponent.size? e with
    | some j => scale? x (if e.negative then k - j else k + j)
    | none => if m ≠ 0 ∧ ¬ e.negative then none else some 0

/-- The double of a numeral, with one rounding for the significand and one for each scaling. -/
def toFloat? (n : Numeral) : Option Float :=
  n.magnitude?.map fun x => if n.negative then -x else x

def toNumber? (n : Numeral) : Option Number :=
  match n.toInt?.bind WordInt.ofInt? with
  | some i => some (.int i)
  | none => n.toFloat?.map .float

theorem toNumber?_of_toInt? {n : Numeral} {i : WordInt} (h : n.toInt? = some i.val) :
    n.toNumber? = some (.int i) := by
  simp [toNumber?, h]

end Numeral

end SignedSession.Json
