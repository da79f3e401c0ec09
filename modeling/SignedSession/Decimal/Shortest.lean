/-!
The shortest decimal that reads back as a given double, and among those of that length the
nearest. A finite double is m · 2^q; the reals that round to it form an interval around it, ends
included if m is even. For one digit, two digits and so on the two neighbours of the double on
that decimal grid are tried.
-/
namespace SignedSession.Decimal

/-- A positive double as m · 2^q, and whether the double below it is only half as far away as the
one above. -/
structure Binary where
  mantissa : Nat
  exponent : Int
  closeBelow : Bool

/-- The digits `digits` scaled by a power of ten. -/
structure Scaled where
  digits : Nat
  exponent : Int

/-- The size of a finite double, apart from its sign. -/
def Binary.ofBits (bits : UInt64) : Binary :=
  let fraction : Nat := bits.toNat % (1 <<< 52)
  let biased : Nat := (bits.toNat >>> 52) % (1 <<< 11)
  if biased = 0 then ⟨fraction, -1074, false⟩
  else ⟨(1 <<< 52) + fraction, (biased : Int) - 1075, fraction = 0 && biased > 1⟩

/-- A value and the ends of its interval, over one denominator. -/
structure Span where
  low : Nat
  value : Nat
  high : Nat
  den : Nat
  closed : Bool

def Binary.span (b : Binary) : Span :=
  let low := if b.closeBelow then 4 * b.mantissa - 1 else 4 * b.mantissa - 2
  let q := b.exponent - 2
  let up := 1 <<< q.toNat
  ⟨low * up, 4 * b.mantissa * up, (4 * b.mantissa + 2) * up, 1 <<< (-q).toNat, b.mantissa % 2 = 0⟩

/-- Whether n · unit, the unit a fraction, lies in the interval. -/
def Span.contains (s : Span) (n unitNum unitDen : Nat) : Bool :=
  let x := n * unitNum * s.den
  if s.closed then s.low * unitDen ≤ x && x ≤ s.high * unitDen
  else s.low * unitDen < x && x < s.high * unitDen

/-- The number of digits before the point, or the negated number of zeros after it. -/
def Span.scale (s : Span) : Int :=
  let k : Int := (Nat.toDigits 10 s.value).length - (Nat.toDigits 10 s.den).length
  if s.den * Nat.pow 10 k.toNat ≤ s.value * Nat.pow 10 (-k).toNat then k + 1 else k

/-- The better neighbour of the value on the grid of a power of ten, if one is in the interval. A
tie goes to the even one. -/
def Span.onGrid? (s : Span) (e : Int) : Option Nat :=
  let num := Nat.pow 10 e.toNat
  let den := Nat.pow 10 (-e).toNat
  let below := s.value * den / (num * s.den)
  let rest := s.value * den % (num * s.den)
  let nearAbove := num * s.den < 2 * rest || (num * s.den = 2 * rest && below % 2 = 1)
  let inBelow := s.contains below num den
  let inAbove := s.contains (below + 1) num den
  if inBelow && (!inAbove || !nearAbove) then some below
  else if inAbove then some (below + 1)
  else none

/-- Tries grids of more and more digits; seventeen always do. -/
def Span.search (s : Span) (scale : Int) (digits : Nat) : Nat → Scaled
  | 0 => ⟨s.value / s.den, 0⟩
  | fuel + 1 =>
    match s.onGrid? (scale - digits) with
    | some n => ⟨n, scale - digits⟩
    | none => s.search scale (digits + 1) fuel

/-- The digits of the shortest decimal of a positive finite double. -/
def shortest (bits : UInt64) : Scaled :=
  let s := (Binary.ofBits bits).span
  s.search s.scale 1 17

end SignedSession.Decimal
