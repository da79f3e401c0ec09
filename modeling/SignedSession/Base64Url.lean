/-!
Base64 with the alphabet for addresses and without padding. Each octet list has exactly one text:
bits left over at the end must be zero. Main statement: decoding what was encoded gives the octets
back.
-/
namespace SignedSession.Base64Url

/-- The digit of a number below 64. -/
def digit (n : Nat) : Char :=
  if n < 26 then Char.ofNat ('A'.toNat + n)
  else if n < 52 then Char.ofNat ('a'.toNat + (n - 26))
  else if n < 62 then Char.ofNat ('0'.toNat + (n - 52))
  else if n = 62 then '-' else '_'

def value? (c : Char) : Option Nat :=
  if 'A' ≤ c ∧ c ≤ 'Z' then some (c.toNat - 'A'.toNat)
  else if 'a' ≤ c ∧ c ≤ 'z' then some (c.toNat - 'a'.toNat + 26)
  else if '0' ≤ c ∧ c ≤ '9' then some (c.toNat - '0'.toNat + 52)
  else if c = '-' then some 62
  else if c = '_' then some 63
  else none

/-- Three octets are four digits; one or two at the end are two or three. -/
def encode : List UInt8 → List Char
  | [] => []
  | [a] => [digit (a.toNat / 4), digit (a.toNat % 4 * 16)]
  | [a, b] => [digit (a.toNat / 4), digit (a.toNat % 4 * 16 + b.toNat / 16),
      digit (b.toNat % 16 * 4)]
  | a :: b :: c :: rest => digit (a.toNat / 4) :: digit (a.toNat % 4 * 16 + b.toNat / 16) ::
      digit (b.toNat % 16 * 4 + c.toNat / 64) :: digit (c.toNat % 64) :: encode rest

/-- The octets of digits' values; a single digit at the end has too few bits for one. -/
def ofValues? : List Nat → Option (List UInt8)
  | [] => some []
  | [_] => none
  | [x, y] => if y % 16 = 0 then some [UInt8.ofNat (x * 4 + y / 16)] else none
  | [x, y, z] =>
    if z % 4 = 0 then some [UInt8.ofNat (x * 4 + y / 16), UInt8.ofNat (y % 16 * 16 + z / 4)]
    else none
  | x :: y :: z :: w :: rest => (ofValues? rest).map fun os => UInt8.ofNat (x * 4 + y / 16) ::
      UInt8.ofNat (y % 16 * 16 + z / 4) :: UInt8.ofNat (z % 4 * 64 + w) :: os

def decode? (cs : List Char) : Option (List UInt8) := (cs.mapM value?).bind ofValues?

theorem value?_digit_of_lt : ∀ n < 64, value? (digit n) = some n := by decide

theorem ofNat_eq_of_toNat (a : UInt8) {n : Nat} (h : n = a.toNat) : UInt8.ofNat n = a := by
  subst h; exact UInt8.ofNat_toNat

theorem decode?_encode : ∀ os : List UInt8, decode? (encode os) = some os
  | [] => rfl
  | [a] => by
    have ha := a.toNat_lt
    simp only [decode?, encode, List.mapM_cons, List.mapM_nil]
    rw [value?_digit_of_lt _ (by omega), value?_digit_of_lt _ (by omega)]
    simp only [pure, bind, Option.bind, ofValues?]
    rw [if_pos (by omega), ofNat_eq_of_toNat a (by omega)]
  | [a, b] => by
    have ha := a.toNat_lt
    have hb := b.toNat_lt
    simp only [decode?, encode, List.mapM_cons, List.mapM_nil]
    rw [value?_digit_of_lt _ (by omega), value?_digit_of_lt _ (by omega),
      value?_digit_of_lt _ (by omega)]
    simp only [pure, bind, Option.bind, ofValues?]
    rw [if_pos (by omega), ofNat_eq_of_toNat a (by omega), ofNat_eq_of_toNat b (by omega)]
  | a :: b :: c :: rest => by
    have ha := a.toNat_lt
    have hb := b.toNat_lt
    have hc := c.toNat_lt
    have ih := decode?_encode rest
    simp only [decode?] at ih
    simp only [decode?, encode, List.mapM_cons]
    rw [value?_digit_of_lt _ (by omega), value?_digit_of_lt _ (by omega),
      value?_digit_of_lt _ (by omega), value?_digit_of_lt _ (by omega)]
    obtain ⟨vs, hvs, hos⟩ := Option.bind_eq_some_iff.1 ih
    rw [hvs]
    simp only [pure, bind, Option.bind, ofValues?, hos, Option.map]
    rw [ofNat_eq_of_toNat a (by omega), ofNat_eq_of_toNat b (by omega),
      ofNat_eq_of_toNat c (by omega)]

end SignedSession.Base64Url
