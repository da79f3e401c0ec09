/-!
UTF-8 as octets. Encoding is a map on characters; decoding is a fold that turns every maximal
ill-formed run of octets into one gap (`none`), so that it never fails. Main statement: decoding
what was encoded gives the characters back, without a gap.
-/
namespace SignedSession.Text.Utf8

/-- One to four octets, the first of which tells how many follow. -/
def encodeChar (c : Char) : List UInt8 :=
  let n := c.toNat
  if n < 0x80 then [UInt8.ofNat n]
  else if n < 0x800 then [UInt8.ofNat (0xc0 + n / 64), UInt8.ofNat (0x80 + n % 64)]
  else if n < 0x10000 then
    [UInt8.ofNat (0xe0 + n / 4096), UInt8.ofNat (0x80 + n / 64 % 64), UInt8.ofNat (0x80 + n % 64)]
  else
    [UInt8.ofNat (0xf0 + n / 262144), UInt8.ofNat (0x80 + n / 4096 % 64),
      UInt8.ofNat (0x80 + n / 64 % 64), UInt8.ofNat (0x80 + n % 64)]

def encode (cs : List Char) : List UInt8 := cs.flatMap encodeChar

/-- A character some of whose octets are still to come: the bits so far, how many octets are
owed, and the range the next one must lie in. -/
structure Owed where
  bits : Nat
  count : Nat
  low : Nat := 0x80
  high : Nat := 0xbf

/-- What decoding has found so far, in reverse order, and the character it is in. -/
structure Decoder where
  found : List (Option Char)
  owed : Option Owed

namespace Decoder

/-- Takes an octet between two characters. An octet that starts no character is a gap. The
second octet is limited so that no character has a longer form than it needs, is a surrogate or
lies beyond the last code point. -/
def first (found : List (Option Char)) (n : Nat) : Decoder :=
  if n < 0x80 then ⟨some (Char.ofNat n) :: found, none⟩
  else if n < 0xc2 then ⟨none :: found, none⟩
  else if n < 0xe0 then ⟨found, some { bits := n - 0xc0, count := 1 }⟩
  else if n = 0xe0 then ⟨found, some { bits := 0, count := 2, low := 0xa0 }⟩
  else if n = 0xed then ⟨found, some { bits := 0xd, count := 2, high := 0x9f }⟩
  else if n < 0xf0 then ⟨found, some { bits := n - 0xe0, count := 2 }⟩
  else if n = 0xf0 then ⟨found, some { bits := 0, count := 3, low := 0x90 }⟩
  else if n < 0xf4 then ⟨found, some { bits := n - 0xf0, count := 3 }⟩
  else if n = 0xf4 then ⟨found, some { bits := 4, count := 3, high := 0x8f }⟩
  else ⟨none :: found, none⟩

/-- Takes an octet. One that cannot continue the character begun leaves a gap in its place and
is looked at afresh. -/
def step (d : Decoder) (b : UInt8) : Decoder :=
  match d.owed with
  | none => first d.found b.toNat
  | some o =>
    if o.low ≤ b.toNat ∧ b.toNat ≤ o.high then
      let bits := 64 * o.bits + (b.toNat - 0x80)
      if o.count ≤ 1 then ⟨some (Char.ofNat bits) :: d.found, none⟩
      else ⟨d.found, some { bits, count := o.count - 1 }⟩
    else first (none :: d.found) b.toNat

/-- A character left unfinished is a gap. -/
def finish (d : Decoder) : List (Option Char) :=
  match d.owed with
  | none => d.found.reverse
  | some _ => (none :: d.found).reverse

end Decoder

def decode (bs : List UInt8) : List (Option Char) :=
  (bs.foldl Decoder.step ⟨[], none⟩).finish

/-- Decoding with the replacement character in every gap. -/
def decodeLossy (bs : List UInt8) : List Char :=
  (decode bs).map (·.getD '\uFFFD')

theorem toNat_valid (c : Char) : c.toNat < 0xd800 ∨ (0xdfff < c.toNat ∧ c.toNat < 0x110000) :=
  c.valid

theorem toNat_ofNat_octet {n : Nat} (h : n < 256) : (UInt8.ofNat n).toNat = n :=
  UInt8.toNat_ofNat_of_lt' h

theorem encodeChar_of_lt {c : Char} (h : c.toNat < 0x80) :
    encodeChar c = [UInt8.ofNat c.toNat] :=
  if_pos h

/-- A character beyond ASCII starts with an octet beyond ASCII. -/
theorem exists_mem_encodeChar {c : Char} (h : 0x80 ≤ c.toNat) :
    ∃ o ∈ encodeChar c, 0x80 ≤ o.toNat := by
  have hv := toNat_valid c
  unfold encodeChar
  generalize c.toNat = n at h hv
  simp only
  rw [if_neg (by omega)]
  split
  · refine ⟨_, List.mem_cons_self, ?_⟩
    rw [toNat_ofNat_octet (by omega)]
    omega
  split
  · refine ⟨_, List.mem_cons_self, ?_⟩
    rw [toNat_ofNat_octet (by omega)]
    omega
  · refine ⟨_, List.mem_cons_self, ?_⟩
    rw [toNat_ofNat_octet (by omega)]
    omega

theorem Decoder.foldl_encodeChar (found : List (Option Char)) (c : Char) :
    (encodeChar c).foldl Decoder.step ⟨found, none⟩ = ⟨some c :: found, none⟩ := by
  have hv := toNat_valid c
  have hc : Char.ofNat c.toNat = c := Char.ofNat_toNat c
  unfold encodeChar
  generalize c.toNat = n at hv hc
  simp only
  split
  · next h =>
    simp only [List.foldl_cons, List.foldl_nil, step]
    rw [toNat_ofNat_octet (by omega), first, if_pos h, hc]
  split
  · next h h' =>
    simp only [List.foldl_cons, List.foldl_nil, step]
    rw [toNat_ofNat_octet (by omega), first, if_neg (by omega), if_neg (by omega),
      if_pos (by omega)]
    simp only
    rw [toNat_ofNat_octet (by omega), if_pos (by omega), if_pos (by omega)]
    rw [show 64 * (0xc0 + n / 64 - 0xc0) + (0x80 + n % 64 - 0x80) = n by omega, hc]
  split
  · next h h' h'' =>
    simp only [List.foldl_cons, List.foldl_nil, step]
    rw [toNat_ofNat_octet (by omega), toNat_ofNat_octet (by omega),
      toNat_ofNat_octet (by omega), first, if_neg (by omega), if_neg (by omega),
      if_neg (by omega)]
    by_cases h0 : n / 4096 = 0
    · rw [if_pos (by omega)]
      simp only
      rw [if_pos (by omega), if_neg (by omega)]
      simp only
      rw [if_pos (by omega), if_pos (by omega)]
      rw [show 64 * (64 * 0 + (0x80 + n / 64 % 64 - 0x80)) + (0x80 + n % 64 - 0x80) = n by omega,
        hc]
    · rw [if_neg (by omega)]
      by_cases hd : n / 4096 = 0xd
      · rw [if_pos (by omega)]
        simp only
        rw [if_pos (by omega), if_neg (by omega)]
        simp only
        rw [if_pos (by omega), if_pos (by omega)]
        rw [show 64 * (64 * 0xd + (0x80 + n / 64 % 64 - 0x80)) + (0x80 + n % 64 - 0x80) = n by
          omega, hc]
      · rw [if_neg (by omega), if_pos (by omega)]
        simp only
        rw [if_pos (by omega), if_neg (by omega)]
        simp only
        rw [if_pos (by omega), if_pos (by omega)]
        rw [show 64 * (64 * (0xe0 + n / 4096 - 0xe0) + (0x80 + n / 64 % 64 - 0x80)) +
          (0x80 + n % 64 - 0x80) = n by omega, hc]
  · next h h' h'' =>
    simp only [List.foldl_cons, List.foldl_nil, step]
    rw [toNat_ofNat_octet (by omega), toNat_ofNat_octet (by omega),
      toNat_ofNat_octet (by omega), toNat_ofNat_octet (by omega), first, if_neg (by omega),
      if_neg (by omega), if_neg (by omega), if_neg (by omega), if_neg (by omega),
      if_neg (by omega)]
    by_cases h0 : n / 262144 = 0
    · rw [if_pos (by omega)]
      simp only
      rw [if_pos (by omega), if_neg (by omega)]
      simp only
      rw [if_pos (by omega), if_neg (by omega)]
      simp only
      rw [if_pos (by omega), if_pos (by omega)]
      rw [show 64 * (64 * (64 * 0 + (0x80 + n / 4096 % 64 - 0x80)) + (0x80 + n / 64 % 64 - 0x80)) +
        (0x80 + n % 64 - 0x80) = n by omega, hc]
    · rw [if_neg (by omega)]
      by_cases h4 : n / 262144 = 4
      · rw [if_neg (by omega), if_pos (by omega)]
        simp only
        rw [if_pos (by omega), if_neg (by omega)]
        simp only
        rw [if_pos (by omega), if_neg (by omega)]
        simp only
        rw [if_pos (by omega), if_pos (by omega)]
        rw [show 64 * (64 * (64 * 4 + (0x80 + n / 4096 % 64 - 0x80)) +
          (0x80 + n / 64 % 64 - 0x80)) + (0x80 + n % 64 - 0x80) = n by omega, hc]
      · rw [if_pos (by omega)]
        simp only
        rw [if_pos (by omega), if_neg (by omega)]
        simp only
        rw [if_pos (by omega), if_neg (by omega)]
        simp only
        rw [if_pos (by omega), if_pos (by omega)]
        rw [show 64 * (64 * (64 * (0xf0 + n / 262144 - 0xf0) + (0x80 + n / 4096 % 64 - 0x80)) +
          (0x80 + n / 64 % 64 - 0x80)) + (0x80 + n % 64 - 0x80) = n by omega, hc]

theorem Decoder.foldl_encode (found : List (Option Char)) (cs : List Char) :
    (encode cs).foldl Decoder.step ⟨found, none⟩ = ⟨cs.reverse.map some ++ found, none⟩ := by
  induction cs generalizing found with
  | nil => rfl
  | cons c cs ih =>
    rw [encode, List.flatMap_cons, List.foldl_append, foldl_encodeChar, ← encode, ih]
    simp

theorem decode_encode (cs : List Char) : decode (encode cs) = cs.map some := by
  simp [decode, Decoder.foldl_encode, Decoder.finish]

theorem decodeLossy_encode (cs : List Char) : decodeLossy (encode cs) = cs := by
  simp [decodeLossy, decode_encode, Function.comp_def]

end SignedSession.Text.Utf8
