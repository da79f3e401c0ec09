import SignedSession.Json.Number

/-!
Integers as numerals. Writing an integer in decimal digits and reading the digits gives its plain
numeral, and the plain numeral stands for the integer, whatever its size.
-/
namespace SignedSession.Json.Numeral

/-- Only zero is written with a leading zero. -/
theorem head?_toDigits_ne_zero {n : Nat} (hn : n ≠ 0) : (Nat.toDigits 10 n).head? ≠ some '0' := by
  induction n using Nat.strongRecOn with
  | ind n ih =>
    rw [Nat.toDigits_eq_if (by decide)]
    split
    · next h => simpa using hn
    · next h =>
      have hq : n / 10 ≠ 0 := by omega
      have hd := ih (n / 10) (by omega) hq
      rw [List.head?_append, Option.or_of_isSome (by simp [Nat.toDigits_ne_nil])]
      exact hd

theorem all_isDigit_toDigits (n : Nat) : ∀ c ∈ Nat.toDigits 10 n, c.isDigit = true :=
  fun _ hc => Nat.isDigit_of_mem_toDigits (by decide) (by decide) hc

/-- Digits alone are split off whole. -/
theorem spanDigits_of_all {ds : List Char} (h : ∀ c ∈ ds, c.isDigit = true) :
    spanDigits ds = (ds, []) := by
  induction ds with
  | nil => rfl
  | cons c ds ih =>
    have hc := h c List.mem_cons_self
    have hds := Prod.ext_iff.1 (ih fun d hd => h d (List.mem_cons_of_mem _ hd))
    simp only [spanDigits] at hds
    simp [spanDigits, hc, hds]

theorem whole?_toDigits (n : Nat) :
    whole? (Nat.toDigits 10 n) = some (Nat.toDigits 10 n, []) := by
  by_cases hn : n = 0
  · subst hn; rfl
  · have hspan := spanDigits_of_all (all_isDigit_toDigits n)
    unfold whole?
    split
    · next cs he => exact absurd (by rw [he]; rfl) (head?_toDigits_ne_zero hn)
    · rw [hspan, if_neg Nat.toDigits_ne_nil]

/-- Digits do not begin with a sign. -/
theorem sign?_toDigits (n : Nat) : sign? (Nat.toDigits 10 n) = (false, Nat.toDigits 10 n) := by
  unfold sign?
  split
  · next cs he =>
    have hd := all_isDigit_toDigits n '-' (by rw [he]; exact List.mem_cons_self)
    exact absurd hd (by decide)
  · rfl

theorem ofChars?_intChars (n : Int) : ofChars? (intChars n) = some (ofInt n) := by
  by_cases hn : n < 0
  · simp [intChars, ofChars?, sign?, whole?_toDigits, fraction?, exponent?, ofInt, hn]
  · simp [intChars, ofChars?, sign?_toDigits, whole?_toDigits, fraction?, exponent?, ofInt, hn]

@[simp] theorem toInt?_ofInt (n : Int) : (ofInt n).toInt? = some n := by
  have hplain : (ofInt n).IsPlain := ⟨rfl, rfl⟩
  rw [toInt?, if_pos hplain]
  simp only [ofInt, Nat.ofDigitChars_ten_toDigits]
  by_cases hn : n < 0
  · have hm : n.natAbs ≠ 0 := by omega
    simp only [hn, decide_true, if_true, hm, if_false]
    rw [show -(n.natAbs : Int) = n by omega]
  · simp only [hn, decide_false, Bool.false_eq_true, if_false]
    rw [show (n.natAbs : Int) = n by omega]

/-- An integer of a machine word is read as the number that was written. -/
theorem toNumber?_ofInt (n : WordInt) : (ofInt n.val).toNumber? = some (.int n) :=
  toNumber?_of_toInt? (toInt?_ofInt n.val)

/-- A numeral that writes an integer is not given up. -/
theorem not_isAbandoned_of_toInt? {n : Numeral} {i : Int} (h : n.toInt? = some i) :
    ¬ n.IsAbandoned := by
  rintro ⟨e, he, -⟩
  have hplain : ¬ n.IsPlain := by
    intro hp
    rw [hp.2] at he
    cases he
  rw [toInt?, if_neg hplain] at h
  cases h

end SignedSession.Json.Numeral
