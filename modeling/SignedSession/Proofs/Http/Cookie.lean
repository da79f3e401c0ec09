import SignedSession.Http.Cookie
import SignedSession.Http.Header
import SignedSession.Text.Utf8

/-!
Cookies as they are received. Neither the name nor the value of a cookie holds a mark that would
end it, so a cookie is received as it was sent.
-/
namespace SignedSession

open Text

theorem HeaderValue.isAllowed_of_isVisible {c : Char} (h : isVisible c = true) :
    isAllowed c = true :=
  of_ascii (p := fun c => isVisible c = true → isAllowed c = true) (by decide)
    (toNat_lt_of_isVisible h) h

@[simp] theorem HeaderValue.isValid_append {s t : String} :
    IsValid (s ++ t) ↔ IsValid s ∧ IsValid t := by
  simp [IsValid]

theorem lookup_eq_none_of_forall_ne {n : String} {ps : List (String × String)}
    (h : ∀ p ∈ ps, p.1 ≠ n) : ps.lookup n = none := by
  apply List.lookup_eq_none_iff.2
  intro p hp
  simpa using (h p hp).symm

namespace Cookie

theorem isBlank_of_isName {n : String} (h : IsName n) : ∀ c ∈ n.toList, isBlank c = false := by
  intro c hc
  have hchar := List.all_eq_true.1 h.2 c hc
  exact isBlank_of_isVisible ((Bool.and_eq_true _ _).mp hchar).1

theorem not_mem_of_isName {n : String} (h : IsName n) {sep : Char} (hsep : sep ∈ separators) :
    sep ∉ n.toList := by
  intro hc
  have hchar := List.all_eq_true.1 h.2 sep hc
  rw [isNameChar, List.contains_iff_mem.2 hsep] at hchar
  simp at hchar

theorem isBlank_of_isValue {v : String} (h : IsValue v) : ∀ c ∈ v.toList, isBlank c = false := by
  intro c hc
  have hchar := List.all_eq_true.1 h c hc
  simp only [isOctet, Bool.and_eq_true] at hchar
  exact isBlank_of_isVisible hchar.1.1.1.1

theorem semicolon_not_mem_of_isValue {v : String} (h : IsValue v) : ';' ∉ v.toList := by
  intro hc
  have hchar := List.all_eq_true.1 h ';' hc
  revert hchar
  decide

theorem isReadable_of_isValue {v : String} (h : IsValue v) : HeaderValue.IsReadable v := by
  apply List.all_eq_true.2
  intro c hc
  have hchar := List.all_eq_true.1 h c hc
  simp only [isOctet, Bool.and_eq_true] at hchar
  simp [HeaderValue.isReadableChar, hchar.1.1.1.1]

theorem isValid_of_isReadable {v : String} (h : HeaderValue.IsReadable v) :
    HeaderValue.IsValid v := by
  apply List.all_eq_true.2
  intro c hc
  have hchar := List.all_eq_true.1 h c hc
  simp only [HeaderValue.isReadableChar, Bool.or_eq_true, decide_eq_true_eq] at hchar
  rcases hchar with (rfl | rfl) | hvisible
  · decide
  · decide
  · exact HeaderValue.isAllowed_of_isVisible hvisible

theorem isReadable_of_isName {n : String} (h : IsName n) : HeaderValue.IsReadable n := by
  apply List.all_eq_true.2
  intro c hc
  have hchar := List.all_eq_true.1 h.2 c hc
  simp only [isNameChar, Bool.and_eq_true] at hchar
  simp [HeaderValue.isReadableChar, hchar.1]

/-- An octet of a value: visible ASCII, but no quotation mark, comma, semicolon or backslash. -/
def IsValueOctet (o : UInt8) : Prop :=
  0x21 ≤ o ∧ o ≤ 0x7e ∧ o ≠ 0x22 ∧ o ≠ 0x2c ∧ o ≠ 0x3b ∧ o ≠ 0x5c

instance (o : UInt8) : Decidable (IsValueOctet o) := inferInstanceAs (Decidable (_ ∧ _))

theorem isOctet_iff {c : Char} : isOctet c = true ↔ ∀ o ∈ Utf8.encodeChar c, IsValueOctet o := by
  by_cases hc : c.toNat < 0x80
  · rw [Utf8.encodeChar_of_lt hc, List.forall_mem_singleton]
    exact of_ascii (p := fun c => isOctet c = true ↔ IsValueOctet (UInt8.ofNat c.toNat))
      (by decide) hc
  · constructor
    · intro h
      simp only [isOctet, Bool.and_eq_true] at h
      exact absurd (toNat_lt_of_isVisible h.1.1.1.1) hc
    · intro h
      obtain ⟨o, ho, hbeyond⟩ := Utf8.exists_mem_encodeChar (Nat.le_of_not_lt hc)
      have hle := UInt8.le_iff_toNat_le.1 (h o ho).2.1
      exact absurd (Nat.le_trans hbeyond hle) (by decide)

/-- A text is a value exactly if all its octets are such as a value may hold. -/
theorem isValue_iff_octets {s : String} :
    IsValue s ↔ ∀ o ∈ Utf8.encode s.toList, IsValueOctet o := by
  simp only [IsValue, List.all_eq_true, isOctet_iff, Utf8.encode, List.forall_mem_flatMap]

theorem not_isValue_iff_octets {s : String} :
    ¬ IsValue s ↔ ∃ o ∈ Utf8.encode s.toList, ¬ IsValueOctet o := by
  rw [isValue_iff_octets]
  simp

section

variable {n v : String} (hn : IsName n) (hv : IsValue v)

include hn hv

theorem semicolon_not_mem_pair : ';' ∉ n.toList ++ '=' :: v.toList := by
  simp [not_mem_of_isName hn (by decide : ';' ∈ separators), semicolon_not_mem_of_isValue hv]

omit hv in
theorem cutAt?_pair : cutAt? '=' (n.toList ++ '=' :: v.toList) = some (n.toList, v.toList) :=
  cutAt?_append_sep (not_mem_of_isName hn (by decide)) v.toList

/-- A cookie that is sent alone is received as it was set. -/
theorem pairs_eq_singleton : pairs (n ++ "=" ++ v) = [(n, v)] := by
  have htext : (n ++ "=" ++ v).toList = n.toList ++ '=' :: v.toList := by simp
  have hpair : pairOf? (n.toList ++ '=' :: v.toList) = some (n, v) := by
    rw [pairOf?, cutAt?_pair hn]
    simp only [strip_of_all (isBlank_of_isName hn), strip_of_all (isBlank_of_isValue hv),
      if_neg hn.1, String.ofList_toList]
  rw [pairs, htext, splitAt_of_not_mem (semicolon_not_mem_pair hn hv)]
  simp [hpair]

theorem isReadable_pair : HeaderValue.IsReadable (n ++ "=" ++ v) := by
  have hnames := isReadable_of_isName hn
  have hvalues := isReadable_of_isValue hv
  unfold HeaderValue.IsReadable at *
  simp only [String.toList_append, List.all_append, hnames, hvalues]
  decide

end

end Cookie

end SignedSession
