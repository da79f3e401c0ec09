import SignedSession.Http.Uri

/-!
The query of an address as it is written and as it is read. A written name or value holds no
separator, and each of its characters is read back as the octets it was written from. Main
statement: reading the form-urlencoding of pairs gives the pairs.
-/
namespace SignedSession

open Text

namespace Query

theorem octets_escaped (o : UInt8) (rest : List Char) :
    octets (escaped o ++ rest) = o :: octets rest := by
  have ho : o.toNat < 256 := o.toNat_lt
  have hdigits : escaped o = ['%', (Nat.digitChar (o.toNat / 16 % 16)).toUpper,
      (Nat.digitChar (o.toNat % 16)).toUpper] := rfl
  have hoctet : octet? (Nat.digitChar (o.toNat / 16 % 16)).toUpper
      (Nat.digitChar (o.toNat % 16)).toUpper = some o := by
    rw [octet?, Hex.value?_toUpper_digitChar _ (by omega),
      Hex.value?_toUpper_digitChar _ (by omega)]
    have hvalue : 16 * (o.toNat / 16 % 16) + o.toNat % 16 = o.toNat := by omega
    change some (UInt8.ofNat (16 * (o.toNat / 16 % 16) + o.toNat % 16)) = some o
    rw [hvalue, UInt8.ofNat_toNat]
  rw [hdigits]
  simp only [List.cons_append, List.nil_append, octets, hoctet]

theorem octets_flatMap_escaped (os : List UInt8) (rest : List Char) :
    octets (os.flatMap escaped ++ rest) = os ++ octets rest := by
  induction os with
  | nil => rfl
  | cons o os ih => rw [List.flatMap_cons, List.append_assoc, octets_escaped, ih, List.cons_append]

/-- A character without a meaning of its own is read as its octets. -/
theorem octets_cons {c : Char} (h : c ≠ '%') (rest : List Char) :
    octets (c :: rest) = Utf8.encodeChar (if c = '+' then ' ' else c) ++ octets rest := by
  rw [octets]
  rintro a b cs rfl
  exact absurd rfl h

theorem octets_encodedChar (c : Char) (rest : List Char) :
    octets (encodedChar c ++ rest) = Utf8.encodeChar c ++ octets rest := by
  unfold encodedChar
  by_cases hspace : c = ' '
  · rw [if_pos hspace, hspace]
    exact octets_cons (by decide) rest
  · rw [if_neg hspace]
    by_cases hplain : isPlain c = true
    · have hpercent : c ≠ '%' := by
        rintro rfl
        revert hplain
        decide
      have hplus : c ≠ '+' := by
        rintro rfl
        revert hplain
        decide
      rw [if_pos hplain, List.singleton_append, octets_cons hpercent, if_neg hplus]
    · rw [if_neg hplain, octets_flatMap_escaped]

theorem octets_flatMap_encodedChar (cs : List Char) :
    octets (cs.flatMap encodedChar) = Utf8.encode cs := by
  induction cs with
  | nil => rfl
  | cons c cs ih =>
    rw [List.flatMap_cons, octets_encodedChar, ih]
    rfl

theorem decode_encodedChars (s : String) : decode (encodedChars s) = s := by
  rw [decode, encodedChars, octets_flatMap_encodedChar, Utf8.decodeLossy_encode,
    String.ofList_toList]

/-- The characters of written names and values. -/
def isFormChar (c : Char) : Bool := c = '+' || c = '%' || isPlain c

theorem isFormChar_of_mem_escaped {o : UInt8} {x : Char} (h : x ∈ escaped o) :
    isFormChar x = true := by
  have hdigit : ∀ n < 16, isFormChar (Nat.digitChar n).toUpper = true := by decide
  rw [escaped, List.mem_cons] at h
  rcases h with rfl | h
  · decide
  · simp only [Hex.digits, List.nil_append, List.cons_append, List.map_cons, List.map_nil,
      List.mem_cons, List.not_mem_nil, or_false] at h
    rcases h with rfl | rfl
    · exact hdigit _ (by omega)
    · exact hdigit _ (by omega)

theorem isFormChar_of_mem_encodedChars {s : String} {x : Char} (h : x ∈ encodedChars s) :
    isFormChar x = true := by
  obtain ⟨c, -, h⟩ := List.mem_flatMap.1 h
  unfold encodedChar at h
  by_cases hspace : c = ' '
  · rw [if_pos hspace, List.mem_singleton] at h
    rw [h]
    decide
  · rw [if_neg hspace] at h
    by_cases hplain : isPlain c = true
    · rw [if_pos hplain, List.mem_singleton] at h
      rw [h, isFormChar, hplain, Bool.or_true]
    · rw [if_neg hplain] at h
      obtain ⟨o, -, h⟩ := List.mem_flatMap.1 h
      exact isFormChar_of_mem_escaped h

theorem not_mem_encodedChars {sep : Char} (h : isFormChar sep = false) (s : String) :
    sep ∉ encodedChars s := by
  intro hmem
  rw [isFormChar_of_mem_encodedChars hmem] at h
  cases h

theorem ampersand_not_mem_encodedPair (p : String × String) : '&' ∉ encodedPair p := by
  rw [encodedPair, List.mem_append, List.mem_cons]
  rintro (h | h | h)
  · exact not_mem_encodedChars (by decide) p.1 h
  · exact absurd h (by decide)
  · exact not_mem_encodedChars (by decide) p.2 h

theorem encodedPair_ne_nil (p : String × String) : encodedPair p ≠ [] :=
  List.append_ne_nil_of_right_ne_nil _ (List.cons_ne_nil _ _)

theorem pairOf_encodedPair (p : String × String) : pairOf (encodedPair p) = p := by
  rw [pairOf, encodedPair, cutAt?_append_sep (not_mem_encodedChars (by decide) p.1)]
  simp only [decode_encodedChars]

/-- Written pairs are read back, whatever characters they hold. -/
theorem pairs_ofPairs (ps : List (String × String)) : pairs (ofPairs ps) = ps := by
  cases ps with
  | nil => rfl
  | cons p ps =>
    have hparts : ∀ part ∈ (p :: ps).map encodedPair, '&' ∉ part ∧ part ≠ [] := by
      intro part hpart
      obtain ⟨q, -, rfl⟩ := List.mem_map.1 hpart
      exact ⟨ampersand_not_mem_encodedPair q, encodedPair_ne_nil q⟩
    have hsplit : splitAt '&' (ofPairs (p :: ps)).toList = (p :: ps).map encodedPair := by
      rw [ofPairs, String.toList_ofList]
      exact splitAt_intercalate (List.cons_ne_nil _ _) fun part hpart => (hparts part hpart).1
    have hfilter : ((p :: ps).map encodedPair).filter (· ≠ []) = (p :: ps).map encodedPair :=
      List.filter_eq_self.2 fun part hpart => decide_eq_true (hparts part hpart).2
    rw [pairs, hsplit, hfilter, List.map_map]
    exact List.map_id'' pairOf_encodedPair (p :: ps)

end Query

end SignedSession
