/-!
Splitting a text at a separator: at every occurrence, or at the first one.
-/
namespace SignedSession.Text

/-- The parts between the separators; there is one more than there are separators. -/
def splitAt (sep : Char) : List Char → List (List Char)
  | [] => [[]]
  | c :: cs =>
    if c = sep then [] :: splitAt sep cs
    else match splitAt sep cs with
      | [] => [[c]]
      | part :: parts => (c :: part) :: parts

/-- What stands before and after the first separator, if there is one. -/
def cutAt? (sep : Char) : List Char → Option (List Char × List Char)
  | [] => none
  | c :: cs => if c = sep then some ([], cs) else (cutAt? sep cs).map fun p => (c :: p.1, p.2)

theorem splitAt_ne_nil (sep : Char) (cs : List Char) : splitAt sep cs ≠ [] := by
  cases cs with
  | nil => simp [splitAt]
  | cons c cs =>
    rw [splitAt]
    split
    · simp
    · split <;> simp

/-- A text without the separator is one part. -/
theorem splitAt_of_not_mem {sep : Char} {cs : List Char} (h : sep ∉ cs) :
    splitAt sep cs = [cs] := by
  induction cs with
  | nil => rfl
  | cons c cs ih =>
    obtain ⟨hc, hcs⟩ := not_or.1 (mt List.mem_cons.2 h)
    rw [splitAt, if_neg fun e => hc e.symm, ih hcs]

/-- A separator splits a text, whatever separators stand around it. -/
theorem splitAt_append_cons (sep : Char) (cs rest : List Char) :
    splitAt sep (cs ++ sep :: rest) = splitAt sep cs ++ splitAt sep rest := by
  induction cs with
  | nil => simp [splitAt]
  | cons c cs ih =>
    rw [List.cons_append, splitAt, splitAt, ih]
    by_cases hc : c = sep
    · rw [if_pos hc, if_pos hc, List.cons_append]
    · obtain ⟨part, parts, hparts⟩ := List.exists_cons_of_ne_nil (splitAt_ne_nil sep cs)
      rw [if_neg hc, if_neg hc, hparts]
      rfl

theorem splitAt_append_sep {sep : Char} {cs : List Char} (h : sep ∉ cs) (rest : List Char) :
    splitAt sep (cs ++ sep :: rest) = cs :: splitAt sep rest := by
  rw [splitAt_append_cons, splitAt_of_not_mem h, List.singleton_append]

theorem cutAt?_append_sep {sep : Char} {cs : List Char} (h : sep ∉ cs) (rest : List Char) :
    cutAt? sep (cs ++ sep :: rest) = some (cs, rest) := by
  induction cs with
  | nil => simp [cutAt?]
  | cons c cs ih =>
    obtain ⟨hc, hcs⟩ := not_or.1 (mt List.mem_cons.2 h)
    rw [List.cons_append, cutAt?, if_neg fun e => hc e.symm, ih hcs]
    rfl

theorem cutAt?_eq_some_iff {sep : Char} {cs before after : List Char} :
    cutAt? sep cs = some (before, after) ↔ cs = before ++ sep :: after ∧ sep ∉ before := by
  constructor
  · intro h
    induction cs generalizing before with
    | nil => cases h
    | cons c cs ih =>
      rw [cutAt?] at h
      by_cases hc : c = sep
      · rw [if_pos hc] at h
        cases h
        exact ⟨by rw [hc, List.nil_append], List.not_mem_nil⟩
      · rw [if_neg hc] at h
        obtain ⟨⟨start, rest⟩, hcut, he⟩ := Option.map_eq_some_iff.1 h
        cases he
        obtain ⟨rfl, hstart⟩ := ih hcut
        refine ⟨rfl, ?_⟩
        rw [List.mem_cons, not_or]
        exact ⟨Ne.symm hc, hstart⟩
  · rintro ⟨rfl, h⟩
    exact cutAt?_append_sep h after

/-- Parts before the last ones are split off one by one. -/
theorem splitAt_intercalate_append {sep : Char} {parts rest : List (List Char)} (hne : rest ≠ [])
    (h : ∀ part ∈ parts, sep ∉ part) : splitAt sep (List.intercalate [sep] (parts ++ rest)) =
      parts ++ splitAt sep (List.intercalate [sep] rest) := by
  induction parts with
  | nil => rfl
  | cons part parts ih =>
    have hpart : sep ∉ part := h part List.mem_cons_self
    have htail := ih fun p hp => h p (List.mem_cons_of_mem _ hp)
    obtain ⟨next, more, hmore⟩ := List.exists_cons_of_ne_nil
      (List.append_ne_nil_of_right_ne_nil parts hne)
    rw [List.cons_append, List.cons_append, ← htail, hmore, List.intercalate_cons_cons,
      List.append_assoc, List.singleton_append, splitAt_append_sep hpart]

/-- Splitting undoes joining if no part holds the separator. -/
theorem splitAt_intercalate {sep : Char} {parts : List (List Char)} (hne : parts ≠ [])
    (h : ∀ part ∈ parts, sep ∉ part) : splitAt sep (List.intercalate [sep] parts) = parts := by
  rcases List.eq_nil_or_concat parts with rfl | ⟨before, last, rfl⟩
  · exact absurd rfl hne
  · rw [List.concat_eq_append] at h ⊢
    have hbefore : ∀ part ∈ before, sep ∉ part := fun part hpart =>
      h part (List.mem_append_left _ hpart)
    have hlast : sep ∉ last := h last (List.mem_append_right _ List.mem_cons_self)
    rw [splitAt_intercalate_append (List.cons_ne_nil _ _) hbefore, List.intercalate_singleton,
      splitAt_of_not_mem hlast]

/-- Joining undoes splitting. -/
theorem intercalate_splitAt (sep : Char) (cs : List Char) :
    List.intercalate [sep] (splitAt sep cs) = cs := by
  induction cs with
  | nil => rfl
  | cons c cs ih =>
    obtain ⟨part, parts, hparts⟩ := List.exists_cons_of_ne_nil (splitAt_ne_nil sep cs)
    rw [splitAt, hparts]
    rw [hparts] at ih
    by_cases hc : c = sep
    · rw [if_pos hc, List.intercalate_cons_cons, ih, hc]
      rfl
    · rw [if_neg hc]
      change List.intercalate [sep] ((c :: part) :: parts) = c :: cs
      rw [← ih]
      cases parts with
      | nil => rfl
      | cons next more => rfl

/-- A part holds no separator, and nothing that the text does not hold. -/
theorem of_mem_splitAt {sep : Char} {cs part : List Char} (h : part ∈ splitAt sep cs) :
    ∀ c ∈ part, c ∈ cs ∧ c ≠ sep := by
  induction cs generalizing part with
  | nil =>
    rw [splitAt, List.mem_singleton] at h
    rw [h]
    exact fun _ hc => absurd hc List.not_mem_nil
  | cons x cs ih =>
    intro c hc
    rw [splitAt] at h
    by_cases hx : x = sep
    · rw [if_pos hx, List.mem_cons] at h
      rcases h with rfl | h
      · cases hc
      · obtain ⟨hmem, hne⟩ := ih h c hc
        exact ⟨List.mem_cons_of_mem _ hmem, hne⟩
    · rw [if_neg hx] at h
      cases hparts : splitAt sep cs with
      | nil => exact absurd hparts (splitAt_ne_nil sep cs)
      | cons first parts =>
        rw [hparts] at h ih
        rcases List.mem_cons.1 h with rfl | h
        · rcases List.mem_cons.1 hc with rfl | hc
          · exact ⟨List.mem_cons_self, hx⟩
          · obtain ⟨hmem, hne⟩ := ih List.mem_cons_self c hc
            exact ⟨List.mem_cons_of_mem _ hmem, hne⟩
        · obtain ⟨hmem, hne⟩ := ih (List.mem_cons_of_mem _ h) c hc
          exact ⟨List.mem_cons_of_mem _ hmem, hne⟩

/-- A text is its only part exactly if it holds no separator. -/
theorem splitAt_eq_singleton_iff {sep : Char} {cs part : List Char} :
    splitAt sep cs = [part] ↔ cs = part ∧ sep ∉ cs := by
  constructor
  · intro h
    have hjoined := intercalate_splitAt sep cs
    rw [h, List.intercalate_singleton] at hjoined
    refine ⟨hjoined.symm, fun hmem => ?_⟩
    have hpart : part ∈ splitAt sep cs := by rw [h, List.mem_singleton]
    exact (of_mem_splitAt hpart sep (hjoined.symm ▸ hmem)).2 rfl
  · rintro ⟨rfl, h⟩
    exact splitAt_of_not_mem h

end SignedSession.Text
