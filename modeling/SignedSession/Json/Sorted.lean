/-!
Association lists in ascending order of their keys. Texts are ordered by code points, which is
the order of their UTF-8 octets. Main statements: insertion keeps the order, and a list in order
is left as it is by sorting.
-/
namespace SignedSession.Json

variable {α : Type _}

/-- Keys strictly ascend, so no key stands twice. -/
def AscendingKeys (ms : List (String × α)) : Prop := (ms.map Prod.fst).Pairwise (· < ·)

/-- Puts a member in its place; one that has the key already is replaced. -/
def insertKey (k : String) (v : α) : List (String × α) → List (String × α)
  | [] => [(k, v)]
  | m :: ms => if k < m.1 then (k, v) :: m :: ms
    else if k = m.1 then (k, v) :: ms
    else m :: insertKey k v ms

/-- Members in order of their keys; of several with one key the last stays. -/
def sortMembers (ms : List (String × α)) : List (String × α) :=
  ms.foldl (fun acc m => insertKey m.1 m.2 acc) []

@[simp] theorem ascendingKeys_nil : AscendingKeys ([] : List (String × α)) := List.Pairwise.nil

theorem ascendingKeys_cons {m : String × α} {ms : List (String × α)} :
    AscendingKeys (m :: ms) ↔ (∀ x ∈ ms, m.1 < x.1) ∧ AscendingKeys ms := by
  simp [AscendingKeys]

theorem mem_insertKey {k : String} {v : α} {ms : List (String × α)} {x : String × α}
    (h : x ∈ insertKey k v ms) : x = (k, v) ∨ x ∈ ms := by
  induction ms with
  | nil => exact Or.inl (by simpa [insertKey] using h)
  | cons m ms ih =>
    simp only [insertKey] at h
    split at h
    · simpa using h
    · split at h
      · exact (List.mem_cons.1 h).imp id (List.mem_cons_of_mem _)
      · rcases List.mem_cons.1 h with rfl | h
        · exact Or.inr List.mem_cons_self
        · exact (ih h).imp id (List.mem_cons_of_mem _)

theorem lt_of_not_lt_of_ne {s t : String} (h : ¬ s < t) (h' : s ≠ t) : t < s :=
  String.not_le.1 fun hle => h' (String.le_antisymm hle (String.not_lt.1 h))

theorem AscendingKeys.insertKey {ms : List (String × α)} (h : AscendingKeys ms) (k : String)
    (v : α) : AscendingKeys (insertKey k v ms) := by
  induction ms with
  | nil => simp [Json.insertKey, AscendingKeys]
  | cons m ms ih =>
    obtain ⟨hm, hms⟩ := ascendingKeys_cons.1 h
    simp only [Json.insertKey]
    split
    · next hlt =>
      refine ascendingKeys_cons.2 ⟨fun x hx => ?_, h⟩
      rcases List.mem_cons.1 hx with rfl | hx
      · exact hlt
      · exact String.lt_trans hlt (hm x hx)
    · next hge =>
      split
      · next heq => exact ascendingKeys_cons.2 ⟨fun x hx => heq ▸ hm x hx, hms⟩
      · next hne =>
        refine ascendingKeys_cons.2 ⟨fun x hx => ?_, ih hms⟩
        rcases mem_insertKey hx with rfl | hx
        · exact lt_of_not_lt_of_ne hge hne
        · exact hm x hx

theorem mem_foldl_insertKey {ms acc : List (String × α)} {x : String × α}
    (h : x ∈ ms.foldl (fun acc m => insertKey m.1 m.2 acc) acc) : x ∈ ms ∨ x ∈ acc := by
  induction ms generalizing acc with
  | nil => exact Or.inr h
  | cons m ms ih =>
    rcases ih h with h | h
    · exact Or.inl (List.mem_cons_of_mem _ h)
    · rcases mem_insertKey h with rfl | h
      · exact Or.inl List.mem_cons_self
      · exact Or.inr h

theorem mem_of_mem_sortMembers {ms : List (String × α)} {x : String × α}
    (h : x ∈ sortMembers ms) : x ∈ ms :=
  (mem_foldl_insertKey h).resolve_right List.not_mem_nil

theorem ascendingKeys_foldl {ms acc : List (String × α)} (h : AscendingKeys acc) :
    AscendingKeys (ms.foldl (fun acc m => insertKey m.1 m.2 acc) acc) := by
  induction ms generalizing acc with
  | nil => exact h
  | cons m ms ih => exact ih (h.insertKey m.1 m.2)

theorem ascendingKeys_sortMembers (ms : List (String × α)) : AscendingKeys (sortMembers ms) :=
  ascendingKeys_foldl ascendingKeys_nil

/-- A key above all others goes to the end. -/
theorem insertKey_of_forall_lt {k : String} {v : α} {ms : List (String × α)}
    (h : ∀ x ∈ ms, x.1 < k) : insertKey k v ms = ms ++ [(k, v)] := by
  induction ms with
  | nil => rfl
  | cons m ms ih =>
    have hm : m.1 < k := h m List.mem_cons_self
    rw [insertKey, if_neg (String.lt_asymm hm), if_neg (fun he => String.lt_irrefl _ (he ▸ hm)),
      ih fun x hx => h x (List.mem_cons_of_mem _ hx), List.cons_append]

theorem foldl_insertKey_of_ascending {ms acc : List (String × α)} (h : AscendingKeys ms)
    (hacc : ∀ x ∈ acc, ∀ y ∈ ms, x.1 < y.1) :
    ms.foldl (fun acc m => insertKey m.1 m.2 acc) acc = acc ++ ms := by
  induction ms generalizing acc with
  | nil => simp
  | cons m ms ih =>
    obtain ⟨hm, hms⟩ := ascendingKeys_cons.1 h
    rw [List.foldl_cons, insertKey_of_forall_lt fun x hx => hacc x hx m List.mem_cons_self,
      ih hms ?_, List.append_assoc]
    · rfl
    · intro x hx y hy
      rcases List.mem_append.1 hx with hx | hx
      · exact hacc x hx y (List.mem_cons_of_mem _ hy)
      · rw [List.mem_singleton.1 hx]; exact hm y hy

theorem sortMembers_of_ascending {ms : List (String × α)} (h : AscendingKeys ms) :
    sortMembers ms = ms :=
  (foldl_insertKey_of_ascending h fun _ hx => absurd hx List.not_mem_nil).trans
    (List.nil_append ms)

end SignedSession.Json
