import SignedSession.Json.Tree
import SignedSession.Json.Sorted

/-!
Members by name. The member under a name is the same in every order of members that have distinct
names, so sorting does not change it; and a record's field is the member under its name.
-/
namespace SignedSession.Json

variable {α β : Type}

theorem lookup_cons_ite {κ : Type} [BEq κ] [LawfulBEq κ] [DecidableEq κ] (k : κ) (m : κ × α)
    (ms : List (κ × α)) : (m :: ms).lookup k =
      if k = m.1 then some m.2 else ms.lookup k := by
  rw [List.lookup_cons]
  by_cases h : k = m.1
  · rw [if_pos h, beq_iff_eq.2 h]
  · rw [if_neg h, beq_false_of_ne h]

/-- With distinct names the order of members does not matter. -/
theorem lookup_eq_of_perm {ms ms' : List (String × α)} (h : ms.Perm ms')
    (hn : (ms.map Prod.fst).Nodup) (k : String) : ms.lookup k = ms'.lookup k := by
  induction h with
  | nil => rfl
  | @cons m ms ms' hp ih =>
    rw [lookup_cons_ite, lookup_cons_ite, ih (List.nodup_cons.1 hn).2]
  | swap m m' ms =>
    have hne : m'.1 ≠ m.1 := by
      intro he
      simp [he] at hn
    simp only [lookup_cons_ite]
    by_cases hm : k = m.1
    · have hm' : k ≠ m'.1 := fun he => hne (he.symm.trans hm)
      rw [if_neg hm', if_pos hm, if_pos hm]
    · rw [if_neg hm, if_neg hm]
  | @trans ms₁ ms₂ ms₃ h₁ h₂ ih₁ ih₂ =>
    have hn₂ : (ms₂.map Prod.fst).Nodup := (h₁.map Prod.fst).nodup_iff.1 hn
    exact (ih₁ hn).trans (ih₂ hn₂)

theorem lookup_of_mem {ms : List (String × α)} (hn : (ms.map Prod.fst).Nodup) {k : String} {v : α}
    (h : (k, v) ∈ ms) : ms.lookup k = some v := by
  induction ms with
  | nil => exact absurd h List.not_mem_nil
  | cons m ms ih =>
    obtain ⟨hm, hms⟩ := List.nodup_cons.1 hn
    rw [lookup_cons_ite]
    rcases List.mem_cons.1 h with rfl | h
    · rw [if_pos rfl]
    · have hne : k ≠ m.1 := fun he => hm (he ▸ List.mem_map_of_mem h)
      rw [if_neg hne, ih hms h]

theorem lookup_map (f : α → β) (ms : List (String × α)) (k : String) :
    (ms.map fun m => (m.1, f m.2)).lookup k = (ms.lookup k).map f := by
  induction ms with
  | nil => rfl
  | cons m ms ih =>
    rw [List.map_cons, lookup_cons_ite, lookup_cons_ite, ih]
    by_cases h : k = m.1 <;> simp [h]

theorem insertKey_perm {k : String} {v : α} {ms : List (String × α)} (h : k ∉ ms.map Prod.fst) :
    (insertKey k v ms).Perm ((k, v) :: ms) := by
  induction ms with
  | nil => exact List.Perm.refl _
  | cons m ms ih =>
    obtain ⟨hm, hms⟩ := not_or.1 (mt List.mem_cons.2 h)
    rw [insertKey]
    split
    · exact List.Perm.refl _
    · exact ((ih hms).cons m).trans (List.Perm.swap (k, v) m ms)

theorem foldl_insertKey_perm {ms acc : List (String × α)} (hn : (ms.map Prod.fst).Nodup)
    (hacc : ∀ m ∈ ms, m.1 ∉ acc.map Prod.fst) :
    (ms.foldl (fun acc m => insertKey m.1 m.2 acc) acc).Perm (acc ++ ms) := by
  induction ms generalizing acc with
  | nil => rw [List.append_nil]; exact List.Perm.refl _
  | cons m ms ih =>
    obtain ⟨hm, hms⟩ := List.nodup_cons.1 hn
    have hins := insertKey_perm (v := m.2) (hacc m List.mem_cons_self)
    have hdisjoint : ∀ x ∈ ms, x.1 ∉ (insertKey m.1 m.2 acc).map Prod.fst := by
      intro x hx hin
      rcases List.mem_cons.1 ((hins.map Prod.fst).mem_iff.1 hin) with he | hin
      · exact hm (he ▸ List.mem_map_of_mem hx)
      · exact hacc x (List.mem_cons_of_mem _ hx) hin
    have hrest := ih hms hdisjoint
    exact hrest.trans ((hins.append_right ms).trans List.perm_middle.symm)

/-- Sorting members with distinct names only moves them. -/
theorem sortMembers_perm {ms : List (String × α)} (hn : (ms.map Prod.fst).Nodup) :
    (sortMembers ms).Perm ms := by
  have h : (sortMembers ms).Perm ([] ++ ms) := foldl_insertKey_perm hn fun _ _ => List.not_mem_nil
  rwa [List.nil_append] at h

theorem AscendingKeys.nodup {ms : List (String × α)} (h : AscendingKeys ms) :
    (ms.map Prod.fst).Nodup :=
  h.imp fun {k k'} (hlt : k < k') (he : k = k') => String.lt_irrefl k' (he ▸ hlt)

/-- Sorting brings members in any order back into theirs. -/
theorem sortMembers_of_perm {ms ms' : List (String × α)} (h : ms.Perm ms')
    (hordered : AscendingKeys ms') : sortMembers ms = ms' := by
  have hperm : (sortMembers ms).Perm ms' :=
    (sortMembers_perm ((h.map Prod.fst).nodup_iff.2 hordered.nodup)).trans h
  have hsorted := List.pairwise_map.1 (ascendingKeys_sortMembers ms)
  apply hperm.eq_of_pairwise _ hsorted (List.pairwise_map.1 hordered)
  intro m m' _ _ hlt hgt
  exact absurd hgt (String.lt_asymm hlt)

/-- The field of a known name is the first member under it. -/
theorem lookup_knownMembers {names : List String} {k : String} (hk : k ∈ names)
    (ms : List Member) : (ms.filterMap (knownMember? names)).lookup k = ms.lookup (some k) := by
  induction ms with
  | nil => rfl
  | cons m ms ih =>
    obtain ⟨name, t⟩ := m
    rw [lookup_cons_ite]
    cases name with
    | none =>
      rw [if_neg (by simp), ← ih]
      rfl
    | some s =>
      by_cases hs : s ∈ names
      · simp only [List.filterMap_cons, knownMember?, if_pos hs, Option.some.injEq]
        rw [lookup_cons_ite, ih]
      · have hne : some k ≠ some s := by
          intro he
          exact hs (Option.some.inj he ▸ hk)
        simp only [List.filterMap_cons, knownMember?, if_neg hs]
        rw [if_neg hne, ih]

theorem knownMembers_around {names : List String} {k : String} (hk : k ∈ names) (t : Tree)
    (before after : List Member) :
    (before ++ (some k, t) :: after).filterMap (knownMember? names) =
      before.filterMap (knownMember? names) ++
        (k, t) :: after.filterMap (knownMember? names) := by
  simp [knownMember?, hk]

/-- Knowing fewer names, one has fewer of the fields. -/
theorem knownMembers_of_subset {names names' : List String} (h : ∀ k ∈ names', k ∈ names)
    (ms : List Member) : ms.filterMap (knownMember? names') =
      (ms.filterMap (knownMember? names)).filter fun f => f.1 ∈ names' := by
  induction ms with
  | nil => rfl
  | cons m ms ih =>
    obtain ⟨name, t⟩ := m
    cases name with
    | none => simpa [List.filterMap_cons, knownMember?] using ih
    | some s =>
      by_cases hs' : s ∈ names'
      · simp [knownMember?, hs', h s hs', ih]
      · by_cases hs : s ∈ names
        · simp [knownMember?, hs', hs, ih]
        · simp [knownMember?, hs', hs, ih]

namespace Tree

theorem record?_obj_eq_some_iff {names : List String} {ms : List Member} {fs : Fields} :
    (obj ms).record? names = some fs ↔ ms.all (·.1.isSome) = true ∧
      ((ms.filterMap (knownMember? names)).map Prod.fst).Nodup ∧
      ms.filterMap (knownMember? names) = fs := by
  simp only [record?]
  split
  · next h => simp [h]
  · next h =>
    constructor
    · intro hf; cases hf
    · rintro ⟨h₁, h₂, -⟩
      exact absurd ⟨h₁, h₂⟩ h

/-- The fields of an object are its members under the known names. -/
theorem lookup_of_record?_obj {names : List String} {ms : List Member} {fs : Fields}
    (h : (obj ms).record? names = some fs) {k : String} (hk : k ∈ names) :
    fs.lookup k = ms.lookup (some k) := by
  obtain ⟨-, -, rfl⟩ := record?_obj_eq_some_iff.1 h
  exact lookup_knownMembers hk ms

/-- A member under a known name is the field of this name. -/
theorem lookup_of_mem_of_record?_obj {names : List String} {ms : List Member} {fs : Fields}
    (h : (obj ms).record? names = some fs) {k : String} (hk : k ∈ names) {t : Tree}
    (hm : (some k, t) ∈ ms) : fs.lookup k = some t := by
  obtain ⟨-, hnodup, rfl⟩ := record?_obj_eq_some_iff.1 h
  apply lookup_of_mem hnodup
  exact List.mem_filterMap.2 ⟨_, hm, if_pos hk⟩

/-- The value that a tree has for a field: a member under its name, or the item in its place. -/
def HasField (t : Tree) (names : List String) (k : String) (x : Tree) : Prop :=
  match t with
  | obj ms => (some k, x) ∈ ms
  | arr items => (names.zip items).lookup k = some x
  | _ => False

theorem lookup_of_hasField {names : List String} {t : Tree} {fs : Fields}
    (h : t.record? names = some fs) {k : String} (hk : k ∈ names) {x : Tree}
    (hx : t.HasField names k x) : fs.lookup k = some x := by
  cases t with
  | obj ms => exact lookup_of_mem_of_record?_obj h hk hx
  | arr items =>
    rw [record?] at h
    split at h
    · cases h
      exact hx
    · cases h
  | _ => exact hx.elim

/-- What is a record of some names is a record of fewer, with the same fields. -/
theorem record?_obj_of_subset {names : List String} (names' : List String)
    (h : ∀ k ∈ names', k ∈ names) {ms : List Member} {fs : Fields}
    (hfs : (obj ms).record? names = some fs) :
    ∃ fs', (obj ms).record? names' = some fs' ∧ ∀ k ∈ names', fs'.lookup k = fs.lookup k := by
  obtain ⟨htext, hnodup, -⟩ := record?_obj_eq_some_iff.1 hfs
  have hfs' : (obj ms).record? names' = some (ms.filterMap (knownMember? names')) := by
    refine record?_obj_eq_some_iff.2 ⟨htext, ?_, rfl⟩
    rw [knownMembers_of_subset h]
    exact hnodup.sublist (List.filter_sublist.map Prod.fst)
  refine ⟨_, hfs', ?_⟩
  intro k hk
  rw [lookup_of_record?_obj hfs' hk, lookup_of_record?_obj hfs (h k hk)]

/-- Members of other names may be left out, if their names have a text. -/
theorem record?_filter (names : List String) {ms : List Member}
    (htext : ms.all (·.1.isSome) = true) :
    (obj (ms.filter fun m => m.1.any (· ∈ names))).record? names = (obj ms).record? names := by
  have hknown : ∀ m : Member, (if m.1.any (· ∈ names) then knownMember? names m else none) =
      knownMember? names m := by
    rintro ⟨_ | k, t⟩
    · rfl
    · by_cases hk : k ∈ names <;> simp [knownMember?, hk]
  have hfields : (ms.filter fun m => m.1.any (· ∈ names)).filterMap (knownMember? names) =
      ms.filterMap (knownMember? names) := by
    rw [List.filterMap_filter]
    exact congrArg (ms.filterMap ·) (funext hknown)
  have hall : (ms.filter fun m => m.1.any (· ∈ names)).all (·.1.isSome) = true :=
    List.all_eq_true.2 fun m hm => List.all_eq_true.1 htext m (List.mem_filter.1 hm).1
  simp only [record?, hfields, hall, htext]

/-- A known name that stands twice is a clash, wherever it stands. -/
theorem record?_of_twice {names : List String} {k : String} (hk : k ∈ names) (t t' : Tree)
    (before between after : List Member) :
    (obj (before ++ (some k, t) :: between ++ (some k, t') :: after)).record? names = none := by
  simp only [record?]
  apply if_neg
  rintro ⟨-, hnodup⟩
  simp [knownMember?, hk, List.nodup_append] at hnodup

end Tree

/-- A reading that looks at the fields of these names and at nothing else. -/
def Fields.LooksAt (names : List String) (read : Fields → Option α) : Prop :=
  ∀ fs fs' : Fields, (∀ k ∈ names, fs.lookup k = fs'.lookup k) → read fs = read fs'

namespace Tree

/-- What is read off an object does not depend on the order of its members. -/
theorem record?_bind_of_perm {names : List String} {read : Fields → Option α}
    (hread : Fields.LooksAt names read) {ms ms' : List Member} (h : ms.Perm ms') :
    ((obj ms).record? names).bind read = ((obj ms').record? names).bind read := by
  have hfields := h.filterMap (knownMember? names)
  have hkeys := hfields.map Prod.fst
  have hall : ms.all (·.1.isSome) = ms'.all (·.1.isSome) := h.all_eq
  simp only [record?, hall, hkeys.nodup_iff]
  split
  · next hwell =>
    have hnodup := hkeys.nodup_iff.2 hwell.2
    exact hread _ _ fun k _ => lookup_eq_of_perm hfields hnodup k
  · rfl

/-- Another value under one name leaves a record a record, with the other fields as they were. -/
theorem record?_exchange {names : List String} {k : String} (hk : k ∈ names) {t : Tree}
    (t' : Tree) {before after : List Member} {fs : Fields}
    (h : (obj (before ++ (some k, t) :: after)).record? names = some fs) :
    ∃ fs', (obj (before ++ (some k, t') :: after)).record? names = some fs' ∧
      fs'.lookup k = some t' ∧ ∀ j, j ≠ k → fs'.lookup j = fs.lookup j := by
  obtain ⟨htext, hnodup, rfl⟩ := record?_obj_eq_some_iff.1 h
  have hrecord : (obj (before ++ (some k, t') :: after)).record? names =
      some (before.filterMap (knownMember? names) ++
        (k, t') :: after.filterMap (knownMember? names)) := by
    refine record?_obj_eq_some_iff.2 ⟨by simpa using htext, ?_, knownMembers_around hk t' _ _⟩
    simpa [knownMembers_around hk] using hnodup
  refine ⟨_, hrecord, ?_, ?_⟩
  · exact lookup_of_mem_of_record?_obj hrecord hk (List.mem_append_right _ List.mem_cons_self)
  · intro j hj
    rw [knownMembers_around hk, List.lookup_append, List.lookup_append, lookup_cons_ite,
      lookup_cons_ite, if_neg hj, if_neg hj]

/-- A member under a new name is read on top of what is read without it. -/
theorem record?_bind_insert {names : List String} {k : String} (hk : k ∈ names) (t : Tree)
    {read : Fields → Option α} {add : α → α}
    (hread : ∀ fs fs' : Fields, fs.lookup k = none → fs'.lookup k = some t →
      (∀ j, j ≠ k → fs'.lookup j = fs.lookup j) → read fs' = (read fs).map add)
    {before after : List Member} (hnew : ∀ m ∈ before ++ after, m.1 ≠ some k) :
    ((obj (before ++ (some k, t) :: after)).record? names).bind read =
      (((obj (before ++ after)).record? names).bind read).map add := by
  have hothers : k ∉ ((before ++ after).filterMap (knownMember? names)).map Prod.fst := by
    intro hmem
    obtain ⟨⟨j, x⟩, hfield, rfl⟩ := List.mem_map.1 hmem
    obtain ⟨⟨name, y⟩, hm, hknown⟩ := List.mem_filterMap.1 hfield
    cases name with
    | none => cases hknown
    | some s =>
      rw [knownMember?] at hknown
      split at hknown
      · cases hknown
        exact hnew _ hm rfl
      · cases hknown
  have hall : (before ++ (some k, t) :: after).all (·.1.isSome) =
      (before ++ after).all (·.1.isSome) := by
    simp
  rw [List.filterMap_append] at hothers
  simp only [record?, hall, knownMembers_around hk, List.filterMap_append]
  generalize before.filterMap (knownMember? names) = front at hothers
  generalize after.filterMap (knownMember? names) = back at hothers
  have hnodup : ((front ++ (k, t) :: back).map Prod.fst).Nodup ↔
      ((front ++ back).map Prod.fst).Nodup := by
    rw [(List.perm_middle.map Prod.fst).nodup_iff, List.map_cons, List.nodup_cons]
    exact and_iff_right hothers
  simp only [hnodup]
  split
  · simp only [Option.bind_some]
    have hlookup : (front ++ back).lookup k = none := List.lookup_eq_none_iff.2 fun m hm =>
      bne_iff_ne.2 fun he => hothers (he ▸ List.mem_map_of_mem hm)
    rw [List.lookup_append, Option.or_eq_none_iff] at hlookup
    apply hread
    · rw [List.lookup_append, hlookup.1, hlookup.2]
      rfl
    · rw [List.lookup_append, lookup_cons_ite, if_pos rfl, hlookup.1]
      rfl
    · intro j hj
      rw [List.lookup_append, List.lookup_append, lookup_cons_ite, if_neg hj]
  · rfl

end Tree

namespace Fields

/-- What holds of null and of everything that is read holds of an optional field. -/
theorem all_of_optional? {fs : Fields} {name : String} {read : Tree → Option α} {o : Option α}
    (h : fs.optional? name read = some o) {p : Tree → Bool} (hnull : p .null = true)
    (hread : ∀ t a, read t = some a → p t = true) : (fs.lookup name).all p = true := by
  unfold optional? at h
  split at h
  · next hl => rw [hl]; rfl
  · next hl => rw [hl]; exact hnull
  · next t _ hl =>
    obtain ⟨a, ha, -⟩ := Option.map_eq_some_iff.1 h
    rw [hl]
    exact hread t a ha

/-- An optional field that has a value was read from a member. -/
theorem exists_of_optional? {fs : Fields} {name : String} {read : Tree → Option α} {a : α}
    (h : fs.optional? name read = some (some a)) : ∃ t, read t = some a := by
  unfold optional? at h
  split at h
  · cases h
  · cases h
  · next t _ _ =>
    obtain ⟨_, ha, he⟩ := Option.map_eq_some_iff.1 h
    cases he
    exact ⟨t, ha⟩

theorem eq_default_or_exists {fs : Fields} {name : String} {read : Tree → Option α} {d a : α}
    (h : fs.withDefault? name read d = some a) : a = d ∨ ∃ t, read t = some a := by
  unfold withDefault? at h
  split at h
  · cases h
    exact .inl rfl
  · next t _ => exact .inr ⟨t, h⟩

theorem optional?_congr {fs fs' : Fields} {name : String} (h : fs.lookup name = fs'.lookup name)
    (read : Tree → Option α) : fs.optional? name read = fs'.optional? name read := by
  rw [optional?, optional?, h]

theorem withDefault?_congr {fs fs' : Fields} {name : String} (h : fs.lookup name = fs'.lookup name)
    (read : Tree → Option α) (default : α) :
    fs.withDefault? name read default = fs'.withDefault? name read default := by
  rw [withDefault?, withDefault?, h]

/-- An optional field whose value is left out or written is read as it was. -/
theorem optional?_of_lookup {fs : Fields} {name : String} {read : Tree → Option α}
    {write : α → Tree} {o : Option α} (hl : fs.lookup name = o.map write)
    (hnull : read .null = none) (hread : ∀ a, o = some a → read (write a) = some a) :
    fs.optional? name read = some o := by
  unfold optional?
  rw [hl]
  cases o with
  | none => rfl
  | some a =>
    have ha := hread a rfl
    simp only [Option.map_some]
    split
    · next h => cases h
    · next h =>
      rw [Option.some.inj h, hnull] at ha
      cases ha
    · next t _ h => rw [← Option.some.inj h, ha, Option.map_some]

/-- A field that is left out when it has its default, and else written, is read as it was. -/
theorem withDefault?_of_lookup {fs : Fields} {name : String} {read : Tree → Option α}
    {default a : α} (h : fs.lookup name = none ∧ a = default ∨
      ∃ t, fs.lookup name = some t ∧ read t = some a) :
    fs.withDefault? name read default = some a := by
  unfold withDefault?
  rcases h with ⟨hl, rfl⟩ | ⟨t, hl, hread⟩
  · rw [hl]
  · rw [hl]
    exact hread

end Fields

end SignedSession.Json
