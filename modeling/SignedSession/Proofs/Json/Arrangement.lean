import SignedSession.Proofs.Json.Members
import SignedSession.Proofs.Json.Reading

/-!
Arrangements of a value: the same value with the members of its objects in another order. As
given and sorted by name are two of them, and the fields of a record are the same in each.
-/
namespace SignedSession.Json

namespace Value

/-- Leaves a value alone whose objects are in order, and moves members with distinct names at
most. -/
structure IsArrangement (arrange : Value → Value) : Prop where
  ordered : ∀ v : Value, v.Ordered → arrange v = v
  obj : ∀ ms : List (String × Value), (ms.map Prod.fst).Nodup →
    ∃ ms', arrange (.obj ms) = .obj ms' ∧ ms'.Perm (ms.map fun m => (m.1, arrange m.2))

/-- Members may stay where they are. -/
theorem isArrangement_id : IsArrangement id where
  ordered _ _ := rfl
  obj ms _ := ⟨ms, rfl, by simp⟩

theorem sortEach_eq_map (ms : List (String × Value)) :
    sortEach ms = ms.map fun m => (m.1, m.2.sortKeys) := by
  induction ms with
  | nil => rfl
  | cons m ms ih => rw [sortEach, ih, List.map_cons]

theorem isArrangement_sortKeys : IsArrangement sortKeys where
  ordered := sortKeys_of_ordered
  obj ms hn := by
    refine ⟨_, rfl, ?_⟩
    rw [← sortEach_eq_map]
    apply sortMembers_perm
    have hkeys : (sortEach ms).map Prod.fst = ms.map Prod.fst := by
      rw [sortEach_eq_map, List.map_map]
      rfl
    rwa [hkeys]

end Value

namespace Tree

open Value

theorem knownMembers_memberTrees {names : List String} {ms : List (String × Value)}
    (hk : ∀ m ∈ ms, m.1 ∈ names) :
    (memberTrees ms).filterMap (knownMember? names) = ms.map fun m => (m.1, m.2.toTree) := by
  induction ms with
  | nil => rfl
  | cons m ms ih =>
    have hm := hk m List.mem_cons_self
    have hms := ih fun x hx => hk x (List.mem_cons_of_mem _ hx)
    simp [memberTrees, knownMember?, hm, hms]

/-- The members of a value, all known and with distinct names, are the fields of its tree. -/
theorem record?_toTree {names : List String} {ms : List (String × Value)}
    (hn : (ms.map Prod.fst).Nodup) (hk : ∀ m ∈ ms, m.1 ∈ names) :
    (Value.obj ms).toTree.record? names = some (ms.map fun m => (m.1, m.2.toTree)) := by
  have hfields := knownMembers_memberTrees hk
  refine record?_obj_eq_some_iff.2 ⟨?_, ?_, hfields⟩
  · simp [memberTrees_eq_map]
  · rw [hfields, List.map_map]
    exact hn

/-- In every arrangement of an object the field of a name is the tree of its member. -/
theorem record?_arranged {arrange : Value → Value} (ha : IsArrangement arrange)
    {names : List String} {ms : List (String × Value)} (hsub : (ms.map Prod.fst).Sublist names)
    (hnames : names.Nodup) :
    ∃ fs, (arrange (.obj ms)).toTree.record? names = some fs ∧
      ∀ k, fs.lookup k = (ms.lookup k).map fun v => (arrange v).toTree := by
  have hn : (ms.map Prod.fst).Nodup := hnames.sublist hsub
  obtain ⟨ms', harr, hperm⟩ := ha.obj ms hn
  have hkeys : (ms'.map Prod.fst).Perm (ms.map Prod.fst) := by
    have h := hperm.map Prod.fst
    rwa [List.map_map] at h
  have hn' : (ms'.map Prod.fst).Nodup := hkeys.nodup_iff.2 hn
  have hk' : ∀ m ∈ ms', m.1 ∈ names := fun m hm =>
    hsub.subset (hkeys.mem_iff.1 (List.mem_map_of_mem hm))
  rw [harr]
  refine ⟨_, record?_toTree hn' hk', ?_⟩
  intro k
  rw [lookup_map, lookup_eq_of_perm hperm hn', lookup_map, Option.map_map]
  rfl

end Tree

end SignedSession.Json
