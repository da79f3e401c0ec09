import SignedSession.Proofs.Json.Building

/-!
Reading values back. The tree of a value without doubles has that value again, if the limit on
containers is not below the value's depth; and no value that is read is deeper than the limit.
Sorting the members of objects brings in no doubles and no depth.
-/
namespace SignedSession.Json

namespace Value

mutual

/-- How many containers lie around the innermost part of a value. -/
def depth : Value → Nat
  | arr items => itemsDepth items + 1
  | obj ms => membersDepth ms + 1
  | _ => 0

def itemsDepth : List Value → Nat
  | [] => 0
  | v :: vs => max v.depth (itemsDepth vs)

def membersDepth : List (String × Value) → Nat
  | [] => 0
  | (_, v) :: ms => max v.depth (membersDepth ms)

end

theorem membersDepth_le_iff {ms : List (String × Value)} {limit : Nat} :
    membersDepth ms ≤ limit ↔ ∀ m ∈ ms, m.2.depth ≤ limit := by
  induction ms with
  | nil => simp [membersDepth]
  | cons m ms ih => simp only [membersDepth, Nat.max_le, ih, List.forall_mem_cons]

mutual

theorem isFloatFree_sortKeys : (v : Value) → v.IsFloatFree → v.sortKeys.IsFloatFree
  | .null, _ => trivial
  | .bool _, _ => trivial
  | .num (.int _), _ => trivial
  | .num (.float _), h => h
  | .str _, _ => trivial
  | .arr items, h => areFloatFree_sortItems items h
  | .obj ms, h => areMembersFloatFree_iff.2 fun m hm =>
      areMembersFloatFree_iff.1 (areMembersFloatFree_sortEach ms h) m (mem_of_mem_sortMembers hm)

theorem areFloatFree_sortItems : (vs : List Value) → AreFloatFree vs → AreFloatFree (sortItems vs)
  | [], _ => trivial
  | v :: vs, h => ⟨isFloatFree_sortKeys v h.1, areFloatFree_sortItems vs h.2⟩

theorem areMembersFloatFree_sortEach : (ms : List (String × Value)) → AreMembersFloatFree ms →
    AreMembersFloatFree (sortEach ms)
  | [], _ => trivial
  | (_, v) :: ms, h => ⟨isFloatFree_sortKeys v h.1, areMembersFloatFree_sortEach ms h.2⟩

end

mutual

theorem depth_sortKeys_le : (v : Value) → v.sortKeys.depth ≤ v.depth
  | .null => Nat.le_refl _
  | .bool _ => Nat.le_refl _
  | .num _ => Nat.le_refl _
  | .str _ => Nat.le_refl _
  | .arr items => Nat.succ_le_succ (itemsDepth_sortItems_le items)
  | .obj ms => Nat.succ_le_succ (membersDepth_le_iff.2 fun m hm =>
      membersDepth_le_iff.1 (membersDepth_sortEach_le ms) m (mem_of_mem_sortMembers hm))

theorem itemsDepth_sortItems_le : (vs : List Value) → itemsDepth (sortItems vs) ≤ itemsDepth vs
  | [] => Nat.le_refl _
  | v :: vs => by
    have hv := depth_sortKeys_le v
    have hvs := itemsDepth_sortItems_le vs
    simp only [sortItems, itemsDepth]
    omega

theorem membersDepth_sortEach_le : (ms : List (String × Value)) →
    membersDepth (sortEach ms) ≤ membersDepth ms
  | [] => Nat.le_refl _
  | (_, v) :: ms => by
    have hv := depth_sortKeys_le v
    have hms := membersDepth_sortEach_le ms
    simp only [sortEach, membersDepth]
    omega

end

end Value

namespace Tree

open Value

mutual

theorem toValue?_toTree : (v : Value) → v.IsFloatFree → {limit : Nat} → v.depth ≤ limit →
    v.toTree.toValue? limit = some v
  | .null, _, _, _ => rfl
  | .bool _, _, _, _ => rfl
  | .num (.int n), _, _, _ => by
    rw [toTree, Number.numeral, toValue?, Numeral.toNumber?_ofInt]
    rfl
  | .num (.float _), h, _, _ => h.elim
  | .str _, _, _, _ => rfl
  | .arr items, h, limit, hd => by
    have hpos : limit ≠ 0 := by simp only [depth] at hd; omega
    have hitems : itemsDepth items ≤ limit - 1 := by simp only [depth] at hd; omega
    rw [toTree, toValue?, if_neg hpos, toItems?_itemTrees items h hitems]
    rfl
  | .obj ms, h, limit, hd => by
    have hpos : limit ≠ 0 := by simp only [depth] at hd; omega
    have hmembers : membersDepth ms ≤ limit - 1 := by simp only [depth] at hd; omega
    rw [toTree, toValue?, if_neg hpos, toMembers?_memberTrees ms h hmembers]
    rfl

theorem toItems?_itemTrees : (vs : List Value) → AreFloatFree vs → {limit : Nat} →
    itemsDepth vs ≤ limit → toItems? limit (itemTrees vs) = some vs
  | [], _, _, _ => rfl
  | v :: vs, h, limit, hd => by
    have hmax := Nat.max_le.1 hd
    rw [itemTrees, toItems?, toValue?_toTree v h.1 hmax.1, Option.bind_some,
      toItems?_itemTrees vs h.2 hmax.2]
    rfl

theorem toMembers?_memberTrees : (ms : List (String × Value)) → AreMembersFloatFree ms →
    {limit : Nat} → membersDepth ms ≤ limit → toMembers? limit (memberTrees ms) = some ms
  | [], _, _, _ => rfl
  | (k, v) :: ms, h, limit, hd => by
    have hmax := Nat.max_le.1 hd
    rw [memberTrees, toMembers?, Option.bind_some, toValue?_toTree v h.1 hmax.1, Option.bind_some,
      toMembers?_memberTrees ms h.2 hmax.2]
    rfl

end

mutual

theorem depth_le_of_toValue? : (t : Tree) → {limit : Nat} → {v : Value} →
    t.toValue? limit = some v → v.depth ≤ limit
  | .null, _, _, h => by
    cases h
    exact Nat.zero_le _
  | .bool _, _, _, h => by
    cases h
    exact Nat.zero_le _
  | .num _, _, _, h => by
    obtain ⟨n, -, rfl⟩ := Option.map_eq_some_iff.1 h
    exact Nat.zero_le _
  | .str _, _, _, h => by
    obtain ⟨s, -, rfl⟩ := Option.map_eq_some_iff.1 h
    exact Nat.zero_le _
  | .arr items, limit, v, h => by
    rw [toValue?] at h
    split at h
    · cases h
    · obtain ⟨vs, hitems, rfl⟩ := Option.map_eq_some_iff.1 h
      have hvs := itemsDepth_le_of_toItems? items hitems
      simp only [depth]
      omega
  | .obj ms, limit, v, h => by
    rw [toValue?] at h
    split at h
    · cases h
    · obtain ⟨vs, hmembers, rfl⟩ := Option.map_eq_some_iff.1 h
      have hvs := membersDepth_le_of_toMembers? ms hmembers
      simp only [depth]
      omega

theorem itemsDepth_le_of_toItems? : (ts : List Tree) → {limit : Nat} → {vs : List Value} →
    toItems? limit ts = some vs → itemsDepth vs ≤ limit
  | [], _, _, h => by
    cases h
    exact Nat.zero_le _
  | t :: ts, _, _, h => by
    obtain ⟨v, hv, h⟩ := Option.bind_eq_some_iff.1 h
    obtain ⟨vs, hvs, rfl⟩ := Option.map_eq_some_iff.1 h
    exact Nat.max_le.2 ⟨depth_le_of_toValue? t hv, itemsDepth_le_of_toItems? ts hvs⟩

theorem membersDepth_le_of_toMembers? : (ms : List Member) → {limit : Nat} →
    {vs : List (String × Value)} → toMembers? limit ms = some vs → membersDepth vs ≤ limit
  | [], _, _, h => by
    cases h
    exact Nat.zero_le _
  | (_, t) :: ms, _, _, h => by
    obtain ⟨k, -, h⟩ := Option.bind_eq_some_iff.1 h
    obtain ⟨v, hv, h⟩ := Option.bind_eq_some_iff.1 h
    obtain ⟨vs, hvs, rfl⟩ := Option.map_eq_some_iff.1 h
    exact Nat.max_le.2 ⟨depth_le_of_toValue? t hv, membersDepth_le_of_toMembers? ms hvs⟩

end

end Tree

end SignedSession.Json
