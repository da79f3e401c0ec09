import SignedSession.Json.Printer
import SignedSession.Proofs.Json.Arrangement

/-!
Places in values. A path leads from a value to one of its parts, from container to container. Main
statements: the part of a value that is read at a path is the one that stands at this path in the
tree; what has a value can be put at any path of a tree that has one; and in the text of a value a
part stands where any other in its place would stand.
-/
namespace SignedSession.Json

/-- One step into a container. -/
inductive Step
  | item (i : Nat)
  | member (name : String)
  deriving DecidableEq, Repr

abbrev Path := List Step

section

variable {α : Type}

def lookupLast {κ : Type} [DecidableEq κ] (k : κ) : List (κ × α) → Option α
  | [] => none
  | m :: ms => (lookupLast k ms).or (if k = m.1 then some m.2 else none)

theorem lookup_insertKey (k k' : String) (v : α) (ms : List (String × α)) :
    (insertKey k' v ms).lookup k = if k = k' then some v else ms.lookup k := by
  induction ms with
  | nil => simp [insertKey, lookup_cons_ite]
  | cons m ms ih =>
    rw [insertKey]
    split
    · rw [lookup_cons_ite]
    split
    · next hm =>
      rw [lookup_cons_ite, lookup_cons_ite, hm]
      split <;> rfl
    · next hm =>
      rw [lookup_cons_ite, lookup_cons_ite, ih]
      by_cases hk : k = m.1
      · have hne : k ≠ k' := fun he => hm (he.symm.trans hk)
        rw [if_pos hk, if_neg hne, if_pos hk]
      · rw [if_neg hk, if_neg hk]

theorem lookup_foldl_insertKey (k : String) (ms acc : List (String × α)) :
    (ms.foldl (fun acc m => insertKey m.1 m.2 acc) acc).lookup k =
      (lookupLast k ms).or (acc.lookup k) := by
  induction ms generalizing acc with
  | nil => rfl
  | cons m ms ih =>
    rw [List.foldl_cons, ih, lookup_insertKey, lookupLast, Option.or_assoc]
    split <;> simp

/-- Sorting keeps the last of several members with one name. -/
theorem lookup_sortMembers (k : String) (ms : List (String × α)) :
    (sortMembers ms).lookup k = lookupLast k ms :=
  (lookup_foldl_insertKey k ms []).trans Option.or_none

end

/-- Changes the last of several members with one name. -/
def modifyLast {κ : Type} [DecidableEq κ] (k : κ) (f : α → α) : List (κ × α) → List (κ × α)
  | [] => []
  | m :: ms =>
    if k = m.1 ∧ lookupLast k ms = none then (m.1, f m.2) :: ms else m :: modifyLast k f ms

theorem lookupLast_modifyLast {κ : Type} [DecidableEq κ] (k : κ) (f : α → α)
    (ms : List (κ × α)) : lookupLast k (modifyLast k f ms) = (lookupLast k ms).map f := by
  induction ms with
  | nil => rfl
  | cons m ms ih =>
    rw [modifyLast]
    split
    · next h =>
      rw [lookupLast, lookupLast, h.2, if_pos h.1, if_pos h.1]
      rfl
    · next h =>
      rw [lookupLast, lookupLast, ih]
      cases hl : lookupLast k ms with
      | some x => rfl
      | none =>
        rw [if_neg fun hk => h ⟨hk, hl⟩]
        rfl

theorem exists_of_mem_modifyLast {κ : Type} [DecidableEq κ] {k : κ} {f : α → α}
    {ms : List (κ × α)} {m : κ × α} (h : m ∈ modifyLast k f ms) :
    ∃ x, (m.1, x) ∈ ms ∧ (m.2 = x ∨ m.2 = f x) := by
  induction ms with
  | nil => cases h
  | cons m' ms ih =>
    rw [modifyLast] at h
    split at h
    · rcases List.mem_cons.1 h with rfl | h
      · exact ⟨m'.2, List.mem_cons_self, .inr rfl⟩
      · exact ⟨m.2, List.mem_cons_of_mem _ h, .inl rfl⟩
    · rcases List.mem_cons.1 h with rfl | h
      · exact ⟨m.2, List.mem_cons_self, .inl rfl⟩
      · obtain ⟨x, hx, hsame⟩ := ih h
        exact ⟨x, List.mem_cons_of_mem _ hx, hsame⟩

namespace Value

/-- The part of a value that is one step away. -/
def child? : Value → Step → Option Value
  | arr items, .item i => items[i]?
  | obj ms, .member k => ms.lookup k
  | _, _ => none

def at? (v : Value) : Path → Option Value
  | [] => some v
  | s :: p => (v.child? s).bind (·.at? p)

end Value

namespace Tree

/-- The part of a tree that is one step away; of several members with one name it is the last. -/
def child? : Tree → Step → Option Tree
  | arr items, .item i => items[i]?
  | obj ms, .member k => lookupLast (some k) ms
  | _, _ => none

def at? (t : Tree) : Path → Option Tree
  | [] => some t
  | s :: p => (t.child? s).bind (·.at? p)

/-- A tree is read as a value that has its members in order. -/
def Reads (limit : Nat) (t : Tree) (w : Value) : Prop :=
  ∃ v, t.toValue? limit = some v ∧ w = v.sortKeys

theorem items_of_toItems? {limit : Nat} {ts : List Tree} {vs : List Value}
    (h : toItems? limit ts = some vs) (i : Nat) :
    Option.Rel (Reads limit) ts[i]? (Value.sortItems vs)[i]? := by
  induction ts generalizing vs i with
  | nil =>
    cases h
    exact .none
  | cons t ts ih =>
    obtain ⟨v, hv, h⟩ := Option.bind_eq_some_iff.1 h
    obtain ⟨vs, hvs, rfl⟩ := Option.map_eq_some_iff.1 h
    cases i with
    | zero => exact .some ⟨v, hv, rfl⟩
    | succ i => exact ih hvs i

theorem lookupLast_of_toMembers? {limit : Nat} {ms : List Member} {vs : List (String × Value)}
    (h : toMembers? limit ms = some vs) (k : String) :
    Option.Rel (Reads limit) (lookupLast (some k) ms) (lookupLast k (Value.sortEach vs)) := by
  induction ms generalizing vs with
  | nil =>
    cases h
    exact .none
  | cons m ms ih =>
    obtain ⟨name, t⟩ := m
    obtain ⟨s, hs, hvalue⟩ := Option.bind_eq_some_iff.1 h
    obtain ⟨v, hv, hrest⟩ := Option.bind_eq_some_iff.1 hvalue
    obtain ⟨vs, hvs, rfl⟩ := Option.map_eq_some_iff.1 hrest
    obtain rfl : name = some s := hs
    have hlater := ih hvs
    simp only [lookupLast, Value.sortEach, Option.some.injEq]
    generalize lookupLast (some k) ms = x, lookupLast k (Value.sortEach vs) = y at hlater
    cases hlater with
    | some hlast => exact .some hlast
    | none =>
      by_cases hk : k = s
      · simp only [hk, if_true, Option.none_or]
        exact .some ⟨v, hv, rfl⟩
      · simp only [hk, if_false, Option.none_or]
        exact .none

theorem Reads.child? {limit : Nat} {t : Tree} {w : Value} (h : t.Reads limit w) (s : Step) :
    Option.Rel (Reads (limit - 1)) (t.child? s) (w.child? s) := by
  obtain ⟨v, hv, rfl⟩ := h
  cases t with
  | arr items =>
    rw [toValue?] at hv
    split at hv
    · cases hv
    obtain ⟨vs, hvs, rfl⟩ := Option.map_eq_some_iff.1 hv
    cases s with
    | item i => exact items_of_toItems? hvs i
    | member k => exact .none
  | obj ms =>
    rw [toValue?] at hv
    split at hv
    · cases hv
    obtain ⟨vs, hvs, rfl⟩ := Option.map_eq_some_iff.1 hv
    cases s with
    | item i => exact .none
    | member k =>
      change Option.Rel _ _ ((sortMembers (Value.sortEach vs)).lookup k)
      rw [lookup_sortMembers]
      exact lookupLast_of_toMembers? hvs k
  | null =>
    cases hv
    exact .none
  | bool b =>
    cases hv
    exact .none
  | num n =>
    obtain ⟨x, -, rfl⟩ := Option.map_eq_some_iff.1 hv
    exact .none
  | str l =>
    obtain ⟨x, -, rfl⟩ := Option.map_eq_some_iff.1 hv
    exact .none

/-- What is read at a path is read from the part of the tree at this path. -/
theorem Reads.at? {limit : Nat} {t : Tree} {w : Value} (h : t.Reads limit w) (p : Path) :
    Option.Rel (Reads (limit - p.length)) (t.at? p) (w.at? p) := by
  induction p generalizing limit t w with
  | nil => exact .some h
  | cons s p ih =>
    have hchild := h.child? s
    rw [Tree.at?, Value.at?]
    generalize t.child? s = x, w.child? s = y at hchild
    cases hchild with
    | none => exact .none
    | some hchild =>
      have hpart := ih hchild
      rwa [Nat.sub_sub, Nat.add_comm] at hpart

/-- Changes the part that is one step away. -/
def modify (f : Tree → Tree) : Tree → Step → Tree
  | arr items, .item i => arr (items.modify i f)
  | obj ms, .member k => obj (modifyLast (some k) f ms)
  | t, _ => t

/-- Puts a tree at a path. -/
def put (t : Tree) (p : Path) (x : Tree) : Tree :=
  match p with
  | [] => x
  | s :: p => t.modify (fun y => y.put p x) s

theorem child?_modify (f : Tree → Tree) (t : Tree) (s : Step) :
    (t.modify f s).child? s = (t.child? s).map f := by
  cases t with
  | arr items =>
    cases s with
    | item i => simp [modify, child?, List.getElem?_modify_eq]
    | member k => rfl
  | obj ms =>
    cases s with
    | item i => rfl
    | member k => exact lookupLast_modifyLast (some k) f ms
  | _ => cases s <;> rfl

/-- What is put at a path that there is can be found there. -/
theorem at?_put {t x : Tree} {p : Path} (h : t.at? p = some x) (y : Tree) :
    (t.put p y).at? p = some y := by
  induction p generalizing t with
  | nil => rfl
  | cons s p ih =>
    obtain ⟨z, hchild, hpart⟩ := Option.bind_eq_some_iff.1 h
    rw [at?, put, child?_modify, hchild]
    exact ih hpart

theorem toItems?_isSome_iff {limit : Nat} {ts : List Tree} :
    (toItems? limit ts).isSome ↔ ∀ t ∈ ts, (t.toValue? limit).isSome := by
  induction ts with
  | nil => simp [toItems?]
  | cons t ts ih =>
    rw [List.forall_mem_cons, ← ih, toItems?]
    cases t.toValue? limit <;> simp

theorem toMembers?_isSome_iff {limit : Nat} {ms : List Member} :
    (toMembers? limit ms).isSome ↔
      ∀ m ∈ ms, m.1.isSome = true ∧ (m.2.toValue? limit).isSome := by
  induction ms with
  | nil => simp [toMembers?]
  | cons m ms ih =>
    obtain ⟨name, t⟩ := m
    rw [List.forall_mem_cons, ← ih, toMembers?]
    cases name with
    | none => simp
    | some k => cases t.toValue? limit <;> simp

theorem toValue?_modify {f : Tree → Tree}
    (hf : ∀ limit t, (t.toValue? limit).isSome → ((f t).toValue? limit).isSome) {limit : Nat}
    {t : Tree} (h : (t.toValue? limit).isSome) (s : Step) :
    ((t.modify f s).toValue? limit).isSome := by
  cases t with
  | arr items =>
    cases s with
    | item i =>
      rw [toValue?] at h
      rw [modify, toValue?]
      split at h
      · cases h
      · next hlimit =>
        rw [Option.isSome_map, toItems?_isSome_iff] at h
        rw [if_neg hlimit, Option.isSome_map, toItems?_isSome_iff]
        intro x hx
        obtain ⟨j, hj⟩ := List.mem_iff_getElem?.1 hx
        rw [List.getElem?_modify] at hj
        obtain ⟨y, hy, rfl⟩ := Option.map_eq_some_iff.1 hj
        have hvalue := h y (List.mem_of_getElem? hy)
        split
        · exact hf _ _ hvalue
        · exact hvalue
    | member k => exact h
  | obj ms =>
    cases s with
    | item i => exact h
    | member k =>
      rw [toValue?] at h
      rw [modify, toValue?]
      split at h
      · cases h
      · next hlimit =>
        rw [Option.isSome_map, toMembers?_isSome_iff] at h
        rw [if_neg hlimit, Option.isSome_map, toMembers?_isSome_iff]
        intro m hm
        obtain ⟨x, hx, hsame⟩ := exists_of_mem_modifyLast hm
        obtain ⟨hname, hvalue⟩ := h _ hx
        rcases hsame with hsame | hsame
        · exact ⟨hname, hsame ▸ hvalue⟩
        · exact ⟨hname, hsame ▸ hf _ _ hvalue⟩
  | _ => cases s <;> exact h

/-- A value can be put anywhere in what has a value. -/
theorem toValue?_put {x : Tree} (hx : ∀ limit, (x.toValue? limit).isSome) {limit : Nat} {t : Tree}
    (h : (t.toValue? limit).isSome) (p : Path) : ((t.put p x).toValue? limit).isSome := by
  induction p generalizing limit t with
  | nil => exact hx limit
  | cons s p ih => exact toValue?_modify (fun _ _ h => ih h) h s

end Tree

namespace Value

/-- Changes the first member under a name. -/
def modifyMember (k : String) (f : Value → Value) : List (String × Value) → List (String × Value)
  | [] => []
  | m :: ms => if k = m.1 then (m.1, f m.2) :: ms else m :: modifyMember k f ms

/-- Changes the part that is one step away. -/
def modify (f : Value → Value) : Value → Step → Value
  | arr items, .item i => arr (items.modify i f)
  | obj ms, .member k => obj (modifyMember k f ms)
  | v, _ => v

/-- Puts a value at a path. -/
def put (v : Value) (p : Path) (w : Value) : Value :=
  match p with
  | [] => w
  | s :: p => v.modify (fun x => x.put p w) s

theorem exists_split_of_lookup {ms : List (String × Value)} {k : String} {v : Value}
    (h : ms.lookup k = some v) : ∃ front back, ms = front ++ (k, v) :: back ∧
      ∀ f, modifyMember k f ms = front ++ (k, f v) :: back := by
  induction ms with
  | nil => cases h
  | cons m ms ih =>
    rw [lookup_cons_ite] at h
    split at h
    · next hk =>
      obtain rfl := Option.some.inj h
      refine ⟨[], ms, ?_, fun f => ?_⟩
      · rw [hk]
        rfl
      · rw [modifyMember, if_pos hk, hk]
        rfl
    · next hk =>
      obtain ⟨front, back, rfl, hmodify⟩ := ih h
      refine ⟨m :: front, back, rfl, fun f => ?_⟩
      rw [modifyMember, if_neg hk, hmodify, List.cons_append]

theorem modifyMember_of_lookup_none {ms : List (String × Value)} {k : String}
    (h : ms.lookup k = none) (f : Value → Value) : modifyMember k f ms = ms := by
  induction ms with
  | nil => rfl
  | cons m ms ih =>
    rw [lookup_cons_ite] at h
    split at h
    · cases h
    · next hk => rw [modifyMember, if_neg hk, ih h]

theorem areMembersFloatFree_modifyMember {k : String} {f : Value → Value}
    (hf : ∀ v, v.IsFloatFree → (f v).IsFloatFree) {ms : List (String × Value)}
    (h : AreMembersFloatFree ms) : AreMembersFloatFree (modifyMember k f ms) := by
  induction ms with
  | nil => trivial
  | cons m ms ih =>
    rw [modifyMember]
    split
    · exact ⟨hf _ h.1, h.2⟩
    · exact ⟨h.1, ih h.2⟩

theorem exists_split_of_getElem? {items : List Value} {i : Nat} {v : Value}
    (h : items[i]? = some v) : ∃ front back, items = front ++ v :: back ∧
      ∀ f, items.modify i f = front ++ f v :: back := by
  induction items generalizing i with
  | nil => cases h
  | cons w items ih =>
    cases i with
    | zero =>
      obtain rfl := Option.some.inj h
      exact ⟨[], items, rfl, fun f => rfl⟩
    | succ i =>
      obtain ⟨front, back, rfl, hmodify⟩ := ih h
      refine ⟨w :: front, back, rfl, fun f => ?_⟩
      rw [List.modify_succ_cons, hmodify, List.cons_append]

theorem itemsChars_append (vs ws : List Value) :
    itemsChars (vs ++ ws) = itemsChars vs ++ itemsChars ws := by
  induction vs with
  | nil => rfl
  | cons v vs ih => simp [itemsChars, ih]

theorem membersChars_append (ms ns : List (String × Value)) :
    membersChars (ms ++ ns) = membersChars ms ++ membersChars ns := by
  induction ms with
  | nil => rfl
  | cons m ms ih => simp [membersChars, ih]

theorem exists_around_item (front back : List Value) :
    ∃ left right, ∀ w, (arr (front ++ w :: back)).chars = left ++ w.chars ++ right := by
  cases front with
  | nil => exact ⟨['['], itemsChars back ++ [']'], fun w => by simp [chars]⟩
  | cons v front =>
    refine ⟨'[' :: v.chars ++ itemsChars front ++ [','], itemsChars back ++ [']'], fun w => ?_⟩
    simp [chars, itemsChars, itemsChars_append]

theorem exists_around_member (front back : List (String × Value)) (k : String) :
    ∃ left right, ∀ w, (obj (front ++ (k, w) :: back)).chars = left ++ w.chars ++ right := by
  cases front with
  | nil =>
    exact ⟨'\x7b' :: stringChars k ++ [':'], membersChars back ++ ['\x7d'],
      fun w => by simp [chars]⟩
  | cons m front =>
    refine ⟨'\x7b' :: stringChars m.1 ++ ':' :: m.2.chars ++ membersChars front ++
      ',' :: stringChars k ++ [':'], membersChars back ++ ['\x7d'], fun w => ?_⟩
    simp [chars, membersChars, membersChars_append]

theorem exists_around_child {v x : Value} {s : Step} (h : v.child? s = some x) :
    (∀ f, f x = x → v.modify f s = v) ∧
      ∃ left right, ∀ f, (v.modify f s).chars = left ++ (f x).chars ++ right := by
  cases v with
  | arr items =>
    cases s with
    | item i =>
      obtain ⟨front, back, rfl, hmodify⟩ := exists_split_of_getElem? h
      obtain ⟨left, right, haround⟩ := exists_around_item front back
      refine ⟨fun f hf => ?_, left, right, fun f => ?_⟩
      · rw [modify, hmodify, hf]
      · rw [modify, hmodify, haround]
    | member k => cases h
  | obj ms =>
    cases s with
    | item i => cases h
    | member k =>
      obtain ⟨front, back, rfl, hmodify⟩ := exists_split_of_lookup h
      obtain ⟨left, right, haround⟩ := exists_around_member front back k
      refine ⟨fun f hf => ?_, left, right, fun f => ?_⟩
      · rw [modify, hmodify, hf]
      · rw [modify, hmodify, haround]
  | _ => cases h

/-- In the text of a value each part has a place of its own. What stands at the path stands there,
and whatever is put there is written there instead, with the rest of the text as it was. -/
theorem exists_around {v x : Value} {p : Path} (h : v.at? p = some x) :
    v.put p x = v ∧ ∃ left right, ∀ w, (v.put p w).chars = left ++ w.chars ++ right := by
  induction p generalizing v with
  | nil =>
    obtain rfl := Option.some.inj h
    exact ⟨rfl, [], [], fun w => by simp [put]⟩
  | cons s p ih =>
    obtain ⟨y, hchild, hpart⟩ := Option.bind_eq_some_iff.1 h
    obtain ⟨hsame, left, right, haround⟩ := ih hpart
    obtain ⟨hmodify, outerLeft, outerRight, houter⟩ := exists_around_child hchild
    refine ⟨hmodify _ hsame, outerLeft ++ left, right ++ outerRight, fun w => ?_⟩
    rw [put, houter, haround]
    simp

/-- The text of the value has these characters in the place that belongs to the path. -/
def WritesAt (v : Value) (p : Path) (cs : List Char) : Prop :=
  ∃ left right, v.chars = left ++ cs ++ right ∧ ∀ w, (v.put p w).chars = left ++ w.chars ++ right

theorem writesAt_of_at? {v x : Value} {p : Path} (h : v.at? p = some x) : v.WritesAt p x.chars := by
  obtain ⟨hsame, left, right, haround⟩ := exists_around h
  refine ⟨left, right, ?_, haround⟩
  rw [← haround, hsame]

/-- Sorting an object leaves each member under its name. -/
theorem child?_sortKeys {ms : List (String × Value)} (hn : (ms.map Prod.fst).Nodup) (k : String) :
    (obj ms).sortKeys.child? (.member k) = (ms.lookup k).map sortKeys := by
  obtain ⟨ms', hsorted, hperm⟩ := isArrangement_sortKeys.obj ms hn
  have hkeys : (ms'.map Prod.fst).Nodup := by
    have h := (hperm.map Prod.fst).nodup_iff
    rw [List.map_map] at h
    exact h.2 hn
  rw [hsorted]
  change ms'.lookup k = _
  rw [lookup_eq_of_perm hperm hkeys, lookup_map]

end Value

end SignedSession.Json
