import SignedSession.Json.Number
import SignedSession.Json.Sorted
import SignedSession.Json.Tree

/-!
JSON values, and reading them off a tree. An object's members keep the order they are given in;
`Value.sortKeys` is the same value with every object's members in order of their keys. Main
statements: sorting orders every object, and it leaves alone a value that is in order.
-/
namespace SignedSession.Json

inductive Value
  | null
  | bool (b : Bool)
  | num (n : Number)
  | str (s : String)
  | arr (items : List Value)
  | obj (members : List (String × Value))

namespace Value

def bool? : Value → Option Bool
  | bool b => some b
  | _ => none

def str? : Value → Option String
  | str s => some s
  | _ => none

mutual

/-- Members at every level in order of their keys, the last of several with one key. -/
def sortKeys : Value → Value
  | arr items => arr (sortItems items)
  | obj ms => obj (sortMembers (sortEach ms))
  | v => v

def sortItems : List Value → List Value
  | [] => []
  | v :: vs => sortKeys v :: sortItems vs

def sortEach : List (String × Value) → List (String × Value)
  | [] => []
  | (k, v) :: ms => (k, sortKeys v) :: sortEach ms

end

mutual

/-- Every object in the value has its keys strictly ascending. -/
def Ordered : Value → Prop
  | arr items => OrderedItems items
  | obj ms => AscendingKeys ms ∧ OrderedEach ms
  | _ => True

def OrderedItems : List Value → Prop
  | [] => True
  | v :: vs => v.Ordered ∧ OrderedItems vs

def OrderedEach : List (String × Value) → Prop
  | [] => True
  | (_, v) :: ms => v.Ordered ∧ OrderedEach ms

end

theorem orderedEach_iff {ms : List (String × Value)} :
    OrderedEach ms ↔ ∀ m ∈ ms, m.2.Ordered := by
  induction ms with
  | nil => simp [OrderedEach]
  | cons m ms ih => cases m; simp [OrderedEach, ih]

mutual

theorem ordered_sortKeys : (v : Value) → v.sortKeys.Ordered
  | null => trivial
  | bool _ => trivial
  | num _ => trivial
  | str _ => trivial
  | arr items => orderedItems_sortItems items
  | obj ms => ⟨ascendingKeys_sortMembers _, orderedEach_iff.2 fun m hm =>
      orderedEach_iff.1 (orderedEach_sortEach ms) m (mem_of_mem_sortMembers hm)⟩

theorem orderedItems_sortItems : (vs : List Value) → OrderedItems (sortItems vs)
  | [] => trivial
  | v :: vs => ⟨ordered_sortKeys v, orderedItems_sortItems vs⟩

theorem orderedEach_sortEach : (ms : List (String × Value)) → OrderedEach (sortEach ms)
  | [] => trivial
  | (_, v) :: ms => ⟨ordered_sortKeys v, orderedEach_sortEach ms⟩

end

mutual

theorem sortKeys_of_ordered : (v : Value) → v.Ordered → v.sortKeys = v
  | null, _ => rfl
  | bool _, _ => rfl
  | num _, _ => rfl
  | str _, _ => rfl
  | arr items, h => congrArg arr (sortItems_of_ordered items h)
  | obj ms, h => congrArg obj
      ((congrArg sortMembers (sortEach_of_ordered ms h.2)).trans (sortMembers_of_ascending h.1))

theorem sortItems_of_ordered : (vs : List Value) → OrderedItems vs → sortItems vs = vs
  | [], _ => rfl
  | v :: vs, h => by
    rw [sortItems, sortKeys_of_ordered v h.1, sortItems_of_ordered vs h.2]

theorem sortEach_of_ordered : (ms : List (String × Value)) → OrderedEach ms → sortEach ms = ms
  | [], _ => rfl
  | (k, v) :: ms, h => by
    rw [sortEach, sortKeys_of_ordered v h.1, sortEach_of_ordered ms h.2]

end

end Value

namespace Tree

mutual

/-- The value of a tree that nests at most `limit` containers. Every string in it must have a
text and every numeral a double. -/
def toValue? (limit : Nat) : Tree → Option Value
  | null => some .null
  | bool b => some (.bool b)
  | num n => n.toNumber?.map .num
  | str l => l.text?.map .str
  | arr items => if limit = 0 then none else (toItems? (limit - 1) items).map .arr
  | obj ms => if limit = 0 then none else (toMembers? (limit - 1) ms).map .obj

def toItems? (limit : Nat) : List Tree → Option (List Value)
  | [] => some []
  | t :: ts => (toValue? limit t).bind fun v => (toItems? limit ts).map (v :: ·)

def toMembers? (limit : Nat) : List (Option String × Tree) → Option (List (String × Value))
  | [] => some []
  | (k, t) :: ms => k.bind fun k => (toValue? limit t).bind fun v =>
      (toMembers? limit ms).map ((k, v) :: ·)

end

end Tree

end SignedSession.Json
