import SignedSession.Json.Builder
import SignedSession.Proofs.Json.Scanning

/-!
Building the tree of a value. The lexemes of a value are built into its tree, in whatever hole it
stands. Main statement: the compact text of a value without doubles has the value's tree.
-/
namespace SignedSession.Json

namespace Value

mutual

/-- The tree of a value's text. -/
def toTree : Value → Tree
  | null => .null
  | bool b => .bool b
  | num n => .num n.numeral
  | str s => .str (.text s)
  | arr items => .arr (itemTrees items)
  | obj ms => .obj (memberTrees ms)

def itemTrees : List Value → List Tree
  | [] => []
  | v :: vs => toTree v :: itemTrees vs

def memberTrees : List (String × Value) → List Member
  | [] => []
  | (k, v) :: ms => (some k, toTree v) :: memberTrees ms

end

theorem memberTrees_eq_map (ms : List (String × Value)) :
    memberTrees ms = ms.map fun m => (some m.1, m.2.toTree) := by
  induction ms with
  | nil => rfl
  | cons m ms ih => rw [memberTrees, ih, List.map_cons]

/-- No value begins with the end of an array. -/
theorem lexemes_eq_cons (v : Value) : ∃ l ls, v.lexemes = l :: ls ∧ l ≠ .closeArr := by
  cases v with
  | null => exact ⟨_, _, rfl, by decide⟩
  | bool b => exact ⟨_, _, rfl, by simp⟩
  | num n => exact ⟨_, _, rfl, by simp⟩
  | str s => exact ⟨_, _, rfl, by simp⟩
  | arr items =>
    cases items with
    | nil => exact ⟨_, _, rfl, by decide⟩
    | cons v vs => exact ⟨.openArr, _, rfl, by decide⟩
  | obj ms =>
    cases ms with
    | nil => exact ⟨_, _, rfl, by decide⟩
    | cons m ms => exact ⟨.openObj, _, rfl, by decide⟩

end Value

namespace Builder

open Value

/-- The first item of an array is built as any other value. -/
theorem run_firstItem (v : Value) (outer : List Frame) (ls : List Lexeme) :
    (firstItem outer).run (v.lexemes ++ ls) =
      (value (.item [] :: outer)).run (v.lexemes ++ ls) := by
  obtain ⟨l, ks, hv, hl⟩ := lexemes_eq_cons v
  rw [hv, List.cons_append, run_cons, run_cons]
  simp only [step, if_neg hl]

theorem run_step {a b : Builder} {l : Lexeme} (h : a.step l = some b) (ls : List Lexeme) :
    a.run (l :: ls) = b.run ls := by
  rw [run_cons, h, Option.bind_some]

mutual

/-- The lexemes of a value put its tree into the hole. -/
theorem run_lexemes : (v : Value) → (outer : List Frame) → (ls : List Lexeme) →
    (value outer).run (v.lexemes ++ ls) = (place v.toTree outer).run ls
  | .null, _, _ => rfl
  | .bool _, _, _ => rfl
  | .num _, _, _ => rfl
  | .str _, _, _ => rfl
  | .arr [], _, _ => rfl
  | .arr (v :: vs), outer, ls => by
    simp only [lexemes, List.cons_append, List.append_assoc, List.nil_append]
    rw [run_step (b := firstItem outer) rfl, run_firstItem, run_lexemes v, place,
      run_itemsLexemes vs, run_step rfl]
    simp [toTree, itemTrees]
  | .obj [], _, _ => rfl
  | .obj ((k, v) :: ms), outer, ls => by
    simp only [lexemes, List.cons_append, List.append_assoc, List.nil_append]
    rw [run_step (b := firstName outer) rfl, run_step (b := colon [] (some k) outer) rfl,
      run_step (b := value (.member [] (some k) :: outer)) rfl, run_lexemes v, place,
      run_membersLexemes ms, run_step rfl]
    simp [toTree, memberTrees]

theorem run_itemsLexemes : (vs : List Value) → (before : List Tree) → (outer : List Frame) →
    (ls : List Lexeme) → (afterItem before outer).run (itemsLexemes vs ++ ls) =
      (afterItem ((itemTrees vs).reverse ++ before) outer).run ls
  | [], _, _, _ => rfl
  | v :: vs, before, outer, ls => by
    simp only [itemsLexemes, List.cons_append, List.append_assoc]
    rw [run_step (b := value (.item before :: outer)) rfl, run_lexemes v, place,
      run_itemsLexemes vs]
    simp [itemTrees]

theorem run_membersLexemes : (ms : List (String × Value)) → (before : List Member) →
    (outer : List Frame) → (ls : List Lexeme) →
    (afterMember before outer).run (membersLexemes ms ++ ls) =
      (afterMember ((memberTrees ms).reverse ++ before) outer).run ls
  | [], _, _, _ => rfl
  | (k, v) :: ms, before, outer, ls => by
    simp only [membersLexemes, List.cons_append, List.append_assoc]
    rw [run_step (b := name before outer) rfl, run_step (b := colon before (some k) outer) rfl,
      run_step (b := value (.member before (some k) :: outer)) rfl, run_lexemes v, place,
      run_membersLexemes ms]
    simp [memberTrees]

end

end Builder

namespace Tree

theorem ofLexemes?_lexemes (v : Value) : ofLexemes? v.lexemes = some v.toTree := by
  have h := Builder.run_lexemes v [] []
  rw [List.append_nil] at h
  rw [ofLexemes?, h]
  rfl

/-- The compact text of a value says the value's tree. -/
theorem ofChars?_chars {v : Value} (h : v.IsFloatFree) : ofChars? v.chars = some v.toTree := by
  rw [ofChars?, ofSymbols?, Lexeme.scan?_chars h, Option.bind_some, ofLexemes?_lexemes]

end Tree

end SignedSession.Json
