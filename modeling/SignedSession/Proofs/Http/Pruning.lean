import SignedSession.Http.Header
import SignedSession.Proofs.Http.Cookie
import SignedSession.Proofs.Http.Query

/-!
Queries and lines of cookies without the pieces that say one pair. What is left says the other
pairs, in their order.
-/
namespace SignedSession

open Text

/-- A text of pieces without those that say a pair. -/
def Text.pruned (sep : Char) (reads : List Char → Option (String × String)) (p : String × String)
    (cs : List Char) : List Char :=
  List.intercalate [sep] ((splitAt sep cs).filter fun piece => reads piece ≠ some p)

section

variable {sep : Char} {reads : List Char → Option (String × String)} {p : String × String}

theorem Text.filterMap_filter_reads (reads : List Char → Option (String × String))
    (p : String × String) (pieces : List (List Char)) :
    (pieces.filter fun piece => reads piece ≠ some p).filterMap reads =
      (pieces.filterMap reads).filter (· ≠ p) := by
  induction pieces with
  | nil => rfl
  | cons piece pieces ih =>
    cases hreads : reads piece with
    | none =>
      rw [List.filter_cons_of_pos (by simp [hreads]), List.filterMap_cons_none hreads,
        List.filterMap_cons_none hreads, ih]
    | some q =>
      rw [List.filterMap_cons_some hreads]
      by_cases hq : q = p
      · rw [List.filter_cons_of_neg (by simp [hreads, hq]), List.filter_cons_of_neg (by simp [hq]),
          ih]
      · rw [List.filter_cons_of_pos (by simp [hreads, hq]), List.filter_cons_of_pos (by simp [hq]),
          List.filterMap_cons_some hreads, ih]

/-- If nothing is left, what is left is one empty piece, and it says nothing. -/
theorem Text.filterMap_splitAt_pruned (hnil : reads [] = none) (cs : List Char) :
    (splitAt sep (pruned sep reads p cs)).filterMap reads =
      ((splitAt sep cs).filterMap reads).filter (· ≠ p) := by
  rw [← filterMap_filter_reads, pruned]
  by_cases hleft : ((splitAt sep cs).filter fun piece => reads piece ≠ some p) = []
  · rw [hleft]
    change [[]].filterMap reads = [].filterMap reads
    rw [List.filterMap_cons_none hnil]
  · rw [splitAt_intercalate hleft]
    intro piece hpiece hmem
    exact (of_mem_splitAt (List.mem_filter.1 hpiece).1 sep hmem).2 rfl

/-- Where no piece says the pair, pruning changes nothing. -/
theorem Text.pruned_eq_self {cs : List Char} (h : p ∉ (splitAt sep cs).filterMap reads) :
    pruned sep reads p cs = cs := by
  have hkept : ∀ piece ∈ splitAt sep cs, decide (reads piece ≠ some p) = true :=
    fun piece hpiece => decide_eq_true fun hp => h (List.mem_filterMap.2 ⟨piece, hpiece, hp⟩)
  rw [pruned, List.filter_eq_self.2 hkept, intercalate_splitAt]

theorem Text.mem_of_mem_intercalate {parts : List (List Char)} {x : Char}
    (h : x ∈ List.intercalate [sep] parts) : x = sep ∨ ∃ part ∈ parts, x ∈ part := by
  induction parts with
  | nil => cases h
  | cons part parts ih =>
    cases parts with
    | nil =>
      rw [List.intercalate_singleton] at h
      exact .inr ⟨part, List.mem_cons_self, h⟩
    | cons next parts =>
      rw [List.intercalate_cons_cons, List.mem_append, List.mem_append, List.mem_singleton] at h
      rcases h with (h | h) | h
      · exact .inr ⟨part, List.mem_cons_self, h⟩
      · exact .inl h
      · rcases ih h with h | ⟨last, hlast, h⟩
        · exact .inl h
        · exact .inr ⟨last, List.mem_cons_of_mem _ hlast, h⟩

/-- Pruning adds no characters but separators. -/
theorem Text.mem_of_mem_pruned {cs : List Char} {x : Char} (h : x ∈ pruned sep reads p cs) :
    x = sep ∨ x ∈ cs := by
  rcases mem_of_mem_intercalate h with h | ⟨piece, hpiece, hx⟩
  · exact .inl h
  · exact .inr (of_mem_splitAt (List.mem_filter.1 hpiece).1 x hx).1

end

namespace Query

/-- The pair of a piece, unless it is empty. -/
def pairOf? (piece : List Char) : Option (String × String) :=
  if piece = [] then none else some (pairOf piece)

theorem pairs_eq_filterMap (q : String) : pairs q = (splitAt '&' q.toList).filterMap pairOf? := by
  rw [pairs, ← List.filterMap_eq_map, List.filterMap_filter]
  refine congrArg (List.filterMap · _) (funext fun piece => ?_)
  by_cases hpiece : piece = [] <;> simp [pairOf?, hpiece]

/-- A query without the pairs of a name and an empty value. -/
def withoutEmpty (name q : String) : String :=
  String.ofList (pruned '&' pairOf? (name, "") q.toList)

theorem pairs_withoutEmpty (name q : String) :
    pairs (withoutEmpty name q) = (pairs q).filter (· ≠ (name, "")) := by
  rw [pairs_eq_filterMap, pairs_eq_filterMap, withoutEmpty, String.toList_ofList,
    filterMap_splitAt_pruned rfl]

theorem withoutEmpty_eq_self {name q : String} (h : (name, "") ∉ pairs q) :
    withoutEmpty name q = q := by
  rw [pairs_eq_filterMap] at h
  rw [withoutEmpty, pruned_eq_self h, String.ofList_toList]

end Query

namespace Cookie

/-- A line of cookies without those of a name and an empty value. -/
def withoutEmpty (name line : String) : String :=
  String.ofList (pruned ';' pairOf? (name, "") line.toList)

theorem pairs_withoutEmpty (name line : String) :
    pairs (withoutEmpty name line) = (pairs line).filter (· ≠ (name, "")) := by
  rw [pairs, pairs, withoutEmpty, String.toList_ofList, filterMap_splitAt_pruned rfl]

theorem withoutEmpty_eq_self {name line : String} (h : (name, "") ∉ pairs line) :
    withoutEmpty name line = line := by
  rw [withoutEmpty, pruned_eq_self h, String.ofList_toList]

theorem isReadable_withoutEmpty {line : String} (h : HeaderValue.IsReadable line) (name : String) :
    HeaderValue.IsReadable (withoutEmpty name line) := by
  apply List.all_eq_true.2
  intro x hx
  rw [withoutEmpty, String.toList_ofList] at hx
  rcases mem_of_mem_pruned hx with rfl | hx
  · decide
  · exact List.all_eq_true.1 h x hx

end Cookie

end SignedSession
