import SignedSession.Proofs.Http.Cookie

/-!
A cookie among others. A request may have several lines of cookies, and a line several pieces, of
which some are no cookies at all. Main statement: the first cookie of a name is found where it
stands, whatever comes behind it.
-/
namespace SignedSession.Cookie

open Text

/-- A piece that is no cookie of a name: it has no equals sign, or another name, or none, stands
before its first one. -/
def IsOther (n : String) (piece : List Char) : Prop :=
  ∀ before after, piece = before ++ '=' :: after → '=' ∉ before → strip isBlank before ≠ n.toList

theorem isOther_iff {n : String} {piece : List Char} : IsOther n piece ↔
    ∀ p, cutAt? '=' piece = some p → strip isBlank p.1 ≠ n.toList := by
  constructor
  · rintro h ⟨before, after⟩ hcut
    obtain ⟨hpiece, hbefore⟩ := cutAt?_eq_some_iff.1 hcut
    exact h before after hpiece hbefore
  · intro h before after hpiece hbefore
    exact h (before, after) (cutAt?_eq_some_iff.2 ⟨hpiece, hbefore⟩)

instance (n : String) (piece : List Char) : Decidable (IsOther n piece) :=
  decidable_of_iff (∀ p ∈ cutAt? '=' piece, strip isBlank p.1 ≠ n.toList) isOther_iff.symm

theorem ne_of_isOther {n m v : String} {piece : List Char} (h : IsOther n piece)
    (hpair : pairOf? piece = some (m, v)) : m ≠ n := by
  rintro rfl
  unfold pairOf? at hpair
  cases hcut : cutAt? '=' piece with
  | none =>
    rw [hcut] at hpair
    cases hpair
  | some p =>
    rw [hcut] at hpair
    obtain ⟨-, hpair⟩ := Option.ite_none_left_eq_some.1 hpair
    have hname : String.ofList (strip isBlank p.1) = m := congrArg Prod.fst (Option.some.inj hpair)
    refine isOther_iff.1 h p hcut ?_
    rw [← hname, String.toList_ofList]

theorem ne_of_mem_of_isOther {n : String} {pieces : List (List Char)}
    (h : ∀ piece ∈ pieces, IsOther n piece) : ∀ p ∈ pieces.filterMap pairOf?, p.1 ≠ n := by
  intro p hp
  obtain ⟨piece, hpiece, hpair⟩ := List.mem_filterMap.1 hp
  exact ne_of_isOther (h piece hpiece) hpair

/-- A cookie with blanks around it. -/
def piece (left : List Char) (n v : String) (right : List Char) : List Char :=
  left ++ n.toList ++ '=' :: (v.toList ++ right)

section

variable {n v : String} {left right : List Char} (hn : IsName n) (hv : IsValue v)
  (hl : ∀ c ∈ left, isBlank c = true) (hr : ∀ c ∈ right, isBlank c = true)

include hn hv hl hr

theorem pairOf?_piece : pairOf? (piece left n v right) = some (n, v) := by
  have hequals : '=' ∉ left ++ n.toList := by
    rw [List.mem_append, not_or]
    refine ⟨fun hmem => ?_, not_mem_of_isName hn (by decide)⟩
    have hblank := hl '=' hmem
    revert hblank
    decide
  have hname : strip isBlank (left ++ n.toList) = n.toList := by
    have hstrip := strip_append hl (isBlank_of_isName hn) (List.forall_mem_nil _)
    rwa [List.append_nil] at hstrip
  have hvalue : strip isBlank (v.toList ++ right) = v.toList :=
    strip_append (List.forall_mem_nil _) (isBlank_of_isValue hv) hr
  rw [pairOf?, piece, cutAt?_append_sep hequals]
  simp only [hname, hvalue, if_neg hn.1, String.ofList_toList]

theorem semicolon_not_mem_piece : ';' ∉ piece left n v right := by
  have hblank : ∀ blanks : List Char, (∀ c ∈ blanks, isBlank c = true) → ';' ∉ blanks := by
    intro blanks h hmem
    have hsemicolon := h ';' hmem
    revert hsemicolon
    decide
  simp [piece, hblank left hl, hblank right hr, not_mem_of_isName hn (by decide : ';' ∈ separators),
    semicolon_not_mem_of_isValue hv]

end

/-- Where a cookie stands in a request: what comes before and after it in its own line, the blanks
around it, and the lines before and after that line. -/
structure Placement where
  linesBefore : List String
  before : List (List Char)
  left : List Char
  right : List Char
  after : List (List Char)
  linesAfter : List String
  whole_before : ∀ piece ∈ before, ';' ∉ piece
  blank_left : ∀ c ∈ left, isBlank c = true
  blank_right : ∀ c ∈ right, isBlank c = true

namespace Placement

variable (p : Placement) (n v : String)

/-- The line of the cookie. -/
def line : String :=
  String.ofList (List.intercalate [';'] (p.before ++ piece p.left n v p.right :: p.after))

/-- All lines of cookies. -/
def lines : List String := p.linesBefore ++ p.line n v :: p.linesAfter

/-- No readable piece before the cookie is one of its name. -/
structure IsFirst : Prop where
  linesBefore : ∀ line ∈ p.linesBefore, HeaderValue.IsReadable line →
    ∀ piece ∈ splitAt ';' line.toList, IsOther n piece
  before : ∀ piece ∈ p.before, IsOther n piece

variable {p n v}

theorem exists_splitAt_line (hn : IsName n) (hv : IsValue v) : ∃ rest,
    splitAt ';' (p.line n v).toList = p.before ++ piece p.left n v p.right :: rest := by
  have hpiece := semicolon_not_mem_piece hn hv p.blank_left p.blank_right
  rw [line, String.toList_ofList,
    splitAt_intercalate_append (List.cons_ne_nil _ _) p.whole_before]
  cases p.after with
  | nil => exact ⟨[], by rw [List.intercalate_singleton, splitAt_of_not_mem hpiece]⟩
  | cons next more =>
    rw [List.intercalate_cons_cons, List.append_assoc, List.singleton_append,
      splitAt_append_sep hpiece]
    exact ⟨_, rfl⟩

theorem lookup_pairs_line (hfirst : p.IsFirst n) (hn : IsName n) (hv : IsValue v) :
    (pairs (p.line n v)).lookup n = some v := by
  obtain ⟨rest, hsplit⟩ := exists_splitAt_line (p := p) hn hv
  have hbefore := lookup_eq_none_of_forall_ne (ne_of_mem_of_isOther hfirst.before)
  have hpair := pairOf?_piece hn hv p.blank_left p.blank_right
  rw [pairs, hsplit, List.filterMap_append, List.lookup_append, hbefore, Option.none_or,
    List.filterMap_cons_some hpair, List.lookup_cons_self]

/-- The cookies of all readable lines. -/
theorem lookup_flatMap_lines (hfirst : p.IsFirst n) (hn : IsName n) (hv : IsValue v)
    (hreadable : HeaderValue.IsReadable (p.line n v)) :
    (((p.lines n v).filterMap HeaderValue.readable?).flatMap pairs).lookup n = some v := by
  have hbefore : ∀ q ∈ (p.linesBefore.filterMap HeaderValue.readable?).flatMap pairs,
      q.1 ≠ n := by
    intro q hq
    obtain ⟨text, htext, hq⟩ := List.mem_flatMap.1 hq
    obtain ⟨_, hmem, hread⟩ := List.mem_filterMap.1 htext
    obtain ⟨hreadable, he⟩ := Option.ite_none_right_eq_some.1 hread
    cases he
    exact ne_of_mem_of_isOther (hfirst.linesBefore _ hmem hreadable) q hq
  have hline : HeaderValue.readable? (p.line n v) = some (p.line n v) := if_pos hreadable
  rw [lines, List.filterMap_append, List.filterMap_cons_some hline, List.flatMap_append,
    List.flatMap_cons, List.lookup_append, lookup_eq_none_of_forall_ne hbefore, Option.none_or,
    List.lookup_append, lookup_pairs_line hfirst hn hv, Option.some_or]

end Placement

end SignedSession.Cookie
