import Mathlib.Data.List.DropRight
import SignedSession.Proofs.Http.SetCookie

/-!
Lines that set cookies, as they are taken apart by those who receive them: into pieces between
semicolons, without the blanks around a piece. The first piece is the name and the value; an
attribute is a piece of its own unless a semicolon in it makes several, or a blank at its end is
lost.
-/
namespace SignedSession

open Text

/-- The characters that a receiver drops around a piece: spaces, and perhaps other blanks. -/
structure Text.IsSpacing (p : Char → Bool) : Prop where
  space : p ' ' = true
  isBlank : ∀ c, p c = true → isBlank c = true

theorem Text.isSpacing_space : IsSpacing (· == ' ') where
  space := rfl
  isBlank c h := by
    rw [eq_of_beq h]
    rfl

theorem Text.isSpacing_isBlank : IsSpacing isBlank := ⟨rfl, fun _ h => h⟩

theorem Text.IsSpacing.eq_false {p : Char → Bool} (hp : IsSpacing p) {c : Char}
    (hc : Text.isBlank c = false) : p c = false := by
  cases h : p c with
  | false => rfl
  | true => exact absurd (hp.isBlank c h) (by simp [hc])

/-- Trimming leaves a text as it is exactly if nothing at its ends is to be trimmed. -/
theorem Text.strip_eq_self_iff {p : Char → Bool} {cs : List Char} :
    strip p cs = cs ↔ (∀ c ∈ cs.head?, p c = false) ∧ ∀ c ∈ cs.getLast?, p c = false := by
  have hstrip : strip p cs = (cs.dropWhile p).rdropWhile p := rfl
  have hhead : cs.dropWhile p = cs ↔ ∀ c ∈ cs.head?, p c = false := by
    cases cs <;> simp [List.dropWhile_eq_self_iff]
  have hlast : cs.rdropWhile p = cs ↔ ∀ c ∈ cs.getLast?, p c = false := by
    rcases List.eq_nil_or_concat cs with rfl | ⟨before, last, rfl⟩ <;>
      simp [List.rdropWhile_eq_self_iff]
  rw [← hhead, ← hlast, hstrip]
  constructor
  · intro h
    -- a text that is shorter after the first of two trims does not grow back in the second
    have hdrop : cs.dropWhile p = cs := by
      refine (List.dropWhile_suffix p).eq_of_length_le ?_
      calc cs.length = ((cs.dropWhile p).rdropWhile p).length := by rw [h]
        _ ≤ (cs.dropWhile p).length := (List.rdropWhile_prefix p _).length_le
    rw [hdrop] at h
    exact ⟨hdrop, h⟩
  · rintro ⟨hdrop, h⟩
    rw [hdrop, h]

namespace SetCookie

variable {p : Char → Bool}

/-- The pieces of a line. -/
def pieces (p : Char → Bool) (line : String) : List String :=
  (splitAt ';' line.toList).map fun piece => String.ofList (strip p piece)

/-- A text that is taken for one piece as it is. -/
def IsPiece (p : Char → Bool) (a : String) : Prop := ';' ∉ a.toList ∧ strip p a.toList = a.toList

theorem pieces_eq_singleton_iff {a : String} : pieces p a = [a] ↔ IsPiece p a := by
  unfold pieces IsPiece
  constructor
  · intro h
    obtain ⟨part, hpart, htext⟩ := List.map_eq_singleton_iff.1 h
    obtain ⟨rfl, hmem⟩ := splitAt_eq_singleton_iff.1 hpart
    have hchars := congrArg String.toList htext
    rw [String.toList_ofList] at hchars
    exact ⟨hmem, hchars⟩
  · rintro ⟨hmem, hstrip⟩
    rw [splitAt_of_not_mem hmem, List.map_singleton, hstrip, String.ofList_toList]

theorem flatMap_pieces_of_isPiece {as : List String} (h : ∀ a ∈ as, IsPiece p a) :
    as.flatMap (pieces p) = as := by
  induction as with
  | nil => rfl
  | cons a as ih =>
    rw [List.forall_mem_cons] at h
    rw [List.flatMap_cons, pieces_eq_singleton_iff.2 h.1, ih h.2, List.singleton_append]

/-- A text that begins and ends with no blank is a piece if it holds no semicolon. -/
theorem isPiece_of_ends (hp : IsSpacing p) {a : String} (h : ';' ∉ a.toList)
    (hhead : ∀ c ∈ a.toList.head?, isBlank c = false)
    (hlast : ∀ c ∈ a.toList.getLast?, isBlank c = false) : IsPiece p a :=
  ⟨h, strip_eq_self_iff.2
    ⟨fun c hc => hp.eq_false (hhead c hc), fun c hc => hp.eq_false (hlast c hc)⟩⟩

theorem isPiece_of_isValue (hp : IsSpacing p) {a : String} (h : Cookie.IsValue a) : IsPiece p a :=
  ⟨Cookie.semicolon_not_mem_of_isValue h,
    strip_of_all fun c hc => hp.eq_false (Cookie.isBlank_of_isValue h c hc)⟩

/-- The first piece of a line. -/
theorem isPiece_pair (hp : IsSpacing p) {n v : String} (hn : Cookie.IsName n)
    (hv : Cookie.IsValue v) : IsPiece p (n ++ "=" ++ v) := by
  have htext : (n ++ "=" ++ v).toList = n.toList ++ '=' :: v.toList := by simp
  refine ⟨htext ▸ Cookie.semicolon_not_mem_pair hn hv, strip_of_all fun c hc => hp.eq_false ?_⟩
  rw [htext, List.mem_append, List.mem_cons] at hc
  rcases hc with hc | rfl | hc
  · exact Cookie.isBlank_of_isName hn c hc
  · rfl
  · exact Cookie.isBlank_of_isValue hv c hc

/-- No attribute goes on in the next one. -/
theorem splitAt_flatMap (start : List Char) (as : List String) :
    splitAt ';' (start ++ as.flatMap fun a => ';' :: ' ' :: a.toList) =
      splitAt ';' start ++ as.flatMap fun a => splitAt ';' (' ' :: a.toList) := by
  induction as generalizing start with
  | nil => simp
  | cons a as ih =>
    rw [List.flatMap_cons, List.flatMap_cons, List.cons_append, splitAt_append_cons, ih]

/-- The space before an attribute is no part of it. -/
theorem pieces_of_space (hp : IsSpacing p) (a : String) :
    (splitAt ';' (' ' :: a.toList)).map (fun piece => String.ofList (strip p piece)) =
      pieces p a := by
  have hspace : ∀ part, strip p (' ' :: part) = strip p part := by
    intro part
    rw [strip, List.dropWhile_cons_of_pos hp.space, strip]
  obtain ⟨part, parts, hparts⟩ := List.exists_cons_of_ne_nil (splitAt_ne_nil ';' a.toList)
  rw [pieces, splitAt, if_neg (by decide), hparts]
  simp [hspace]

/-- A name and a value are the first piece; the others come from the attributes. -/
theorem pieces_render (hp : IsSpacing p) {c : SetCookie} (hn : Cookie.IsName c.name)
    (hv : Cookie.IsValue c.value) :
    pieces p c.render = (c.name ++ "=" ++ c.value) :: c.attributes.flatMap (pieces p) := by
  have hpair := pieces_eq_singleton_iff.2 (isPiece_pair hp hn hv)
  have htext : (c.name ++ "=" ++ c.value).toList = c.name.toList ++ '=' :: c.value.toList := by simp
  rw [pieces, htext] at hpair
  rw [pieces, toList_render, splitAt_flatMap, List.map_append, hpair, List.map_flatMap]
  simp only [pieces_of_space hp, List.singleton_append]

/-- The name of an attribute: what stands before its first equals sign, if it has one. -/
def attributeName (a : String) : String :=
  ((cutAt? '=' a.toList).map fun parts => String.ofList parts.1).getD a

/-- An attribute that says where a cookie belongs, not who may see it or how long it is kept. -/
def IsScope (a : String) : Prop := attributeName a ∉ ["HttpOnly", "Max-Age", "Expires"]

instance (a : String) : Decidable (IsScope a) := inferInstanceAs (Decidable (¬ _))

/-- All that a line says of where its cookie belongs. -/
def scopeOf (p : Char → Bool) (line : String) : List String :=
  (pieces p line).tail.filter IsScope

theorem not_isScope_maxAge (n : String) : ¬ IsScope ("Max-Age=" ++ n) := by
  have hcut : cutAt? '=' ("Max-Age=" ++ n).toList = some ("Max-Age".toList, n.toList) := by
    rw [String.toList_append]
    have hname : '=' ∉ "Max-Age".toList := by decide
    exact cutAt?_append_sep hname n.toList
  rw [IsScope, attributeName, hcut, Option.map_some, Option.getD_some, String.ofList_toList]
  decide

theorem scopeOf_render (hp : IsSpacing p) {c : SetCookie} (hn : Cookie.IsName c.name)
    (hv : Cookie.IsValue c.value) :
    scopeOf p c.render = (c.attributes.flatMap (pieces p)).filter IsScope := by
  rw [scopeOf, pieces_render hp hn hv, List.tail_cons]

/-- A domain that is one attribute: no semicolon cuts it, and no blank at its end is lost. -/
def IsOneAttribute (p : Char → Bool) (domain : String) : Prop :=
  ';' ∉ domain.toList ∧ ∀ c ∈ domain.toList.getLast?, p c = false

/-- The dot that a domain may lose neither cuts it nor is a blank at its end. -/
theorem isOneAttribute_domainText (hp : IsSpacing p) (domain : String) :
    IsOneAttribute p (domainText domain) ↔ IsOneAttribute p domain := by
  unfold domainText
  split
  · rename_i cs hcs
    unfold IsOneAttribute
    rw [hcs, String.toList_ofList]
    cases cs with
    | nil => simp [hp.eq_false (by decide : isBlank '.' = false)]
    | cons c cs => simp
  · rfl

/-- A domain is taken for one attribute exactly if it is one. -/
theorem isPiece_domain_iff (hp : IsSpacing p) {domain : String} :
    IsPiece p ("Domain=" ++ domainText domain) ↔ IsOneAttribute p domain := by
  rw [← isOneAttribute_domainText hp, IsPiece, IsOneAttribute, strip_eq_self_iff]
  -- the ends of the attribute are its own first letter, and the last one of the domain
  have hletter : p 'D' = false := hp.eq_false (by decide)
  have hequals : p '=' = false := hp.eq_false (by decide)
  cases h : (domainText domain).toList.getLast? with
  | none => simp [List.getLast?_cons, h, hletter, hequals]
  | some c => simp [List.getLast?_cons, h, hletter]

end SetCookie

end SignedSession
