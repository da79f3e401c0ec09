import SignedSession.Proofs.Json.Building

/-!
Texts inside texts. Between brackets, commas and colons a text is scanned and built as it is alone,
whatever was found before it and whatever containers are open around it. Main statement: a text
made of the texts of members is an object of these members.
-/
namespace SignedSession.Json

namespace Scanner

/-- The same state behind lexemes that were found earlier. -/
def behind (earlier : List Lexeme) (s : Scanner) : Scanner := ⟨s.found ++ earlier, s.position⟩

theorem start_behind (earlier found : List Lexeme) (c : Char) :
    start (found ++ earlier) c = (start found c).behind earlier := by
  unfold start
  split
  · rfl
  split
  · rfl
  split <;> rfl

/-- No step looks at what was found before. -/
theorem step_behind (earlier : List Lexeme) (s : Scanner) (x : Option Char) :
    (s.behind earlier).step x = (s.step x).map (behind earlier) := by
  obtain ⟨found, position⟩ := s
  cases x with
  | none => cases position <;> rfl
  | some c =>
    cases position with
    | between => exact congrArg some (start_behind earlier found c)
    | word cs =>
      simp only [step, behind, inWord?]
      split
      · cases Lexeme.ofWord? cs.reverse with
        | none => rfl
        | some l => exact congrArg some (start_behind earlier (l :: found) c)
      · rfl
    | string ps =>
      simp only [step, behind, inString?]
      split
      · rfl
      split
      · rfl
      split <;> rfl
    | escape ps =>
      simp only [step, behind, inEscape?]
      split
      · rfl
      · cases Lexeme.unescape? c <;> rfl
    | unit ps value left =>
      simp only [step, behind, inUnit?]
      cases Text.Hex.value? c with
      | none => rfl
      | some d =>
        simp only [Option.map_some]
        split <;> rfl

theorem run_behind (earlier : List Lexeme) (s : Scanner) (xs : List (Option Char)) :
    (s.behind earlier).run xs = (s.run xs).map (behind earlier) := by
  induction xs generalizing s with
  | nil => rfl
  | cons x xs ih =>
    rw [run_cons, run_cons, step_behind]
    cases s.step x with
    | none => rfl
    | some s' => exact ih s'

/-- A text that has lexemes of its own has them in front of any other that may follow a word. -/
theorem scanOnto?_of_scan? {cs : List Char} {ls : List Lexeme}
    (h : Lexeme.scan? (cs.map some) = some ls) (found : List Lexeme) {rest : List Char}
    (hrest : EndsWord rest) :
    scanOnto? found (cs ++ rest) = scanOnto? (ls.reverse ++ found) rest := by
  obtain ⟨⟨own, position⟩, hrun, hfinish⟩ := Option.bind_eq_some_iff.1 h
  have hbehind : (Scanner.mk found .between).run (cs.map some) = some ⟨own ++ found, position⟩ := by
    have hframe := run_behind found (Scanner.mk [] .between) (cs.map some)
    rwa [hrun] at hframe
  cases position with
  | between =>
    obtain rfl : own.reverse = ls := Option.some.inj hfinish
    rw [List.reverse_reverse]
    exact scanOnto?_append hbehind rest
  | word read =>
    obtain ⟨l, hl, rfl⟩ := Option.map_eq_some_iff.1 hfinish
    rw [List.reverse_reverse, scanOnto?, List.map_append, run_append, hbehind, Option.bind_some]
    -- the word is complete where the text ends, or where a character that ends words stands
    cases rest with
    | nil =>
      simp only [List.map_nil, run_nil, Option.bind_some, finish?, hl, Option.map_some]
      rfl
    | cons c rest =>
      have hc : Lexeme.endsWord c = true := endsWord_cons.1 hrest
      rw [scanOnto?, List.map_cons, run_cons, run_cons]
      simp only [step, inWord?, hc, if_true, hl, Option.map_some, Option.bind_some]
      rfl
  | string ps => cases hfinish
  | escape ps => cases hfinish
  | unit ps value left => cases hfinish

end Scanner

namespace Builder

/-- The same state with more containers around all of it. -/
def within (outer : List Frame) : Builder → Builder
  | value inner => value (inner ++ outer)
  | firstItem inner => firstItem (inner ++ outer)
  | firstName inner => firstName (inner ++ outer)
  | name before inner => name before (inner ++ outer)
  | colon before s inner => colon before s (inner ++ outer)
  | afterItem before inner => afterItem before (inner ++ outer)
  | afterMember before inner => afterMember before (inner ++ outer)
  | done t => place t outer

theorem place_within (t : Tree) (inner outer : List Frame) :
    (place t inner).within outer = place t (inner ++ outer) := by
  cases inner with
  | nil => rfl
  | cons f inner => cases f <;> rfl

theorem start?_within {inner : List Frame} {l : Lexeme} {b : Builder} (h : start? inner l = some b)
    (outer : List Frame) : start? (inner ++ outer) l = some (b.within outer) := by
  cases l with
  | openObj =>
    cases h
    rfl
  | openArr =>
    cases h
    rfl
  | null =>
    cases h
    exact congrArg some (place_within _ inner outer).symm
  | bool _ =>
    cases h
    exact congrArg some (place_within _ inner outer).symm
  | num _ =>
    cases h
    exact congrArg some (place_within _ inner outer).symm
  | str _ =>
    cases h
    exact congrArg some (place_within _ inner outer).symm
  | closeObj => cases h
  | closeArr => cases h
  | colon => cases h
  | comma => cases h

/-- No step looks at the containers around. -/
theorem step_within {b b' : Builder} {l : Lexeme} (h : b.step l = some b') (outer : List Frame) :
    (b.within outer).step l = some (b'.within outer) := by
  cases b with
  | value inner => exact start?_within h outer
  | firstItem inner =>
    change (if l = .closeArr then _ else _) = _ at h
    change (if l = .closeArr then _ else _) = _
    by_cases hl : l = .closeArr
    · rw [if_pos hl] at h ⊢
      cases h
      exact congrArg some (place_within _ inner outer).symm
    · rw [if_neg hl] at h ⊢
      exact start?_within h outer
  | done t => cases l <;> cases h
  | firstName inner =>
    cases l with
    | closeObj =>
      cases h
      exact congrArg some (place_within _ inner outer).symm
    | str l =>
      cases h
      rfl
    | _ => cases h
  | name before inner =>
    cases l with
    | str l =>
      cases h
      rfl
    | _ => cases h
  | colon before s inner =>
    cases l with
    | colon =>
      cases h
      rfl
    | _ => cases h
  | afterItem before inner =>
    cases l with
    | comma =>
      cases h
      rfl
    | closeArr =>
      cases h
      exact congrArg some (place_within _ inner outer).symm
    | _ => cases h
  | afterMember before inner =>
    cases l with
    | comma =>
      cases h
      rfl
    | closeObj =>
      cases h
      exact congrArg some (place_within _ inner outer).symm
    | _ => cases h

theorem run_within {b b' : Builder} {ls : List Lexeme} (h : b.run ls = some b')
    (outer : List Frame) : (b.within outer).run ls = some (b'.within outer) := by
  induction ls generalizing b with
  | nil =>
    cases h
    rfl
  | cons l ls ih =>
    rw [run_cons] at h
    obtain ⟨b₁, hstep, hrun⟩ := Option.bind_eq_some_iff.1 h
    rw [run_cons, step_within hstep outer, Option.bind_some, ih hrun]

/-- The lexemes of a tree put it into any hole. -/
theorem run_of_ofLexemes? {ls : List Lexeme} {t : Tree} (h : Tree.ofLexemes? ls = some t)
    (outer : List Frame) (rest : List Lexeme) :
    (value outer).run (ls ++ rest) = (place t outer).run rest := by
  obtain ⟨b, hrun, htree⟩ := Option.bind_eq_some_iff.1 h
  cases b with
  | done t' =>
    cases htree
    have hwithin : (value outer).run ls = some (place t outer) := run_within hrun outer
    rw [run_append, hwithin, Option.bind_some]
  | _ => cases htree

end Builder

/-- A member as it is written: the text of its name, one string with blanks around it, and the
text of its value. Escapes may spell the name, and the value is any JSON. -/
structure MemberText where
  key : List Char
  name : String
  value : List Char
  tree : Tree
  key_says : Lexeme.scan? (key.map some) = some [.str (.text name)]
  value_says : Tree.ofChars? value = some tree

namespace MemberText

def chars (m : MemberText) : List Char := m.key ++ ':' :: m.value

def member (m : MemberText) : Member := (some m.name, m.tree)

/-- The members after the first, each behind a comma. -/
def restChars (ms : List MemberText) : List Char := ms.flatMap fun m => ',' :: m.chars

/-- Members between braces, with commas between them. -/
def objectChars : List MemberText → List Char
  | [] => ['\x7b', '\x7d']
  | m :: ms => '\x7b' :: m.chars ++ restChars ms ++ ['\x7d']

def objectText (ms : List MemberText) : String := String.ofList (objectChars ms)

def lexemes (m : MemberText) : List Lexeme :=
  .str (.text m.name) :: .colon :: (Lexeme.scan? (m.value.map some)).getD []

def restLexemes (ms : List MemberText) : List Lexeme := ms.flatMap fun m => .comma :: m.lexemes

theorem exists_lexemes (m : MemberText) : ∃ ls, Lexeme.scan? (m.value.map some) = some ls ∧
    Tree.ofLexemes? ls = some m.tree ∧ m.lexemes = .str (.text m.name) :: .colon :: ls := by
  obtain ⟨ls, hscan, htree⟩ := Option.bind_eq_some_iff.1 m.value_says
  exact ⟨ls, hscan, htree, by rw [lexemes, hscan, Option.getD_some]⟩

section Scanning

open Scanner

theorem scanOnto?_chars (m : MemberText) (found : List Lexeme) {rest : List Char}
    (hrest : EndsWord rest) :
    scanOnto? found (m.chars ++ rest) = scanOnto? (m.lexemes.reverse ++ found) rest := by
  obtain ⟨ls, hscan, -, hlexemes⟩ := m.exists_lexemes
  have hcolon : EndsWord (':' :: (m.value ++ rest)) := endsWord_cons.2 rfl
  rw [chars, List.append_assoc, List.cons_append, scanOnto?_of_scan? m.key_says found hcolon,
    scanOnto?_mark _ rfl, scanOnto?_of_scan? hscan _ hrest, hlexemes]
  simp

theorem endsWord_restChars (ms : List MemberText) (rest : List Char) :
    EndsWord (restChars ms ++ '\x7d' :: rest) := by
  cases ms <;> exact endsWord_cons.2 rfl

theorem scanOnto?_restChars (ms : List MemberText) (found : List Lexeme) (rest : List Char) :
    scanOnto? found (restChars ms ++ '\x7d' :: rest) =
      scanOnto? ((restLexemes ms).reverse ++ found) ('\x7d' :: rest) := by
  induction ms generalizing found with
  | nil => rfl
  | cons m ms ih =>
    have hm : restChars (m :: ms) ++ '\x7d' :: rest =
        ',' :: (m.chars ++ (restChars ms ++ '\x7d' :: rest)) := by
      simp [restChars]
    rw [hm, scanOnto?_mark found rfl, scanOnto?_chars m _ (endsWord_restChars ms rest), ih]
    simp [restLexemes]

end Scanning

section Building

open Builder

theorem run_colon (m : MemberText) (before : List Member) (outer : List Frame)
    (ls : List Lexeme) : (colon before (some m.name) outer).run (m.lexemes.tail ++ ls) =
      (afterMember (m.member :: before) outer).run ls := by
  obtain ⟨vs, -, htree, hlexemes⟩ := m.exists_lexemes
  rw [hlexemes, List.tail_cons, List.cons_append,
    run_step (b := .value (.member before (some m.name) :: outer)) rfl,
    run_of_ofLexemes? htree]
  rfl

theorem run_firstName (m : MemberText) (outer : List Frame) (ls : List Lexeme) :
    (firstName outer).run (m.lexemes ++ ls) = (afterMember [m.member] outer).run ls := by
  have hrun := run_colon m [] outer ls
  exact (run_step rfl _).trans hrun

theorem run_restLexemes (ms : List MemberText) (before : List Member) (outer : List Frame)
    (ls : List Lexeme) : (afterMember before outer).run (restLexemes ms ++ ls) =
      (afterMember ((ms.map member).reverse ++ before) outer).run ls := by
  induction ms generalizing before with
  | nil => rfl
  | cons m ms ih =>
    have hm : restLexemes (m :: ms) ++ ls =
        .comma :: .str (.text m.name) :: (m.lexemes.tail ++ (restLexemes ms ++ ls)) := by
      simp [restLexemes, lexemes]
    rw [hm, run_step (b := .name before outer) rfl,
      run_step (b := .colon before (some m.name) outer) rfl, run_colon, ih]
    simp

end Building

/-- The object of the members that are written. -/
theorem ofChars?_objectChars (ms : List MemberText) :
    Tree.ofChars? (objectChars ms) = some (.obj (ms.map member)) := by
  cases ms with
  | nil => rfl
  | cons m ms =>
    have hscan : Lexeme.scan? ((objectChars (m :: ms)).map some) =
        some (.openObj :: (m.lexemes ++ (restLexemes ms ++ [.closeObj]))) := by
      change Scanner.scanOnto? [] _ = _
      rw [objectChars, List.cons_append, List.cons_append, List.append_assoc,
        Scanner.scanOnto?_mark [] rfl, scanOnto?_chars m _ (endsWord_restChars ms []),
        scanOnto?_restChars, Scanner.scanOnto?_mark _ rfl, Scanner.scanOnto?_nil]
      simp
    have hbuild : (Builder.value []).run
        (.openObj :: (m.lexemes ++ (restLexemes ms ++ [.closeObj]))) =
          some (.done (.obj (m.member :: ms.map member))) := by
      rw [Builder.run_step (b := .firstName []) rfl, run_firstName, run_restLexemes,
        Builder.run_step rfl, Builder.run_nil]
      simp [Builder.place]
    rw [Tree.ofChars?, Tree.ofSymbols?, hscan, Option.bind_some, Tree.ofLexemes?, hbuild]
    rfl

/-- The member with an object for its value. -/
def holding (m : MemberText) (inner : List MemberText) : MemberText :=
  { m with
    value := objectChars inner
    tree := .obj (inner.map member)
    value_says := ofChars?_objectChars inner }

end MemberText

end SignedSession.Json
