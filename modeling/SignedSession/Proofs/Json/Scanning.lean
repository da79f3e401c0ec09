import SignedSession.Json.Printer
import SignedSession.Json.Lexeme
import SignedSession.Proofs.Json.Numerals

/-!
Scanning compact text. A value has its lexemes beside its text, and the text of a value without
doubles is scanned into them, whatever stands behind it, unless that prolongs a bare word.
-/
namespace SignedSession.Json

namespace Literal

theorem prependText?_chars (cs rest : List Char) :
    Piece.prependText? (cs.map .char) rest = some (cs.reverse ++ rest) := by
  induction cs generalizing rest with
  | nil => rfl
  | cons c cs ih =>
    rw [List.map_cons, Piece.prependText?, ih]
    simp

/-- Characters one by one are the text they spell. -/
theorem ofPieces_chars (s : String) : ofPieces (s.toList.reverse.map .char) = .text s := by
  rw [ofPieces, prependText?_chars]
  simp

end Literal

namespace Scanner

/-- A hexadecimal digit of an escaped code unit. -/
theorem step_unit_digit (found : List Lexeme) (ps : List Piece) (value left d : Nat) (hd : d < 16) :
    (Scanner.mk found (.unit ps value left)).step (some (Nat.digitChar d)) =
      some (if left ≤ 1 then ⟨found, .string (Piece.ofUnit (16 * value + d) :: ps)⟩
        else ⟨found, .unit ps (16 * value + d) (left - 1)⟩) := by
  simp only [step, inUnit?, Text.Hex.value?_digitChar d hd, Option.map_some]

theorem run_unit_digit (found : List Lexeme) (ps : List Piece) (value left d : Nat) (hd : d < 16)
    (hleft : 1 < left) (xs : List (Option Char)) :
    (Scanner.mk found (.unit ps value left)).run (some (Nat.digitChar d) :: xs) =
      (Scanner.mk found (.unit ps (16 * value + d) (left - 1))).run xs := by
  have hmore : ¬ left ≤ 1 := Nat.not_le.2 hleft
  rw [run_cons, step_unit_digit found ps value left d hd, if_neg hmore, Option.bind_some]

/-- Four digits are read as the code unit they write. -/
theorem run_unit_digits (found : List Lexeme) (ps : List Piece) {n : Nat} (hn : n < 0x10000) :
    (Scanner.mk found (.unit ps 0 4)).run ((Text.Hex.digits 4 n).map some) =
      some ⟨found, .string (Piece.ofUnit n :: ps)⟩ := by
  have hdigit : ∀ m : Nat, m % 16 < 16 := fun m => Nat.mod_lt m (by decide)
  have hvalue : 16 * (16 * (16 * (16 * 0 + n / 16 / 16 / 16 % 16) + n / 16 / 16 % 16) +
      n / 16 % 16) + n % 16 = n := by omega
  simp only [Text.Hex.digits, List.nil_append, List.cons_append, List.map_cons, List.map_nil]
  rw [run_unit_digit _ _ _ _ _ (hdigit _) (by decide),
    run_unit_digit _ _ _ _ _ (hdigit _) (by decide),
    run_unit_digit _ _ _ _ _ (hdigit _) (by decide), run_cons,
    step_unit_digit _ _ _ _ _ (hdigit _), hvalue]
  rfl

theorem ofUnit_of_lt {n : Nat} (hn : n < 0xd800) : Piece.ofUnit n = .char (Char.ofNat n) := by
  apply if_neg
  simp only [Piece.IsHighHalf, Piece.IsLowHalf]
  omega

/-- An escaped or plain character of a string is read as that character. -/
theorem run_escapedChar (found : List Lexeme) (ps : List Piece) (c : Char) :
    (Scanner.mk found (.string ps)).run ((escapedChar c).map some) =
      some ⟨found, .string (.char c :: ps)⟩ := by
  unfold escapedChar
  split
  · next h => subst h; rfl
  split
  · next h => subst h; rfl
  split
  · next h => subst h; rfl
  split
  · next h => subst h; rfl
  split
  · next h => subst h; rfl
  split
  · next h => subst h; rfl
  split
  · next h => subst h; rfl
  split
  · next h =>
    have hlt : c.toNat < 32 := h
    have hunit := run_unit_digits found ps (n := c.toNat) (by omega)
    rw [ofUnit_of_lt (by omega), Char.ofNat_toNat] at hunit
    exact hunit
  · next hquote hback _ _ _ _ _ hspace =>
    simp only [List.map_cons, List.map_nil, run_cons, step, inString?, if_neg hquote, if_neg hback,
      if_neg hspace]
    rfl

theorem run_escapedChars (found : List Lexeme) (ps : List Piece) (cs : List Char) :
    (Scanner.mk found (.string ps)).run ((cs.flatMap escapedChar).map some) =
      some ⟨found, .string (cs.reverse.map .char ++ ps)⟩ := by
  induction cs generalizing ps with
  | nil => rfl
  | cons c cs ih =>
    rw [List.flatMap_cons, List.map_append, run_append, run_escapedChar, Option.bind_some, ih]
    simp

/-- A string with its quotes is one lexeme. -/
theorem run_stringChars (found : List Lexeme) (s : String) :
    (Scanner.mk found .between).run ((stringChars s).map some) =
      some ⟨.str (.text s) :: found, .between⟩ := by
  have hbody := run_escapedChars found [] s.toList
  rw [List.append_nil] at hbody
  have hopen : (Scanner.mk found .between).step (some '"') = some ⟨found, .string []⟩ := rfl
  rw [stringChars, List.map_append, List.map_cons, List.cons_append, run_cons, hopen,
    Option.bind_some, run_append, hbody, Option.bind_some, List.map_cons, run_cons]
  simp only [step, inString?, if_true, Option.bind_some, Literal.ofPieces_chars]
  rfl

/-- A character that ends no word prolongs one. -/
theorem run_inWord (found : List Lexeme) (read cs : List Char)
    (h : ∀ c ∈ cs, Lexeme.endsWord c = false) :
    (Scanner.mk found (.word read)).run (cs.map some) =
      some ⟨found, .word (cs.reverse ++ read)⟩ := by
  induction cs generalizing read with
  | nil => rfl
  | cons c cs ih =>
    have hc := h c List.mem_cons_self
    have hcs : ∀ d ∈ cs, Lexeme.endsWord d = false := fun d hd => h d (List.mem_cons_of_mem _ hd)
    rw [List.map_cons, run_cons]
    simp only [step, inWord?, hc, Bool.false_eq_true, if_false, Option.bind_some]
    rw [ih _ hcs]
    simp

theorem start_of_not_endsWord (found : List Lexeme) {c : Char} (h : Lexeme.endsWord c = false) :
    start found c = ⟨found, .word [c]⟩ := by
  simp only [Lexeme.endsWord, Bool.or_eq_false_iff, Option.isSome_eq_false_iff,
    Option.isNone_iff_eq_none, decide_eq_false_iff_not] at h
  simp [start, h]

theorem run_word (found : List Lexeme) {cs : List Char} (hne : cs ≠ [])
    (h : ∀ c ∈ cs, Lexeme.endsWord c = false) :
    (Scanner.mk found .between).run (cs.map some) = some ⟨found, .word cs.reverse⟩ := by
  cases cs with
  | nil => exact absurd rfl hne
  | cons c cs =>
    have hc := h c List.mem_cons_self
    have hcs : ∀ d ∈ cs, Lexeme.endsWord d = false := fun d hd => h d (List.mem_cons_of_mem _ hd)
    have hstep : (Scanner.mk found .between).step (some c) = some ⟨found, .word [c]⟩ :=
      congrArg some (start_of_not_endsWord found hc)
    rw [List.map_cons, run_cons, hstep, Option.bind_some, run_inWord found [c] cs hcs]
    simp

/-- What the lexemes found so far and the rest of a text make together. -/
def scanOnto? (found : List Lexeme) (cs : List Char) : Option (List Lexeme) :=
  ((Scanner.mk found .between).run (cs.map some)).bind finish?

/-- A text that a bare word may stand before. -/
def EndsWord (cs : List Char) : Prop := ∀ c ∈ cs.head?, Lexeme.endsWord c = true

@[simp] theorem endsWord_nil : EndsWord [] := fun _ h => nomatch h

@[simp] theorem endsWord_cons {c : Char} {cs : List Char} :
    EndsWord (c :: cs) ↔ Lexeme.endsWord c = true := by
  simp [EndsWord]

theorem scanOnto?_nil (found : List Lexeme) : scanOnto? found [] = some found.reverse := rfl

/-- A text that is read up to the end of a lexeme goes on as any other behind it. -/
theorem scanOnto?_append {found found' : List Lexeme} {cs : List Char}
    (h : (Scanner.mk found .between).run (cs.map some) = some ⟨found', .between⟩)
    (rest : List Char) : scanOnto? found (cs ++ rest) = scanOnto? found' rest := by
  rw [scanOnto?, List.map_append, run_append, h, Option.bind_some, scanOnto?]

theorem scanOnto?_mark (found : List Lexeme) {c : Char} {l : Lexeme}
    (h : (Scanner.mk found .between).step (some c) = some ⟨l :: found, .between⟩)
    (rest : List Char) : scanOnto? found (c :: rest) = scanOnto? (l :: found) rest := by
  have hrun : (Scanner.mk found .between).run ([c].map some) = some ⟨l :: found, .between⟩ := by
    rw [List.map_cons, run_cons, h]
    rfl
  exact scanOnto?_append hrun rest

theorem scanOnto?_string (found : List Lexeme) (s : String) (rest : List Char) :
    scanOnto? found (stringChars s ++ rest) = scanOnto? (.str (.text s) :: found) rest :=
  scanOnto?_append (run_stringChars found s) rest

theorem not_endsWord_of_all {cs : List Char} (h : (cs.all fun c => !Lexeme.endsWord c) = true) :
    ∀ c ∈ cs, Lexeme.endsWord c = false := by
  simpa using h

/-- A bare word is read where it ends, so what stands behind it is read as if the word were
complete. -/
theorem scanOnto?_word (found : List Lexeme) {cs : List Char} {l : Lexeme} (hne : cs ≠ [])
    (hcs : ∀ c ∈ cs, Lexeme.endsWord c = false) (hl : Lexeme.ofWord? cs = some l)
    {rest : List Char} (hrest : EndsWord rest) :
    scanOnto? found (cs ++ rest) = scanOnto? (l :: found) rest := by
  rw [scanOnto?, List.map_append, run_append, run_word found hne hcs, Option.bind_some]
  cases rest with
  | nil =>
    simp only [List.map_nil, run_nil, Option.bind_some, finish?, List.reverse_reverse, hl,
      Option.map_some]
    rfl
  | cons c rest =>
    have hc : Lexeme.endsWord c = true := endsWord_cons.1 hrest
    rw [scanOnto?, List.map_cons, run_cons, run_cons]
    simp only [step, inWord?, hc, if_true, List.reverse_reverse, hl, Option.map_some,
      Option.bind_some]

end Scanner

/-- The numeral that a number is written as. -/
def Number.numeral : Number → Numeral
  | .int n => .ofInt n.val
  | .float x => (Numeral.ofChars? (floatChars x)).getD (.ofInt 0)

namespace Value

mutual

/-- No number in the value is a double. -/
def IsFloatFree : Value → Prop
  | num (.float _) => False
  | arr items => AreFloatFree items
  | obj ms => AreMembersFloatFree ms
  | _ => True

def AreFloatFree : List Value → Prop
  | [] => True
  | v :: vs => v.IsFloatFree ∧ AreFloatFree vs

def AreMembersFloatFree : List (String × Value) → Prop
  | [] => True
  | (_, v) :: ms => v.IsFloatFree ∧ AreMembersFloatFree ms

end

mutual

/-- The lexemes of a value's text. -/
def lexemes : Value → List Lexeme
  | null => [.null]
  | bool b => [.bool b]
  | num n => [.num n.numeral]
  | str s => [.str (.text s)]
  | arr [] => [.openArr, .closeArr]
  | arr (v :: vs) => .openArr :: lexemes v ++ itemsLexemes vs ++ [.closeArr]
  | obj [] => [.openObj, .closeObj]
  | obj ((k, v) :: ms) => .openObj :: .str (.text k) :: .colon :: lexemes v ++
      membersLexemes ms ++ [.closeObj]

/-- The items after the first, each behind a comma. -/
def itemsLexemes : List Value → List Lexeme
  | [] => []
  | v :: vs => .comma :: lexemes v ++ itemsLexemes vs

/-- The members after the first, each behind a comma. -/
def membersLexemes : List (String × Value) → List Lexeme
  | [] => []
  | (k, v) :: ms => .comma :: .str (.text k) :: .colon :: lexemes v ++ membersLexemes ms

end

theorem areMembersFloatFree_iff {ms : List (String × Value)} :
    AreMembersFloatFree ms ↔ ∀ m ∈ ms, m.2.IsFloatFree := by
  induction ms with
  | nil => simp [AreMembersFloatFree]
  | cons m ms ih => cases m; simp [AreMembersFloatFree, ih]

end Value

theorem endsWord_of_isDigit {c : Char} (h : c.isDigit = true) : Lexeme.endsWord c = false := by
  have hne : ∀ d : Char, d.isDigit = false → c ≠ d := by
    intro d hd he
    rw [← he, h] at hd
    cases hd
  simp [Lexeme.endsWord, Lexeme.isSpace, Lexeme.punctuation?, hne ' ' rfl, hne '\n' rfl,
    hne '\t' rfl, hne '\r' rfl, hne '\x7b' rfl, hne '\x7d' rfl, hne '[' rfl, hne ']' rfl,
    hne ':' rfl, hne ',' rfl, hne '"' rfl]

theorem intChars_ne_nil (n : Int) : intChars n ≠ [] := by
  simp [intChars, Nat.toDigits_ne_nil]

/-- A sign and digits. -/
theorem mem_intChars {n : Int} {c : Char} (h : c ∈ intChars n) : c = '-' ∨ c.isDigit = true := by
  rcases List.mem_append.1 h with h | h
  · left
    split at h
    · exact List.mem_singleton.1 h
    · cases h
  · exact Or.inr (Numeral.all_isDigit_toDigits _ c h)

theorem endsWord_of_mem_intChars {n : Int} {c : Char} (h : c ∈ intChars n) :
    Lexeme.endsWord c = false := by
  rcases mem_intChars h with rfl | h
  · rfl
  · exact endsWord_of_isDigit h

theorem ofWord?_intChars (n : Int) :
    Lexeme.ofWord? (intChars n) = some (.num (.ofInt n)) := by
  have hne : ∀ c cs, ¬ (c = '-' ∨ c.isDigit = true) → intChars n ≠ c :: cs := by
    intro c cs hc he
    exact hc (mem_intChars (by rw [he]; exact List.mem_cons_self))
  rw [Lexeme.ofWord?, if_neg (hne 'n' _ (by decide)), if_neg (hne 't' _ (by decide)),
    if_neg (hne 'f' _ (by decide)), Numeral.ofChars?_intChars]
  rfl

namespace Scanner

open Value

/-- The commas and brackets behind a value end a word. -/
theorem endsWord_itemsChars (vs : List Value) (rest : List Char) :
    EndsWord (itemsChars vs ++ ']' :: rest) := by
  cases vs <;> simp [itemsChars] <;> rfl

theorem endsWord_membersChars (ms : List (String × Value)) (rest : List Char) :
    EndsWord (membersChars ms ++ '\x7d' :: rest) := by
  cases ms <;> simp [membersChars] <;> rfl

mutual

/-- The text of a value is scanned into its lexemes. -/
theorem scanOnto?_chars : (v : Value) → v.IsFloatFree → (found : List Lexeme) →
    {rest : List Char} → EndsWord rest →
    scanOnto? found (v.chars ++ rest) = scanOnto? (v.lexemes.reverse ++ found) rest
  | .null, _, found, rest, hrest =>
    scanOnto?_word found (by decide) (not_endsWord_of_all rfl) rfl hrest
  | .bool true, _, found, rest, hrest =>
    scanOnto?_word found (by decide) (not_endsWord_of_all rfl) rfl hrest
  | .bool false, _, found, rest, hrest =>
    scanOnto?_word found (by decide) (not_endsWord_of_all rfl) rfl hrest
  | .num (.int n), _, found, rest, hrest =>
    scanOnto?_word found (intChars_ne_nil n.val) (fun _ hc => endsWord_of_mem_intChars hc)
      (ofWord?_intChars n.val) hrest
  | .num (.float _), h, _, _, _ => h.elim
  | .str s, _, found, rest, _ => scanOnto?_string found s rest
  | .arr [], _, found, rest, _ => by
    simp only [chars, List.cons_append, List.nil_append]
    rw [scanOnto?_mark found rfl, scanOnto?_mark _ rfl]
    rfl
  | .arr (v :: vs), h, found, rest, _ => by
    simp only [chars, List.cons_append, List.append_assoc, List.nil_append]
    rw [scanOnto?_mark found rfl, scanOnto?_chars v h.1 _ (endsWord_itemsChars vs rest),
      scanOnto?_itemsChars vs h.2, scanOnto?_mark _ rfl]
    simp [lexemes]
  | .obj [], _, found, rest, _ => by
    simp only [chars, List.cons_append, List.nil_append]
    rw [scanOnto?_mark found rfl, scanOnto?_mark _ rfl]
    rfl
  | .obj ((k, v) :: ms), h, found, rest, _ => by
    simp only [chars, List.cons_append, List.append_assoc, List.nil_append]
    rw [scanOnto?_mark found rfl, scanOnto?_string, scanOnto?_mark _ rfl,
      scanOnto?_chars v h.1 _ (endsWord_membersChars ms rest), scanOnto?_membersChars ms h.2,
      scanOnto?_mark _ rfl]
    simp [lexemes]

theorem scanOnto?_itemsChars : (vs : List Value) → AreFloatFree vs → (found : List Lexeme) →
    {rest : List Char} → scanOnto? found (itemsChars vs ++ ']' :: rest) =
      scanOnto? ((itemsLexemes vs).reverse ++ found) (']' :: rest)
  | [], _, _, _ => rfl
  | v :: vs, h, found, rest => by
    simp only [itemsChars, List.cons_append, List.append_assoc]
    rw [scanOnto?_mark found rfl, scanOnto?_chars v h.1 _ (endsWord_itemsChars vs rest),
      scanOnto?_itemsChars vs h.2]
    simp [itemsLexemes]

theorem scanOnto?_membersChars : (ms : List (String × Value)) → AreMembersFloatFree ms →
    (found : List Lexeme) → {rest : List Char} →
    scanOnto? found (membersChars ms ++ '\x7d' :: rest) =
      scanOnto? ((membersLexemes ms).reverse ++ found) ('\x7d' :: rest)
  | [], _, _, _ => rfl
  | (k, v) :: ms, h, found, rest => by
    simp only [membersChars, List.cons_append, List.append_assoc]
    rw [scanOnto?_mark found rfl, scanOnto?_string, scanOnto?_mark _ rfl,
      scanOnto?_chars v h.1 _ (endsWord_membersChars ms rest), scanOnto?_membersChars ms h.2]
    simp [membersLexemes]

end

end Scanner

/-- The text of a value without doubles is made of its lexemes. -/
theorem Lexeme.scan?_chars {v : Value} (h : v.IsFloatFree) :
    Lexeme.scan? (v.chars.map some) = some v.lexemes := by
  have hscan := Scanner.scanOnto?_chars v h [] Scanner.endsWord_nil
  rw [List.append_nil, List.append_nil, Scanner.scanOnto?_nil, List.reverse_reverse] at hscan
  exact hscan

end SignedSession.Json
