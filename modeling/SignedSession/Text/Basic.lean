/-!
Characters and texts. Letter case in ASCII, to which two texts are compared; letters outside ASCII
have no case here, so `É` and `é` differ. Blanks, which are the characters with the Unicode property
White_Space, and trimming a text of them. Hexadecimal digits, one by one in either letter case and
for a number in a fixed number of lower-case digits.
-/
namespace SignedSession.Text

def lower (s : String) : String := String.ofList (s.toList.map Char.toLower)

def upper (s : String) : String := String.ofList (s.toList.map Char.toUpper)

/-- Two texts agree when they fold to the same lower-case text. -/
def SameUpToCase (s t : String) : Prop := lower s = lower t

instance (s t : String) : Decidable (SameUpToCase s t) := inferInstanceAs (Decidable (_ = _))

@[simp] theorem toList_lower (s : String) : (lower s).toList = s.toList.map Char.toLower := by
  simp [lower]

@[simp] theorem toList_upper (s : String) : (upper s).toList = s.toList.map Char.toUpper := by
  simp [upper]

@[simp] theorem lower_eq_empty_iff {s : String} : lower s = "" ↔ s = "" := by
  simp [lower]

/-- A property of the ASCII characters is checked one by one. -/
theorem of_ascii {p : Char → Prop} (h : ∀ n < 0x80, p (Char.ofNat n)) {c : Char}
    (hc : c.toNat < 0x80) : p c := by
  have hchar := h c.toNat hc
  rwa [Char.ofNat_toNat] at hchar

theorem toLower_of_le {c : Char} (h : 0x80 ≤ c.toNat) : c.toLower = c :=
  dif_neg fun hc => absurd (Nat.le_trans h (UInt32.le_iff_toNat_le.1 hc.2)) (by decide)

theorem toUpper_of_le {c : Char} (h : 0x80 ≤ c.toNat) : c.toUpper = c :=
  dif_neg fun hc => absurd (Nat.le_trans h (UInt32.le_iff_toNat_le.1 hc.2)) (by decide)

/-- A fold that leaves alone what is beyond ASCII is judged by the ASCII characters. -/
theorem apply_eq_of_ascii {α : Type} {fold : Char → Char} {f : Char → α}
    (hascii : ∀ n < 0x80, f (fold (Char.ofNat n)) = f (Char.ofNat n))
    (hbeyond : ∀ {c : Char}, 0x80 ≤ c.toNat → fold c = c) (c : Char) : f (fold c) = f c := by
  by_cases hc : c.toNat < 0x80
  · exact of_ascii (p := fun c => f (fold c) = f c) hascii hc
  · rw [hbeyond (Nat.le_of_not_lt hc)]

@[simp] theorem lower_lower (s : String) : lower (lower s) = lower s := by
  have hchar : ∀ c : Char, c.toLower.toLower = c.toLower :=
    apply_eq_of_ascii (by decide) toLower_of_le
  simp only [lower, String.toList_ofList, List.map_map, Function.comp_def, hchar]

/-- A fold to lower case forgets the fold to upper case before it. -/
@[simp] theorem lower_upper (s : String) : lower (upper s) = lower s := by
  have hchar : ∀ c : Char, c.toUpper.toLower = c.toLower :=
    apply_eq_of_ascii (by decide) toUpper_of_le
  simp only [lower, toList_upper, List.map_map, Function.comp_def, hchar]

/-- A visible ASCII character, from the exclamation mark to the tilde. -/
def isVisible (c : Char) : Bool := '!' ≤ c && c ≤ '~'

theorem toNat_lt_of_isVisible {c : Char} (h : isVisible c = true) : c.toNat < 0x80 := by
  obtain ⟨-, hle⟩ := (Bool.and_eq_true _ _).mp h
  have hle : c.toNat ≤ '~'.toNat := UInt32.le_iff_toNat_le.1 (Char.le_def.1 (of_decide_eq_true hle))
  exact Nat.lt_of_le_of_lt hle (by decide)

/-- An ASCII control character, the delete character among them. -/
def isControl (c : Char) : Bool := c < ' ' || c = '\x7f'

def isBlank (c : Char) : Bool :=
  ('\t' ≤ c && c ≤ '\r') || c = ' ' || c = '\u0085' || c = '\u00a0' || c = '\u1680' ||
    ('\u2000' ≤ c && c ≤ '\u200a') || c = '\u2028' || c = '\u2029' || c = '\u202f' ||
    c = '\u205f' || c = '\u3000'

/-- Drops the leading and the trailing characters that satisfy `p`. -/
def strip (p : Char → Bool) (cs : List Char) : List Char :=
  ((cs.dropWhile p).reverse.dropWhile p).reverse

def trim (s : String) : String := String.ofList (strip isBlank s.toList)

/-- A text with no character but blanks; the empty text is one. -/
def allBlank (s : String) : Bool := s.toList.all isBlank

theorem isBlank_of_isVisible {c : Char} (h : isVisible c = true) : isBlank c = false :=
  of_ascii (p := fun c => isVisible c = true → isBlank c = false) (by decide)
    (toNat_lt_of_isVisible h) h

@[simp] theorem strip_nil (p : Char → Bool) : strip p [] = [] := rfl

@[simp] theorem toList_trim (s : String) : (trim s).toList = strip isBlank s.toList := by
  simp [trim]

/-- What is put around a text to be trimmed changes nothing. -/
theorem strip_around {p : Char → Bool} {left right : List Char} (hl : ∀ c ∈ left, p c = true)
    (hr : ∀ c ∈ right, p c = true) (cs : List Char) :
    strip p (left ++ cs ++ right) = strip p cs := by
  have hend : ∀ c ∈ right.reverse, p c = true := fun c hc => hr c (List.mem_reverse.1 hc)
  rw [strip, strip, List.append_assoc, List.dropWhile_append_of_pos hl, List.dropWhile_append]
  by_cases hempty : (cs.dropWhile p).isEmpty = true
  · rw [if_pos hempty, List.isEmpty_iff.1 hempty, ← List.append_nil right,
      List.dropWhile_append_of_pos hr]
    rfl
  · rw [if_neg hempty, List.reverse_append, List.dropWhile_append_of_pos hend]

theorem strip_of_all {p : Char → Bool} {cs : List Char} (h : ∀ c ∈ cs, p c = false) :
    strip p cs = cs := by
  have hstays : ∀ ds : List Char, (∀ c ∈ ds, p c = false) → ds.dropWhile p = ds := by
    intro ds hds
    cases ds with
    | nil => rfl
    | cons d ds => exact List.dropWhile_cons_of_neg (by simp [hds d List.mem_cons_self])
  rw [strip, hstays cs h, hstays _ fun c hc => h c (List.mem_reverse.1 hc), List.reverse_reverse]

/-- Trimming takes off just what was put around a text. -/
theorem strip_append {p : Char → Bool} {left cs right : List Char} (hl : ∀ c ∈ left, p c = true)
    (hcs : ∀ c ∈ cs, p c = false) (hr : ∀ c ∈ right, p c = true) :
    strip p (left ++ cs ++ right) = cs := by
  rw [strip_around hl hr, strip_of_all hcs]

/-- Nothing is left of a text that is to be trimmed throughout. -/
theorem strip_eq_nil {p : Char → Bool} {cs : List Char} (h : ∀ c ∈ cs, p c = true) :
    strip p cs = [] := by
  have hstrip := strip_around h (List.forall_mem_nil _) []
  rwa [List.append_nil, List.append_nil, strip_nil] at hstrip

namespace Hex

def value? (c : Char) : Option Nat :=
  if c.isDigit then some (c.toNat - '0'.toNat)
  else if 'a' ≤ c ∧ c ≤ 'f' then some (c.toNat - 'a'.toNat + 10)
  else if 'A' ≤ c ∧ c ≤ 'F' then some (c.toNat - 'A'.toNat + 10)
  else none

/-- The last `width` digits of a number, most significant first. -/
def digits : (width : Nat) → Nat → List Char
  | 0, _ => []
  | width + 1, n => digits width (n / 16) ++ [Nat.digitChar (n % 16)]

theorem value?_digitChar : ∀ n < 16, value? (Nat.digitChar n) = some n := by decide

theorem value?_toUpper_digitChar : ∀ n < 16, value? (Nat.digitChar n).toUpper = some n := by decide

end Hex

end SignedSession.Text
