import SignedSession.Text.Basic

/-!
The header lines of an HTTP message. Names are compared without regard to letter case; a name may
stand in several lines, whose order counts.
-/
namespace SignedSession

namespace HeaderName

/-- The marks that a token may hold beside letters and digits. -/
def marks : List Char := "!#$%&'*+-.^_`|~".toList

def isTokenChar (c : Char) : Bool := c.isAlphanum || marks.contains c

/-- The longest name that a message may hold. -/
def maxLength : Nat := 65535

/-- A token that is not empty and not too long. -/
def IsToken (s : String) : Prop :=
  s.toList ≠ [] ∧ s.toList.length ≤ maxLength ∧ s.toList.all isTokenChar = true

instance (s : String) : Decidable (IsToken s) := inferInstanceAs (Decidable (_ ∧ _ ∧ _))

end HeaderName

/-- A header name in lower case. -/
structure HeaderName where
  text : String
  deriving DecidableEq, Repr

namespace HeaderName

def ofString? (s : String) : Option HeaderName :=
  if IsToken s then some ⟨Text.lower s⟩ else none

def cookie : HeaderName := ⟨"cookie"⟩

def setCookie : HeaderName := ⟨"set-cookie"⟩

end HeaderName

namespace HeaderValue

/-- A value may hold any character but controls, of which the tab is allowed. -/
def isAllowed (c : Char) : Bool := c = '\t' || !Text.isControl c

def IsValid (s : String) : Prop := s.toList.all isAllowed = true

instance (s : String) : Decidable (IsValid s) := inferInstanceAs (Decidable (_ = _))

/-- A value is readable as text if it is visible ASCII, spaces and tabs. -/
def isReadableChar (c : Char) : Bool := c = '\t' || c = ' ' || Text.isVisible c

def IsReadable (s : String) : Prop := s.toList.all isReadableChar = true

instance (s : String) : Decidable (IsReadable s) := inferInstanceAs (Decidable (_ = _))

/-- The text of a value, if it is readable. -/
def readable? (s : String) : Option String := if IsReadable s then some s else none

end HeaderValue

/-- Header lines in order. -/
structure HeaderMap where
  lines : List (HeaderName × String)
  deriving DecidableEq, Repr

namespace HeaderMap

def empty : HeaderMap := ⟨[]⟩

/-- The values under a name, in order. -/
def values (h : HeaderMap) (name : HeaderName) : List String :=
  (h.lines.filter (·.1 = name)).map Prod.snd

def first? (h : HeaderMap) (name : HeaderName) : Option String := (h.values name).head?

/-- The first value under a name, if it is readable. -/
def text? (h : HeaderMap) (name : HeaderName) : Option String :=
  (h.first? name).bind HeaderValue.readable?

/-- Adds a line. -/
def append (h : HeaderMap) (name : HeaderName) (value : String) : HeaderMap :=
  ⟨h.lines ++ [(name, value)]⟩

/-- Puts one line in place of all lines of a name. -/
def insert (h : HeaderMap) (name : HeaderName) (value : String) : HeaderMap :=
  ⟨h.lines.filter (·.1 ≠ name) ++ [(name, value)]⟩

/-- Lines with names in any letter case, unless a name or a value may not stand in a message. -/
def ofPairs? (ps : List (String × String)) : Option HeaderMap :=
  (ps.mapM line?).map HeaderMap.mk
where
  line? (p : String × String) : Option (HeaderName × String) :=
    if HeaderValue.IsValid p.2 then (HeaderName.ofString? p.1).map (·, p.2) else none

theorem values_append (h : HeaderMap) (n name : HeaderName) (value : String) :
    (h.append n value).values name = h.values name ++ if n = name then [value] else [] := by
  simp only [values, append, List.filter_append, List.map_append]
  by_cases hn : n = name <;> simp [hn]

theorem values_insert (h : HeaderMap) (n name : HeaderName) (value : String) :
    (h.insert n value).values name = if n = name then [value] else h.values name := by
  simp only [values, insert, List.filter_append, List.map_append, List.filter_filter]
  by_cases hn : n = name
  · subst hn; simp
  · have : ∀ l : List (HeaderName × String),
        l.filter (fun a => decide (a.1 = name) && !decide (a.1 = n)) =
          l.filter (fun a => decide (a.1 = name)) := fun l => by
      apply List.filter_congr
      intro a _
      by_cases ha : a.1 = name <;> simp [ha, Ne.symm hn]
    simp [hn, this]

end HeaderMap

end SignedSession
