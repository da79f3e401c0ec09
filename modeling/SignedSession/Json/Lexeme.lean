import SignedSession.Json.Literal
import SignedSession.Json.Numeral
import SignedSession.Text.Basic

/-!
The lexemes of a JSON text, and scanning a text into them one symbol at a time. A symbol is a
character or a gap (`none`), octets that are no character; a gap may only stand inside a string.
Main statement: a text that is scanned in two parts is scanned as a whole.
-/
namespace SignedSession.Json

inductive Lexeme
  | openObj
  | closeObj
  | openArr
  | closeArr
  | colon
  | comma
  | null
  | bool (b : Bool)
  | num (n : Numeral)
  | str (l : Literal)
  deriving DecidableEq, Repr

namespace Lexeme

def isSpace (c : Char) : Bool := c = ' ' || c = '\n' || c = '\t' || c = '\r'

def punctuation? (c : Char) : Option Lexeme :=
  if c = '{' then some openObj
  else if c = '}' then some closeObj
  else if c = '[' then some openArr
  else if c = ']' then some closeArr
  else if c = ':' then some colon
  else if c = ',' then some comma
  else none

/-- A bare word ends where a space, a punctuation mark or a quote stands. -/
def endsWord (c : Char) : Bool := isSpace c || (punctuation? c).isSome || c = '"'

/-- The lexeme of a bare word: a constant or a numeral. -/
def ofWord? (cs : List Char) : Option Lexeme :=
  if cs = ['n', 'u', 'l', 'l'] then some null
  else if cs = ['t', 'r', 'u', 'e'] then some (bool true)
  else if cs = ['f', 'a', 'l', 's', 'e'] then some (bool false)
  else (Numeral.ofChars? cs).map num

def unescape? (c : Char) : Option Char :=
  if c = '"' ∨ c = '\\' ∨ c = '/' then some c
  else if c = 'b' then some '\x08'
  else if c = 'f' then some '\x0c'
  else if c = 'n' then some '\n'
  else if c = 'r' then some '\r'
  else if c = 't' then some '\t'
  else none

end Lexeme

/-- Where scanning stands: between two lexemes, in a bare word, in a string, or in an escape in a
string. Characters and pieces are in reverse order. An escaped code unit has its value so far and
the number of digits to come. -/
inductive Position
  | between
  | word (cs : List Char)
  | string (ps : List Piece)
  | escape (ps : List Piece)
  | unit (ps : List Piece) (value : Nat) (left : Nat)
  deriving DecidableEq, Repr

/-- The lexemes found so far, in reverse order, and the position after them. -/
structure Scanner where
  found : List Lexeme
  position : Position
  deriving DecidableEq, Repr

namespace Scanner

/-- Takes a character between two lexemes. -/
def start (found : List Lexeme) (c : Char) : Scanner :=
  if Lexeme.isSpace c then ⟨found, .between⟩
  else if c = '"' then ⟨found, .string []⟩
  else match Lexeme.punctuation? c with
    | some l => ⟨l :: found, .between⟩
    | none => ⟨found, .word [c]⟩

/-- Takes a character of a bare word, or the one after it. -/
def inWord? (found : List Lexeme) (cs : List Char) (c : Char) : Option Scanner :=
  if Lexeme.endsWord c then (Lexeme.ofWord? cs.reverse).map fun l => start (l :: found) c
  else some ⟨found, .word (c :: cs)⟩

/-- Takes a character between the quotes of a string. Control characters must be escaped. -/
def inString? (found : List Lexeme) (ps : List Piece) (c : Char) : Option Scanner :=
  if c = '"' then some ⟨.str (.ofPieces ps) :: found, .between⟩
  else if c = '\\' then some ⟨found, .escape ps⟩
  else if c < ' ' then none
  else some ⟨found, .string (.char c :: ps)⟩

def inEscape? (found : List Lexeme) (ps : List Piece) (c : Char) : Option Scanner :=
  if c = 'u' then some ⟨found, .unit ps 0 4⟩
  else (Lexeme.unescape? c).map fun c => ⟨found, .string (.char c :: ps)⟩

def inUnit? (found : List Lexeme) (ps : List Piece) (value left : Nat) (c : Char) :
    Option Scanner :=
  (Text.Hex.value? c).map fun d =>
    let value := 16 * value + d
    if left ≤ 1 then ⟨found, .string (Piece.ofUnit value :: ps)⟩
    else ⟨found, .unit ps value (left - 1)⟩

def step (s : Scanner) : Option Char → Option Scanner
  | some c =>
    match s.position with
    | .between => some (start s.found c)
    | .word cs => inWord? s.found cs c
    | .string ps => inString? s.found ps c
    | .escape ps => inEscape? s.found ps c
    | .unit ps value left => inUnit? s.found ps value left c
  | none =>
    match s.position with
    | .string ps => some ⟨s.found, .string (.gap :: ps)⟩
    | _ => none

def run (s : Scanner) (symbols : List (Option Char)) : Option Scanner := symbols.foldlM step s

/-- The lexemes in order. A bare word may end the text, an open string may not. -/
def finish? (s : Scanner) : Option (List Lexeme) :=
  match s.position with
  | .between => some s.found.reverse
  | .word cs => (Lexeme.ofWord? cs.reverse).map fun l => (l :: s.found).reverse
  | _ => none

@[simp] theorem run_nil (s : Scanner) : s.run [] = some s := rfl

theorem run_cons (s : Scanner) (x : Option Char) (xs : List (Option Char)) :
    s.run (x :: xs) = (s.step x).bind (·.run xs) := by
  simp only [run, List.foldlM_cons]; rfl

theorem run_append (s : Scanner) (xs ys : List (Option Char)) :
    s.run (xs ++ ys) = (s.run xs).bind (·.run ys) := by
  simp only [run, List.foldlM_append]; rfl

end Scanner

/-- The lexemes of a text. -/
def Lexeme.scan? (symbols : List (Option Char)) : Option (List Lexeme) :=
  ((Scanner.mk [] .between).run symbols).bind Scanner.finish?

end SignedSession.Json
