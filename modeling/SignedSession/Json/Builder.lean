import SignedSession.Json.Lexeme
import SignedSession.Json.Tree

/-!
Building a tree from lexemes, one at a time. The containers still open form a stack, so nothing
limits how deep they nest. Main statement: building from two runs of lexemes is building from the
one and then from the other.
-/
namespace SignedSession.Json

/-- A container with a hole where the next value goes, its earlier parts in reverse order. -/
inductive Frame
  | item (before : List Tree)
  | member (before : List Member) (name : Option String)

/-- What may come next, with the open containers around it, innermost first. -/
inductive Builder
  | value (outer : List Frame)
  | firstItem (outer : List Frame)
  | firstName (outer : List Frame)
  | name (before : List Member) (outer : List Frame)
  | colon (before : List Member) (name : Option String) (outer : List Frame)
  | afterItem (before : List Tree) (outer : List Frame)
  | afterMember (before : List Member) (outer : List Frame)
  | done (t : Tree)

namespace Builder

/-- Puts a value into the innermost hole; outside all containers it is the whole tree. -/
def place (t : Tree) : List Frame → Builder
  | [] => done t
  | .item before :: outer => afterItem (t :: before) outer
  | .member before key :: outer => afterMember ((key, t) :: before) outer

/-- Takes the first lexeme of a value. -/
def start? (outer : List Frame) : Lexeme → Option Builder
  | .null => some (place .null outer)
  | .bool b => some (place (.bool b) outer)
  | .num n => some (place (.num n) outer)
  | .str l => some (place (.str l) outer)
  | .openArr => some (firstItem outer)
  | .openObj => some (firstName outer)
  | .closeArr => none
  | .closeObj => none
  | .colon => none
  | .comma => none

def step : Builder → Lexeme → Option Builder
  | value outer, l => start? outer l
  | firstItem outer, l =>
    if l = .closeArr then some (place (.arr []) outer) else start? (.item [] :: outer) l
  | firstName outer, .closeObj => some (place (.obj []) outer)
  | firstName outer, .str l => some (colon [] l.text? outer)
  | name before outer, .str l => some (colon before l.text? outer)
  | colon before s outer, .colon => some (value (.member before s :: outer))
  | afterItem before outer, .comma => some (value (.item before :: outer))
  | afterItem before outer, .closeArr => some (place (.arr before.reverse) outer)
  | afterMember before outer, .comma => some (name before outer)
  | afterMember before outer, .closeObj => some (place (.obj before.reverse) outer)
  | _, _ => none

def run (b : Builder) (ls : List Lexeme) : Option Builder := ls.foldlM step b

def tree? : Builder → Option Tree
  | done t => some t
  | _ => none

@[simp] theorem run_nil (b : Builder) : b.run [] = some b := rfl

theorem run_cons (b : Builder) (l : Lexeme) (ls : List Lexeme) :
    b.run (l :: ls) = (b.step l).bind (·.run ls) := by
  simp only [run, List.foldlM_cons]; rfl

theorem run_append (b : Builder) (ls ks : List Lexeme) :
    b.run (ls ++ ks) = (b.run ls).bind (·.run ks) := by
  simp only [run, List.foldlM_append]; rfl

end Builder

namespace Tree

def ofLexemes? (ls : List Lexeme) : Option Tree := ((Builder.value []).run ls).bind Builder.tree?

/-- The tree of a text whose symbols may have gaps. -/
def ofSymbols? (symbols : List (Option Char)) : Option Tree :=
  (Lexeme.scan? symbols).bind ofLexemes?

def ofChars? (cs : List Char) : Option Tree := ofSymbols? (cs.map some)

end Tree

end SignedSession.Json
