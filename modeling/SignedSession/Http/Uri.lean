import SignedSession.Text.Basic
import SignedSession.Text.Split
import SignedSession.Text.Utf8

/-!
The address of a request: a path and a query, an authority alone, a scheme with an authority and
what follows it, or a star. An address must be well-formed, but only its query counts. A query is
read as form-urlencoded pairs, which never fails: a broken escape stands for itself, and octets that
are no text become replacement characters.
-/
namespace SignedSession

namespace Query

open Text

/-- The octet of two hexadecimal digits. -/
def octet? (high low : Char) : Option UInt8 := do
  let h ← Hex.value? high
  let l ← Hex.value? low
  some (UInt8.ofNat (16 * h + l))

/-- The octets of a name or a value. A plus sign is a space, and a percent sign with two
hexadecimal digits is an octet. -/
def octets : List Char → List UInt8
  | [] => []
  | '%' :: a :: b :: cs =>
    match octet? a b with
    | some o => o :: octets cs
    | none => Utf8.encodeChar '%' ++ octets (a :: b :: cs)
  | c :: cs => Utf8.encodeChar (if c = '+' then ' ' else c) ++ octets cs

def decode (cs : List Char) : String := String.ofList (Utf8.decodeLossy (octets cs))

/-- A piece between ampersands. Without an equals sign it is a name with an empty value. -/
def pairOf (piece : List Char) : String × String :=
  match cutAt? '=' piece with
  | some (n, v) => (decode n, decode v)
  | none => (decode piece, "")

/-- The pairs of a query in order; empty pieces are none. -/
def pairs (query : String) : List (String × String) :=
  ((splitAt '&' query.toList).filter (· ≠ [])).map pairOf

/-- Two upper-case hexadecimal digits behind a percent sign. -/
def escaped (o : UInt8) : List Char := '%' :: (Hex.digits 2 o.toNat).map Char.toUpper

/-- ASCII letters and digits and a few marks stand for themselves. -/
def isPlain (c : Char) : Bool := c.isAlphanum || c = '*' || c = '-' || c = '.' || c = '_'

def encodedChar (c : Char) : List Char :=
  if c = ' ' then ['+'] else if isPlain c then [c] else (Utf8.encodeChar c).flatMap escaped

def encodedChars (s : String) : List Char := s.toList.flatMap encodedChar

def encodedPair (p : String × String) : List Char :=
  encodedChars p.1 ++ '=' :: encodedChars p.2

/-- The form-urlencoding of pairs. -/
def ofPairs (ps : List (String × String)) : String :=
  String.ofList (List.intercalate ['&'] (ps.map encodedPair))

end Query

structure Uri where
  query : Option String
  deriving DecidableEq, Repr

namespace Uri

open Text

/-- Neither a space nor one of the control characters of ASCII. -/
def isVisible (c : Char) : Bool := '!' ≤ c ∧ c ≠ '\x7f'

/-- Paths may hold some marks that are not allowed elsewhere. -/
def isPathChar (c : Char) : Bool := isVisible c ∧ c ∉ ['#', '<', '>', '?', '\x60']

def isQueryChar (c : Char) : Bool := isVisible c ∧ c ∉ ['"', '#', '<', '>']

/-- A path with a query behind its first question mark. What follows a number sign is ignored. -/
def ofPath? (cs : List Char) : Option Uri :=
  let cs := cs.takeWhile (· ≠ '#')
  match cutAt? '?' cs with
  | none => if cs.all isPathChar then some ⟨none⟩ else none
  | some (path, query) =>
    if path.all isPathChar ∧ query.all isQueryChar then some ⟨some (String.ofList query)⟩ else none

/-- Marks of an authority without a meaning of their own. -/
def isAuthorityChar (c : Char) : Bool := c.isAlphanum || "!$&'()*+,-.;=_~".toList.contains c

/-- What has been seen of an authority. Colons and percent signs are counted anew behind an at
sign, for they belong to a user, and behind a closing bracket, for they belong to a number. -/
structure Authority where
  colons : Nat := 0
  opened : Bool := false
  closed : Bool := false
  percent : Bool := false

namespace Authority

def step (a : Authority) (c : Char) : Option Authority :=
  if c = ':' then if a.colons < 8 then some { a with colons := a.colons + 1 } else none
  else if c = '[' then if a.percent || a.opened then none else some { a with opened := true }
  else if c = ']' then
    if a.opened && !a.closed then some { a with closed := true, colons := 0, percent := false }
    else none
  else if c = '@' then some { a with colons := 0, percent := false }
  else if c = '%' then some { a with percent := true }
  else if isAuthorityChar c then some a
  else none

/-- Brackets are in pairs, and behind them there is at most a port. -/
def isComplete (a : Authority) : Bool := a.opened = a.closed && a.colons ≤ 1 && !a.percent

end Authority

/-- An authority has at least one character, and something behind an at sign. -/
def isAuthority (cs : List Char) : Bool :=
  cs ≠ [] && cs.getLast? ≠ some '@' && (cs.foldlM Authority.step {}).any Authority.isComplete

def endsAuthority (c : Char) : Bool := c = '/' || c = '?' || c = '#'

/-- An authority with a path, a query or both behind it. -/
def ofAuthority? (cs : List Char) : Option Uri :=
  if isAuthority (cs.takeWhile fun c => !endsAuthority c) then
    ofPath? (cs.dropWhile fun c => !endsAuthority c)
  else none

def isSchemeChar (c : Char) : Bool := c.isAlphanum || "+-.~".toList.contains c

def maxSchemeLength : Nat := 64

def ofChars? (cs : List Char) : Option Uri :=
  if cs = ['*'] then some ⟨none⟩
  else if cs.head? = some '/' then ofPath? cs
  else
    match cs.dropWhile isSchemeChar with
    | ':' :: '/' :: '/' :: rest =>
      if (cs.takeWhile isSchemeChar).length ≤ maxSchemeLength then ofAuthority? rest else none
    | _ => if isAuthority cs then some ⟨none⟩ else none

/-- The longest address in octets. -/
def maxLength : Nat := 65534

def ofString? (s : String) : Option Uri :=
  if s.utf8ByteSize ≤ maxLength then ofChars? s.toList else none

end Uri

end SignedSession
