import SignedSession.Settings.Basic
import SignedSession.Text.Basic
import SignedSession.Text.Split

/-!
Cookies: the pairs that a browser sends, and the lines that set one with its attributes.
-/
namespace SignedSession

namespace Cookie

open Text

/-- The name and the value of a piece, without blanks around them. A piece without an equals sign
or with an empty name is no cookie. -/
def pairOf? (piece : List Char) : Option (String × String) :=
  match cutAt? '=' piece with
  | none => none
  | some (n, v) =>
    if strip isBlank n = [] then none
    else some (String.ofList (strip isBlank n), String.ofList (strip isBlank v))

/-- The cookies of a header value, between semicolons. -/
def pairs (header : String) : List (String × String) :=
  (splitAt ';' header.toList).filterMap pairOf?

/-- Marks that a cookie's name may not hold. -/
def separators : List Char := "()<>@,;:\\\"/[]?=".toList ++ ['\x7b', '\x7d']

def isNameChar (c : Char) : Bool := isVisible c && !separators.contains c

def IsName (s : String) : Prop := s.toList ≠ [] ∧ s.toList.all isNameChar = true

instance (s : String) : Decidable (IsName s) := inferInstanceAs (Decidable (_ ∧ _))

/-- A character that may stand in a value and ends neither it nor the cookie. -/
def isOctet (c : Char) : Bool := isVisible c && c ≠ '"' && c ≠ ',' && c ≠ ';' && c ≠ '\\'

def IsValue (s : String) : Prop := s.toList.all isOctet = true

instance (s : String) : Decidable (IsValue s) := inferInstanceAs (Decidable (_ = _))

end Cookie

/-- A cookie to be set, with its attributes. The domain is empty for the host alone; the age is in
seconds; a cookie that has ended is one to be removed. -/
structure SetCookie where
  name : String
  value : String
  httpOnly : Bool
  sameSite : Option SameSite
  secure : Bool
  domain : String
  maxAge : Option Int
  ended : Bool
  deriving DecidableEq, Repr

namespace SetCookie

/-- A domain without one leading dot. -/
def domainText (d : String) : String :=
  match d.toList with
  | '.' :: cs => String.ofList cs
  | _ => d

/-- The attributes in the order they are written. -/
def attributes (c : SetCookie) : List String :=
  (if c.httpOnly then ["HttpOnly"] else []) ++
    (c.sameSite.map fun s => "SameSite=" ++ s.name).toList ++
    (if c.secure then ["Secure"] else []) ++ ["Path=/"] ++
    (if c.domain = "" then [] else ["Domain=" ++ domainText c.domain]) ++
    (c.maxAge.map fun n => "Max-Age=" ++ toString n).toList ++
    if c.ended then ["Expires=Thu, 01 Jan 1970 00:00:00 GMT"] else []

/-- The header value that sets the cookie. -/
def render (c : SetCookie) : String :=
  c.name ++ "=" ++ c.value ++ String.join (c.attributes.map ("; " ++ ·))

end SetCookie

end SignedSession
