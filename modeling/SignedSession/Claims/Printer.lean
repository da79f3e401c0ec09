import SignedSession.Claims.Basic
import SignedSession.Json.Printer

/-!
Writing claims as JSON. What is absent, empty or false is left out, except a user's name and id;
one audience is a text unless the format asks for lists.
-/
namespace SignedSession

open Json

/-- How one audience is written. Several are always a list. -/
inductive AudienceFormat
  | text
  | list
  deriving DecidableEq, Repr

/-- An integer in a JSON value; a machine word holds it. -/
def Json.Value.ofInt64 (n : Int64) : Value :=
  .num (.int ⟨n.toInt, n.le_toInt, Int.lt_trans n.toInt_lt (by decide)⟩)

/-- A member that is left out if its text is empty. -/
def textMember (name s : String) : List (String × Value) := if s = "" then [] else [(name, .str s)]

/-- A member that is left out if its flag is false. -/
def flagMember (name : String) (b : Bool) : List (String × Value) :=
  if b then [(name, .bool true)] else []

/-- A member that is left out if there is nothing to write. -/
def optionalMember {α : Type} (name : String) (write : α → Value) :
    Option α → List (String × Value)
  | none => []
  | some a => [(name, write a)]

def Attributes.toMembers (name : String) (a : Attributes) : List (String × Value) :=
  if a.isEmpty then [] else [(name, .obj a.entries)]

def User.toMembers (u : User) : List (String × Value) :=
  [("name", .str u.name), ("id", .str u.id)] ++ textMember "picture" u.picture ++
    textMember "aud" u.audience ++ textMember "ip" u.ip ++ textMember "email" u.email ++
    u.attributes.toMembers "attrs" ++ textMember "role" u.role

def User.toValue (u : User) : Value := .obj u.toMembers

def Handshake.toMembers (h : Handshake) : List (String × Value) :=
  textMember "state" h.state ++ textMember "from" h.returnTo ++ textMember "id" h.id

def Handshake.toValue (h : Handshake) : Value := .obj h.toMembers

namespace Claims

def providerToValue (name : String) : Value := .obj (textMember "name" name)

def audienceMembers : AudienceFormat → List String → List (String × Value)
  | _, [] => []
  | .text, [a] => [("aud", .str a)]
  | _, as => [("aud", .arr (as.map .str))]

/-- The members of the claims in the order of their fields. -/
def toMembers (format : AudienceFormat) (c : Claims) : List (String × Value) :=
  optionalMember "sub" .str c.subject ++ optionalMember "iss" .str c.issuer ++
    audienceMembers format c.audiences ++ optionalMember "exp" .ofInt64 c.expiry ++
    optionalMember "nbf" .ofInt64 c.notBefore ++ optionalMember "iat" .ofInt64 c.issuedAt ++
    optionalMember "jti" .str c.tokenId ++ optionalMember "user" User.toValue c.user ++
    flagMember "sess_only" c.sessionOnly ++
    optionalMember "handshake" Handshake.toValue c.handshake ++
    flagMember "no-ava" c.withoutAvatar ++ optionalMember "auth_provider" providerToValue c.provider

def toValue (format : AudienceFormat) (c : Claims) : Value := .obj (c.toMembers format)

/-- Compact text with the members in the order of their fields. -/
def display (c : Claims) : String := (c.toValue .text).render

/-- Compact text with the members at every level in order of their names. -/
def canonical (format : AudienceFormat) (c : Claims) : String := (c.toValue format).sortKeys.render

end Claims

end SignedSession
