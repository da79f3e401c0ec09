import SignedSession.Claims.Basic
import SignedSession.Json.Builder
import SignedSession.Json.Tree

/-!
Reading claims from JSON. A field that may be missing may also be null; times are integers of a
signed 64-bit word; audiences are one text or a list of texts.
-/
namespace SignedSession

open Json

/-- A plain integer of a signed 64-bit word. -/
def Json.Tree.int64? (t : Tree) : Option Int64 :=
  t.int?.bind fun n =>
    if Int64.minValue.toInt ≤ n ∧ n ≤ Int64.maxValue.toInt then some (Int64.ofInt n) else none

namespace Claims

/-- Containers nest at most this deep where values are kept. -/
def maxNesting : Nat := 127

/-- Attributes lie in an object in the user in the claims. -/
def maxAttributeNesting : Nat := maxNesting - 3

end Claims

def Attributes.ofTree? : Tree → Option Attributes
  | .obj ms => (Tree.toMembers? Claims.maxAttributeNesting ms).map Attributes.ofMembers
  | _ => none

def User.fieldNames : List String :=
  ["name", "id", "picture", "aud", "ip", "email", "attrs", "role"]

def User.ofFields? (fs : Fields) : Option User := do
  let name ← fs.text? "name"
  let id ← fs.text? "id"
  let picture ← fs.text? "picture"
  let audience ← fs.text? "aud"
  let ip ← fs.text? "ip"
  let email ← fs.text? "email"
  let attributes ← fs.withDefault? "attrs" Attributes.ofTree? .empty
  let role ← fs.text? "role"
  some ⟨name, id, picture, audience, ip, email, attributes, role⟩

def User.ofTree? (t : Tree) : Option User := (t.record? fieldNames).bind ofFields?

def Handshake.fieldNames : List String := ["state", "from", "id"]

def Handshake.ofFields? (fs : Fields) : Option Handshake := do
  let state ← fs.text? "state"
  let returnTo ← fs.text? "from"
  let id ← fs.text? "id"
  some ⟨state, returnTo, id⟩

def Handshake.ofTree? (t : Tree) : Option Handshake := (t.record? fieldNames).bind ofFields?

namespace Claims

/-- A provider is a record of its name. -/
def providerOfTree? (t : Tree) : Option String := (t.record? ["name"]).bind (·.text? "name")

def audiencesOfTree? : Tree → Option (List String)
  | .str l => l.text?.map ([·])
  | t => t.texts?

/-- The audiences in the fields of a record; none if the field is missing or null. -/
def audiencesOfFields? (fs : Fields) : Option (List String) :=
  (fs.optional? "aud" audiencesOfTree?).map (·.getD [])

def fieldNames : List String :=
  ["sub", "iss", "aud", "exp", "nbf", "iat", "jti", "user", "sess_only", "handshake", "no-ava",
    "auth_provider"]

def ofFields? (fs : Fields) : Option Claims := do
  let subject ← fs.optional? "sub" Tree.text?
  let issuer ← fs.optional? "iss" Tree.text?
  let audiences ← audiencesOfFields? fs
  let expiry ← fs.optional? "exp" Tree.int64?
  let notBefore ← fs.optional? "nbf" Tree.int64?
  let issuedAt ← fs.optional? "iat" Tree.int64?
  let tokenId ← fs.optional? "jti" Tree.text?
  let user ← fs.optional? "user" User.ofTree?
  let sessionOnly ← fs.flag? "sess_only"
  let handshake ← fs.optional? "handshake" Handshake.ofTree?
  let withoutAvatar ← fs.flag? "no-ava"
  let provider ← fs.optional? "auth_provider" providerOfTree?
  some ⟨subject, issuer, audiences, expiry, notBefore, issuedAt, tokenId, user, sessionOnly,
    handshake, withoutAvatar, provider⟩

def ofTree? (t : Tree) : Option Claims := (t.record? fieldNames).bind ofFields?

/-- The claims that a JSON text says. -/
def ofText? (s : String) : Option Claims := (Tree.ofChars? s.toList).bind ofTree?

end Claims

end SignedSession
