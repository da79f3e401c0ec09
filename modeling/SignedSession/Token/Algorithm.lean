import SignedSession.Digest
import SignedSession.Json.Tree
import SignedSession.Token.WebKey

/-!
The algorithm that a token's header names. Only the keyed hashes are ever used; the signature
algorithms with key pairs are known by name and refused.
-/
namespace SignedSession

inductive Algorithm
  | hs256
  | hs384
  | hs512
  | rs256
  | rs384
  | rs512
  | es256
  | es384
  | ps256
  | ps384
  | ps512
  | edDsa
  deriving DecidableEq, Repr

namespace Algorithm

def name : Algorithm → String
  | hs256 => "HS256"
  | hs384 => "HS384"
  | hs512 => "HS512"
  | rs256 => "RS256"
  | rs384 => "RS384"
  | rs512 => "RS512"
  | es256 => "ES256"
  | es384 => "ES384"
  | ps256 => "PS256"
  | ps384 => "PS384"
  | ps512 => "PS512"
  | edDsa => "EdDSA"

def all : List Algorithm :=
  [hs256, hs384, hs512, rs256, rs384, rs512, es256, es384, ps256, ps384, ps512, edDsa]

def ofName? (s : String) : Option Algorithm := all.find? fun a => a.name = s

/-- The hash of an algorithm that signs with a keyed one. -/
def hash? : Algorithm → Option Digest.Hash
  | hs256 => some .sha256
  | hs384 => some .sha384
  | hs512 => some .sha512
  | _ => none

theorem ofName?_name : ∀ a : Algorithm, ofName? a.name = some a := by
  intro a; cases a <;> decide

end Algorithm

namespace TokenHeader

open Json

/-- The members of a header, in the order that an array gives them. -/
def fieldNames : List String :=
  ["typ", "alg", "cty", "jku", "jwk", "kid", "x5u", "x5c", "x5t", "x5t#S256"]

/-- Members that are a text or null. -/
def textNames : List String := ["typ", "cty", "jku", "kid", "x5u", "x5t", "x5t#S256"]

/-- An algorithm is given by its name, alone or as the only name in an object, with null. -/
def named? : Tree → Option Algorithm
  | .str l => l.text?.bind Algorithm.ofName?
  | .obj [(some s, .null)] => Algorithm.ofName? s
  | _ => none

/-- The algorithm of a header whose other known members have their types. An array must have all
the members. -/
def algorithm? (t : Tree) : Option Algorithm := do
  let fs ← t.record? fieldNames
  guard (t.items?.all fun items => items.length = fieldNames.length)
  let a ← (fs.lookup "alg").bind named?
  let _ ← textNames.mapM fun n => fs.optional? n Tree.text?
  let _ ← fs.optional? "x5c" Tree.texts?
  let _ ← fs.optional? "jwk" fun k => if WebKey.isKey k then some () else none
  some a

end TokenHeader

end SignedSession
