import SignedSession.Json.Value

/-!
Keys that a token's header may carry. Such a key is never used, but a header with something else
in its place is refused: a key has the parameters of its kind, and the parameters that all kinds
share have their types.
-/
namespace SignedSession.WebKey

open Json

/-- The parameters of every kind that are texts. -/
def textNames : List String := ["use", "kid", "x5u", "x5t", "x5t#S256"]

def listNames : List String := ["key_ops", "x5c"]

def commonNames : List String := ["alg"] ++ textNames ++ listNames

def algorithmNames : List String :=
  ["HS256", "HS384", "HS512", "ES256", "ES384", "RS256", "RS384", "RS512", "PS256", "PS384",
    "PS512", "EdDSA", "RSA1_5", "RSA-OAEP", "RSA-OAEP-256"]

def curveNames : List String := ["P-256", "P-384", "P-521", "Ed25519"]

/-- One of a list of words, by itself or as the only name of an object that says nothing. -/
def isWord (words : List String) (isNothing : Value → Bool) : Value → Bool
  | .str s => words.contains s
  | .obj [(s, v)] => words.contains s && isNothing v
  | _ => false

def isNull : Value → Bool
  | .null => true
  | _ => false

/-- Nothing may also be an empty object. -/
def isNullOrEmpty : Value → Bool
  | .null => true
  | .obj [] => true
  | _ => false

def isText (v : Value) : Bool := v.str?.isSome

def isTextList : Value → Bool
  | .arr items => items.all isText
  | _ => false

/-- Whether a parameter that all kinds share has its type; null is as good as none. -/
def isCommon (name : String) (v : Value) : Bool :=
  isNull v ||
    if name = "alg" then isWord algorithmNames isNullOrEmpty v
    else if listNames.contains name then isTextList v
    else isText v

/-- A kind of keys: its name, whether it names a curve, and its other parameters. -/
structure Kind where
  name : String
  hasCurve : Bool
  texts : List String

def kinds : List Kind :=
  [⟨"EC", true, ["x", "y"]⟩, ⟨"RSA", false, ["n", "e"]⟩, ⟨"oct", false, ["k"]⟩,
    ⟨"OKP", true, ["x"]⟩]

/-- The parameters that a kind must have, each with its test. -/
def Kind.parameters (k : Kind) : List (String × (Value → Bool)) :=
  [("kty", isWord [k.name] isNull)] ++
    (if k.hasCurve then [("crv", isWord curveNames isNull)] else []) ++
    k.texts.map fun name => (name, isText)

/-- Whether each parameter of a kind stands once and passes its test. Others do not matter. -/
def Kind.fits (k : Kind) (ms : List (String × Value)) : Bool :=
  k.parameters.all fun p =>
    match ms.filter (·.1 = p.1) with
    | [(_, v)] => p.2 v
    | _ => false

/-- Containers nest at most this deep in a key's parameters. -/
def maxNesting : Nat := 125

def isKeyOfMembers (ms : List (String × Value)) : Bool :=
  let (common, own) := ms.partition fun m => commonNames.contains m.1
  decide (common.map Prod.fst).Nodup && common.all (fun m => isCommon m.1 m.2) &&
    kinds.any (·.fits own)

/-- Whether a tree is a key. -/
def isKey : Tree → Bool
  | .obj ms => (Tree.toMembers? maxNesting ms).any isKeyOfMembers
  | _ => false

end SignedSession.WebKey
