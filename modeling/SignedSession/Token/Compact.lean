import SignedSession.Base64Url
import SignedSession.Json.Builder
import SignedSession.Text.Utf8
import SignedSession.Token.Algorithm

/-!
The compact form of a signed token: header, payload and signature between dots, the first two
JSON in base64. What the parts say is read here; whether to trust it is decided elsewhere.
-/
namespace SignedSession

open Json Text

structure CompactToken where
  header : List Char
  payload : List Char
  signature : List Char
  deriving DecidableEq, Repr

/-- Why a part of a token cannot be read. -/
inductive DecodeFault
  | notCompact
  | notBase64
  | notJson
  deriving DecidableEq, Repr

def DecodeFault.message : DecodeFault → String
  | notCompact => "InvalidToken"
  | notBase64 => "Base64 error"
  | notJson => "JSON error"

namespace CompactToken

/-- Splits at the last occurrence of a dot. -/
def splitLast? (cs : List Char) : Option (List Char × List Char) :=
  if '.' ∈ cs then
    let tail := (cs.reverse.takeWhile (· ≠ '.')).reverse
    some (cs.take (cs.length - tail.length - 1), tail)
  else none

/-- A token has two dots at least; the last two count. -/
def ofString? (s : String) : Option CompactToken := do
  let (message, signature) ← splitLast? s.toList
  let (header, payload) ← splitLast? message
  some ⟨header, payload, signature⟩

/-- What is signed. -/
def message (t : CompactToken) : List Char := t.header ++ '.' :: t.payload

def toString (t : CompactToken) : String := String.ofList (t.message ++ '.' :: t.signature)

/-- The tree of a part. -/
def treeOf (part : List Char) : Except DecodeFault Tree :=
  match Base64Url.decode? part with
  | none => .error .notBase64
  | some octets =>
    match Tree.ofSymbols? (Utf8.decode octets) with
    | none => .error .notJson
    | some t => .ok t

/-- A part that says the text. -/
def partOf (text : List Char) : List Char := Base64Url.encode (Utf8.encode text)

def algorithm (t : CompactToken) : Except DecodeFault Algorithm :=
  match treeOf t.header with
  | .error e => .error e
  | .ok tree =>
    match TokenHeader.algorithm? tree with
    | none => .error .notJson
    | some a => .ok a

def payloadTree (t : CompactToken) : Except DecodeFault Tree := treeOf t.payload

/-- The signature that a message has under a key. -/
def signatureOf (h : Digest.Hash) (key : String) (message : List Char) : List Char :=
  Base64Url.encode (h.hmac (Utf8.encode key.toList) (Utf8.encode message))

theorem treeOf_partOf (text : List Char) :
    treeOf (partOf text) = match Tree.ofChars? text with
      | none => .error .notJson
      | some t => .ok t := by
  simp [treeOf, partOf, Base64Url.decode?_encode, Utf8.decode_encode, Tree.ofChars?]

end CompactToken

end SignedSession
