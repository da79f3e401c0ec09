import SignedSession.Claims.Printer
import SignedSession.Settings.Basic
import SignedSession.Token.Keyring

/-!
Signing claims into a token, and verifying a token back into its claims. Verification checks the
signature, the times before which a token is not valid, and the audience; whether a token is
expired is for its receiver to say. Claims may have a token if they name an audience, and an
allow-list that is not empty holds it, up to letter case.
-/
namespace SignedSession

open Json

/-- The audience that claims name, unless it is blank. -/
def Claims.namedAudience? (c : Claims) : Option String :=
  c.audience.filter fun a => ¬ Text.allBlank a

/-- Whether a list admits an audience; the empty list admits every one. -/
def Admits (allowed : List String) (audience : String) : Prop :=
  allowed = [] ∨ ∃ a ∈ allowed, Text.SameUpToCase a audience

instance (allowed : List String) (audience : String) : Decidable (Admits allowed audience) :=
  inferInstanceAs (Decidable (_ ∨ _))

/-- Checks the audience of claims; without an allow-list any will do. -/
def checkAudience (allow : Option AllowList) (c : Claims) : Except TokenError Unit :=
  match c.namedAudience? with
  | none => .error .noAudience
  | some a =>
    match allow with
    | none => .ok ()
    | some (.error reason) => .error (.audiencesUnknown reason)
    | some (.ok allowed) => if Admits allowed a then .ok () else .error (.audienceNotAllowed a)

structure Codec where
  format : AudienceFormat
  keyring : Keyring
  allow : Option AllowList
  update : Option (Claims → Claims)

namespace Codec

def new (s : Settings) (h : Hooks) : Codec where
  format := s.audienceFormat
  keyring := ⟨h.secrets, if s.secretPerAudience then .perAudience else .shared⟩
  allow := h.audiences
  update := h.update

/-- The header of every token that is signed here. -/
def header : String := "\x7b\"typ\":\"JWT\",\"alg\":\"HS256\"\x7d"

/-- A token of claims under a secret. -/
def encode (format : AudienceFormat) (secret : String) (c : Claims) : CompactToken :=
  let header := CompactToken.partOf header.toList
  let payload := CompactToken.partOf (c.canonical format).toList
  ⟨header, payload, CompactToken.signatureOf .sha256 secret (header ++ '.' :: payload)⟩

/-- The token of claims, and the claims as they were signed, after the update. Claims with a user
must have exactly one audience. -/
def sign (codec : Codec) (c : Claims) : Except TokenError (String × Claims) := do
  let c := match codec.update with
    | some f => f c
    | none => c
  let _ ← codec.keyring.require
  if c.user.isSome ∧ c.audiences.length ≠ 1 then
    .error .notOneAudience
  checkAudience codec.allow c
  let secret ← codec.keyring.secretFor (c.audience.getD "")
  .ok ((encode codec.format secret c).toString, c)

/-- How a fault in a token's form is reported. -/
def faultError : DecodeFault → TokenError
  | .notCompact => .malformed "Malformed token"
  | e => .malformed e.message

/-- Checks that a token's signature is its own keyed hash. -/
def authenticate (secret : String) (t : CompactToken) : Except TokenError Unit := do
  let a ← t.algorithm.mapError faultError
  match a.hash? with
  | none => .error .unexpectedAlgorithm
  | some h =>
    if t.signature = CompactToken.signatureOf h secret t.message then .ok ()
    else .error .signatureMismatch

/-- The claims of a payload, and the time before which it is not valid. -/
def readPayload (t : CompactToken) : Except TokenError (Claims × Option Nat) := do
  let tree ← t.payloadTree.mapError faultError
  let some c := Claims.ofTree? tree | .error (faultError .notJson)
  let some notBefore := Registered.notBefore? tree | .error (faultError .notJson)
  .ok (c, notBefore)

/-- Checks that the time of validity and the time of issue are not in the future. -/
def checkTimes (now : Instant) (notBefore : Option Nat) (c : Claims) : Except TokenError Unit :=
  if notBefore.any fun n => now.seconds < n then .error .notYetValid
  else if c.issuedAt.any fun n => now.seconds < n.toInt then .error .usedBeforeIssued
  else .ok ()

/-- The claims of a token that was signed with a secret. -/
def verifyWith (codec : Codec) (now : Instant) (secret token : String) :
    Except TokenError Claims := do
  let some t := CompactToken.ofString? token | .error (faultError .notCompact)
  authenticate secret t
  let (c, notBefore) ← readPayload t
  checkTimes now notBefore c
  checkAudience codec.allow c
  .ok c

/-- The claims of a token. -/
def verify (codec : Codec) (now : Instant) (token : String) : Except TokenError Claims := do
  let secret ← codec.keyring.secretForToken token
  codec.verifyWith now secret token

/-- The claims of a token that was signed for an audience, whichever it claims. -/
def verifyAs (codec : Codec) (now : Instant) (token audience : String) :
    Except TokenError Claims := do
  let secret ← codec.keyring.secretFor audience
  codec.verifyWith now secret token

end Codec

end SignedSession
