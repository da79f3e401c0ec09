import SignedSession.Text.Quoted

/-!
Why issuing, reading or accepting a token failed. The kind of an error decides its code and its
status; the wording of every cause stands here.
-/
namespace SignedSession

inductive TokenError
  | config (detail : String)
  | secretResolution (detail : String)
  | audienceRejected (detail : String)
  | invalidSignature (detail : String)
  | malformed (detail : String)
  | xsrfMismatch
  | tokenExpired
  | tokenNotFound
  | rejected (detail : String)
  | internal (detail : String)
  deriving DecidableEq, Repr

namespace TokenError

def message : TokenError → String
  | config d => "Configuration error: " ++ d
  | secretResolution d => "Can't get secret: " ++ d
  | audienceRejected d => "Audience rejected: " ++ d
  | invalidSignature d => "Invalid signature: " ++ d
  | malformed d => "Malformed token: " ++ d
  | xsrfMismatch => "XSRF mismatch"
  | tokenExpired => "Token has expired"
  | tokenNotFound => "Token not found"
  | rejected d => "Token rejected: " ++ d
  | internal d => "Internal error: " ++ d

def code : TokenError → String
  | config _ => "CONFIG_ERROR"
  | secretResolution _ => "SECRET_RESOLUTION_ERROR"
  | audienceRejected _ => "AUDIENCE_REJECTED"
  | invalidSignature _ => "INVALID_SIGNATURE"
  | malformed _ => "MALFORMED_TOKEN"
  | xsrfMismatch => "XSRF_MISMATCH"
  | tokenExpired => "TOKEN_EXPIRED"
  | tokenNotFound => "TOKEN_NOT_FOUND"
  | rejected _ => "TOKEN_REJECTED"
  | internal _ => "INTERNAL_ERROR"

/-- The HTTP status that answers a request with this error. -/
def status : TokenError → Nat
  | config _ => 500
  | secretResolution _ => 500
  | audienceRejected _ => 401
  | invalidSignature _ => 401
  | malformed _ => 401
  | xsrfMismatch => 403
  | tokenExpired => 401
  | tokenNotFound => 401
  | rejected _ => 403
  | internal _ => 500

/-- The server is to blame, not the credential. -/
def IsServerError : TokenError → Prop
  | config _ => True
  | secretResolution _ => True
  | internal _ => True
  | _ => False

instance : DecidablePred IsServerError
  | config _ | secretResolution _ | internal _ => .isTrue trivial
  | audienceRejected _ | invalidSignature _ | malformed _ | xsrfMismatch | tokenExpired
  | tokenNotFound | rejected _ => .isFalse not_false

open Text

def invalidHeaderName (key : String) : TokenError :=
  config ("invalid header " ++ quoted key ++ ": invalid HTTP header name")

def invalidCookieName (name : String) : TokenError := config ("invalid cookie name " ++ quoted name)

/-- A reset cookie that is no header value. -/
def invalidCookie (name : String) : TokenError :=
  config ("invalid cookie " ++ quoted name ++ ": failed to parse header value")

def durationOutOfRange : TokenError := config "token duration out of range"

def noSecretReader : TokenError := config "secret reader not defined"

def emptySecret (audience : String) : TokenError :=
  secretResolution ("empty secret for audience " ++ quoted audience)

def noAudience : TokenError := audienceRejected "no audience provided"

def emptyAudience : TokenError := audienceRejected "empty aud"

def notOneAudience : TokenError := audienceRejected "aud is not of size 1"

def audiencesUnknown (reason : String) : TokenError :=
  audienceRejected ("failed to get auds: " ++ reason)

def audienceNotAllowed (audience : String) : TokenError :=
  audienceRejected ("aud " ++ quoted audience ++ " not allowed")

def signatureMismatch : TokenError := invalidSignature "Signature mismatch"

def unexpectedAlgorithm : TokenError :=
  invalidSignature "Unexpected signing method: InvalidAlgorithm"

def notYetValid : TokenError := malformed "Token is not valid yet"

def usedBeforeIssued : TokenError := malformed "Token used before issued"

def vetoed (tokenId : String) : TokenError :=
  rejected ("validator rejected token " ++ quoted tokenId)

def invalidTokenHeader : TokenError :=
  internal "Invalid token header value: failed to parse header value"

def invalidCookieValue (name : String) : TokenError :=
  internal ("invalid value for cookie " ++ quoted name)

/-- A cookie that is no header value although its value is a cookie value. -/
def unwritableCookie (name : String) : TokenError :=
  internal ("invalid cookie " ++ quoted name ++ ": failed to parse header value")

end TokenError

end SignedSession
