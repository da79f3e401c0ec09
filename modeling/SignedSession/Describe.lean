import SignedSession.Hooks
import SignedSession.Settings.Basic

/-!
Texts that describe a configuration for a log. They tell which hooks are set and hide secrets.
-/
namespace SignedSession.Describe

open Text

def flag (b : Bool) : String := if b then "true" else "false"

/-- Named parts in braces behind the name of the whole. -/
def record (name : String) (fields : List (String × String)) : String :=
  name ++ " \x7b " ++ ", ".intercalate (fields.map fun f => f.1 ++ ": " ++ f.2) ++ " \x7d"

def list (items : List String) : String := "[" ++ ", ".intercalate items ++ "]"

def option : Option String → String
  | none => "None"
  | some s => "Some(" ++ s ++ ")"

/-- Seconds rounded down, and the nanoseconds above them. -/
def duration (d : Duration) : String :=
  record "TimeDelta" [("secs", toString (d.nanos.fdiv 1000000000)),
    ("nanos", toString (d.nanos.fmod 1000000000))]

def audienceFormat : AudienceFormat → String
  | .text => "String"
  | .list => "Array"

/-- Stands in place of a secret. -/
def redacted : String := quoted "[REDACTED]"

def secrets (h : Hooks) : String := option (h.secrets.map fun _ => redacted)

def configuration (s : Settings) (h : Hooks) : String :=
  record "SessionConfig"
    [("secret_reader", secrets h),
      ("audience_reader", flag h.audiences.isSome),
      ("claims_updater", flag h.update.isSome),
      ("secure_cookies", flag s.secureCookies),
      ("token_duration", duration s.tokenLifetime),
      ("cookie_duration", duration s.cookieLifetime),
      ("disable_xsrf", flag s.xsrfDisabled),
      ("disable_iat", flag s.issueTimeDisabled),
      ("jwt_cookie_name", quoted s.tokenCookie),
      ("jwt_cookie_domain", quoted s.cookieDomain),
      ("jwt_header_key", quoted s.tokenHeader),
      ("xsrf_cookie_name", quoted s.xsrfCookie),
      ("xsrf_header_key", quoted s.xsrfHeader),
      ("xsrf_ignore_methods", list (s.exemptMethods.map quoted)),
      ("jwt_query", quoted s.tokenQuery),
      ("issuer", quoted s.issuer),
      ("aud_secrets", flag s.secretPerAudience),
      ("send_jwt_header", flag s.sendsHeader),
      ("same_site", option (s.sameSite.map SameSite.name)),
      ("audience_format", audienceFormat s.audienceFormat)]

/-- How the secret of a token is chosen. -/
def resolver (s : Settings) (h : Hooks) : String :=
  record "AudienceSecretResolver"
    [("reader", secrets h), ("mode", if s.secretPerAudience then "PerAudience" else "Single")]

/-- How tokens are signed and verified. -/
def codec (s : Settings) (h : Hooks) : String :=
  record "TokenCodec"
    [("audience_format", audienceFormat s.audienceFormat), ("resolver", resolver s h),
      ("audience_reader", flag h.audiences.isSome), ("claims_updater", flag h.update.isSome)]

def fixedSecret : String := "StaticSecret(" ++ redacted ++ ")"

/-- The audiences of a table, without their secrets. -/
def secretTable (t : SecretTable) : String :=
  record "AudienceSecrets" [("audiences", list (t.audiences.map quoted))]

end SignedSession.Describe
