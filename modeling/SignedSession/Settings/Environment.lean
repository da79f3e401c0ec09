import SignedSession.Settings.Basic
import SignedSession.Text.Basic
import SignedSession.Text.Split

/-!
Settings from named variables, each a text or unset. A variable whose text means nothing leaves
its default, except that a text stands for itself where a name is wanted.
-/
namespace SignedSession.Settings

/-- Why settings cannot be loaded: a number of seconds that no duration can have. -/
inductive LoadError
  | durationTooLong (key : String)
  deriving DecidableEq, Repr

abbrev Lookup := String → Option String

/-- Decimal digits after an optional sign, within a signed 64-bit word. -/
def wordOfChars? (cs : List Char) : Option Int :=
  match cs with
  | '-' :: ds => digits? true ds
  | '+' :: ds => digits? false ds
  | ds => digits? false ds
where
  digits? (negative : Bool) (ds : List Char) : Option Int :=
    if ds ≠ [] ∧ ds.all Char.isDigit then
      let m : Int := Nat.ofDigitChars 10 ds 0
      let n := if negative then -m else m
      if Int64.minValue.toInt ≤ n ∧ n ≤ Int64.maxValue.toInt then some n else none
    else none

/-- A number of seconds, with blanks around it. -/
def secondsOf? (s : String) : Option Int := wordOfChars? (Text.trim s).toList

def isYes (s : String) : Bool :=
  let t := Text.lower (Text.trim s)
  t = "1" || t = "true" || t = "yes"

def sameSiteOf? (s : String) : Option SameSite :=
  let t := Text.lower (Text.trim s)
  if t = "strict" then some .strict
  else if t = "lax" then some .lax
  else if t = "none" then some .none
  else none

/-- The entries between commas without the blanks around them, in upper case; blank entries are
dropped. -/
def methodsOf (s : String) : List String :=
  (((Text.splitAt ',' s.toList).map (Text.strip Text.isBlank)).filter (· ≠ [])).map fun m =>
    Text.upper (String.ofList m)

def name (lookup : Lookup) (key fallback : String) : String := (lookup key).getD fallback

def flag (lookup : Lookup) (key : String) : Bool := ((lookup key).map isYes).getD false

def lifetime (lookup : Lookup) (key : String) (fallback : Duration) : Except LoadError Duration :=
  match (lookup key).bind secondsOf? with
  | none => .ok fallback
  | some s =>
    if s.natAbs ≤ Duration.maxSeconds then .ok (.ofSeconds s) else .error (.durationTooLong key)

/-- The settings that the variables ask for. -/
def load (lookup : Lookup) : Except LoadError Settings := do
  let tokenLifetime ← lifetime lookup "SESSION_TOKEN_DURATION_SECS" default.tokenLifetime
  let cookieLifetime ← lifetime lookup "SESSION_COOKIE_DURATION_SECS" default.cookieLifetime
  .ok {
    secureCookies := flag lookup "SESSION_SECURE_COOKIES"
    tokenLifetime := tokenLifetime
    cookieLifetime := cookieLifetime
    xsrfDisabled := flag lookup "SESSION_DISABLE_XSRF"
    issueTimeDisabled := flag lookup "SESSION_DISABLE_IAT"
    tokenCookie := name lookup "SESSION_JWT_COOKIE_NAME" default.tokenCookie
    cookieDomain := name lookup "SESSION_JWT_COOKIE_DOMAIN" default.cookieDomain
    tokenHeader := name lookup "SESSION_JWT_HEADER_KEY" default.tokenHeader
    xsrfCookie := name lookup "SESSION_XSRF_COOKIE_NAME" default.xsrfCookie
    xsrfHeader := name lookup "SESSION_XSRF_HEADER_KEY" default.xsrfHeader
    exemptMethods := ((lookup "SESSION_XSRF_IGNORE_METHODS").map methodsOf).getD []
    tokenQuery := name lookup "SESSION_JWT_QUERY" default.tokenQuery
    issuer := name lookup "SESSION_ISSUER" default.issuer
    secretPerAudience := flag lookup "SESSION_AUD_SECRETS"
    sendsHeader := flag lookup "SESSION_SEND_JWT_HEADER"
    sameSite := (lookup "SESSION_SAME_SITE").bind sameSiteOf?
    audienceFormat := default.audienceFormat }

end SignedSession.Settings
