import SignedSession.Claims.Printer
import SignedSession.Time

/-!
The settings of a session service: names, lifetimes and switches. An empty name or a zero lifetime
means that none was chosen; `withDefaults` chooses one.
-/
namespace SignedSession

/-- Whether a browser sends a cookie with requests from other sites. -/
inductive SameSite
  | strict
  | lax
  | none
  deriving DecidableEq, Repr

def SameSite.name : SameSite → String
  | strict => "Strict"
  | lax => "Lax"
  | none => "None"

structure Settings where
  secureCookies : Bool
  /-- How long a new token is valid. -/
  tokenLifetime : Duration
  /-- How long a browser keeps a cookie that outlives its session. -/
  cookieLifetime : Duration
  xsrfDisabled : Bool
  /-- Leaves out the time of issue. -/
  issueTimeDisabled : Bool
  tokenCookie : String
  /-- The domain of the cookies, empty for the host alone. -/
  cookieDomain : String
  tokenHeader : String
  xsrfCookie : String
  xsrfHeader : String
  /-- The methods exempt from the double-submit check. -/
  exemptMethods : List String
  tokenQuery : String
  issuer : String
  /-- Every audience has a secret of its own. -/
  secretPerAudience : Bool
  /-- Tokens leave in a header instead of cookies. -/
  sendsHeader : Bool
  sameSite : Option SameSite
  audienceFormat : AudienceFormat
  deriving DecidableEq, Repr

namespace Settings

def default : Settings where
  secureCookies := false
  tokenLifetime := .ofMinutes 15
  cookieLifetime := .ofDays 31
  xsrfDisabled := false
  issueTimeDisabled := false
  tokenCookie := "JWT"
  cookieDomain := ""
  tokenHeader := "X-JWT"
  xsrfCookie := "XSRF-TOKEN"
  xsrfHeader := "X-XSRF-TOKEN"
  exemptMethods := []
  tokenQuery := "token"
  issuer := "session-token"
  secretPerAudience := false
  sendsHeader := false
  sameSite := none
  audienceFormat := .text

instance : Inhabited Settings := ⟨default⟩

/-- The second name if the first is empty. -/
def nameOr (name fallback : String) : String := if name = "" then fallback else name

/-- The second duration if the first is zero. -/
def lifetimeOr (d fallback : Duration) : Duration := if d = .zero then fallback else d

/-- Chooses the default wherever nothing was chosen. Having no cookie domain is a choice. -/
def withDefaults (s : Settings) : Settings :=
  { s with
    tokenLifetime := lifetimeOr s.tokenLifetime default.tokenLifetime
    cookieLifetime := lifetimeOr s.cookieLifetime default.cookieLifetime
    tokenCookie := nameOr s.tokenCookie default.tokenCookie
    tokenHeader := nameOr s.tokenHeader default.tokenHeader
    xsrfCookie := nameOr s.xsrfCookie default.xsrfCookie
    xsrfHeader := nameOr s.xsrfHeader default.xsrfHeader
    tokenQuery := nameOr s.tokenQuery default.tokenQuery
    issuer := nameOr s.issuer default.issuer }

end Settings

end SignedSession
