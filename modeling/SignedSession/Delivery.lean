import SignedSession.Claims.Basic
import SignedSession.Error
import SignedSession.Http.Cookie
import SignedSession.Http.Header
import SignedSession.Http.Uri

/-!
How tokens travel over HTTP. They come in the query, in a header or in a cookie, looked for in
that order; they leave in a header, or in a cookie for the browser alone together with a second
one that shows the token id to scripts.
-/
namespace SignedSession

inductive Channel
  | query
  | header
  | cookie
  deriving DecidableEq, Repr

def Channel.name : Channel → String
  | query => "query"
  | header => "header"
  | cookie => "cookie"

/-- A token and the channel it came by. -/
structure DeliveredToken where
  token : String
  channel : Channel
  deriving DecidableEq, Repr

/-- Names and attributes for the messages of a service. -/
structure Delivery where
  tokenCookie : String
  tokenHeader : HeaderName
  xsrfCookie : String
  tokenQuery : String
  domain : String
  secure : Bool
  sameSite : Option SameSite
  cookieLifetime : Duration
  sendsHeader : Bool
  deriving DecidableEq, Repr

namespace Delivery

/-- A cookie with the attributes that all cookies here share. -/
def cookie (d : Delivery) (name value : String) (httpOnly : Bool) (maxAge : Option Int) :
    SetCookie where
  name := name
  value := value
  httpOnly := httpOnly
  sameSite := d.sameSite
  secure := d.secure
  domain := d.domain
  maxAge := maxAge
  ended := false

/-- A cookie that takes the place of the one of its name and ends at once. -/
def resetCookie (d : Delivery) (name : String) : SetCookie :=
  { d.cookie name "" false (some 0) with ended := true }

def checkCookieName (name : String) : Except TokenError Unit :=
  if Cookie.IsName name then .ok () else .error (.invalidCookieName name)

def checkReset (d : Delivery) (name : String) : Except TokenError Unit :=
  if HeaderValue.IsValid (d.resetCookie name).render then .ok () else .error (.invalidCookie name)

/-- Refuses a token header, cookie names and a domain that may not stand in a message. -/
def new (s : Settings) : Except TokenError Delivery := do
  let some header := HeaderName.ofString? s.tokenHeader
    | .error (.invalidHeaderName s.tokenHeader)
  checkCookieName s.tokenCookie
  checkCookieName s.xsrfCookie
  let d : Delivery :=
    { tokenCookie := s.tokenCookie
      tokenHeader := header
      xsrfCookie := s.xsrfCookie
      tokenQuery := s.tokenQuery
      domain := s.cookieDomain
      secure := s.secureCookies
      sameSite := s.sameSite
      cookieLifetime := s.cookieLifetime
      sendsHeader := s.sendsHeader }
  d.checkReset s.tokenCookie
  d.checkReset s.xsrfCookie
  .ok d

/-- A value, unless it is empty. -/
def filled (s : String) : Option String := if s = "" then none else some s

/-- The value of the first pair of the query that has the token's name. -/
def fromQuery? (d : Delivery) (uri : Uri) : Option String :=
  uri.query.bind fun q => ((Query.pairs q).lookup d.tokenQuery).bind filled

/-- The first value of the token's header. -/
def fromHeader? (d : Delivery) (h : HeaderMap) : Option String :=
  (h.text? d.tokenHeader).bind filled

/-- The cookies of all readable cookie headers. -/
def cookies (h : HeaderMap) : List (String × String) :=
  ((h.values .cookie).filterMap HeaderValue.readable?).flatMap Cookie.pairs

/-- The value of the first cookie that has the token's name. -/
def fromCookie? (d : Delivery) (h : HeaderMap) : Option String :=
  ((cookies h).lookup d.tokenCookie).bind filled

/-- Finds the token of a request. -/
def read (d : Delivery) (uri : Uri) (h : HeaderMap) : Except TokenError DeliveredToken :=
  match d.fromQuery? uri with
  | some t => .ok ⟨t, .query⟩
  | none =>
    match d.fromHeader? h with
    | some t => .ok ⟨t, .header⟩
    | none =>
      match d.fromCookie? h with
      | some t => .ok ⟨t, .cookie⟩
      | none => .error .tokenNotFound

/-- The header value that sets a cookie. -/
def setCookie (d : Delivery) (name value : String) (httpOnly : Bool) (maxAge : Option Int) :
    Except TokenError String :=
  let line := (d.cookie name value httpOnly maxAge).render
  if ¬ Cookie.IsValue value then .error (.invalidCookieValue name)
  else if ¬ HeaderValue.IsValid line then .error (.unwritableCookie name)
  else .ok line

/-- How long a browser keeps the cookies of claims; until it is closed if they are for its session
or in the middle of a login. -/
def maxAgeFor (d : Delivery) (c : Claims) : Option Int :=
  if c.sessionOnly ∨ c.handshake.isSome then none else some d.cookieLifetime.wholeSeconds

/-- Adds a token to a response, in the header or in both cookies. -/
def write (d : Delivery) (h : HeaderMap) (token : String) (c : Claims) :
    Except TokenError HeaderMap :=
  if d.sendsHeader then
    if HeaderValue.IsValid token then .ok (h.insert d.tokenHeader token)
    else .error .invalidTokenHeader
  else do
    let session ← d.setCookie d.tokenCookie token true (d.maxAgeFor c)
    let xsrf ← d.setCookie d.xsrfCookie c.id false (d.maxAgeFor c)
    .ok ((h.append .setCookie session).append .setCookie xsrf)

/-- Adds reset cookies to a response. -/
def clear (d : Delivery) (h : HeaderMap) : HeaderMap :=
  (h.append .setCookie (d.resetCookie d.tokenCookie).render).append .setCookie
    (d.resetCookie d.xsrfCookie).render

end Delivery

end SignedSession
