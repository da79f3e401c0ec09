import SignedSession.Delivery
import SignedSession.Proofs.Http.Query
import SignedSession.Proofs.Http.SetCookie
import SignedSession.Proofs.Steps

/-!
What the delivery of tokens does: which channel a token is read from, what a new delivery has
checked, and which lines it adds to a response that takes cookies.
-/
namespace SignedSession.Delivery

/-- Where a request carries a token. A channel counts only if those before it carry none. -/
def Carries (d : Delivery) (uri : Uri) (h : HeaderMap) (token : String) : Channel → Prop
  | .query => d.fromQuery? uri = some token
  | .header => d.fromQuery? uri = none ∧ d.fromHeader? h = some token
  | .cookie => d.fromQuery? uri = none ∧ d.fromHeader? h = none ∧ d.fromCookie? h = some token

theorem read_eq_ok_iff {d : Delivery} {uri : Uri} {h : HeaderMap} {t : DeliveredToken} :
    d.read uri h = .ok t ↔ d.Carries uri h t.token t.channel := by
  obtain ⟨token, channel⟩ := t
  unfold read
  cases hq : d.fromQuery? uri with
  | some q => cases channel <;> simp [Carries, hq]
  | none =>
    cases hh : d.fromHeader? h with
    | some q => cases channel <;> simp [Carries, hq, hh]
    | none => cases hc : d.fromCookie? h <;> cases channel <;> simp [Carries, hq, hh, hc]

theorem filled_of_ne {s : String} (h : s ≠ "") : filled s = some s := if_neg h

theorem fromHeader?_of_first? {d : Delivery} {h : HeaderMap} {token : String} (hne : token ≠ "")
    (hr : HeaderValue.IsReadable token) (hf : h.first? d.tokenHeader = some token) :
    d.fromHeader? h = some token := by
  have hreadable : HeaderValue.readable? token = some token := if_pos hr
  rw [fromHeader?, HeaderMap.text?, hf, Option.bind_some, hreadable, Option.bind_some,
    filled_of_ne hne]

theorem fromQuery?_ofPairs {d : Delivery} {ps : List (String × String)} {token : String}
    (hne : token ≠ "") (hl : ps.lookup d.tokenQuery = some token) :
    d.fromQuery? ⟨some (Query.ofPairs ps)⟩ = some token := by
  rw [fromQuery?, Option.bind_some, Query.pairs_ofPairs, hl, Option.bind_some, filled_of_ne hne]

/-- Of all headers only the first value of the token's header can bring a token there. -/
theorem fromHeader?_congr {d : Delivery} {h h' : HeaderMap}
    (hfirst : h'.first? d.tokenHeader = h.first? d.tokenHeader) :
    d.fromHeader? h' = d.fromHeader? h := by
  rw [fromHeader?, fromHeader?, HeaderMap.text?, HeaderMap.text?, hfirst]

/-- A cookie that is the only one is the one of a request. -/
theorem cookies_eq_singleton {h : HeaderMap} {n v : String} (hn : Cookie.IsName n)
    (hv : Cookie.IsValue v) (hl : h.values .cookie = [n ++ "=" ++ v]) : cookies h = [(n, v)] := by
  have hreadable : HeaderValue.readable? (n ++ "=" ++ v) = some (n ++ "=" ++ v) :=
    if_pos (Cookie.isReadable_pair hn hv)
  rw [cookies, hl]
  simp only [List.filterMap_cons, hreadable, List.filterMap_nil, List.flatMap_cons,
    List.flatMap_nil, Cookie.pairs_eq_singleton hn hv, List.append_nil]

/-- The token that the first cookie of the name holds. -/
theorem fromCookie?_of_lookup {d : Delivery} {h : HeaderMap} {token : String} (hne : token ≠ "")
    (hl : (cookies h).lookup d.tokenCookie = some token) : d.fromCookie? h = some token := by
  rw [fromCookie?, hl, Option.bind_some, filled_of_ne hne]

theorem read_of_fromQuery? {d : Delivery} {uri : Uri} {token : String}
    (hq : d.fromQuery? uri = some token) (h : HeaderMap) : d.read uri h = .ok ⟨token, .query⟩ :=
  read_eq_ok_iff.2 hq

theorem read_of_fromHeader? {d : Delivery} {uri : Uri} {h : HeaderMap} {token : String}
    (hq : d.fromQuery? uri = none) (hh : d.fromHeader? h = some token) :
    d.read uri h = .ok ⟨token, .header⟩ :=
  read_eq_ok_iff.2 ⟨hq, hh⟩

theorem read_of_fromCookie? {d : Delivery} {uri : Uri} {h : HeaderMap} {token : String}
    (hq : d.fromQuery? uri = none) (hh : d.fromHeader? h = none)
    (hc : d.fromCookie? h = some token) : d.read uri h = .ok ⟨token, .cookie⟩ :=
  read_eq_ok_iff.2 ⟨hq, hh, hc⟩

theorem checkCookieName_eq_ok_iff {name : String} :
    checkCookieName name = .ok () ↔ Cookie.IsName name := by
  unfold checkCookieName
  split <;> simp [*]

/-- Of all that a reset cookie says, only its name and the domain can be unfit for a header. -/
theorem checkReset_eq_ok_iff {d : Delivery} {name : String} (hname : Cookie.IsName name) :
    d.checkReset name = .ok () ↔ HeaderValue.IsValid (SetCookie.domainText d.domain) := by
  have hcheck : d.checkReset name = .ok () ↔ HeaderValue.IsValid (d.resetCookie name).render := by
    unfold checkReset
    split <;> simp [*]
  have hempty : Cookie.IsValue (d.resetCookie name).value := rfl
  rw [hcheck, SetCookie.isValid_render_iff hname hempty]
  exact SetCookie.isValid_attributes_iff

/-- The names that messages are made of, and the domain, may stand in them. -/
structure CanWrite (s : Settings) : Prop where
  tokenHeader : HeaderName.IsToken s.tokenHeader
  tokenCookie : Cookie.IsName s.tokenCookie
  xsrfCookie : Cookie.IsName s.xsrfCookie
  cookieDomain : HeaderValue.IsValid (SetCookie.domainText s.cookieDomain)

/-- The delivery that is made of settings. -/
def ofSettings (s : Settings) : Delivery where
  tokenCookie := s.tokenCookie
  tokenHeader := ⟨Text.lower s.tokenHeader⟩
  xsrfCookie := s.xsrfCookie
  tokenQuery := s.tokenQuery
  domain := s.cookieDomain
  secure := s.secureCookies
  sameSite := s.sameSite
  cookieLifetime := s.cookieLifetime
  sendsHeader := s.sendsHeader

theorem new_eq_ok_iff {s : Settings} {d : Delivery} :
    new s = .ok d ↔ CanWrite s ∧ d = ofSettings s := by
  unfold new
  constructor
  · intro h
    cases hheader : HeaderName.ofString? s.tokenHeader with
    | none =>
      rw [hheader] at h
      cases h
    | some name =>
      simp only [hheader, bind_eq_ok] at h
      obtain ⟨_, htoken, _, hxsrf, _, hreset, _, -, h⟩ := h
      obtain ⟨hvalid, hlower⟩ := Option.ite_none_right_eq_some.1 hheader
      cases hlower
      have hname := checkCookieName_eq_ok_iff.1 htoken
      have hdomain := (checkReset_eq_ok_iff hname).1 hreset
      cases h
      exact ⟨⟨hvalid, hname, checkCookieName_eq_ok_iff.1 hxsrf, hdomain⟩, rfl⟩
  · rintro ⟨h, rfl⟩
    have hheader : HeaderName.ofString? s.tokenHeader = some ⟨Text.lower s.tokenHeader⟩ :=
      if_pos h.tokenHeader
    have hreset : ∀ name, Cookie.IsName name → (ofSettings s).checkReset name = .ok () :=
      fun name hname => (checkReset_eq_ok_iff hname).2 h.cookieDomain
    simp only [hheader, checkCookieName_eq_ok_iff.2 h.tokenCookie,
      checkCookieName_eq_ok_iff.2 h.xsrfCookie, ok_bind]
    change ((ofSettings s).checkReset s.tokenCookie >>= fun _ =>
      (ofSettings s).checkReset s.xsrfCookie >>= fun _ => .ok (ofSettings s)) = .ok (ofSettings s)
    rw [hreset _ h.tokenCookie, hreset _ h.xsrfCookie]
    rfl

theorem new_default : new .default = .ok (ofSettings .default) :=
  new_eq_ok_iff.2 ⟨⟨by decide, by decide, by decide, by decide⟩, rfl⟩

/-- The settings that a delivery is made of, and their names, which may stand in a cookie. -/
structure IsOf (d : Delivery) (s : Settings) : Prop where
  tokenCookie : d.tokenCookie = s.tokenCookie
  xsrfCookie : d.xsrfCookie = s.xsrfCookie
  sendsHeader : d.sendsHeader = s.sendsHeader
  isName_tokenCookie : Cookie.IsName s.tokenCookie
  isName_xsrfCookie : Cookie.IsName s.xsrfCookie

theorem isOf_of_new {s : Settings} {d : Delivery} (h : new s = .ok d) : d.IsOf s := by
  obtain ⟨hwrites, rfl⟩ := new_eq_ok_iff.1 h
  exact ⟨rfl, rfl, rfl, hwrites.tokenCookie, hwrites.xsrfCookie⟩

/-- Settings that a delivery cannot be made of are reported as such. -/
theorem new_failsOnly (s : Settings) :
    FailsOnly (fun e => ∃ detail, e = .config detail) (new s) := by
  unfold new
  cases HeaderName.ofString? s.tokenHeader with
  | none => exact .error ⟨_, rfl⟩
  | some name =>
    refine .bind (.ite (.ok _ ()) (.error ⟨_, rfl⟩)) fun _ _ => ?_
    refine .bind (.ite (.ok _ ()) (.error ⟨_, rfl⟩)) fun _ _ => ?_
    refine .bind (.ite (.ok _ ()) (.error ⟨_, rfl⟩)) fun _ _ => ?_
    exact .bind (.ite (.ok _ ()) (.error ⟨_, rfl⟩)) fun _ _ => .ok _ _

theorem setCookie_eq_ok_iff {d : Delivery} {name value line : String} {httpOnly : Bool}
    {maxAge : Option Int} : d.setCookie name value httpOnly maxAge = .ok line ↔
      Cookie.IsValue value ∧ HeaderValue.IsValid (d.cookie name value httpOnly maxAge).render ∧
        line = (d.cookie name value httpOnly maxAge).render := by
  unfold setCookie
  simp only [guard_eq_ok, Decidable.not_not, Except.ok.injEq, eq_comm (a := line)]

/-- Without the header, the token and the id go out in two lines that set cookies. -/
theorem write_eq_ok_iff {d : Delivery} (hd : d.sendsHeader = false) {h h' : HeaderMap}
    {token : String} {c : Claims} : d.write h token c = .ok h' ↔ ∃ session xsrf,
      d.setCookie d.tokenCookie token true (d.maxAgeFor c) = .ok session ∧
      d.setCookie d.xsrfCookie c.id false (d.maxAgeFor c) = .ok xsrf ∧
      h' = (h.append .setCookie session).append .setCookie xsrf := by
  unfold write
  rw [hd]
  simp only [Bool.false_eq_true, if_false, bind_eq_ok, Except.ok.injEq]
  constructor
  · rintro ⟨session, hs, xsrf, hx, rfl⟩
    exact ⟨session, xsrf, hs, hx, rfl⟩
  · rintro ⟨session, xsrf, hs, hx, rfl⟩
    exact ⟨session, hs, xsrf, hx, rfl⟩

/-- With the header, the token takes the place of the one before. -/
theorem write_eq_ok_iff_of_sendsHeader {d : Delivery} (hd : d.sendsHeader = true)
    {h h' : HeaderMap} {token : String} {c : Claims} : d.write h token c = .ok h' ↔
      HeaderValue.IsValid token ∧ h' = h.insert d.tokenHeader token := by
  unfold write
  rw [hd]
  by_cases hvalid : HeaderValue.IsValid token <;> simp [hvalid, eq_comm]

end SignedSession.Delivery
