import SignedSession.Proofs.Delivery

/-!
Cookies as they are written. A new delivery has tried out its names and its domain, so a line can
only be refused for the value in it, and that value ends where the attributes begin. Main
statement: the attributes of a written cookie say nothing of the token or its claims but whether
the cookie ends with the browser's session.
-/
namespace SignedSession

/-- Claims whose cookies end with the browser's session. -/
def Claims.EndsWithBrowser (c : Claims) : Prop := c.sessionOnly ∨ c.handshake.isSome

namespace Delivery

variable {s : Settings} {d : Delivery} {h h' : HeaderMap} {token : String} {c c' : Claims}

/-- The line that sets the session cookie. -/
def sessionLine (d : Delivery) (token : String) (c : Claims) : String :=
  (d.cookie d.tokenCookie token true (d.maxAgeFor c)).render

/-- The line that shows the id. -/
def xsrfLine (d : Delivery) (c : Claims) : String :=
  (d.cookie d.xsrfCookie c.id false (d.maxAgeFor c)).render

/-- The attributes of a cookie that scripts may read. -/
def openAttributes (d : Delivery) (maxAge : Option Int) : String :=
  String.join ((d.cookie "" "" false maxAge).attributes.map ("; " ++ ·))

theorem isName_tokenCookie (hnew : new s = .ok d) : Cookie.IsName d.tokenCookie := by
  have hd := isOf_of_new hnew
  exact hd.tokenCookie ▸ hd.isName_tokenCookie

theorem isName_xsrfCookie (hnew : new s = .ok d) : Cookie.IsName d.xsrfCookie := by
  have hd := isOf_of_new hnew
  exact hd.xsrfCookie ▸ hd.isName_xsrfCookie

/-- A domain that could be written once can be written again, beside any value and any age. -/
theorem isValid_line (hnew : new s = .ok d) {name value : String} (hname : Cookie.IsName name)
    (hvalue : Cookie.IsValue value) (httpOnly : Bool) (maxAge : Option Int) :
    HeaderValue.IsValid (d.cookie name value httpOnly maxAge).render := by
  obtain ⟨hwrites, rfl⟩ := new_eq_ok_iff.1 hnew
  exact SetCookie.isValid_render hname hvalue
    (SetCookie.isValid_attributes_iff.2 hwrites.cookieDomain)

theorem setCookie_of_isValue (hnew : new s = .ok d) {name value : String}
    (hname : Cookie.IsName name) (hvalue : Cookie.IsValue value) (httpOnly : Bool)
    (maxAge : Option Int) : d.setCookie name value httpOnly maxAge =
      .ok (d.cookie name value httpOnly maxAge).render :=
  setCookie_eq_ok_iff.2 ⟨hvalue, isValid_line hnew hname hvalue httpOnly maxAge, rfl⟩

theorem setCookie_of_not_isValue {name value : String} (hvalue : ¬ Cookie.IsValue value)
    (httpOnly : Bool) (maxAge : Option Int) :
    d.setCookie name value httpOnly maxAge = .error (.invalidCookieValue name) :=
  if_pos hvalue

section

variable (hnew : new s = .ok d) (hcookies : s.sendsHeader = false)

include hnew hcookies

theorem write_of_isValue (htoken : Cookie.IsValue token) (hid : Cookie.IsValue c.id)
    (h : HeaderMap) : d.write h token c =
      .ok ((h.append .setCookie (d.sessionLine token c)).append .setCookie (d.xsrfLine c)) := by
  have hsession := setCookie_of_isValue hnew (isName_tokenCookie hnew) htoken true (d.maxAgeFor c)
  have hxsrf := setCookie_of_isValue hnew (isName_xsrfCookie hnew) hid false (d.maxAgeFor c)
  exact (write_eq_ok_iff ((isOf_of_new hnew).sendsHeader.trans hcookies)).2
    ⟨_, _, hsession, hxsrf, rfl⟩

theorem write_of_not_isValue (htoken : ¬ Cookie.IsValue token) (h : HeaderMap) (c : Claims) :
    d.write h token c = .error (.invalidCookieValue s.tokenCookie) := by
  have hd := isOf_of_new hnew
  rw [write, hd.sendsHeader.trans hcookies, setCookie_of_not_isValue htoken, hd.tokenCookie]
  rfl

theorem write_of_not_isValue_id (htoken : Cookie.IsValue token) (hid : ¬ Cookie.IsValue c.id)
    (h : HeaderMap) : d.write h token c = .error (.invalidCookieValue s.xsrfCookie) := by
  have hd := isOf_of_new hnew
  rw [write, hd.sendsHeader.trans hcookies,
    setCookie_of_isValue hnew (isName_tokenCookie hnew) htoken, setCookie_of_not_isValue hid,
    hd.xsrfCookie]
  rfl

/-- In cookies a write is refused for the token or the id, and for nothing else. -/
theorem write_eq_ok_iff_isValue : d.write h token c = .ok h' ↔
    Cookie.IsValue token ∧ Cookie.IsValue c.id ∧
      h' = (h.append .setCookie (d.sessionLine token c)).append .setCookie (d.xsrfLine c) := by
  constructor
  · intro hw
    by_cases htoken : Cookie.IsValue token
    · by_cases hid : Cookie.IsValue c.id
      · rw [write_of_isValue hnew hcookies htoken hid] at hw
        exact ⟨htoken, hid, (Except.ok.inj hw).symm⟩
      · rw [write_of_not_isValue_id hnew hcookies htoken hid] at hw
        cases hw
    · rw [write_of_not_isValue hnew hcookies htoken] at hw
      cases hw
  · rintro ⟨htoken, hid, rfl⟩
    exact write_of_isValue hnew hcookies htoken hid h

end

/-- Of all that claims say only one thing counts for the age of their cookies. -/
theorem maxAgeFor_congr (hends : c'.EndsWithBrowser ↔ c.EndsWithBrowser) :
    d.maxAgeFor c' = d.maxAgeFor c := by
  unfold maxAgeFor
  unfold Claims.EndsWithBrowser at hends
  simp only [hends]

theorem attributeText_sessionLine (hnew : new s = .ok d) (htoken : Cookie.IsValue token)
    (c : Claims) : SetCookie.attributeText (d.sessionLine token c) =
      "; HttpOnly" ++ d.openAttributes (d.maxAgeFor c) := by
  have htext := SetCookie.attributeText_render
    (c := d.cookie d.tokenCookie token true (d.maxAgeFor c)) (isName_tokenCookie hnew) htoken
  exact htext.trans String.join_cons

theorem attributeText_xsrfLine (hnew : new s = .ok d) (hid : Cookie.IsValue c.id) :
    SetCookie.attributeText (d.xsrfLine c) = d.openAttributes (d.maxAgeFor c) :=
  SetCookie.attributeText_render (c := d.cookie d.xsrfCookie c.id false (d.maxAgeFor c))
    (isName_xsrfCookie hnew) hid

/-- What a write in cookies lets through. Each of its two lines is cut into the name, the value and
the attributes, whatever the value is. The attributes are those of every other write whose cookies
end with the browser's session if these do; one more keeps the session cookie from scripts. -/
theorem attributes_of_write (hnew : new s = .ok d) (hcookies : s.sendsHeader = false)
    (hw : d.write h token c = .ok h') :
    h' = (h.append .setCookie (d.sessionLine token c)).append .setCookie (d.xsrfLine c) ∧
    SetCookie.carried? (d.sessionLine token c) = some (s.tokenCookie, token) ∧
    SetCookie.carried? (d.xsrfLine c) = some (s.xsrfCookie, c.id) ∧
    SetCookie.attributeText (d.sessionLine token c) =
      "; HttpOnly" ++ SetCookie.attributeText (d.xsrfLine c) ∧
    ∀ g g' token' c', d.write g token' c' = .ok g' → (c'.EndsWithBrowser ↔ c.EndsWithBrowser) →
      SetCookie.attributeText (d.sessionLine token' c') =
        SetCookie.attributeText (d.sessionLine token c) ∧
      SetCookie.attributeText (d.xsrfLine c') = SetCookie.attributeText (d.xsrfLine c) := by
  have hd := isOf_of_new hnew
  obtain ⟨htoken, hid, hlines⟩ := (write_eq_ok_iff_isValue hnew hcookies).1 hw
  have hsession := SetCookie.carried?_render
    (c := d.cookie d.tokenCookie token true (d.maxAgeFor c)) (isName_tokenCookie hnew) htoken
  have hxsrf := SetCookie.carried?_render
    (c := d.cookie d.xsrfCookie c.id false (d.maxAgeFor c)) (isName_xsrfCookie hnew) hid
  rw [← hd.tokenCookie, ← hd.xsrfCookie]
  refine ⟨hlines, hsession, hxsrf, ?_, ?_⟩
  · rw [attributeText_sessionLine hnew htoken, attributeText_xsrfLine hnew hid]
  · intro g g' token' c' hw' hends
    obtain ⟨htoken', hid', -⟩ := (write_eq_ok_iff_isValue hnew hcookies).1 hw'
    rw [attributeText_sessionLine hnew htoken', attributeText_sessionLine hnew htoken,
      attributeText_xsrfLine hnew hid', attributeText_xsrfLine hnew hid, maxAgeFor_congr hends]
    exact ⟨rfl, rfl⟩

/-- Settings for a shop on several hosts. -/
def manyHosts : Settings :=
  { Settings.default with
    cookieDomain := ".shop.example", secureCookies := true, sameSite := some .lax }

def cunningVisit : Claims := .new "Domain=bank.example"

/-- A token and an id that read like attributes are values like others. -/
theorem attributes_of_write_manyHosts :
    (∃ h', (ofSettings manyHosts).write .empty "Path=/=" cunningVisit = .ok h') ∧
    SetCookie.carried? ((ofSettings manyHosts).sessionLine "Path=/=" cunningVisit) =
      some ("JWT", "Path=/=") ∧
    SetCookie.carried? ((ofSettings manyHosts).xsrfLine cunningVisit) =
      some ("XSRF-TOKEN", "Domain=bank.example") ∧
    SetCookie.attributeText ((ofSettings manyHosts).xsrfLine (.new "id-1")) =
      SetCookie.attributeText ((ofSettings manyHosts).xsrfLine cunningVisit) := by
  have hnew : new manyHosts = .ok (ofSettings manyHosts) :=
    new_eq_ok_iff.2 ⟨⟨by decide, by decide, by decide, by decide⟩, rfl⟩
  have hcunning := write_of_isValue (c := cunningVisit) hnew rfl
    (by decide : Cookie.IsValue "Path=/=") (by decide : Cookie.IsValue "Domain=bank.example") .empty
  have hplain := write_of_isValue (c := .new "id-1") hnew rfl (by decide : Cookie.IsValue "a.b.c")
    (by decide : Cookie.IsValue "id-1") .empty
  obtain ⟨-, hsession, hxsrf, -, hsame⟩ := attributes_of_write hnew rfl hcunning
  exact ⟨⟨_, hcunning⟩, hsession, hxsrf, (hsame _ _ _ _ hplain Iff.rfl).2⟩

end Delivery

end SignedSession
