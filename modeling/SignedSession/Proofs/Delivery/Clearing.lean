import SignedSession.Proofs.Delivery.Writing
import SignedSession.Proofs.Http.Pieces
import SignedSession.Proofs.Response

/-!
Cookies that are taken back. A reset line is made from the settings alone, and all that it says of
where a cookie belongs is what a written line says. Main statements: each line of a clearing
response takes back the cookie of the line written before it; taken apart, it is the list of the
attributes that were set exactly if the domain is one attribute.
-/
namespace SignedSession

open Text SetCookie

namespace Settings

/-- The attributes that are switched on or off, and the path. -/
def switches (s : Settings) : List String :=
  (s.sameSite.map fun site => "SameSite=" ++ site.name).toList ++
    (if s.secureCookies then ["Secure"] else []) ++ ["Path=/"]

def domainAttribute (s : Settings) : List String :=
  if s.cookieDomain = "" then [] else ["Domain=" ++ domainText s.cookieDomain]

/-- Where a cookie belongs. -/
def scope (s : Settings) : List String := s.switches ++ s.domainAttribute

end Settings

namespace SetCookie

/-- What ends a cookie at once. -/
def endings : List String := ["Max-Age=0", "Expires=Thu, 01 Jan 1970 00:00:00 GMT"]

/-- How long a cookie is kept, if not until the browser is closed. -/
def ageAttribute (maxAge : Option Int) : List String :=
  (maxAge.map fun n => "Max-Age=" ++ toString n).toList

/-- Attributes as they stand in a line. -/
def attached (as : List String) : String := String.join (as.map ("; " ++ ·))

theorem attached_append (as bs : List String) :
    attached (as ++ bs) = attached as ++ attached bs := by
  simp [attached]

end SetCookie

namespace Delivery

variable {s : Settings} {d : Delivery} {h h' : HeaderMap} {token : String} {c : Claims}
  {p : Char → Bool}

/-- A written cookie says for how long it is kept, after all that a reset one says. -/
theorem attributes_cookie (s : Settings) (name value : String) (httpOnly : Bool)
    (maxAge : Option Int) : ((ofSettings s).cookie name value httpOnly maxAge).attributes =
      (if httpOnly then ["HttpOnly"] else []) ++ s.scope ++ ageAttribute maxAge := by
  have hended : ((ofSettings s).cookie name value httpOnly maxAge).ended = false := rfl
  simp only [attributes, hended, Bool.false_eq_true, if_false, List.append_nil, Settings.scope,
    Settings.switches, Settings.domainAttribute, ageAttribute, List.append_assoc]
  rfl

theorem attributes_resetCookie (s : Settings) (name : String) :
    ((ofSettings s).resetCookie name).attributes = s.scope ++ endings := by
  simp only [attributes, Settings.scope, Settings.switches, Settings.domainAttribute,
    List.append_assoc]
  rfl

theorem isPiece_of_mem_switches (hp : IsSpacing p) : ∀ a ∈ s.switches, IsPiece p a := by
  intro a ha
  simp only [Settings.switches, List.mem_append, Option.mem_toList, List.mem_singleton] at ha
  rcases ha with (ha | ha) | rfl
  · obtain ⟨site, -, rfl⟩ := Option.map_eq_some_iff.1 ha
    cases site <;> exact isPiece_of_isValue hp (by decide)
  · obtain rfl := List.mem_singleton.1 (List.mem_ite_nil_right.1 ha).2
    exact isPiece_of_isValue hp (by decide)
  · exact isPiece_of_isValue hp (by decide)

theorem isPiece_of_mem_ageAttribute (hp : IsSpacing p) {maxAge : Option Int} :
    ∀ a ∈ ageAttribute maxAge, IsPiece p a := by
  intro a ha
  obtain ⟨n, -, rfl⟩ := Option.map_eq_some_iff.1 (Option.mem_toList.1 ha)
  exact isPiece_of_isValue hp (Cookie.isValue_append.2 ⟨by decide, Cookie.isValue_toString n⟩)

theorem isPiece_of_mem_endings (hp : IsSpacing p) : ∀ a ∈ endings, IsPiece p a := by
  intro a ha
  simp only [endings, List.mem_cons, List.not_mem_nil, or_false] at ha
  rcases ha with rfl | rfl
  · exact isPiece_of_isValue hp (by decide)
  · refine isPiece_of_ends hp (by decide) ?_ ?_ <;> rintro _ ⟨⟩ <;> rfl

theorem flatMap_pieces_domainAttribute (hp : IsSpacing p) :
    s.domainAttribute.flatMap (pieces p) = s.domainAttribute ↔
      IsOneAttribute p s.cookieDomain := by
  unfold Settings.domainAttribute
  by_cases hdomain : s.cookieDomain = ""
  · simp [hdomain, IsOneAttribute]
  · rw [if_neg hdomain, List.flatMap_singleton, pieces_eq_singleton_iff, isPiece_domain_iff hp]

/-- Of a reset line only the domain can become more than one piece. -/
theorem pieces_resetCookie (hp : IsSpacing p) {name : String} (hname : Cookie.IsName name) :
    pieces p ((ofSettings s).resetCookie name).render =
      (name ++ "=") :: (s.switches ++ s.domainAttribute.flatMap (pieces p) ++ endings) := by
  have hempty : Cookie.IsValue ((ofSettings s).resetCookie name).value := rfl
  have hfirst : name ++ "=" ++ "" = name ++ "=" := String.append_empty
  rw [pieces_render hp (c := (ofSettings s).resetCookie name) hname hempty, attributes_resetCookie,
    Settings.scope, List.flatMap_append, List.flatMap_append,
    flatMap_pieces_of_isPiece (isPiece_of_mem_switches hp),
    flatMap_pieces_of_isPiece (isPiece_of_mem_endings hp)]
  exact congrArg (· :: _) hfirst

section

variable {name value : String} (hname : Cookie.IsName name)

include hname

theorem attributeText_cookie (hvalue : Cookie.IsValue value) (httpOnly : Bool)
    (maxAge : Option Int) :
    attributeText ((ofSettings s).cookie name value httpOnly maxAge).render =
      (if httpOnly then "; HttpOnly" else "") ++ attached s.scope ++
        attached (ageAttribute maxAge) := by
  have htext := attributeText_render (c := (ofSettings s).cookie name value httpOnly maxAge)
    hname hvalue
  have hmark : attached (if httpOnly then ["HttpOnly"] else []) =
      if httpOnly then "; HttpOnly" else "" := by
    cases httpOnly <;> rfl
  rw [attributes_cookie] at htext
  rw [htext, ← hmark, ← attached_append, ← attached_append]
  rfl

theorem attributeText_resetCookie : attributeText ((ofSettings s).resetCookie name).render =
    attached s.scope ++ attached endings := by
  have hempty : Cookie.IsValue ((ofSettings s).resetCookie name).value := rfl
  have htext := attributeText_render (c := (ofSettings s).resetCookie name) hname hempty
  rw [htext, attributes_resetCookie]
  exact attached_append s.scope endings

theorem scopeOf_cookie (hp : IsSpacing p) (hvalue : Cookie.IsValue value) (httpOnly : Bool)
    (maxAge : Option Int) :
    scopeOf p ((ofSettings s).cookie name value httpOnly maxAge).render =
      (s.scope.flatMap (pieces p)).filter IsScope := by
  have hscope := scopeOf_render hp (c := (ofSettings s).cookie name value httpOnly maxAge)
    hname hvalue
  have hmark :
      ((if httpOnly then ["HttpOnly"] else []).flatMap (pieces p)).filter IsScope = [] := by
    cases httpOnly with
    | false => rfl
    | true =>
      rw [if_pos rfl, List.flatMap_singleton,
        pieces_eq_singleton_iff.2 (isPiece_of_isValue hp (by decide))]
      decide
  have hage : (ageAttribute maxAge).filter IsScope = [] := by
    cases maxAge with
    | none => rfl
    | some n => simp [ageAttribute, not_isScope_maxAge]
  -- neither what is said before the scope nor what is said after it is part of it
  rw [hscope, attributes_cookie, List.flatMap_append, List.flatMap_append, List.filter_append,
    List.filter_append, flatMap_pieces_of_isPiece (isPiece_of_mem_ageAttribute hp), hmark, hage,
    List.nil_append, List.append_nil]

theorem scopeOf_resetCookie (hp : IsSpacing p) :
    scopeOf p ((ofSettings s).resetCookie name).render =
      (s.scope.flatMap (pieces p)).filter IsScope := by
  have hempty : Cookie.IsValue ((ofSettings s).resetCookie name).value := rfl
  have hscope := scopeOf_render hp (c := (ofSettings s).resetCookie name) hname hempty
  have hendings : endings.filter IsScope = [] := by decide
  rw [hscope, attributes_resetCookie, List.flatMap_append, List.filter_append,
    flatMap_pieces_of_isPiece (isPiece_of_mem_endings hp), hendings, List.append_nil]

end

/-- A reset line takes back the cookie that a written line has set: it has no value under the same
name. What is left of both lines is the same, once each is without its value, the written one
without the mark that keeps it from scripts and without its age, and the reset one without what
ends it; so they agree on where the cookie belongs. -/
structure TakesBack (s : Settings) (name value : String) (httpOnly : Bool) (maxAge : Option Int)
    (written reset : String) : Prop where
  carried_written : carried? written = some (name, value)
  carried_reset : carried? reset = some (name, "")
  text_written : attributeText written = (if httpOnly then "; HttpOnly" else "") ++
    attached s.scope ++ attached (ageAttribute maxAge)
  text_reset : attributeText reset = attached s.scope ++ attached endings
  scope : ∀ p, IsSpacing p → scopeOf p reset = scopeOf p written

theorem takesBack_resetCookie {name value : String} (hname : Cookie.IsName name)
    (hvalue : Cookie.IsValue value) (httpOnly : Bool) (maxAge : Option Int) :
    TakesBack s name value httpOnly maxAge
      ((ofSettings s).cookie name value httpOnly maxAge).render
      ((ofSettings s).resetCookie name).render where
  carried_written :=
    carried?_render (c := (ofSettings s).cookie name value httpOnly maxAge) hname hvalue
  carried_reset := carried?_render (c := (ofSettings s).resetCookie name) hname rfl
  text_written := attributeText_cookie hname hvalue httpOnly maxAge
  text_reset := attributeText_resetCookie hname
  scope p hp := by rw [scopeOf_resetCookie hname hp, scopeOf_cookie hname hp hvalue]

/-- What a clearing takes back. Whatever a write in cookies has set, for a browser's session or for
longer, the clearing after it adds one line for each of the two lines written, in the same order,
and each takes back the cookie of the other. -/
theorem clear_takes_back (hnew : new s = .ok d) (hcookies : s.sendsHeader = false)
    (hw : d.write h token c = .ok h') : ∃ session xsrf sessionReset xsrfReset,
      h'.values .setCookie = h.values .setCookie ++ [session, xsrf] ∧
      (d.clear h').values .setCookie = h'.values .setCookie ++ [sessionReset, xsrfReset] ∧
      TakesBack s s.tokenCookie token true (d.maxAgeFor c) session sessionReset ∧
      TakesBack s s.xsrfCookie c.id false (d.maxAgeFor c) xsrf xsrfReset := by
  have hd := isOf_of_new hnew
  obtain ⟨htoken, hid, -⟩ := (write_eq_ok_iff_isValue hnew hcookies).1 hw
  obtain ⟨hwrites, rfl⟩ := new_eq_ok_iff.1 hnew
  refine ⟨_, _, _, _, values_write_cookies hcookies hw .setCookie, values_clear _ h' .setCookie,
    takesBack_resetCookie hwrites.tokenCookie htoken true _,
    takesBack_resetCookie hwrites.xsrfCookie hid false _⟩

theorem new_manyHosts : new manyHosts = .ok (ofSettings manyHosts) :=
  new_eq_ok_iff.2 ⟨⟨by decide, by decide, by decide, by decide⟩, rfl⟩

/-- A shop on several hosts takes a session back on all of them. -/
theorem clear_takes_back_manyHosts : ∃ h' session xsrf sessionReset xsrfReset,
    (ofSettings manyHosts).write .empty "a.b.c" cunningVisit = .ok h' ∧
    ((ofSettings manyHosts).clear h').values .setCookie =
      [session, xsrf, sessionReset, xsrfReset] ∧
    attributeText session =
      "; HttpOnly; SameSite=Lax; Secure; Path=/; Domain=shop.example; Max-Age=2678400" ∧
    attributeText sessionReset = "; SameSite=Lax; Secure; Path=/; Domain=shop.example" ++
      "; Max-Age=0; Expires=Thu, 01 Jan 1970 00:00:00 GMT" ∧
    carried? sessionReset = some ("JWT", "") ∧
    scopeOf (· == ' ') sessionReset = scopeOf (· == ' ') session := by
  have hwrite := write_of_isValue (c := cunningVisit) new_manyHosts rfl
    (by decide : Cookie.IsValue "a.b.c") (by decide : Cookie.IsValue "Domain=bank.example") .empty
  obtain ⟨session, xsrf, sessionReset, xsrfReset, hwritten, hcleared, htoken, -⟩ :=
    clear_takes_back new_manyHosts rfl hwrite
  rw [hwritten] at hcleared
  exact ⟨_, session, xsrf, sessionReset, xsrfReset, hwrite, hcleared, htoken.text_written.trans rfl,
    htoken.text_reset.trans rfl, htoken.carried_reset, htoken.scope _ isSpacing_space⟩

/-- Clearing, taken apart. Each of the two lines that it adds is a name without a value, the
attributes that are switched on, the path, what the domain becomes and what ends the cookie. The
domain becomes one attribute, and the line the list of the attributes that were set, exactly if it
holds no semicolon and ends in no blank. -/
theorem clear_lists_attributes (hnew : new s = .ok d) (hp : IsSpacing p) (h : HeaderMap) :
    (d.clear h).values .setCookie = h.values .setCookie ++
      [s.tokenCookie, s.xsrfCookie].map (fun name => (d.resetCookie name).render) ∧
    ∀ name ∈ [s.tokenCookie, s.xsrfCookie],
      pieces p (d.resetCookie name).render =
        (name ++ "=") :: (s.switches ++ s.domainAttribute.flatMap (pieces p) ++ endings) ∧
      (pieces p (d.resetCookie name).render = (name ++ "=") :: (s.scope ++ endings) ↔
        IsOneAttribute p s.cookieDomain) := by
  obtain ⟨hwrites, rfl⟩ := new_eq_ok_iff.1 hnew
  refine ⟨values_clear _ h .setCookie, fun name hmem => ?_⟩
  have hname : Cookie.IsName name := by
    simp only [List.mem_cons, List.not_mem_nil, or_false] at hmem
    rcases hmem with rfl | rfl
    · exact hwrites.tokenCookie
    · exact hwrites.xsrfCookie
  have hpieces := pieces_resetCookie (s := s) hp hname
  refine ⟨hpieces, ?_⟩
  rw [hpieces, ← flatMap_pieces_domainAttribute hp, Settings.scope]
  simp

/-- The leading dot of a domain is not written, and the rest is one attribute. -/
theorem clear_lists_attributes_manyHosts :
    pieces isBlank ((ofSettings manyHosts).resetCookie "JWT").render =
      ["JWT=", "SameSite=Lax", "Secure", "Path=/", "Domain=shop.example", "Max-Age=0",
        "Expires=Thu, 01 Jan 1970 00:00:00 GMT"] := by
  have hdomain : IsOneAttribute isBlank manyHosts.cookieDomain := ⟨by decide, by rintro _ ⟨⟩; rfl⟩
  obtain ⟨-, hlists⟩ := clear_lists_attributes new_manyHosts isSpacing_isBlank .empty
  exact ((hlists "JWT" List.mem_cons_self).2.2 hdomain).trans rfl

/-- Settings whose domain goes on behind a semicolon. -/
def cutDomain : Settings := { Settings.default with cookieDomain := "shop.example; Path=/admin" }

/-- A delivery is made of them, and its cookies belong to a path that was never asked for. -/
theorem clear_cutDomain : new cutDomain = .ok (ofSettings cutDomain) ∧
    pieces isBlank ((ofSettings cutDomain).resetCookie "JWT").render =
      ["JWT=", "Path=/", "Domain=shop.example", "Path=/admin", "Max-Age=0",
        "Expires=Thu, 01 Jan 1970 00:00:00 GMT"] ∧
    pieces isBlank ((ofSettings cutDomain).resetCookie "JWT").render ≠
      "JWT=" :: (cutDomain.scope ++ endings) :=
  ⟨new_eq_ok_iff.2 ⟨⟨by decide, by decide, by decide, by decide⟩, rfl⟩, by decide, by decide⟩

end Delivery

end SignedSession
