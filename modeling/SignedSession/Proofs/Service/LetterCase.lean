import SignedSession.Proofs.Delivery.EmptyValues
import SignedSession.Proofs.Service.Renewal
import SignedSession.Proofs.Settings.ExemptMethods

/-!
Letter case. The names of headers and the exempt methods mean the same in any letter case, wherever
they are written; the names of cookies and of the query's parameter do not. Main statement: services
and requests that differ in how they spell header names and methods behave alike, and what else
differs must stand under the very names that were chosen to make a difference.
-/
namespace SignedSession

open Text

namespace HeaderName

theorem isTokenChar_toLower (c : Char) : isTokenChar c.toLower = isTokenChar c :=
  apply_eq_of_ascii (by decide) toLower_of_le c

theorem isToken_lower {s : String} : IsToken (lower s) ↔ IsToken s := by
  simp only [IsToken, toList_lower, List.all_map, Function.comp_def, isTokenChar_toLower,
    List.length_map, ne_eq, List.map_eq_nil_iff]

theorem ofString?_lower (s : String) : ofString? (lower s) = ofString? s := by
  simp only [ofString?, isToken_lower, lower_lower]

end HeaderName

namespace HeaderMap

/-- Lines with their names in lower case. -/
def folded (lines : List (String × String)) : List (String × String) :=
  lines.map fun line => (lower line.1, line.2)

/-- A message is made of its lines whatever the letter case of their names. -/
theorem ofPairs?_folded (lines : List (String × String)) :
    ofPairs? (folded lines) = ofPairs? lines := by
  have hline : ∀ line : String × String,
      ofPairs?.line? (lower line.1, line.2) = ofPairs?.line? line := by
    intro line
    rw [ofPairs?.line?, ofPairs?.line?, HeaderName.ofString?_lower]
  rw [ofPairs?, ofPairs?, folded, List.mapM_map]
  simp only [Function.comp_def, hline]

end HeaderMap

namespace Settings

/-- Settings with the names of headers and the exempt methods in lower case. -/
def folded (s : Settings) : Settings :=
  { s with
    tokenHeader := lower s.tokenHeader
    xsrfHeader := lower s.xsrfHeader
    exemptMethods := s.exemptMethods.map lower }

theorem lower_nameOr_lower (name fallback : String) :
    lower (nameOr (lower name) fallback) = lower (nameOr name fallback) := by
  unfold nameOr
  by_cases hname : name = ""
  · rw [if_pos hname, if_pos (lower_eq_empty_iff.2 hname)]
  · rw [if_neg hname, if_neg (mt lower_eq_empty_iff.1 hname), lower_lower]

/-- The letter case of what was chosen makes no difference to what is chosen by default. -/
theorem folded_withDefaults (s : Settings) :
    s.folded.withDefaults.folded = s.withDefaults.folded := by
  simp [folded, withDefaults, lower_nameOr_lower]

theorem folded_withDefaults_congr {s s' : Settings} (h : s'.folded = s.folded) :
    s'.withDefaults.folded = s.withDefaults.folded := by
  rw [← folded_withDefaults s', h, folded_withDefaults]

end Settings

namespace Delivery

theorem ofSettings_folded (s : Settings) : ofSettings s.folded = ofSettings s := by
  rw [ofSettings, ofSettings]
  simp only [Settings.folded, lower_lower]

variable {d : Delivery} {uri : Uri} {h : HeaderMap} {token : String}

theorem eq_of_bind_filled {o : Option String} (h : o.bind filled = some token) :
    o = some token := by
  obtain ⟨value, hvalue, hfilled⟩ := Option.bind_eq_some_iff.1 h
  rw [hvalue, (Option.ite_none_left_eq_some.1 hfilled).2]

/-- A token in the query is the value of the first pair of the very name. -/
theorem exists_lookup_of_read (hread : d.read uri h = .ok ⟨token, .query⟩) :
    ∃ q, uri.query = some q ∧ (Query.pairs q).lookup d.tokenQuery = some token := by
  have hquery : d.fromQuery? uri = some token := read_eq_ok_iff.1 hread
  obtain ⟨q, hq, hvalue⟩ := Option.bind_eq_some_iff.1 hquery
  exact ⟨q, hq, eq_of_bind_filled hvalue⟩

/-- A token in a cookie is the value of the first cookie of the very name. -/
theorem lookup_of_read (hread : d.read uri h = .ok ⟨token, .cookie⟩) :
    (cookies h).lookup d.tokenCookie = some token := by
  obtain ⟨-, -, hcookie⟩ := read_eq_ok_iff.1 hread
  exact eq_of_bind_filled hcookie

end Delivery

namespace DoubleSubmit

variable {g : DoubleSubmit} {h h' : HeaderMap}

/-- A guard looks for the id under its header's name alone. -/
theorem supplied_congr
    (hvalues : ∀ name, HeaderName.ofString? g.headerKey = some name →
      h'.values name = h.values name) : g.supplied h' = g.supplied h := by
  unfold supplied
  cases hname : HeaderName.ofString? g.headerKey with
  | none => rfl
  | some name =>
    rw [Option.bind_some, Option.bind_some, HeaderMap.text?, HeaderMap.text?, HeaderMap.first?,
      HeaderMap.first?, hvalues name hname]

theorem check_folded (s : Settings) (method : String) (h : HeaderMap) (c : Claims)
    (channel : Channel) :
    (new s.folded).check method h c channel = (new s).check method h c channel := by
  have hexempt : ∀ method, (new s.folded).Exempts method ↔ (new s).Exempts method :=
    exempts_iff_of_map lower_lower rfl
  have hdisabled : (new s.folded).disabled = (new s).disabled := rfl
  refine check_eq_of_supplied hdisabled ?_ hexempt method c channel
  have hname : HeaderName.ofString? (new s.folded).headerKey =
      HeaderName.ofString? (new s).headerKey := HeaderName.ofString?_lower s.xsrfHeader
  rw [supplied, supplied, hname]

end DoubleSubmit

namespace Service

variable {s s' : Settings} {hooks : Hooks} {svc svc' : Service} {now : Instant}

/-- Two services whose parts do the same. -/
structure ActsLike (svc svc' : Service) : Prop where
  codec : svc'.codec = svc.codec
  delivery : svc'.delivery = svc.delivery
  check : svc'.guard.check = svc.guard.check
  tokenLifetime : svc'.settings.tokenLifetime = svc.settings.tokenLifetime
  issuer : svc'.settings.issuer = svc.settings.issuer
  issueTimeDisabled : svc'.settings.issueTimeDisabled = svc.settings.issueTimeDisabled

theorem actsLike_of_folded (hnew : new s hooks = .ok svc) (hnew' : new s' hooks = .ok svc')
    (hcase : s'.folded = s.folded) : svc.ActsLike svc' := by
  have hsettings := Settings.folded_withDefaults_congr hcase
  obtain ⟨-, rfl⟩ := new_eq_ok_iff_canWrite.1 hnew
  obtain ⟨-, rfl⟩ := new_eq_ok_iff_canWrite.1 hnew'
  refine ⟨?_, ?_, ?_, congrArg (·.tokenLifetime) hsettings, congrArg (·.issuer) hsettings,
    congrArg (·.issueTimeDisabled) hsettings⟩
  · change Codec.new s'.withDefaults.folded hooks = Codec.new s.withDefaults.folded hooks
    rw [hsettings]
  · change Delivery.ofSettings s'.withDefaults = Delivery.ofSettings s.withDefaults
    rw [← Delivery.ofSettings_folded, hsettings, Delivery.ofSettings_folded]
  · funext method h c channel
    change (DoubleSubmit.new s'.withDefaults).check method h c channel =
      (DoubleSubmit.new s.withDefaults).check method h c channel
    rw [← DoubleSubmit.check_folded, hsettings, DoubleSubmit.check_folded]

theorem ActsLike.read_eq (halike : svc.ActsLike svc') (method : String) (uri : Uri)
    (h : HeaderMap) : svc'.read now method uri h = svc.read now method uri h := by
  unfold read accept
  rw [halike.codec, halike.delivery, halike.check]

/-- A fresh id counts for claims without one alone. -/
theorem ActsLike.fill_eq (halike : svc.ActsLike svc') {freshId freshId' : String} {c : Claims}
    (hid : c.id ≠ "" ∨ freshId' = freshId) : svc'.fill now freshId' c = svc.fill now freshId c := by
  have hkept : textOr c.tokenId freshId' = textOr c.tokenId freshId := by
    rcases hid with hid | rfl
    · rw [Claims.id] at hid
      cases hown : c.tokenId with
      | none =>
        rw [hown] at hid
        exact absurd rfl hid
      | some own =>
        rw [hown, Option.getD_some] at hid
        rw [textOr, textOr, if_neg hid, if_neg hid]
    · rfl
  unfold fill expiryFor
  rw [halike.tokenLifetime, halike.issuer, halike.issueTimeDisabled, hkept]

theorem ActsLike.respond_eq (halike : svc.ActsLike svc') {freshId freshId' : String} {c : Claims}
    (hid : c.id ≠ "" ∨ freshId' = freshId) :
    svc'.respond now freshId' c = svc.respond now freshId c := by
  unfold respond
  rw [halike.fill_eq hid, halike.codec, halike.delivery]

/-- Two requests that say the same under the very names of the settings: in the pairs of the query
and in the cookies, and in the headers of the token and of the id. -/
structure SaysSame (s : Settings) (uri uri' : Uri) (h h' : HeaderMap) : Prop where
  query : valuesOf s.tokenQuery (uri'.query.elim [] Query.pairs) =
    valuesOf s.tokenQuery (uri.query.elim [] Query.pairs)
  cookie : valuesOf s.tokenCookie (Delivery.cookies h') =
    valuesOf s.tokenCookie (Delivery.cookies h)
  header : ∀ name, HeaderName.ofString? s.tokenHeader = some name → h'.values name = h.values name
  xsrf : ∀ name, HeaderName.ofString? s.xsrfHeader = some name → h'.values name = h.values name

theorem SaysSame.delivery_read {uri uri' : Uri} {h h' : HeaderMap}
    (hsame : SaysSame s uri uri' h h') (hwrites : Delivery.CanWrite s) :
    (Delivery.ofSettings s).read uri' h' = (Delivery.ofSettings s).read uri h := by
  refine Delivery.read_eq_read_iff.2 fun channel _ => ?_
  rw [Delivery.from?_eq_firstOf, Delivery.from?_eq_firstOf]
  congr 1
  cases channel with
  | query => exact congrArg (List.map some) hsame.query
  | header =>
    exact congrArg (List.map HeaderValue.readable?) (hsame.header _ (if_pos hwrites.tokenHeader))
  | cookie => exact congrArg (List.map some) hsame.cookie

theorem SaysSame.read_eq {uri uri' : Uri} {h h' : HeaderMap} (hnew : new s hooks = .ok svc)
    (hsame : SaysSame s.withDefaults uri uri' h h') (method : String) :
    svc.read now method uri' h' = svc.read now method uri h := by
  obtain ⟨hwrites, rfl⟩ := new_eq_ok_iff_canWrite.1 hnew
  have hdelivery := hsame.delivery_read hwrites
  have hsupplied := DoubleSubmit.supplied_congr (g := .new s.withDefaults) hsame.xsrf
  have hcheck := DoubleSubmit.check_eq_of_supplied (g := .new s.withDefaults) rfl hsupplied
    (fun _ => Iff.rfl)
  unfold read accept
  simp only [ofSettings, hdelivery, hcheck]

/-- Services that differ in the letter case of header names and exempt methods alone. They have the
same answers to requests that differ in the letter case of header names alone, and they issue claims
that have an id, or get the same, into the same headers with the same outcome. A token, though,
comes from the first pair of the query, or the first cookie, that has the very name of the settings;
pairs and cookies of other names, also of this one in other letters, make no difference. -/
theorem ignores_letterCase (hnew : new s hooks = .ok svc) (hnew' : new s' hooks = .ok svc')
    (hcase : s'.folded = s.folded) :
    (∀ now method uri lines lines', HeaderMap.folded lines' = HeaderMap.folded lines →
      (HeaderMap.ofPairs? lines').map (svc'.read now method uri) =
        (HeaderMap.ofPairs? lines).map (svc.read now method uri)) ∧
    (∀ now freshId freshId' c, c.id ≠ "" ∨ freshId' = freshId → ∀ h,
      svc'.respond now freshId' c h = svc.respond now freshId c h) ∧
    (∀ uri h token,
      (svc.delivery.read uri h = .ok ⟨token, .query⟩ → ∃ q, uri.query = some q ∧
        (Query.pairs q).lookup s.withDefaults.tokenQuery = some token) ∧
      (svc.delivery.read uri h = .ok ⟨token, .cookie⟩ →
        (Delivery.cookies h).lookup s.withDefaults.tokenCookie = some token)) ∧
    ∀ uri uri' h h', SaysSame s.withDefaults uri uri' h h' → ∀ now method,
      svc.read now method uri' h' = svc.read now method uri h := by
  have halike := actsLike_of_folded hnew hnew' hcase
  refine ⟨?_, ?_, ?_, fun _ _ _ _ hsame _ => hsame.read_eq hnew⟩
  · intro now method uri lines lines' hlines
    rw [← HeaderMap.ofPairs?_folded lines', hlines, HeaderMap.ofPairs?_folded]
    congr 1
    funext h
    exact halike.read_eq method uri h
  · intro now freshId freshId' c hid h
    rw [halike.respond_eq hid]
  · intro uri h token
    obtain ⟨-, rfl⟩ := new_eq_ok_iff_canWrite.1 hnew
    exact ⟨fun hread => Delivery.exists_lookup_of_read hread,
      fun hread => Delivery.lookup_of_read hread⟩

/-- The settings of a shop where pages may be looked at without repeating an id. -/
def windowShop : Settings := { shop.settings with exemptMethods := ["get"] }

/-- The same in other letters. -/
def windowShopRespelled : Settings :=
  { windowShop with
    tokenHeader := "x-jwt"
    xsrfHeader := "X-Xsrf-TOKEN"
    exemptMethods := ["Get"] }

/-- The shop with some settings that concern its guard alone. -/
def shopUnder (s : Settings) : Service := { shop with settings := s, guard := .new s }

theorem new_windowShop : new windowShop shop.hooks = .ok (shopUnder windowShop) :=
  new_eq_ok_iff_canWrite.2 ⟨⟨by decide, by decide, by decide, by decide⟩, rfl⟩

theorem new_windowShopRespelled :
    new windowShopRespelled shop.hooks = .ok (shopUnder windowShopRespelled) :=
  new_eq_ok_iff_canWrite.2 ⟨⟨by decide, by decide, by decide, by decide⟩, rfl⟩

theorem read_windowShop : (shopUnder windowShop).read .shopOpens "POST" ⟨none⟩
    (pageHeaders (shopToken "")) =
      .ok (Claims.shopVisit.withUserAudience "shop", shopToken "") := by
  have hcookie : shop.delivery.fromCookie? (pageHeaders (shopToken "")) = some (shopToken "") := by
    refine Delivery.fromCookie?_of_lookup (shopToken_ne_empty "") ?_
    rw [cookies_pageHeaders]
    rfl
  exact read_of_cookie rfl rfl hcookie (verify_shopToken "") ⟨"shop", rfl, rfl⟩ rfl (by decide)
    fun _ _ _ => ⟨by decide, ⟨"x-xsrf-token"⟩, rfl, rfl, by decide⟩

/-- The lines of a request by a page, with some spelling of their names. -/
def pageLines (cookieName xsrfName token : String) : List (String × String) :=
  [(cookieName, "JWT" ++ "=" ++ token), (xsrfName, "id-1")]

theorem folded_pageLines (token : String) :
    HeaderMap.folded (pageLines "COOKIE" "x-xsrf-token" token) =
      HeaderMap.folded (pageLines "Cookie" "X-XSRF-Token" token) := by
  have hcookie : lower "COOKIE" = lower "Cookie" := by decide
  have hxsrf : lower "x-xsrf-token" = lower "X-XSRF-Token" := by decide
  simp only [HeaderMap.folded, pageLines, List.map_cons, List.map_nil, hcookie, hxsrf]

theorem ofPairs?_pageLines {token : String} (hvalue : Cookie.IsValue token) :
    HeaderMap.ofPairs? (pageLines "Cookie" "X-XSRF-Token" token) = some (pageHeaders token) := by
  have hvalid : HeaderValue.IsValid ("JWT" ++ "=" ++ token) :=
    Cookie.isValid_of_isReadable (Cookie.isReadable_pair (by decide) hvalue)
  have hname : HeaderName.ofString? "Cookie" = some .cookie := by decide
  have hcookie : HeaderMap.ofPairs?.line? ("Cookie", "JWT" ++ "=" ++ token) =
      some (.cookie, "JWT" ++ "=" ++ token) := by
    rw [HeaderMap.ofPairs?.line?, if_pos hvalid, hname, Option.map_some]
  rw [HeaderMap.ofPairs?, pageLines, List.mapM_cons, hcookie]
  rfl

/-- The page's headers behind a cookie that has the name of the token's in other letters. -/
def forgedHeaders (token : String) : HeaderMap :=
  ⟨(.cookie, "jwt=forged") :: (pageHeaders token).lines⟩

/-- A pair of the query and a cookie that have the token's names in other letters are not seen. -/
theorem saysSame_forged (token : String) : SaysSame windowShop.withDefaults ⟨none⟩
    ⟨some "Token=forged"⟩ (pageHeaders token) (forgedHeaders token) where
  query := by decide
  cookie := by
    have hforged : Cookie.pairs "jwt=forged" = [("jwt", "forged")] := by decide
    rw [forgedHeaders, Delivery.cookies_cons, if_pos ⟨rfl, by decide⟩, hforged,
      List.singleton_append, valuesOf_cons, if_neg (by decide), List.nil_append]
  header := by
    rintro _ ⟨⟩
    rfl
  xsrf := by
    rintro _ ⟨⟩
    rfl

/-- A page's request in other letters has its session at the shop in other letters; so it has at the
first shop if forged tokens come under the token's names in other letters; and both shops issue a
visit alike. -/
theorem ignores_letterCase_shop :
    windowShopRespelled.folded = windowShop.folded ∧
    (HeaderMap.ofPairs? (pageLines "COOKIE" "x-xsrf-token" (shopToken ""))).map
        ((shopUnder windowShopRespelled).read .shopOpens "POST" ⟨none⟩) =
      some (.ok (Claims.shopVisit.withUserAudience "shop", shopToken "")) ∧
    (shopUnder windowShop).read .shopOpens "POST" ⟨some "Token=forged"⟩
        (forgedHeaders (shopToken "")) =
      .ok (Claims.shopVisit.withUserAudience "shop", shopToken "") ∧
    (shopUnder windowShopRespelled).respond .shopOpens "id-3" Claims.shopVisit .empty =
      (shopUnder windowShop).respond .shopOpens "id-2" Claims.shopVisit .empty := by
  have hcase : windowShopRespelled.folded = windowShop.folded := by decide
  obtain ⟨hread, hrespond, -, hnames⟩ :=
    ignores_letterCase new_windowShop new_windowShopRespelled hcase
  have hpage := hread .shopOpens "POST" ⟨none⟩ _ _ (folded_pageLines (shopToken ""))
  rw [ofPairs?_pageLines (isValue_shopToken ""), Option.map_some, read_windowShop] at hpage
  have hforged := hnames _ _ _ _ (saysSame_forged (shopToken "")) .shopOpens "POST"
  exact ⟨hcase, hpage, hforged.trans read_windowShop, hrespond _ _ _ _ (.inl (by decide)) _⟩

end Service

end SignedSession
