import SignedSession.Proofs.Delivery
import SignedSession.Proofs.Token.RoundTrip
import SignedSession.Service

/-!
Which requests have a session. The steps of accepting a token, and of all of them together, have
exact conditions of success. Main statement: a request has a session exactly when its token is
verified, and is neither expired nor unconfirmed if a cookie brought it.
-/
namespace SignedSession

namespace Claims

/-- The claims with another audience of their user, if they have one. -/
def withUserAudience (c : Claims) (a : String) : Claims :=
  { c with user := c.user.map fun u => { u with audience := a } }

theorem withUserAudience_of_none {c : Claims} (h : c.user = none) (a : String) :
    c.withUserAudience a = c := by
  rw [withUserAudience, h, Option.map_none, ← h]

/-- What verified claims become: their user, if there is one, gets their only audience. -/
def BindTo (verified c : Claims) : Prop :=
  match verified.user with
  | none => c = verified
  | some _ => ∃ a, verified.audiences = [a] ∧ c = verified.withUserAudience a

theorem not_isExpired_iff {c : Claims} {now : Instant} :
    ¬ c.IsExpired now ↔ ∃ e, c.expiry = some e ∧ now.seconds < e.toInt := by
  unfold IsExpired
  cases c.expiry <;> simp

end Claims

theorem Service.bindAudience_eq_ok_iff {verified c : Claims} :
    bindAudience verified = .ok c ↔ verified.BindTo c := by
  unfold bindAudience Claims.BindTo Claims.withUserAudience
  cases verified.user with
  | none => simp [eq_comm]
  | some u =>
    match verified.audiences with
    | [] => simp
    | [a] => simp [eq_comm]
    | _ :: _ :: _ => simp

/-- The audience that a user had does not count. -/
theorem Service.bindAudience_withUserAudience (c : Claims) (a : String) :
    bindAudience (c.withUserAudience a) = bindAudience c := by
  cases hu : c.user with
  | none => rw [Claims.withUserAudience_of_none hu]
  | some u =>
    have hu' : (c.withUserAudience a).user = some { u with audience := a } := by
      rw [Claims.withUserAudience, hu, Option.map_some]
    have ha : (c.withUserAudience a).audiences = c.audiences := rfl
    unfold bindAudience
    rw [hu, hu', ha]
    match c.audiences with
    | [] => rfl
    | [b] => rfl
    | _ :: _ :: _ => rfl

namespace DoubleSubmit

/-- A request repeats an id: the first value of the header is the id, and can be read. -/
def IsRepeated (g : DoubleSubmit) (h : HeaderMap) (id : String) : Prop :=
  ∃ name, HeaderName.ofString? g.headerKey = some name ∧ h.first? name = some id ∧
    HeaderValue.IsReadable id

theorem supplied_eq_iff {g : DoubleSubmit} {h : HeaderMap} {id : String} (hid : id ≠ "") :
    g.supplied h = id ↔ g.IsRepeated h id := by
  unfold supplied IsRepeated
  cases HeaderName.ofString? g.headerKey with
  | none => simpa using hid.symm
  | some name =>
    rw [Option.bind_some, HeaderMap.text?]
    cases hfirst : h.first? name with
    | none => simpa [hfirst] using hid.symm
    | some v =>
      rw [Option.bind_some, HeaderValue.readable?]
      by_cases hv : HeaderValue.IsReadable v
      · rw [if_pos hv, Option.getD_some]
        constructor
        · rintro rfl
          exact ⟨name, rfl, hfirst, hv⟩
        · rintro ⟨name', hname, hvalue, -⟩
          cases hname
          exact Option.some.inj (hfirst.symm.trans hvalue)
      · rw [if_neg hv, Option.getD_none]
        constructor
        · intro he
          exact absurd he.symm hid
        · rintro ⟨name', hname, hvalue, hreadable⟩
          cases hname
          cases hfirst.symm.trans hvalue
          exact absurd hreadable hv

theorem applies_imp_iff {g : DoubleSubmit} {method : String} {c : Claims} {channel : Channel}
    {p : Prop} : (g.Applies method c channel → p) ↔
      (channel = .cookie → c.user.isSome → g.disabled = false → ¬ g.Exempts method → p) := by
  unfold Applies
  rw [Bool.not_eq_true]
  constructor
  · intro h hchannel huser henabled hexempt
    exact h ⟨henabled, hexempt, hchannel, huser⟩
  · rintro h ⟨henabled, hexempt, hchannel, huser⟩
    exact h hchannel huser henabled hexempt

theorem check_eq_ok_iff {g : DoubleSubmit} {method : String} {h : HeaderMap} {c : Claims}
    {channel : Channel} : g.check method h c channel = .ok () ↔
      (g.Applies method c channel → c.id ≠ "" ∧ g.IsRepeated h c.id) := by
  unfold check
  rw [guard_eq_ok]
  constructor
  · rintro ⟨hfails, -⟩ happlies
    have hid : c.id ≠ "" := fun he => hfails ⟨happlies, .inl he⟩
    refine ⟨hid, (supplied_eq_iff hid).1 ?_⟩
    exact Decidable.not_not.1 fun hne => hfails ⟨happlies, .inr hne⟩
  · intro hpasses
    refine ⟨?_, rfl⟩
    rintro ⟨happlies, hfails⟩
    obtain ⟨hid, hrepeated⟩ := hpasses happlies
    rcases hfails with he | hne
    · exact hid he
    · exact hne ((supplied_eq_iff hid).2 hrepeated)

end DoubleSubmit

namespace Service

variable {svc : Service} {now : Instant} {method : String} {uri : Uri} {h : HeaderMap} {c : Claims}

theorem accept_eq_ok_iff {d : DeliveredToken} :
    svc.accept now method h d = .ok c ↔ ∃ verified, svc.codec.verify now d.token = .ok verified ∧
      verified.BindTo c ∧
      (d.channel = .cookie → ∃ e, c.expiry = some e ∧ now.seconds < e.toInt) ∧
      (svc.guard.Applies method c d.channel → c.id ≠ "" ∧ svc.guard.IsRepeated h c.id) := by
  unfold accept
  rw [bind_eq_ok]
  apply exists_congr
  intro verified
  apply and_congr_right
  intro _
  rw [bind_eq_ok]
  constructor
  · rintro ⟨bound, hbound, hrest⟩
    split at hrest
    · cases hrest
    · next hfresh =>
      obtain ⟨_, hcheck, hrest⟩ := bind_eq_ok.1 hrest
      cases hrest
      refine ⟨bindAudience_eq_ok_iff.1 hbound, ?_, DoubleSubmit.check_eq_ok_iff.1 hcheck⟩
      exact fun hcookie => Claims.not_isExpired_iff.1 fun he => hfresh ⟨hcookie, he⟩
  · rintro ⟨hbound, hfresh, hpasses⟩
    refine ⟨c, bindAudience_eq_ok_iff.2 hbound, ?_⟩
    rw [if_neg fun he => Claims.not_isExpired_iff.2 (hfresh he.1) he.2]
    exact bind_eq_ok.2 ⟨(), DoubleSubmit.check_eq_ok_iff.2 hpasses, rfl⟩

theorem read_eq_ok_iff {token : String} : svc.read now method uri h = .ok (c, token) ↔
    ∃ channel, svc.delivery.read uri h = .ok ⟨token, channel⟩ ∧
      svc.accept now method h ⟨token, channel⟩ = .ok c := by
  unfold read
  simp only [bind_eq_ok, Except.ok.injEq, Prod.mk.injEq]
  constructor
  · rintro ⟨⟨token', channel⟩, hread, _, haccept, rfl, rfl⟩
    exact ⟨channel, hread, haccept⟩
  · rintro ⟨channel, hread, haccept⟩
    exact ⟨⟨token, channel⟩, hread, c, haccept, rfl, rfl⟩

/-- Two tokens whose verified claims differ in the audience of the user alone are accepted alike. -/
theorem accept_eq_of_withUserAudience {token token' a : String} {verified : Claims}
    (hverify : svc.codec.verify now token = .ok verified)
    (hverify' : svc.codec.verify now token' = .ok (verified.withUserAudience a))
    (method : String) (h : HeaderMap) (channel : Channel) :
    svc.accept now method h ⟨token, channel⟩ = svc.accept now method h ⟨token', channel⟩ := by
  unfold accept
  simp only [hverify, hverify', bind, Except.bind, bindAudience_withUserAudience]

/-- The conditions of all steps. -/
theorem read_eq_ok_iff_verified {token : String} :
    svc.read now method uri h = .ok (c, token) ↔
      ∃ channel verified, svc.delivery.read uri h = .ok ⟨token, channel⟩ ∧
        svc.codec.verify now token = .ok verified ∧ verified.BindTo c ∧
        (channel = .cookie → ∃ e, c.expiry = some e ∧ now.seconds < e.toInt) ∧
        (channel = .cookie → c.user.isSome → svc.guard.disabled = false →
          ¬ svc.guard.Exempts method → c.id ≠ "" ∧ svc.guard.IsRepeated h c.id) := by
  simp only [read_eq_ok_iff, accept_eq_ok_iff, exists_and_left, DoubleSubmit.applies_imp_iff]

/-- A user's session that no header confirms came by a query or a header. -/
theorem carried_of_read {token : String} (hread : svc.read now method uri h = .ok (c, token))
    (huser : c.user.isSome) (henabled : svc.guard.disabled = false)
    (hexempt : ¬ svc.guard.Exempts method)
    (habsent : ∀ name, HeaderName.ofString? svc.guard.headerKey = some name →
      h.first? name = none) :
    svc.delivery.fromQuery? uri = some token ∨ svc.delivery.fromHeader? h = some token := by
  obtain ⟨channel, _, hdelivered, -, -, -, hrepeated⟩ := read_eq_ok_iff_verified.1 hread
  have hcarries := Delivery.read_eq_ok_iff.1 hdelivered
  cases channel with
  | query => exact .inl hcarries
  | header => exact .inr hcarries.2
  | cookie =>
    obtain ⟨-, name, hname, hfirst, -⟩ := hrepeated rfl huser henabled hexempt
    rw [habsent name hname] at hfirst
    cases hfirst

/-- The claims of a session are the verified ones, bound. -/
theorem bindAudience_of_read {token : String} {verified : Claims}
    (hread : svc.read now method uri h = .ok (c, token))
    (hverify : svc.codec.verify now token = .ok verified) : bindAudience verified = .ok c := by
  obtain ⟨_, _, -, hverified, hbound, -⟩ := read_eq_ok_iff_verified.1 hread
  cases hverify.symm.trans hverified
  exact bindAudience_eq_ok_iff.2 hbound

/-- A request has a session exactly when its token is verified and, if it came in a cookie, is not
expired and, for a user, is confirmed by the id in a header. So a user's session without that
header was asked for with a token that no browser sends by itself; and no token decides which
audience its user has. -/
theorem read_accepts_exactly (svc : Service) (now : Instant) :
    (∀ method uri h c token, svc.read now method uri h = .ok (c, token) ↔
      ∃ channel verified, svc.delivery.read uri h = .ok ⟨token, channel⟩ ∧
        svc.codec.verify now token = .ok verified ∧ verified.BindTo c ∧
        (channel = .cookie → ∃ e, c.expiry = some e ∧ now.seconds < e.toInt) ∧
        (channel = .cookie → c.user.isSome → svc.guard.disabled = false →
          ¬ svc.guard.Exempts method → c.id ≠ "" ∧ svc.guard.IsRepeated h c.id)) ∧
    (∀ method uri h c token, svc.read now method uri h = .ok (c, token) →
      c.user.isSome → svc.guard.disabled = false → ¬ svc.guard.Exempts method →
      (∀ name, HeaderName.ofString? svc.guard.headerKey = some name → h.first? name = none) →
      svc.delivery.fromQuery? uri = some token ∨ svc.delivery.fromHeader? h = some token) ∧
    ∀ token token' verified a, svc.codec.verify now token = .ok verified →
      svc.codec.verify now token' = .ok (verified.withUserAudience a) →
      (∀ method h channel,
        svc.accept now method h ⟨token, channel⟩ = svc.accept now method h ⟨token', channel⟩) ∧
      ∀ method uri h c method' uri' h' c', svc.read now method uri h = .ok (c, token) →
        svc.read now method' uri' h' = .ok (c', token') → c = c' := by
  refine ⟨fun _ _ _ _ _ => read_eq_ok_iff_verified, fun _ _ _ _ _ => carried_of_read, ?_⟩
  intro token token' verified a hverify hverify'
  refine ⟨accept_eq_of_withUserAudience hverify hverify', ?_⟩
  intro method uri h c method' uri' h' c' hread hread'
  have hbound := bindAudience_of_read hread hverify
  have hbound' := bindAudience_of_read hread' hverify'
  rw [bindAudience_withUserAudience] at hbound'
  exact Except.ok.inj (hbound.symm.trans hbound')

/-- The shop as a service. -/
def shop : Service where
  settings := { Settings.default with secretPerAudience := true }
  hooks := { secrets := some (.ofTable (.ofList [("shop", "s3cret"), ("bank", "other")])) }
  codec := { Codec.shopVerifier with format := .text, allow := none }
  delivery :=
    { tokenCookie := "JWT"
      tokenHeader := ⟨"x-jwt"⟩
      xsrfCookie := "XSRF-TOKEN"
      tokenQuery := "token"
      domain := ""
      secure := false
      sameSite := none
      cookieLifetime := .ofDays 31
      sendsHeader := false }
  guard := ⟨false, "X-XSRF-TOKEN", []⟩

/-- The token of a visit, in which the user names some audience. -/
def shopToken (a : String) : String :=
  (Codec.encode .text "s3cret" (Claims.shopVisit.withUserAudience a)).toString

theorem isReadable_withUserAudience {c : Claims} (h : c.IsReadable) (a : String) :
    (c.withUserAudience a).IsReadable := by
  intro u hu
  obtain ⟨v, hv, rfl⟩ := Option.map_eq_some_iff.1 hu
  exact h v hv

theorem verify_shopToken (a : String) : shop.codec.verify .shopOpens (shopToken a) =
    .ok (Claims.shopVisit.withUserAudience a) := by
  have hbegun : Claims.shopVisit.HaveBegun .shopOpens := Claims.haveBegun_shopVisit (by decide)
  apply Codec.verify_encode (isReadable_withUserAudience Claims.isReadable_shopVisit a)
  · exact ⟨hbegun.notBefore, hbegun.issuedAt⟩
  · rfl
  · rfl

theorem shopToken_ne_empty (a : String) : shopToken a ≠ "" := CompactToken.toString_ne_empty _

/-- A signed token may stand in a cookie. -/
theorem isValue_encode (format : AudienceFormat) (secret : String) (c : Claims) :
    Cookie.IsValue (Codec.encode format secret c).toString :=
  List.all_eq_true.2 (Codec.forall_mem_encode format secret c (by decide) (by decide))

theorem isValue_shopToken (a : String) : Cookie.IsValue (shopToken a) := isValue_encode _ _ _

/-- The headers of a request by a page of the shop, which repeats the id. -/
def pageHeaders (token : String) : HeaderMap :=
  ⟨[(.cookie, "JWT" ++ "=" ++ token), (⟨"x-xsrf-token"⟩, "id-1")]⟩

theorem cookies_pageHeaders (a : String) :
    Delivery.cookies (pageHeaders (shopToken a)) = [("JWT", shopToken a)] :=
  Delivery.cookies_eq_singleton (by decide) (isValue_shopToken a) rfl

/-- The headers of a request by a program. -/
def programHeaders (token : String) : HeaderMap := ⟨[(⟨"x-jwt"⟩, token)]⟩

theorem delivered_page {token : String} (hne : token ≠ "") (hv : Cookie.IsValue token) :
    shop.delivery.read ⟨none⟩ (pageHeaders token) = .ok ⟨token, .cookie⟩ := by
  refine Delivery.read_eq_ok_iff.2 ⟨rfl, rfl, Delivery.fromCookie?_of_lookup hne ?_⟩
  rw [Delivery.cookies_eq_singleton (n := "JWT") (by decide) hv rfl]
  rfl

theorem delivered_program {token : String} (hne : token ≠ "") (hv : Cookie.IsValue token) :
    shop.delivery.read ⟨none⟩ (programHeaders token) = .ok ⟨token, .header⟩ :=
  Delivery.read_eq_ok_iff.2
    ⟨rfl, Delivery.fromHeader?_of_first? hne (Cookie.isReadable_of_isValue hv) rfl⟩

/-- A page sends the cookie and repeats the id; a program sends the token in a header, where it
says that the user is another shop's. -/
theorem read_accepts_exactly_shop :
    shop.read .shopOpens "POST" ⟨none⟩ (pageHeaders (shopToken "shop")) =
      .ok (Claims.shopVisit.withUserAudience "shop", shopToken "shop") ∧
    shop.read .shopOpens "POST" ⟨none⟩ (programHeaders (shopToken "bank")) =
      .ok (Claims.shopVisit.withUserAudience "shop", shopToken "bank") ∧
    shop.delivery.fromHeader? (programHeaders (shopToken "bank")) = some (shopToken "bank") ∧
    ∀ h, shop.accept .shopOpens "POST" h ⟨shopToken "shop", .cookie⟩ =
      shop.accept .shopOpens "POST" h ⟨shopToken "bank", .cookie⟩ := by
  obtain ⟨hexact, hcarried, hsame⟩ := read_accepts_exactly shop .shopOpens
  have hcookie : shop.delivery.fromCookie? (pageHeaders (shopToken "shop")) =
      some (shopToken "shop") := by
    apply Delivery.fromCookie?_of_lookup (CompactToken.toString_ne_empty _)
    rw [cookies_pageHeaders]
    rfl
  have hheader : shop.delivery.fromHeader? (programHeaders (shopToken "bank")) =
      some (shopToken "bank") :=
    Delivery.fromHeader?_of_first? (CompactToken.toString_ne_empty _)
      (Cookie.isReadable_of_isValue (isValue_shopToken "bank")) rfl
  have hpage := (hexact "POST" ⟨none⟩ _ (Claims.shopVisit.withUserAudience "shop") _).2
    ⟨.cookie, _, Delivery.read_eq_ok_iff.2 ⟨rfl, rfl, hcookie⟩, verify_shopToken "shop",
      ⟨"shop", rfl, rfl⟩, fun _ => ⟨900, rfl, by decide⟩,
      fun _ _ _ _ => ⟨by decide, ⟨"x-xsrf-token"⟩, rfl, rfl, by decide⟩⟩
  have hprogram := (hexact "POST" ⟨none⟩ _ (Claims.shopVisit.withUserAudience "shop") _).2
    ⟨.header, _, Delivery.read_eq_ok_iff.2 ⟨rfl, hheader⟩, verify_shopToken "bank",
      ⟨"shop", rfl, rfl⟩, nofun, nofun⟩
  have hnone := hcarried _ _ _ _ _ hprogram rfl rfl (by decide) fun name hname => by
    cases hname
    rfl
  have halike := (hsame _ _ _ "bank" (verify_shopToken "shop") (verify_shopToken "bank")).1 "POST"
  exact ⟨hpage, hprogram, hnone.resolve_left nofun, fun h => halike h .cookie⟩

end Service

end SignedSession
