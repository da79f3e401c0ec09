import SignedSession.Proofs.Service.Acceptance

/-!
Sessions that live in cookies. Issuing one writes its token and its id into two cookies, and a
request that brings them back has the session. Main statement: what was issued in cookies is read
from cookies, until it expires.
-/
namespace SignedSession

namespace Claims

/-- Claims that may be signed can be bound. -/
theorem exists_bindTo {c : Claims} (h : c.user.isSome → c.audiences.length = 1) :
    ∃ bound, c.BindTo bound := by
  unfold BindTo
  cases hu : c.user with
  | none => exact ⟨c, rfl⟩
  | some u =>
    obtain ⟨a, ha⟩ := List.length_eq_one_iff.1 (h (by rw [hu]; rfl))
    exact ⟨c.withUserAudience a, a, ha, rfl⟩

/-- Binding changes nothing but the audience of the user. -/
theorem BindTo.eq_withUserAudience {c bound : Claims} (h : c.BindTo bound) :
    ∃ a, bound = c.withUserAudience a := by
  unfold BindTo at h
  cases hu : c.user with
  | none =>
    rw [hu] at h
    exact ⟨"", h.trans (withUserAudience_of_none hu "").symm⟩
  | some u =>
    rw [hu] at h
    obtain ⟨a, -, h⟩ := h
    exact ⟨a, h⟩

theorem isSome_user_withUserAudience (c : Claims) (a : String) :
    (c.withUserAudience a).user.isSome = c.user.isSome := Option.isSome_map

end Claims

namespace Keyring

/-- A shared secret does not depend on the audience. -/
def SharesOne (k : Keyring) : Prop :=
  k.mode = .shared → ∀ reader, k.reader = some reader → ∀ a b, reader a = reader b

/-- A secret that does not depend on the audience is found again, whichever way it is asked for. -/
theorem secretFor_askedFor_iff {k : Keyring} {c : Claims} {secret : String}
    (hshared : k.SharesOne) :
    k.secretFor (k.askedFor c) = .ok secret ↔ k.secretFor (c.audience.getD "") = .ok secret := by
  unfold askedFor
  cases hmode : k.mode with
  | perAudience => rfl
  | shared =>
    simp only [secretFor_eq_ok_iff]
    apply exists_congr
    intro reader
    apply and_congr_right
    intro hreader
    rw [hshared hmode reader hreader placeholder (c.audience.getD "")]

theorem secretFor_askedFor {k : Keyring} {c : Claims} {secret : String} (hshared : k.SharesOne)
    (h : k.secretFor (c.audience.getD "") = .ok secret) :
    k.secretFor (k.askedFor c) = .ok secret :=
  (secretFor_askedFor_iff hshared).2 h

end Keyring

namespace Service

theorem new_eq_ok_iff {s : Settings} {hooks : Hooks} {svc : Service} :
    new s hooks = .ok svc ↔ ∃ delivery, Delivery.new s.withDefaults = .ok delivery ∧
      svc = ⟨s.withDefaults, hooks, .new s.withDefaults hooks, delivery, .new s.withDefaults⟩ := by
  simp only [new, bind_eq_ok, Except.ok.injEq, eq_comm (a := svc)]

/-- The service that is made of settings that say everything. -/
def ofSettings (s : Settings) (hooks : Hooks) : Service :=
  ⟨s, hooks, .new s hooks, .ofSettings s, .new s⟩

theorem new_eq_ok_iff_canWrite {s : Settings} {hooks : Hooks} {svc : Service} :
    new s hooks = .ok svc ↔
      Delivery.CanWrite s.withDefaults ∧ svc = ofSettings s.withDefaults hooks := by
  rw [new_eq_ok_iff]
  constructor
  · rintro ⟨_, hdelivery, rfl⟩
    obtain ⟨hwrites, rfl⟩ := Delivery.new_eq_ok_iff.1 hdelivery
    exact ⟨hwrites, rfl⟩
  · rintro ⟨hwrites, rfl⟩
    exact ⟨_, Delivery.new_eq_ok_iff.2 ⟨hwrites, rfl⟩, rfl⟩

theorem issue_eq_ok_iff {svc : Service} {now : Instant} {freshId : String} {h h' : HeaderMap}
    {c c' : Claims} : svc.issue now freshId h c = .ok (c', h') ↔
      ∃ filled token, svc.fill now freshId c = .ok filled ∧
        svc.codec.sign filled = .ok (token, c') ∧ svc.delivery.write h token c' = .ok h' := by
  unfold issue
  simp only [bind_eq_ok, Except.ok.injEq, Prod.mk.injEq]
  constructor
  · rintro ⟨filled, hfill, ⟨token, signed⟩, hsign, _, hwrite, rfl, rfl⟩
    exact ⟨filled, token, hfill, hsign, hwrite⟩
  · rintro ⟨filled, token, hfill, hsign, hwrite⟩
    exact ⟨filled, hfill, (token, c'), hsign, h', hwrite, rfl, rfl⟩

/-- A new service has one secret only if its settings say so. -/
theorem mode_of_new {s : Settings} {hooks : Hooks} {svc : Service} (h : new s hooks = .ok svc)
    (hmode : svc.codec.keyring.mode = .shared) : s.secretPerAudience = false := by
  obtain ⟨_, -, rfl⟩ := new_eq_ok_iff.1 h
  change (if s.secretPerAudience then KeyMode.perAudience else .shared) = .shared at hmode
  by_cases hper : s.secretPerAudience = true
  · rw [if_pos hper] at hmode
    cases hmode
  · exact Bool.eq_false_iff.2 hper

theorem reader_of_new {s : Settings} {hooks : Hooks} {svc : Service} (h : new s hooks = .ok svc) :
    svc.codec.keyring.reader = hooks.secrets := by
  obtain ⟨_, -, rfl⟩ := new_eq_ok_iff.1 h
  rfl

theorem delivery_of_new {s : Settings} {hooks : Hooks} {svc : Service} (h : new s hooks = .ok svc) :
    svc.delivery.IsOf s.withDefaults := by
  obtain ⟨_, hdelivery, rfl⟩ := new_eq_ok_iff.1 h
  exact Delivery.isOf_of_new hdelivery

/-- What is issued in cookies: the token of the signed claims and their id, each in a cookie of its
own name and fit to stand there. -/
theorem cookies_of_issue {s : Settings} {hooks : Hooks} {svc : Service} {now : Instant}
    {freshId : String} {h h' : HeaderMap} {c c' : Claims} (hnew : new s hooks = .ok svc)
    (hcookies : s.sendsHeader = false) (hissue : svc.issue now freshId h c = .ok (c', h')) :
    ∃ filled token session xsrf, svc.codec.sign filled = .ok (token, c') ∧
      h' = (h.append .setCookie session).append .setCookie xsrf ∧
      SetCookie.carried? session = some (s.withDefaults.tokenCookie, token) ∧
      SetCookie.carried? xsrf = some (s.withDefaults.xsrfCookie, c'.id) ∧
      Cookie.IsValue c'.id := by
  obtain ⟨filled, token, -, hsign, hwrite⟩ := issue_eq_ok_iff.1 hissue
  have hd := delivery_of_new hnew
  obtain ⟨session, xsrf, hsession, hxsrf, hlines⟩ :=
    (Delivery.write_eq_ok_iff (hd.sendsHeader.trans hcookies)).1 hwrite
  obtain ⟨htoken, -, rfl⟩ := Delivery.setCookie_eq_ok_iff.1 hsession
  obtain ⟨hid, -, rfl⟩ := Delivery.setCookie_eq_ok_iff.1 hxsrf
  rw [hd.tokenCookie, hd.xsrfCookie] at hlines
  exact ⟨filled, token, _, _, hsign, hlines,
    SetCookie.carried?_render hd.isName_tokenCookie htoken,
    SetCookie.carried?_render hd.isName_xsrfCookie hid, hid⟩

/-- A request with a token in a cookie has the session of the token's claims. -/
theorem read_of_cookie {svc : Service} {now : Instant} {method token : String} {uri : Uri}
    {request : HeaderMap} {verified bound : Claims} {e : Int64}
    (hquery : svc.delivery.fromQuery? uri = none)
    (hheader : svc.delivery.fromHeader? request = none)
    (hcookie : svc.delivery.fromCookie? request = some token)
    (hverify : svc.codec.verify now token = .ok verified) (hbound : verified.BindTo bound)
    (hexpiry : verified.expiry = some e) (hfresh : now.seconds < e.toInt)
    (hconfirmed : verified.user.isSome → svc.guard.disabled = false → ¬ svc.guard.Exempts method →
      verified.id ≠ "" ∧ svc.guard.IsRepeated request verified.id) :
    svc.read now method uri request = .ok (bound, token) := by
  obtain ⟨a, rfl⟩ := hbound.eq_withUserAudience
  refine read_eq_ok_iff.2 ⟨.cookie, Delivery.read_eq_ok_iff.2 ⟨hquery, hheader, hcookie⟩, ?_⟩
  refine accept_eq_ok_iff.2 ⟨verified, hverify, hbound, fun _ => ⟨e, hexpiry, hfresh⟩, ?_⟩
  refine DoubleSubmit.applies_imp_iff.2 fun _ huser henabled hexempt => ?_
  rw [Claims.isSome_user_withUserAudience] at huser
  exact hconfirmed huser henabled hexempt

/-- A session that was issued in cookies. The cookies carry its token and its id, the token says
its claims once they have begun, and until it expires a request that has the token in its cookie,
and repeats the id where that is asked for, has the session. -/
theorem read_of_issue {s : Settings} {hooks : Hooks} {svc : Service} {now : Instant}
    {freshId : String} {h h' : HeaderMap} {c c' : Claims} (hnew : new s hooks = .ok svc)
    (hcookies : s.sendsHeader = false)
    (hshared : s.secretPerAudience = false →
      ∀ reader, hooks.secrets = some reader → ∀ a b, reader a = reader b)
    (hissue : svc.issue now freshId h c = .ok (c', h')) (hreadable : c'.IsReadable) :
    ∃ token session xsrf, h' = (h.append .setCookie session).append .setCookie xsrf ∧
      SetCookie.carried? session = some (s.withDefaults.tokenCookie, token) ∧
      SetCookie.carried? xsrf = some (s.withDefaults.xsrfCookie, c'.id) ∧
      ∀ later, c'.HaveBegun later → svc.codec.verify later token = .ok c' ∧
        ∀ e method uri request, c'.expiry = some e → later.seconds < e.toInt →
          svc.delivery.fromQuery? uri = none → svc.delivery.fromHeader? request = none →
          (Delivery.cookies request).lookup s.withDefaults.tokenCookie = some token →
          (c'.user.isSome → svc.guard.disabled = false → ¬ svc.guard.Exempts method →
            c'.id ≠ "" ∧ ∃ name, HeaderName.ofString? svc.guard.headerKey = some name ∧
              request.first? name = some c'.id) →
          ∃ bound, c'.BindTo bound ∧ svc.read later method uri request = .ok (bound, token) := by
  obtain ⟨filled, token, session, xsrf, hsign, hlines, hsession, hxsrf, hidValue⟩ :=
    cookies_of_issue hnew hcookies hissue
  refine ⟨token, session, xsrf, hlines, hsession, hxsrf, ?_⟩
  intro later hbegun
  obtain ⟨-, hone, haudience, secret, hsecret, rfl⟩ := Codec.sign_eq_ok_iff.1 hsign
  have hfound := Keyring.secretFor_askedFor (fun hmode reader hreader =>
    hshared (mode_of_new hnew hmode) reader ((reader_of_new hnew).symm.trans hreader)) hsecret
  have hverify : svc.codec.verify later (Codec.encode svc.codec.format secret c').toString =
      .ok c' := Codec.verify_encode hreadable hbegun haudience hfound
  refine ⟨hverify, ?_⟩
  intro e method uri request hexpiry hfresh hquery hheader hlookup hrepeats
  obtain ⟨bound, hbound⟩ := Claims.exists_bindTo hone
  refine ⟨bound, hbound, ?_⟩
  rw [← (delivery_of_new hnew).tokenCookie] at hlookup
  have hcookie := Delivery.fromCookie?_of_lookup (CompactToken.toString_ne_empty _) hlookup
  refine read_of_cookie hquery hheader hcookie hverify hbound hexpiry hfresh ?_
  intro huser henabled hexempt
  obtain ⟨hid, name, hname, hfirst⟩ := hrepeats huser henabled hexempt
  exact ⟨hid, name, hname, hfirst, Cookie.isReadable_of_isValue hidValue⟩

/-- The line that sets the session cookie of a visit. -/
def shopSessionLine : String :=
  (shop.delivery.cookie "JWT" (shopToken "") true (some 2678400)).render

/-- The line that shows its id. -/
def shopXsrfLine : String :=
  (shop.delivery.cookie "XSRF-TOKEN" "id-1" false (some 2678400)).render

theorem issue_shopVisit : shop.issue .shopOpens "id-2" .empty Claims.shopVisit = .ok
    (Claims.shopVisit,
      (HeaderMap.empty.append .setCookie shopSessionLine).append .setCookie shopXsrfLine) := by
  have hsession : shop.delivery.setCookie "JWT" (shopToken "") true (some 2678400) =
      .ok shopSessionLine :=
    Delivery.setCookie_eq_ok_iff.2 ⟨isValue_shopToken "",
      SetCookie.isValid_render (by decide) (isValue_shopToken "") (by decide), rfl⟩
  have hxsrf : shop.delivery.setCookie "XSRF-TOKEN" "id-1" false (some 2678400) =
      .ok shopXsrfLine :=
    Delivery.setCookie_eq_ok_iff.2 ⟨by decide,
      SetCookie.isValid_render (by decide) (by decide) (by decide), rfl⟩
  have htoken : shopToken "" = (Codec.encode .text "s3cret" Claims.shopVisit).toString := by
    have hvisit : Claims.shopVisit.withUserAudience "" = Claims.shopVisit := rfl
    rw [shopToken, hvisit]
  have hsign : shop.codec.sign Claims.shopVisit = .ok (shopToken "", Claims.shopVisit) :=
    Codec.sign_eq_ok_iff.2 ⟨rfl, fun _ => rfl, rfl, "s3cret", rfl, htoken⟩
  exact issue_eq_ok_iff.2 ⟨Claims.shopVisit, shopToken "", rfl, hsign,
    (Delivery.write_eq_ok_iff rfl).2 ⟨shopSessionLine, shopXsrfLine, hsession, hxsrf, rfl⟩⟩

/-- A visit that the shop answers with cookies, and the last second in which they count. -/
theorem read_of_issue_shop : shop.issue .shopOpens "id-2" .empty Claims.shopVisit = .ok
      (Claims.shopVisit,
        (HeaderMap.empty.append .setCookie shopSessionLine).append .setCookie shopXsrfLine) ∧
    shop.read .shopCloses "POST" ⟨none⟩ (pageHeaders (shopToken "")) =
      .ok (Claims.shopVisit.withUserAudience "shop", shopToken "") := by
  have hnew : new shop.settings shop.hooks = .ok shop := rfl
  obtain ⟨token, session, xsrf, hlines, hcarried, -, hread⟩ :=
    read_of_issue hnew rfl nofun issue_shopVisit Claims.isReadable_shopVisit
  -- the token of the first cookie is the one that the request brings back
  have hline : shopSessionLine = session :=
    congrArg Prod.snd (List.cons.inj (congrArg HeaderMap.lines hlines)).1
  have hrendered : SetCookie.carried? session = some ("JWT", shopToken "") := by
    rw [← hline]
    exact SetCookie.carried?_render (by decide) (isValue_shopToken "")
  obtain rfl : shopToken "" = token :=
    (Prod.mk.inj (Option.some.inj (hrendered.symm.trans hcarried))).2
  have hlookup : (Delivery.cookies (pageHeaders (shopToken ""))).lookup "JWT" =
      some (shopToken "") := by
    rw [cookies_pageHeaders]
    rfl
  obtain ⟨bound, ⟨a, ha, rfl⟩, hsession⟩ :=
    (hread .shopCloses (Claims.haveBegun_shopVisit (by decide))).2 900 "POST" ⟨none⟩
      (pageHeaders (shopToken "")) rfl (by decide) rfl rfl hlookup
      fun _ _ _ => ⟨by decide, ⟨"x-xsrf-token"⟩, rfl, rfl⟩
  cases ha
  exact ⟨issue_shopVisit, hsession⟩

end Service

end SignedSession
