import SignedSession.Proofs.Service.Blame
import SignedSession.Proofs.Service.Channels

/-!
Sessions as time goes on. The times that verification looks at are those that a token waits for, so
what is verified once is verified from then on; only a cookie's token is ever given up, for its
expiry. Main statement: a request that has a session keeps it, up to the expiry if a cookie brought
it and for good if not.
-/
namespace SignedSession

variable {now later : Instant}

/-- What does not lie ahead any more never will again. -/
theorem Instant.not_any_ahead_mono {α : Type} {o : Option α} {second : α → Int}
    (hle : now.seconds ≤ later.seconds)
    (h : ¬ (o.any fun n => decide (now.seconds < second n)) = true) :
    ¬ (o.any fun n => decide (later.seconds < second n)) = true := by
  cases o with
  | none => exact h
  | some n =>
    simp only [Option.any_some, decide_eq_true_eq] at h ⊢
    omega

theorem Claims.IsExpired.mono {c : Claims} (hle : now.seconds ≤ later.seconds)
    (h : c.IsExpired now) : c.IsExpired later := by
  unfold IsExpired at *
  cases hexpiry : c.expiry with
  | none => trivial
  | some e =>
    rw [hexpiry] at h
    exact Int.le_trans h hle

namespace Codec

theorem checkTimes_mono {notBefore : Option Nat} {c : Claims} (hle : now.seconds ≤ later.seconds)
    (h : checkTimes now notBefore c = .ok ()) : checkTimes later notBefore c = .ok () := by
  obtain ⟨hvalid, h⟩ := guard_eq_ok.1 h
  obtain ⟨hissued, -⟩ := guard_eq_ok.1 h
  refine guard_eq_ok.2 ⟨Instant.not_any_ahead_mono hle hvalid, ?_⟩
  exact guard_eq_ok.2 ⟨Instant.not_any_ahead_mono hle hissued, rfl⟩

/-- A token that is verified stays so: no other step of verification looks at the clock. -/
theorem verify_mono {codec : Codec} {token : String} {c : Claims}
    (hle : now.seconds ≤ later.seconds) (h : codec.verify now token = .ok c) :
    codec.verify later token = .ok c := by
  obtain ⟨secret, hsecret, hwith⟩ := bind_eq_ok.1 h
  obtain ⟨t, notBefore, ht, hsigned, hread, htimes, haudience⟩ := verifyWith_eq_ok_iff.1 hwith
  refine bind_eq_ok.2 ⟨secret, hsecret, verifyWith_eq_ok_iff.2 ?_⟩
  exact ⟨t, notBefore, ht, hsigned, hread, checkTimes_mono hle htimes, haudience⟩

theorem verify_ne_tokenExpired (codec : Codec) (now : Instant) (token : String) :
    codec.verify now token ≠ .error .tokenExpired := by
  intro h
  rcases codec.verify_failsOnly now token _ h with hblames | hlacks
  · exact hblames
  · exact absurd hlacks.isServerError (by decide)

/-- The claims in a token, verified or not. -/
def Says (token : String) (c : Claims) : Prop :=
  ∃ t notBefore, CompactToken.ofString? token = some t ∧ readPayload t = .ok (c, notBefore)

theorem says_of_verify {codec : Codec} {token : String} {c : Claims}
    (h : codec.verify now token = .ok c) : Says token c := by
  obtain ⟨_, -, hwith⟩ := bind_eq_ok.1 h
  obtain ⟨t, notBefore, ht, -, hread, -⟩ := verifyWith_eq_ok_iff.1 hwith
  exact ⟨t, notBefore, ht, hread⟩

theorem Says.unique {token : String} {c c' : Claims} (h : Says token c) (h' : Says token c') :
    c = c' := by
  obtain ⟨t, _, ht, hread⟩ := h
  obtain ⟨t', _, ht', hread'⟩ := h'
  cases ht.symm.trans ht'
  cases hread.symm.trans hread'
  rfl

end Codec

theorem Claims.BindTo.expiry_eq {verified c : Claims} (h : verified.BindTo c) :
    c.expiry = verified.expiry := by
  unfold BindTo at h
  cases hu : verified.user with
  | none =>
    rw [hu] at h
    rw [h]
  | some u =>
    rw [hu] at h
    obtain ⟨a, -, rfl⟩ := h
    rfl

namespace Service

variable {svc : Service} {method : String} {uri : Uri} {h : HeaderMap}

/-- A token is turned away as expired exactly if it came in a cookie, is verified and has
expired. -/
theorem accept_eq_tokenExpired_iff {d : DeliveredToken} :
    svc.accept now method h d = .error .tokenExpired ↔ d.channel = .cookie ∧
      ∃ verified c, svc.codec.verify now d.token = .ok verified ∧ verified.BindTo c ∧
        c.IsExpired now := by
  constructor
  · intro he
    rcases bind_eq_error.1 he with hverify | ⟨verified, hverify, he⟩
    · exact absurd hverify (svc.codec.verify_ne_tokenExpired now d.token)
    rcases bind_eq_error.1 he with hbind | ⟨c, hbind, he⟩
    · exact (bindAudience_failsOnly verified _ hbind).elim
    by_cases hexpired : d.channel = .cookie ∧ c.IsExpired now
    · exact ⟨hexpired.1, verified, c, hverify, bindAudience_eq_ok_iff.1 hbind, hexpired.2⟩
    · rw [if_neg hexpired] at he
      rcases bind_eq_error.1 he with hcheck | ⟨_, -, he⟩
      · cases svc.guard.check_failsOnly method h c d.channel _ hcheck
      · cases he
  · rintro ⟨hchannel, verified, c, hverify, hbound, hexpired⟩
    rw [accept, hverify, ok_bind, bindAudience_eq_ok_iff.2 hbound, ok_bind,
      if_pos ⟨hchannel, hexpired⟩]
    rfl

theorem read_eq_tokenExpired_iff : svc.read now method uri h = .error .tokenExpired ↔
    ∃ token verified c, svc.delivery.read uri h = .ok ⟨token, .cookie⟩ ∧
      svc.codec.verify now token = .ok verified ∧ verified.BindTo c ∧ c.IsExpired now := by
  constructor
  · intro he
    rcases bind_eq_error.1 he with hread | ⟨⟨token, channel⟩, hread, he⟩
    · cases svc.delivery.read_failsOnly uri h _ hread
    rcases bind_eq_error.1 he with haccept | ⟨c, -, he⟩
    · obtain ⟨hchannel, verified, c, hverify, hbound, hexpired⟩ :=
        accept_eq_tokenExpired_iff.1 haccept
      cases hchannel
      exact ⟨token, verified, c, hread, hverify, hbound, hexpired⟩
    · cases he
  · rintro ⟨token, verified, c, hread, hverify, hbound, hexpired⟩
    have haccept : svc.accept now method h ⟨token, .cookie⟩ = .error .tokenExpired :=
      accept_eq_tokenExpired_iff.2 ⟨rfl, verified, c, hverify, hbound, hexpired⟩
    rw [read, hread, ok_bind, haccept]
    rfl

/-- A request that has a session at one time has it later, if the later time is before the expiry
or the token came without a cookie. -/
theorem read_mono {token : String} {c : Claims} {channel : Channel}
    (hle : now.seconds ≤ later.seconds)
    (hdelivered : svc.delivery.read uri h = .ok ⟨token, channel⟩)
    (hread : svc.read now method uri h = .ok (c, token))
    (hfresh : channel = .cookie → ¬ c.IsExpired later) :
    svc.read later method uri h = .ok (c, token) := by
  obtain ⟨_, verified, hd, hverify, hbound, -, hconfirmed⟩ := read_eq_ok_iff_verified.1 hread
  cases hdelivered.symm.trans hd
  refine read_eq_ok_iff_verified.2 ⟨channel, verified, hd, Codec.verify_mono hle hverify, hbound,
    fun hcookie => ?_, hconfirmed⟩
  exact Claims.not_isExpired_iff.1 (hfresh hcookie)

/-- Sessions in the course of time. Without a cookie a session lasts; in a cookie it lasts until its
expiry and is reported as expired from then on. Verification is for good and knows no expiry, and
a token without an expiry has no session in a cookie at any time. -/
theorem read_over_time (svc : Service) (hle : now.seconds ≤ later.seconds) :
    (∀ method uri h c token channel, svc.delivery.read uri h = .ok ⟨token, channel⟩ →
      svc.read now method uri h = .ok (c, token) →
      (channel ≠ .cookie → svc.read later method uri h = .ok (c, token)) ∧
      (channel = .cookie → ∃ e, c.expiry = some e ∧
        (later.seconds < e.toInt → svc.read later method uri h = .ok (c, token)) ∧
        (e.toInt ≤ later.seconds → svc.read later method uri h = .error .tokenExpired))) ∧
    (∀ method uri h, svc.read now method uri h = .error .tokenExpired →
      svc.read later method uri h = .error .tokenExpired) ∧
    (∀ (codec : Codec) token,
      (∀ c, codec.verify now token = .ok c → codec.verify later token = .ok c) ∧
      codec.verify now token ≠ .error .tokenExpired) ∧
    ∀ uri h token c, svc.delivery.read uri h = .ok ⟨token, .cookie⟩ → Codec.Says token c →
      c.expiry = none → ∀ time method session, svc.read time method uri h ≠ .ok session := by
  refine ⟨?_, ?_, ?_, ?_⟩
  · intro method uri h c token channel hdelivered hread
    refine ⟨fun hne => read_mono hle hdelivered hread fun he => absurd he hne, ?_⟩
    rintro rfl
    obtain ⟨_, verified, hd, hverify, hbound, hexpiry, -⟩ := read_eq_ok_iff_verified.1 hread
    cases hdelivered.symm.trans hd
    obtain ⟨e, he, -⟩ := hexpiry rfl
    refine ⟨e, he, fun hlt => read_mono hle hdelivered hread fun _ => ?_, fun hpast => ?_⟩
    · exact Claims.not_isExpired_iff.2 ⟨e, he, hlt⟩
    · refine read_eq_tokenExpired_iff.2
        ⟨token, verified, c, hd, Codec.verify_mono hle hverify, hbound, ?_⟩
      rw [Claims.IsExpired, he]
      exact hpast
  · intro method uri h he
    obtain ⟨token, verified, c, hd, hverify, hbound, hexpired⟩ := read_eq_tokenExpired_iff.1 he
    exact read_eq_tokenExpired_iff.2
      ⟨token, verified, c, hd, Codec.verify_mono hle hverify, hbound, hexpired.mono hle⟩
  · intro codec token
    exact ⟨fun _ => Codec.verify_mono hle, codec.verify_ne_tokenExpired now token⟩
  · rintro uri h token c hdelivered hsays hnone time method ⟨c', token'⟩ hread
    obtain ⟨_, verified, hd, hverify, hbound, hexpiry, -⟩ := read_eq_ok_iff_verified.1 hread
    cases hdelivered.symm.trans hd
    obtain ⟨e, he, -⟩ := hexpiry rfl
    rw [hbound.expiry_eq, (Codec.says_of_verify hverify).unique hsays, hnone] at he
    cases he

/-- The second in which the session of a visit expires. -/
def afterHours : Instant := { Instant.epoch with seconds := 900, seconds_mem := by decide }

def nextDay : Instant := { Instant.epoch with seconds := 86401, seconds_mem := by decide }

theorem read_pageHeaders (a : String) :
    shop.read .shopOpens "POST" ⟨none⟩ (pageHeaders (shopToken a)) =
      .ok (Claims.shopVisit.withUserAudience "shop", shopToken a) := by
  have hread := delivered_page (shopToken_ne_empty a) (isValue_shopToken a)
  refine read_eq_ok_iff_verified.2 ⟨.cookie, _, hread, verify_shopToken a, ⟨"shop", rfl, rfl⟩,
    fun _ => ⟨900, rfl, by decide⟩, fun _ _ _ _ => ?_⟩
  exact ⟨by decide, ⟨"x-xsrf-token"⟩, rfl, rfl, by decide⟩

/-- A visit that is not to end. -/
def endlessVisit : Claims := { Claims.shopVisit with expiry := none }

def endlessToken : String := (Codec.encode .text "s3cret" endlessVisit).toString

theorem says_endlessToken : Codec.Says endlessToken endlessVisit :=
  ⟨_, _, Codec.ofString?_encode .text "s3cret" endlessVisit,
    Codec.readPayload_encode (c := endlessVisit) Claims.isReadable_shopVisit⟩

/-- The session of a page ends with the second of its expiry and is still over the next day, though
its token is verified as before; the one of a program goes on, and a page that is not to expire has
none. -/
theorem read_over_time_shop :
    shop.read .shopCloses "POST" ⟨none⟩ (pageHeaders (shopToken "")) =
      .ok (Claims.shopVisit.withUserAudience "shop", shopToken "") ∧
    shop.read afterHours "POST" ⟨none⟩ (pageHeaders (shopToken "")) = .error .tokenExpired ∧
    shop.read nextDay "POST" ⟨none⟩ (pageHeaders (shopToken "")) = .error .tokenExpired ∧
    shop.codec.verify afterHours (shopToken "") =
      .ok (Claims.shopVisit.withUserAudience "") ∧
    shop.read afterHours "POST" ⟨none⟩ (programHeaders (shopToken "")) =
      .ok (Claims.shopVisit.withUserAudience "shop", shopToken "") ∧
    ∀ time method session,
      shop.read time method ⟨none⟩ (pageHeaders endlessToken) ≠ .ok session := by
  have hcloses : Instant.shopOpens.seconds ≤ Instant.shopCloses.seconds := by decide
  have hafter : Instant.shopOpens.seconds ≤ afterHours.seconds := by decide
  have hnext : afterHours.seconds ≤ nextDay.seconds := by decide
  have hpage := delivered_page (shopToken_ne_empty "") (isValue_shopToken "")
  have hprogram := delivered_program (shopToken_ne_empty "") (isValue_shopToken "")
  have hendless := delivered_page (CompactToken.toString_ne_empty _ : endlessToken ≠ "")
    (isValue_encode _ _ _)
  obtain ⟨e, he, hbefore, -⟩ :=
    ((read_over_time shop hcloses).1 _ _ _ _ _ _ hpage (read_pageHeaders "")).2 rfl
  obtain ⟨e', he', -, hfrom⟩ :=
    ((read_over_time shop hafter).1 _ _ _ _ _ _ hpage (read_pageHeaders "")).2 rfl
  cases he
  cases he'
  have hexpired := hfrom (by decide)
  refine ⟨hbefore (by decide), hexpired, ?_, ?_, ?_, ?_⟩
  · exact (read_over_time shop hnext).2.1 _ _ _ hexpired
  · exact ((read_over_time shop hafter).2.2.1 _ _).1 _ (verify_shopToken "")
  · exact ((read_over_time shop hafter).1 _ _ _ _ _ _ hprogram (read_programHeaders "")).1 nofun
  · exact (read_over_time shop hafter).2.2.2 _ _ _ _ hendless says_endlessToken rfl

end Service

end SignedSession
