import SignedSession.Proofs.Service.CookieSession
import SignedSession.Proofs.Service.Lifetime
import SignedSession.Proofs.Token.KeyIsolation

/-!
Sessions that are renewed. A session that was read is issued again, goes out in the header, comes
back with a later request and is read from there. What was read once can be signed and read again,
any number of times. Main statement: over a run of renewals a session stays what it was, but for
its time of issue.
-/
namespace SignedSession

open Json

variable {now later : Instant}

namespace Claims

theorem HaveBegun.mono {c : Claims} (hle : now.seconds ≤ later.seconds) (h : c.HaveBegun now) :
    c.HaveBegun later where
  notBefore n hn := (h.notBefore n hn).imp_right fun hn => Int.le_trans hn hle
  issuedAt n hn := Int.le_trans (h.issuedAt n hn) hle

/-- Bound claims stay as they are when they are bound again. -/
theorem BindTo.bound {verified c : Claims} (h : verified.BindTo c) : c.BindTo c := by
  obtain ⟨a, rfl⟩ := h.eq_withUserAudience
  apply Service.bindAudience_eq_ok_iff.1
  rw [Service.bindAudience_withUserAudience]
  exact Service.bindAudience_eq_ok_iff.2 h

theorem BindTo.length_audiences {verified c : Claims} (h : verified.BindTo c)
    (huser : verified.user.isSome) : verified.audiences.length = 1 := by
  obtain ⟨u, hu⟩ := Option.isSome_iff_exists.1 huser
  unfold BindTo at h
  rw [hu] at h
  obtain ⟨a, ha, -⟩ := h
  rw [ha]
  rfl

/-- Nothing but the time of issue is left to fill in. -/
structure IsComplete (c : Claims) : Prop where
  expiry : ∃ e, c.expiry = some e ∧ e ≠ 0
  issuer : ∃ s, c.issuer = some s ∧ s ≠ ""
  tokenId : ∃ s, c.tokenId = some s ∧ s ≠ ""

end Claims

namespace Service

variable {svc : Service} {c : Claims} {secret : String}

/-- Claims as they are issued if nothing else is left to fill in. -/
def stamped (svc : Service) (now : Instant) (c : Claims) : Claims :=
  { c with issuedAt := if svc.settings.issueTimeDisabled then c.issuedAt else some now.timestamp }

/-- Only the last time of issue counts. -/
theorem stamped_stamped (svc : Service) (now later : Instant) (c : Claims) :
    svc.stamped later (svc.stamped now c) = svc.stamped later c := by
  unfold stamped
  cases svc.settings.issueTimeDisabled <;> rfl

theorem stamped_of_disabled (hdisabled : svc.settings.issueTimeDisabled = true) (now : Instant)
    (c : Claims) : svc.stamped now c = c := by
  rw [stamped, if_pos hdisabled]

theorem haveBegun_stamped (hle : now.seconds ≤ later.seconds) (h : c.HaveBegun now) :
    (svc.stamped now c).HaveBegun later where
  notBefore := (h.mono hle).notBefore
  issuedAt n hn := by
    unfold stamped at hn
    split at hn
    · exact (h.mono hle).issuedAt n hn
    · obtain rfl := Option.some.inj hn
      rw [Instant.toInt_timestamp]
      exact hle

theorem textOr_of_filled {o : Option String} {s : String} (ho : o = some s) (hs : s ≠ "")
    (fallback : String) : some (textOr o fallback) = o := by
  rw [ho, textOr, if_neg hs]

theorem fill_eq_stamped (h : c.IsComplete) (now : Instant) (freshId : String) :
    svc.fill now freshId c = .ok (svc.stamped now c) := by
  obtain ⟨e, he, hne⟩ := h.expiry
  obtain ⟨_, hissuer, hnamed⟩ := h.issuer
  obtain ⟨_, hid, hknown⟩ := h.tokenId
  have hexpiry : svc.expiryFor now c = .ok e := by
    have hkept : c.expiry.filter (· ≠ 0) = some e := by simp [he, hne]
    rw [expiryFor, hkept]
  rw [fill, hexpiry, ok_bind, textOr_of_filled hissuer hnamed, textOr_of_filled hid hknown, ← he]
  rfl

/-- Whatever issuing and reading ask of claims, apart from their times. -/
structure Renewable (svc : Service) (secret : String) (c : Claims) : Prop where
  complete : c.IsComplete
  readable : c.IsReadable
  bound : c.BindTo c
  audience : checkAudience svc.codec.allow c = .ok ()
  secret : svc.codec.keyring.secretFor (c.audience.getD "") = .ok secret

/-- No part of it looks at the time of issue. -/
theorem Renewable.stamped (h : svc.Renewable secret c) (now : Instant) :
    svc.Renewable secret (svc.stamped now c) where
  complete := ⟨h.complete.expiry, h.complete.issuer, h.complete.tokenId⟩
  readable := h.readable
  bound := by
    have hbound := h.bound
    unfold Claims.BindTo at hbound ⊢
    have huser : (svc.stamped now c).user = c.user := rfl
    rw [huser]
    cases hu : c.user with
    | none => rfl
    | some u =>
      rw [hu] at hbound
      obtain ⟨a, ha, hbound⟩ := hbound
      exact ⟨a, ha, congrArg (svc.stamped now) hbound⟩
  audience := h.audience
  secret := h.secret

/-- What is known of verified claims with an id: they are read from an object and have begun, and
the secret of their token is the one that they ask for. -/
theorem exists_secret_of_verify {codec : Codec} {token : String}
    (hverify : codec.verify now token = .ok c) (hid : c.tokenId ≠ none) :
    ∃ secret ms, Claims.ofTree? (.obj ms) = some c ∧ c.HaveBegun now ∧
      checkAudience codec.allow c = .ok () ∧
      codec.keyring.secretFor (codec.keyring.askedFor c) = .ok secret := by
  obtain ⟨secret, hsecret, hwith⟩ := bind_eq_ok.1 hverify
  obtain ⟨t, notBefore, ht, -, hpayload, htimes, haudience⟩ := Codec.verifyWith_eq_ok_iff.1 hwith
  have hasked := Keyring.secretFor_askedFor_of_token hsecret ht hpayload
  obtain ⟨tree, -, hclaims, hregistered⟩ := Codec.readPayload_eq_ok_iff.1 hpayload
  obtain ⟨ms, rfl⟩ := Claims.exists_members_of_readers hclaims hregistered hid
  -- in an object the time of validity that was checked is the one of the claims
  cases hregistered.symm.trans (Registered.notBefore?_of_claims hclaims)
  exact ⟨secret, ms, hclaims, Codec.checkTimes_eq_ok_iff.1 htimes, haudience, hasked⟩

/-- A session that was read is fit to be issued again, unless an attribute is a double. -/
theorem exists_renewable_of_read {method token : String} {uri : Uri} {h : HeaderMap}
    (hshared : svc.codec.keyring.SharesOne)
    (hread : svc.read now method uri h = .ok (c, token)) (hcomplete : c.IsComplete)
    (hfree : c.IsFloatFree) : ∃ secret, svc.Renewable secret c ∧ c.HaveBegun now := by
  obtain ⟨_, verified, -, hverify, hbound, -⟩ := read_eq_ok_iff_verified.1 hread
  -- the audience of the user is all that binding has changed
  obtain ⟨a, rfl⟩ := hbound.eq_withUserAudience
  have hid : verified.tokenId ≠ none := by
    obtain ⟨id, hid, -⟩ := hcomplete.tokenId
    exact fun hnone => Option.some_ne_none id (hid.symm.trans hnone)
  obtain ⟨secret, ms, hclaims, hbegun, haudience, hasked⟩ := exists_secret_of_verify hverify hid
  have hreadable : verified.IsReadable := by
    apply Claims.isReadable_of_ofTree? hclaims
    intro u hu
    exact hfree { u with audience := a } (congrArg (Option.map _) hu)
  refine ⟨secret, ?_, hbegun.notBefore, hbegun.issuedAt⟩
  exact ⟨hcomplete, isReadable_withUserAudience hreadable a, hbound.bound, haudience,
    (Keyring.secretFor_askedFor_iff hshared).1 hasked⟩

end Service

/-- A request that sends a header of a response back. -/
def HeaderMap.sendingBack (request response : HeaderMap) (name : HeaderName) : HeaderMap :=
  ⟨request.lines.filter (·.1 ≠ name) ++ response.lines.filter (·.1 = name)⟩

theorem HeaderMap.values_sendingBack (request response : HeaderMap) (name : HeaderName) :
    (request.sendingBack response name).values name = response.values name := by
  simp [values, sendingBack, List.filter_append, List.filter_filter]

namespace Service

/-- A response that a session is written to, and a request that brings it back. -/
structure Round where
  written : Instant
  freshId : String
  response : HeaderMap
  read : Instant
  method : String
  uri : Uri
  request : HeaderMap

def Round.times (r : Round) : List Instant := [r.written, r.read]

/-- Issues claims and reads the session that the header of the response brings back. -/
def renew (svc : Service) (r : Round) (c : Claims) : Except TokenError (Claims × String) := do
  let (_, response) ← svc.issue r.written r.freshId r.response c
  svc.read r.read r.method r.uri (r.request.sendingBack response svc.delivery.tokenHeader)

/-- Renewals one after the other; gives the session after each. -/
def renewAll (svc : Service) : List Round → Claims → Except TokenError (List (Claims × String))
  | [], _ => .ok []
  | r :: rounds, c => do
    let s ← svc.renew r c
    let log ← svc.renewAll rounds s.1
    .ok (s :: log)

/-- The token of claims under a secret. -/
def tokenUnder (svc : Service) (secret : String) (c : Claims) : String :=
  (Codec.encode svc.codec.format secret c).toString

theorem isReadable_tokenUnder (svc : Service) (secret : String) (c : Claims) :
    HeaderValue.IsReadable (svc.tokenUnder secret c) :=
  Cookie.isReadable_of_isValue (isValue_encode svc.codec.format secret c)

/-- The session that a renewal gives: the claims, and the token that says them. -/
def renewed (svc : Service) (secret : String) (now : Instant) (c : Claims) : Claims × String :=
  (svc.stamped now c, svc.tokenUnder secret (svc.stamped now c))

section

variable {svc : Service} {c : Claims} {secret : String} (hheader : svc.delivery.sendsHeader = true)
  (hupdate : svc.codec.update = none) (hshared : svc.codec.keyring.SharesOne)

include hheader hupdate in
/-- The first half of a renewal. -/
theorem issue_of_renewable (hc : svc.Renewable secret c) (now : Instant) (freshId : String)
    (response : HeaderMap) : svc.issue now freshId response c = .ok (svc.stamped now c,
      response.insert svc.delivery.tokenHeader (svc.tokenUnder secret (svc.stamped now c))) := by
  have hstamped := hc.stamped now
  have hsame : svc.stamped now c = svc.codec.updated (svc.stamped now c) := by
    rw [Codec.updated, hupdate]
  have hsign : svc.codec.sign (svc.stamped now c) =
      .ok (svc.tokenUnder secret (svc.stamped now c), svc.stamped now c) :=
    Codec.sign_eq_ok_iff.2 ⟨hsame, hstamped.bound.length_audiences, hstamped.audience, secret,
      hstamped.secret, rfl⟩
  have hvalid : HeaderValue.IsValid (svc.tokenUnder secret (svc.stamped now c)) :=
    Cookie.isValid_of_isReadable (svc.isReadable_tokenUnder secret _)
  exact issue_eq_ok_iff.2 ⟨_, _, fill_eq_stamped hc.complete now freshId, hsign,
    (Delivery.write_eq_ok_iff_of_sendsHeader hheader).2 ⟨hvalid, rfl⟩⟩

include hshared in
/-- The second half: the token of claims is read from its header. -/
theorem read_of_renewable (hc : svc.Renewable secret c) (hbegun : c.HaveBegun now) {uri : Uri}
    {request : HeaderMap} (hquery : svc.delivery.fromQuery? uri = none)
    (hfirst : request.first? svc.delivery.tokenHeader = some (svc.tokenUnder secret c))
    (method : String) : svc.read now method uri request = .ok (c, svc.tokenUnder secret c) := by
  have hne : svc.tokenUnder secret c ≠ "" := CompactToken.toString_ne_empty _
  have hdelivered := Delivery.read_of_fromHeader? hquery
    (Delivery.fromHeader?_of_first? hne (svc.isReadable_tokenUnder secret c) hfirst)
  have hverify : svc.codec.verify now (svc.tokenUnder secret c) = .ok c :=
    Codec.verify_encode hc.readable hbegun hc.audience
      ((Keyring.secretFor_askedFor_iff hshared).2 hc.secret)
  rw [read_of_ne_cookie hdelivered nofun, answer, hverify, ok_bind,
    bindAudience_eq_ok_iff.2 hc.bound, ok_bind]

include hheader hupdate hshared

/-- One renewal. -/
theorem renew_of_renewable {r : Round} (hc : svc.Renewable secret c)
    (hbegun : c.HaveBegun r.written) (hle : r.written.seconds ≤ r.read.seconds)
    (hquery : svc.delivery.fromQuery? r.uri = none) :
    svc.renew r c = .ok (svc.renewed secret r.written c) := by
  rw [renew, issue_of_renewable hheader hupdate hc, ok_bind]
  apply read_of_renewable hshared (hc.stamped r.written) (haveBegun_stamped hle hbegun) hquery
  rw [HeaderMap.first?, HeaderMap.values_sendingBack, HeaderMap.values_insert, if_pos rfl]
  rfl

/-- A run of renewals, whose sessions differ from the first in the time of issue alone. -/
theorem renewAll_of_renewable {rounds : List Round} {now : Instant} (hc : svc.Renewable secret c)
    (hbegun : c.HaveBegun now)
    (hordered : (now :: rounds.flatMap Round.times).Pairwise (·.seconds ≤ ·.seconds))
    (hquery : ∀ r ∈ rounds, svc.delivery.fromQuery? r.uri = none) :
    svc.renewAll rounds c = .ok (rounds.map fun r => svc.renewed secret r.written c) := by
  induction rounds generalizing c now with
  | nil => rfl
  | cons r rounds ih =>
    obtain ⟨hstart, hordered⟩ := List.pairwise_cons.1 hordered
    obtain ⟨hwritten, hordered⟩ := List.pairwise_cons.1 hordered
    have hle : r.written.seconds ≤ r.read.seconds := hwritten r.read List.mem_cons_self
    have hbegun := hbegun.mono (hstart r.written List.mem_cons_self)
    have hrenew := renew_of_renewable hheader hupdate hshared hc hbegun hle
      (hquery r List.mem_cons_self)
    have hrest := ih (hc.stamped r.written) (haveBegun_stamped hle hbegun) hordered
      fun r' hr' => hquery r' (List.mem_cons_of_mem r hr')
    -- the rest of the run starts from stamped claims, but stamps them again
    have hsame : ∀ r' : Round, svc.renewed secret r'.written (svc.stamped r.written c) =
        svc.renewed secret r'.written c := by
      intro r'
      rw [renewed, stamped_stamped, renewed]
    simp only [hsame] at hrest
    rw [renewAll, hrenew, ok_bind]
    exact bind_eq_ok.2 ⟨_, hrest, rfl⟩

end

/-- Renewing a session changes nothing but its time of issue. A session that was read, and in which
nothing is left to fill in, can be renewed any number of times, however late: each renewal gives the
session that was read, issued when it was last written, with the expiry, the id and the user that it
had. Where no time of issue is set, all renewals give the same token. -/
theorem renewAll_of_read {svc : Service} {start : Instant} {method token : String} {uri : Uri}
    {h : HeaderMap} {c : Claims} (hheader : svc.delivery.sendsHeader = true)
    (hupdate : svc.codec.update = none)
    (hshared : svc.codec.keyring.mode = .shared →
      ∀ reader, svc.codec.keyring.reader = some reader → ∀ a b, reader a = reader b)
    (hread : svc.read start method uri h = .ok (c, token)) (hcomplete : c.IsComplete)
    (hfree : c.IsFloatFree) (rounds : List Round)
    (hordered : (start :: rounds.flatMap Round.times).Pairwise (·.seconds ≤ ·.seconds))
    (hquery : ∀ r ∈ rounds, svc.delivery.fromQuery? r.uri = none) :
    ∃ log, svc.renewAll rounds c = .ok log ∧
      log.map Prod.fst = rounds.map (fun r => svc.stamped r.written c) ∧
      (svc.settings.issueTimeDisabled = true → ∃ token, ∀ s ∈ log, s.2 = token) ∧
      ∀ s ∈ log, s.1.expiry = c.expiry ∧ s.1.tokenId = c.tokenId ∧ s.1.user = c.user := by
  obtain ⟨secret, hc, hbegun⟩ := exists_renewable_of_read hshared hread hcomplete hfree
  refine ⟨_, renewAll_of_renewable hheader hupdate hshared hc hbegun hordered hquery, ?_, ?_, ?_⟩
  · rw [List.map_map]
    rfl
  · intro hdisabled
    refine ⟨svc.tokenUnder secret c, ?_⟩
    intro s hs
    obtain ⟨r, -, rfl⟩ := List.mem_map.1 hs
    rw [renewed, stamped_of_disabled hdisabled]
  · intro s hs
    obtain ⟨r, -, rfl⟩ := List.mem_map.1 hs
    exact ⟨rfl, rfl, rfl⟩

/-- The shop with tokens in the header. -/
def shopByHeader : Service := { shop with delivery := { shop.delivery with sendsHeader := true } }

/-- A renewal before closing time, that is read when the session has expired, and another one the
day after. -/
def shopRounds : List Round :=
  [⟨.shopCloses, "id-2", .empty, afterHours, "GET", ⟨none⟩, .empty⟩,
    ⟨nextDay, "id-3", .empty, nextDay, "GET", ⟨none⟩, .empty⟩]

/-- A session that has expired is renewed, but does not begin anew. -/
theorem renewAll_of_read_shop : ∃ log,
    shopByHeader.renewAll shopRounds (Claims.shopVisit.withUserAudience "shop") = .ok log ∧
      log.map (fun s => s.1.issuedAt) = [some 899, some 86401] ∧
      ∀ s ∈ log, s.1.expiry = some 900 ∧ s.1.tokenId = some "id-1" := by
  have hread : shopByHeader.read .shopOpens "POST" ⟨none⟩ (programHeaders (shopToken "bank")) =
      .ok (Claims.shopVisit.withUserAudience "shop", shopToken "bank") := by
    have hcodec : shopByHeader.codec = shop.codec := rfl
    have hheader : shopByHeader.delivery.fromHeader? (programHeaders (shopToken "bank")) =
        some (shopToken "bank") := Delivery.fromHeader?_of_first? (shopToken_ne_empty "bank")
      (Cookie.isReadable_of_isValue (isValue_shopToken "bank")) rfl
    have hquery : shopByHeader.delivery.fromQuery? ⟨none⟩ = none := rfl
    have hdelivered := Delivery.read_of_fromHeader? hquery hheader
    rw [read_of_ne_cookie hdelivered nofun, answer, hcodec, verify_shopToken]
    rfl
  have hshared : shopByHeader.codec.keyring.SharesOne := by
    intro hmode
    cases hmode
  have hcomplete : (Claims.shopVisit.withUserAudience "shop").IsComplete :=
    ⟨⟨900, rfl, by decide⟩, ⟨"session-token", rfl, by decide⟩, ⟨"id-1", rfl, by decide⟩⟩
  have hfree : (Claims.shopVisit.withUserAudience "shop").IsFloatFree := by
    intro u hu m hm
    exact (isReadable_withUserAudience Claims.isReadable_shopVisit "shop" u hu m hm).1
  have hordered : (Instant.shopOpens :: shopRounds.flatMap Round.times).Pairwise
      (·.seconds ≤ ·.seconds) := by decide
  have hquery : ∀ r ∈ shopRounds, shopByHeader.delivery.fromQuery? r.uri = none := by
    intro r hr
    simp only [shopRounds, List.mem_cons, List.not_mem_nil, or_false] at hr
    rcases hr with rfl | rfl <;> rfl
  obtain ⟨log, hlog, hclaims, -, hkept⟩ :=
    renewAll_of_read rfl rfl hshared hread hcomplete hfree shopRounds hordered hquery
  refine ⟨log, hlog, ?_, fun s hs => ⟨(hkept s hs).1, (hkept s hs).2.1⟩⟩
  have hissued := congrArg (List.map Claims.issuedAt) hclaims
  rw [List.map_map, List.map_map] at hissued
  exact hissued

end Service

end SignedSession
