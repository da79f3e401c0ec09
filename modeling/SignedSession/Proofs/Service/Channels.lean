import SignedSession.Proofs.Service.Acceptance

/-!
No channel stands in for another. A token that no browser sends by itself is answered for what it
says, and nothing else of its request counts. Main statement: requests that bring the same token in
the query or in the header have the same answer, and a faulty one is not made up for by a channel
that comes later.
-/
namespace SignedSession

theorem DoubleSubmit.check_of_ne_cookie (g : DoubleSubmit) (method : String) (h : HeaderMap)
    (c : Claims) {channel : Channel} (hne : channel ≠ .cookie) :
    g.check method h c channel = .ok () :=
  check_eq_ok_iff.2 fun happlies => absurd happlies.2.2.1 hne

namespace Service

variable {svc : Service} {now : Instant} {uri : Uri} {h : HeaderMap} {token : String}
  {channel : Channel}

/-- The answer to a token that no browser sends by itself: it is verified, and bound to its
audience. -/
def answer (svc : Service) (now : Instant) (token : String) :
    Except TokenError (Claims × String) := do
  let verified ← svc.codec.verify now token
  let c ← bindAudience verified
  .ok (c, token)

theorem accept_of_ne_cookie (hne : channel ≠ .cookie) (method : String) (h : HeaderMap) :
    svc.accept now method h ⟨token, channel⟩ = svc.codec.verify now token >>= bindAudience := by
  have hfresh : ∀ c : Claims, ¬ (channel = .cookie ∧ c.IsExpired now) := fun _ he => hne he.1
  have hcheck := fun c => DoubleSubmit.check_of_ne_cookie svc.guard method h c hne
  unfold accept
  simp only [if_neg (hfresh _), hcheck, ok_bind, bind_ok]

theorem read_of_ne_cookie (hread : svc.delivery.read uri h = .ok ⟨token, channel⟩)
    (hne : channel ≠ .cookie) (method : String) :
    svc.read now method uri h = svc.answer now token := by
  rw [read, hread, ok_bind, accept_of_ne_cookie hne, answer, bind_assoc]

theorem answer_of_verify_error {e : TokenError} (h : svc.codec.verify now token = .error e) :
    svc.answer now token = .error e := by
  rw [answer, h]
  rfl

/-- Two requests that bring the same token in the query or the header have the same answer, whatever
else they hold. So the query's token, or without it the header's, is the only one that counts: its
fault is the request's, and nothing that comes later changes the answer. -/
theorem read_without_fallback (svc : Service) (now : Instant) :
    (∀ method uri h method' uri' h' token channel channel',
      svc.delivery.read uri h = .ok ⟨token, channel⟩ → channel ≠ .cookie →
      svc.delivery.read uri' h' = .ok ⟨token, channel'⟩ → channel' ≠ .cookie →
      svc.read now method uri h = svc.read now method' uri' h') ∧
    (∀ uri token, svc.delivery.fromQuery? uri = some token → ∀ method h,
      (∀ e, svc.codec.verify now token = .error e → svc.read now method uri h = .error e) ∧
      ∀ h', svc.read now method uri h' = svc.read now method uri h) ∧
    ∀ uri h token, svc.delivery.fromQuery? uri = none → svc.delivery.fromHeader? h = some token →
      ∀ method,
      (∀ e, svc.codec.verify now token = .error e → svc.read now method uri h = .error e) ∧
      ∀ h', h'.first? svc.delivery.tokenHeader = h.first? svc.delivery.tokenHeader →
        svc.read now method uri h' = svc.read now method uri h := by
  refine ⟨?_, ?_, ?_⟩
  · intro method uri h method' uri' h' token channel channel' hread hne hread' hne'
    rw [read_of_ne_cookie hread hne, read_of_ne_cookie hread' hne']
  · intro uri token hquery method h
    have hanswer : ∀ h, svc.read now method uri h = svc.answer now token := fun h =>
      read_of_ne_cookie (Delivery.read_of_fromQuery? hquery h) nofun method
    refine ⟨fun e he => (hanswer h).trans (answer_of_verify_error he), fun h' => ?_⟩
    rw [hanswer h', hanswer h]
  · intro uri h token hquery hheader method
    have hanswer : ∀ h, svc.delivery.fromHeader? h = some token →
        svc.read now method uri h = svc.answer now token := fun h hh =>
      read_of_ne_cookie (Delivery.read_of_fromHeader? hquery hh) nofun method
    refine ⟨fun e he => (hanswer h hheader).trans (answer_of_verify_error he), ?_⟩
    intro h' hfirst
    have hheader' := (Delivery.fromHeader?_congr hfirst).trans hheader
    rw [hanswer h' hheader', hanswer h hheader]

/-- An address of the shop with a token in it. -/
def shopLink (token : String) : Uri := ⟨some (Query.ofPairs [("lang", "en"), ("token", token)])⟩

theorem fromQuery?_shopLink {token : String} (hne : token ≠ "") :
    shop.delivery.fromQuery? (shopLink token) = some token :=
  Delivery.fromQuery?_ofPairs hne rfl

/-- A program of the shop has a session, whatever audience its token gives the user. -/
theorem read_programHeaders (a : String) :
    shop.read .shopOpens "POST" ⟨none⟩ (programHeaders (shopToken a)) =
      .ok (Claims.shopVisit.withUserAudience "shop", shopToken a) := by
  have hread := delivered_program (shopToken_ne_empty a) (isValue_shopToken a)
  rw [read_of_ne_cookie hread nofun, answer, verify_shopToken]
  rfl

/-- The headers of a page of the shop, with some token of a program before them. -/
def mixedHeaders (token : String) : HeaderMap :=
  ⟨(programHeaders token).lines ++ (pageHeaders (shopToken "")).lines⟩

def forgedError : TokenError := .malformed "can't pre-parse token: InvalidToken"

/-- A link says what a program's header says, also where a page has a session of its own; but a
forged token in a link or a header ends the matter, although the page's cookie is valid. -/
theorem read_without_fallback_shop :
    shop.read .shopOpens "GET" (shopLink (shopToken "")) (mixedHeaders "forged") =
      .ok (Claims.shopVisit.withUserAudience "shop", shopToken "") ∧
    shop.read .shopOpens "POST" (shopLink "forged") (pageHeaders (shopToken "")) =
      .error forgedError ∧
    shop.read .shopOpens "POST" ⟨none⟩ (mixedHeaders "forged") = .error forgedError ∧
    shop.read .shopOpens "POST" ⟨none⟩ (programHeaders "forged") = .error forgedError := by
  obtain ⟨hsame, hquery, hheader⟩ := read_without_fallback shop .shopOpens
  have hlink := Delivery.read_of_fromQuery? (fromQuery?_shopLink (shopToken_ne_empty ""))
    (mixedHeaders "forged")
  have hprogram := delivered_program (shopToken_ne_empty "") (isValue_shopToken "")
  have hforged : shop.codec.verify .shopOpens "forged" = .error forgedError := rfl
  have hmixed := hheader ⟨none⟩ (mixedHeaders "forged") "forged" rfl rfl "POST"
  have hfault := hmixed.1 _ hforged
  refine ⟨?_, ?_, hfault, (hmixed.2 (programHeaders "forged") rfl).trans hfault⟩
  · exact (hsame "GET" _ _ "POST" _ _ _ _ _ hlink nofun hprogram nofun).trans
      (read_programHeaders "")
  · exact (hquery _ _ (fromQuery?_shopLink (by decide)) "POST" _).1 _ hforged

end Service

end SignedSession
