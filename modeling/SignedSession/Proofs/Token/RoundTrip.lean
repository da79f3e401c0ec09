import SignedSession.Proofs.Claims.RoundTrip
import SignedSession.Proofs.Token.Compact
import SignedSession.Proofs.Token.Verification

/-!
Signing and verifying are inverse. A signed token is a header, the text of the claims and their
keyed hash; each reader of it finds in it what was written. Main statement: what one codec signs
another verifies, whatever the formats of the two and the ways they look up their secrets.
-/
namespace SignedSession

open Json

namespace Codec

/-- Claims after the host's last change. -/
def updated (codec : Codec) (c : Claims) : Claims :=
  match codec.update with
  | some f => f c
  | none => c

/-- Signing succeeds when the updated claims are allowed and their audience has a secret, and
gives the token of the updated claims. -/
theorem sign_eq_ok_iff {codec : Codec} {c c' : Claims} {token : String} :
    codec.sign c = .ok (token, c') ↔
      c' = codec.updated c ∧ (c'.user.isSome → c'.audiences.length = 1) ∧
        checkAudience codec.allow c' = .ok () ∧
        ∃ secret, codec.keyring.secretFor (c'.audience.getD "") = .ok secret ∧
          token = (encode codec.format secret c').toString := by
  change (do
    let _ ← codec.keyring.require
    if (codec.updated c).user.isSome ∧ (codec.updated c).audiences.length ≠ 1 then
      .error .notOneAudience
    checkAudience codec.allow (codec.updated c)
    let secret ← codec.keyring.secretFor ((codec.updated c).audience.getD "")
    .ok ((encode codec.format secret (codec.updated c)).toString, codec.updated c)) =
      Except.ok (token, c') ↔ _
  simp only [bind_eq_ok]
  constructor
  · rintro ⟨_, -, h⟩
    split at h
    · cases h
    · next hone =>
      simp only [bind_eq_ok] at h
      obtain ⟨_, haudience, secret, hsecret, h⟩ := h
      obtain ⟨rfl, rfl⟩ := Prod.mk.inj (Except.ok.inj h)
      have hlength : (codec.updated c).user.isSome → (codec.updated c).audiences.length = 1 :=
        fun hu => Decidable.not_not.1 fun hne => hone ⟨hu, hne⟩
      exact ⟨rfl, hlength, haudience, secret, hsecret, rfl⟩
  · rintro ⟨rfl, hone, haudience, secret, hsecret, rfl⟩
    obtain ⟨reader, hreader, -⟩ := Keyring.secretFor_eq_ok_iff.1 hsecret
    refine ⟨reader, by rw [Keyring.require, hreader], ?_⟩
    rw [if_neg fun h => h.2 (hone h.1)]
    exact bind_eq_ok.2 ⟨(), haudience, bind_eq_ok.2 ⟨secret, hsecret, rfl⟩⟩

section

variable {format : AudienceFormat} {secret : String} {c : Claims}

theorem isSignedWith_encode : (encode format secret c).IsSignedWith secret :=
  ⟨.hs256, .sha256, algorithm_encode format secret c, rfl, signature_encode format secret c⟩

/-- The payload of a token is an object that says the claims. -/
theorem payloadTree_encode (format : AudienceFormat) (secret : String) (hc : c.IsReadable) :
    ∃ ms, (encode format secret c).payloadTree = .ok (.obj ms) ∧
      Claims.ofTree? (.obj ms) = some c := by
  have hkeys : ((c.toMembers format).map Prod.fst).Nodup :=
    List.Nodup.sublist (c.keys_sublist format) (by decide)
  obtain ⟨members, hsorted, -⟩ := Value.isArrangement_sortKeys.obj (c.toMembers format) hkeys
  have htree : (c.toValue format).sortKeys.toTree = .obj (Value.memberTrees members) := by
    change (Value.obj (c.toMembers format)).sortKeys.toTree = _
    rw [hsorted]
    rfl
  refine ⟨Value.memberTrees members, ?_, ?_⟩
  · rw [CompactToken.payloadTree, payload_encode, CompactToken.treeOf_partOf,
      Claims.ofChars?_canonical hc format, htree]
  · rw [← htree]
    exact Claims.ofTree?_toValue Value.isArrangement_sortKeys hc format

theorem readPayload_encode (hc : c.IsReadable) :
    readPayload (encode format secret c) = .ok (c, c.notBeforeSeconds) := by
  obtain ⟨ms, htree, hclaims⟩ := payloadTree_encode format secret hc
  exact readPayload_eq_ok_iff.2 ⟨.obj ms, htree, hclaims, Registered.notBefore?_of_claims hclaims⟩

/-- The audience that a signed token claims is the one of its claims. -/
theorem peek_encode (hc : c.IsReadable) {a : String} (ha : c.namedAudience? = some a) :
    ClaimedAudience.peek (encode format secret c).toString = .ok ⟨a⟩ := by
  obtain ⟨ms, htree, hclaims⟩ := payloadTree_encode format secret hc
  exact ClaimedAudience.peek_of_claims (ofString?_encode format secret c)
    (algorithm_encode format secret c) htree hclaims ha

theorem verifyWith_encode {codec : Codec} {now : Instant} (hc : c.IsReadable)
    (hbegun : c.HaveBegun now) (haudience : checkAudience codec.allow c = .ok ()) :
    codec.verifyWith now secret (encode format secret c).toString = .ok c :=
  verifyWith_eq_ok_iff.2 ⟨_, _, ofString?_encode format secret c, isSignedWith_encode,
    readPayload_encode hc, checkTimes_eq_ok_iff.2 hbegun, haudience⟩

/-- A token is verified by every codec that finds its secret. -/
theorem verify_encode {codec : Codec} {now : Instant} (hc : c.IsReadable)
    (hbegun : c.HaveBegun now) (haudience : checkAudience codec.allow c = .ok ())
    (hsecret : codec.keyring.secretFor (codec.keyring.askedFor c) = .ok secret) :
    codec.verify now (encode format secret c).toString = .ok c := by
  refine bind_eq_ok.2 ⟨secret, ?_, verifyWith_encode hc hbegun haudience⟩
  rw [Keyring.askedFor] at hsecret
  rw [Keyring.secretForToken]
  cases hmode : codec.keyring.mode with
  | shared =>
    rw [hmode] at hsecret
    exact hsecret
  | perAudience =>
    rw [hmode] at hsecret
    obtain ⟨a, ha, -⟩ := checkAudience_eq_ok_iff.1 haudience
    refine bind_eq_ok.2 ⟨⟨a⟩, peek_encode hc ha, ?_⟩
    rw [(Claims.namedAudience?_eq_some_iff.1 ha).1] at hsecret
    exact hsecret

end

/-- What a codec signs, another verifies and gets the same claims, if it finds the same secret by
them, allows their audience, and their times have come. -/
theorem verify_of_sign {signer verifier : Codec} {c c' : Claims} {token : String} {now : Instant}
    (hsign : signer.sign c = .ok (token, c'))
    (hsecret : verifier.keyring.secretFor (verifier.keyring.askedFor c') =
      signer.keyring.secretFor (c'.audience.getD ""))
    (hallowed : ∀ a, c'.audience = some a → Allowed verifier.allow a)
    (hbegun : c'.HaveBegun now) (hreadable : c'.IsReadable) :
    verifier.verify now token = .ok c' := by
  obtain ⟨-, -, haudience, secret, hsigned, rfl⟩ := sign_eq_ok_iff.1 hsign
  obtain ⟨a, ha, -⟩ := checkAudience_eq_ok_iff.1 haudience
  have hverifier : checkAudience verifier.allow c' = .ok () :=
    checkAudience_eq_ok_iff.2 ⟨a, ha, hallowed a (Claims.namedAudience?_eq_some_iff.1 ha).1⟩
  exact verify_encode hreadable hbegun hverifier (hsecret.trans hsigned)

end Codec

def Instant.shopOpens : Instant := { epoch with seconds := 1, seconds_mem := by decide }

def Instant.shopCloses : Instant := { epoch with seconds := 899, seconds_mem := by decide }

/-- The session of an administrator of the shop, from its opening on. -/
def Claims.shopVisit : Claims where
  issuer := some "session-token"
  audiences := ["shop"]
  expiry := some 900
  notBefore := some 1
  issuedAt := some 1
  tokenId := some "id-1"
  user := some { name := "Ann", id := "u1", attributes := Attributes.empty.setFlag "admin" true }
  provider := some "dev"

theorem Claims.isReadable_shopVisit : shopVisit.IsReadable := by
  intro u hu m hm
  cases hu
  change m ∈ [("admin", Value.bool true)] at hm
  obtain rfl := List.mem_singleton.1 hm
  exact ⟨trivial, Nat.zero_le _⟩

theorem Claims.haveBegun_shopVisit {now : Instant} (h : 1 ≤ now.seconds) :
    shopVisit.HaveBegun now where
  notBefore n hn := by
    cases hn
    exact Or.inr h
  issuedAt n hn := by
    cases hn
    exact h

def Codec.shopSigner : Codec :=
  ⟨.text, ⟨some (.fixed "s3cret"), .shared⟩, none, some (·.byProvider "dev")⟩

def Codec.shopVerifier : Codec :=
  ⟨.list, ⟨some (.ofTable (.ofList [("shop", "s3cret"), ("bank", "other")])), .perAudience⟩,
    some (.ok ["Shop"]), none⟩

theorem Codec.verify_of_sign_shop :
    shopSigner.sign { Claims.shopVisit with provider := none } =
        .ok ((encode .text "s3cret" Claims.shopVisit).toString, Claims.shopVisit) ∧
      shopVerifier.verify .shopOpens (encode .text "s3cret" Claims.shopVisit).toString =
        .ok Claims.shopVisit := by
  have hsign : shopSigner.sign { Claims.shopVisit with provider := none } =
      .ok ((encode .text "s3cret" Claims.shopVisit).toString, Claims.shopVisit) :=
    sign_eq_ok_iff.2 ⟨rfl, fun _ => rfl, rfl, "s3cret", rfl, rfl⟩
  refine ⟨hsign, verify_of_sign hsign rfl ?_ (Claims.haveBegun_shopVisit (by decide))
    Claims.isReadable_shopVisit⟩
  intro a ha list hlist
  cases ha
  cases hlist
  exact ⟨["Shop"], rfl, by decide⟩

end SignedSession
