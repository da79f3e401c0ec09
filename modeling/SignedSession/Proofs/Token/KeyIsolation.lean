import SignedSession.Proofs.Token.RoundTrip

/-!
Where every audience has a secret of its own, the audience that picks the secret is read before
the signature is checked. Main statement: if a token is verified, that was the audience of its
claims, so no other audience's secret had a part in it.
-/
namespace SignedSession

open Json

/-- What verification says of a token also holds of the audience that was read beforehand: a
payload that every reader accepts is an object, and in an object they look at one member. -/
theorem ClaimedAudience.audience_of_peek {t : CompactToken} {token : String} {c : Claims}
    {notBefore : Option Nat} {a : ClaimedAudience} (hpeek : peek token = .ok a)
    (ht : CompactToken.ofString? token = some t)
    (hread : Codec.readPayload t = .ok (c, notBefore)) :
    c.audience = some a.name ∧ Text.allBlank a.name = false := by
  obtain ⟨as, has, hfirst, hblank⟩ := peek_eq_ok_iff.1 hpeek
  obtain ⟨_, _, tree, _, ht', -, htree, haudiences, hregistered⟩ := read_eq_ok_iff.1 has
  cases ht.symm.trans ht'
  obtain ⟨tree', htree', hclaims, -⟩ := Codec.readPayload_eq_ok_iff.1 hread
  cases htree.symm.trans htree'
  obtain ⟨ms, rfl⟩ := exists_members_of_readers haudiences hregistered
  have hsame : some as = some c.audiences := haudiences.symm.trans (audiences?_of_claims hclaims)
  rw [Claims.audience, ← Option.some.inj hsame]
  exact ⟨hfirst, hblank⟩

/-- The secret that a token is verified with is the one that its claims ask for. -/
theorem Keyring.secretFor_askedFor_of_token {k : Keyring} {t : CompactToken} {token secret : String}
    {c : Claims} {notBefore : Option Nat} (hsecret : k.secretForToken token = .ok secret)
    (ht : CompactToken.ofString? token = some t)
    (hread : Codec.readPayload t = .ok (c, notBefore)) :
    k.secretFor (k.askedFor c) = .ok secret := by
  rw [secretForToken] at hsecret
  rw [askedFor]
  cases hmode : k.mode with
  | shared =>
    rw [hmode] at hsecret
    exact hsecret
  | perAudience =>
    rw [hmode] at hsecret
    obtain ⟨a, hpeek, hclaimed⟩ := bind_eq_ok.1 hsecret
    rw [(ClaimedAudience.audience_of_peek hpeek ht hread).1]
    exact hclaimed

namespace Codec

/-- The same codec with other secrets. -/
def withSecrets (codec : Codec) (reader : SecretReader) : Codec :=
  { codec with keyring := { codec.keyring with reader := some reader } }

theorem verify_eq_verifyAs {codec : Codec} {now : Instant} {token : String} {a : ClaimedAudience}
    (hmode : codec.keyring.mode = .perAudience) (hpeek : ClaimedAudience.peek token = .ok a) :
    codec.verify now token = codec.verifyAs now token a.name := by
  rw [verify, Keyring.secretForToken, hmode]
  simp only [hpeek]
  rfl

/-- A secret is asked for once, by the audience. -/
theorem verifyAs_withSecrets {codec : Codec} {now : Instant} {token a : String}
    {reader reader' : SecretReader} (hreader : codec.keyring.reader = some reader)
    (hsame : reader' a = reader a) :
    (codec.withSecrets reader').verifyAs now token a = codec.verifyAs now token a := by
  have hsecret : (codec.withSecrets reader').keyring.secretFor a = codec.keyring.secretFor a := by
    rw [Keyring.secretFor_of_reader rfl, Keyring.secretFor_of_reader hreader, hsame]
  rw [verifyAs, hsecret]
  rfl

/-- The audience of verified claims is the one that the token claimed. -/
theorem peek_of_verifyWith {codec : Codec} {now : Instant} {secret token a : String} {c : Claims}
    {t : CompactToken} {ms : List Member} (ht : CompactToken.ofString? token = some t)
    (htree : t.payloadTree = .ok (.obj ms)) (h : codec.verifyWith now secret token = .ok c)
    (hfirst : c.audience = some a) : ClaimedAudience.peek token = .ok ⟨a⟩ := by
  obtain ⟨t', _, ht', ⟨alg, _, halg, -, -⟩, hread, -, haudience⟩ := verifyWith_eq_ok_iff.1 h
  cases ht.symm.trans ht'
  obtain ⟨tree, htree', hclaims, -⟩ := readPayload_eq_ok_iff.1 hread
  cases htree.symm.trans htree'
  obtain ⟨b, hnamed, -⟩ := checkAudience_eq_ok_iff.1 haudience
  cases hfirst.symm.trans (Claims.namedAudience?_eq_some_iff.1 hnamed).1
  exact ClaimedAudience.peek_of_claims ht halg htree hclaims hnamed

/-- A token that is verified was signed with the secret of its audience, and what the reader of
secrets says of other audiences does not count. A token that is verified for an audience, and has
it as its own, is verified. -/
theorem verify_perAudience {codec : Codec} (hmode : codec.keyring.mode = .perAudience)
    (now : Instant) (token : String) (c : Claims) :
    (codec.verify now token = .ok c →
      ∃ a reader secret t, c.audience = some a ∧ Text.allBlank a = false ∧
        ClaimedAudience.peek token = .ok ⟨a⟩ ∧ codec.keyring.reader = some reader ∧
        reader a = .ok secret ∧ CompactToken.ofString? token = some t ∧ t.IsSignedWith secret ∧
        codec.verifyAs now token a = .ok c ∧
        ∀ reader' : SecretReader, reader' a = reader a →
          (codec.withSecrets reader').verify now token = .ok c) ∧
      ∀ t ms a, CompactToken.ofString? token = some t → t.payloadTree = .ok (.obj ms) →
        codec.verifyAs now token a = .ok c → c.audience = some a →
        codec.verify now token = .ok c := by
  constructor
  · intro h
    have hverify := h
    rw [verify, Keyring.secretForToken, hmode] at h
    obtain ⟨secret, hsecret, hwith⟩ := bind_eq_ok.1 h
    obtain ⟨⟨a⟩, hpeek, hsecret⟩ := bind_eq_ok.1 hsecret
    obtain ⟨reader, hreader, hanswer, -⟩ := Keyring.secretFor_eq_ok_iff.1 hsecret
    obtain ⟨t, _, ht, hsigned, hread, -, -⟩ := verifyWith_eq_ok_iff.1 hwith
    obtain ⟨hfirst, hblank⟩ := ClaimedAudience.audience_of_peek hpeek ht hread
    have has : codec.verifyAs now token a = .ok c :=
      (verify_eq_verifyAs hmode hpeek).symm.trans hverify
    refine ⟨a, reader, secret, t, hfirst, hblank, hpeek, hreader, hanswer, ht, hsigned, has, ?_⟩
    intro reader' hsame
    have hmode' : (codec.withSecrets reader').keyring.mode = .perAudience := hmode
    rw [verify_eq_verifyAs hmode' hpeek, verifyAs_withSecrets hreader hsame]
    exact has
  · intro t ms a ht htree h hfirst
    obtain ⟨secret, -, hwith⟩ := bind_eq_ok.1 h
    rw [verify_eq_verifyAs hmode (peek_of_verifyWith ht htree hwith hfirst)]
    exact h

/-- The verifier would verify the shop's token without a secret of the bank. -/
theorem verify_perAudience_shop :
    shopVerifier.keyring.mode = .perAudience ∧
      ClaimedAudience.peek (encode .text "s3cret" Claims.shopVisit).toString = .ok ⟨"shop"⟩ ∧
      (shopVerifier.withSecrets (.ofTable (.ofList [("shop", "s3cret")]))).verify
        .shopOpens (encode .text "s3cret" Claims.shopVisit).toString = .ok Claims.shopVisit := by
  have hmode : shopVerifier.keyring.mode = .perAudience := rfl
  have has : shopVerifier.verifyAs .shopOpens (encode .text "s3cret" Claims.shopVisit).toString
      "shop" = .ok Claims.shopVisit :=
    bind_eq_ok.2 ⟨"s3cret", rfl, verifyWith_encode Claims.isReadable_shopVisit
      (Claims.haveBegun_shopVisit (by decide)) rfl⟩
  obtain ⟨ms, htree, -⟩ := payloadTree_encode .text "s3cret" Claims.isReadable_shopVisit
  obtain ⟨hverified, hverifies⟩ := verify_perAudience hmode .shopOpens
    (encode .text "s3cret" Claims.shopVisit).toString Claims.shopVisit
  have hverify := hverifies _ ms "shop" (ofString?_encode .text "s3cret" Claims.shopVisit) htree
    has rfl
  obtain ⟨a, reader, secret, t, ha, -, hpeek, hreader, -, -, -, -, hothers⟩ := hverified hverify
  cases ha
  cases hreader
  exact ⟨hmode, hpeek, hothers _ rfl⟩

end Codec

end SignedSession
