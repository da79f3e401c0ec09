import SignedSession.Proofs.Token.Refusal
import SignedSession.Proofs.Token.RoundTrip

/-!
What an accepted token proves. Its signature is the keyed hash of the rest, digit for digit, under
the secret that was found for it and by an algorithm with a keyed hash. Main statement: a token is
accepted only with this signature, so there is one at most for a header and a payload, and no other
algorithm will do.
-/
namespace SignedSession

open Json Text

namespace Algorithm

/-- The algorithms that sign with a keyed hash. -/
def keyed : List (Algorithm × Digest.Hash) :=
  [(hs256, .sha256), (hs384, .sha384), (hs512, .sha512)]

theorem hash?_eq_some_iff {a : Algorithm} {h : Digest.Hash} :
    a.hash? = some h ↔ (a, h) ∈ keyed := by
  cases a <;> simp [hash?, keyed, eq_comm]

theorem eq_of_name_eq {a b : Algorithm} (h : a.name = b.name) : a = b := by
  have hknown := ofName?_name a
  rw [h, ofName?_name] at hknown
  exact (Option.some.inj hknown).symm

theorem name_of_ofName? {s : String} {a : Algorithm} (h : ofName? s = some a) : a.name = s := by
  have hfound := List.find?_some h
  simpa using hfound

end Algorithm

namespace TokenHeader

/-- The name by which an algorithm is given, known or not. -/
def nameOf? : Tree → Option String
  | .str l => l.text?
  | .obj [(some s, .null)] => some s
  | _ => none

/-- The name of the algorithm that a header gives. -/
def algorithmName? (t : Tree) : Option String :=
  (t.record? fieldNames).bind fun fs => (fs.lookup "alg").bind nameOf?

theorem nameOf?_of_named? {t : Tree} {a : Algorithm} (h : named? t = some a) :
    nameOf? t = some a.name := by
  unfold named? at h
  split at h
  · next l =>
    obtain ⟨s, hs, ha⟩ := Option.bind_eq_some_iff.1 h
    rw [Algorithm.name_of_ofName? ha]
    exact hs
  · rw [Algorithm.name_of_ofName? h]
    rfl
  · cases h

/-- A header that can be read gives the name of its algorithm. -/
theorem algorithmName?_of_algorithm? {t : Tree} {a : Algorithm} (h : algorithm? t = some a) :
    algorithmName? t = some a.name := by
  obtain ⟨fs, hfs, h⟩ := Option.bind_eq_some_iff.1 h
  obtain ⟨_, -, h⟩ := Option.bind_eq_some_iff.1 h
  obtain ⟨b, hb, h⟩ := Option.bind_eq_some_iff.1 h
  obtain ⟨_, -, h⟩ := Option.bind_eq_some_iff.1 h
  obtain ⟨_, -, h⟩ := Option.bind_eq_some_iff.1 h
  obtain ⟨_, -, h⟩ := Option.bind_eq_some_iff.1 h
  cases h
  obtain ⟨alg, halg, hnamed⟩ := Option.bind_eq_some_iff.1 hb
  rw [algorithmName?, hfs, Option.bind_some, halg, Option.bind_some]
  exact nameOf?_of_named? hnamed

end TokenHeader

namespace CompactToken

/-- A text is a token that was made with a secret: it is the three parts of the token, which have no
dots, and the signature is the keyed hash that the header names. -/
structure IsAuthentic (t : CompactToken) (token secret : String) : Prop where
  text : token = t.toString
  dotless : '.' ∉ t.header ∧ '.' ∉ t.payload ∧ '.' ∉ t.signature
  secret_ne : secret ≠ ""
  signed : ∃ tree a hash, treeOf t.header = .ok tree ∧
    TokenHeader.algorithmName? tree = some a.name ∧ (a, hash) ∈ Algorithm.keyed ∧
    t.signature = Base64Url.encode
      (hash.hmac (Utf8.encode secret.toList) (Utf8.encode (t.header ++ '.' :: t.payload)))

theorem algorithm_eq_ok_iff {t : CompactToken} {a : Algorithm} : t.algorithm = .ok a ↔
    ∃ tree, treeOf t.header = .ok tree ∧ TokenHeader.algorithm? tree = some a := by
  unfold algorithm
  cases treeOf t.header with
  | error e => simp
  | ok tree => cases hread : TokenHeader.algorithm? tree <;> simp [hread]

theorem dot_not_mem_of_treeOf {part : List Char} {tree : Tree} (h : treeOf part = .ok tree) :
    '.' ∉ part := by
  unfold treeOf at h
  split at h
  · cases h
  · next hoctets => exact Base64Url.dot_not_mem_of_decode? hoctets

theorem isAuthentic_of_isSignedWith {t : CompactToken} {token secret : String}
    (ht : ofString? token = some t) (hsigned : t.IsSignedWith secret) (hsecret : secret ≠ "") :
    t.IsAuthentic token secret := by
  obtain ⟨a, hash, halg, hhash, hsignature⟩ := hsigned
  obtain ⟨tree, htree, hname⟩ := algorithm_eq_ok_iff.1 halg
  obtain ⟨htext, hpayload, hdotless⟩ := ofString?_eq_some_iff.1 ht
  exact ⟨htext, ⟨dot_not_mem_of_treeOf htree, hpayload, hdotless⟩, hsecret, tree, a, hash, htree,
    TokenHeader.algorithmName?_of_algorithm? hname, Algorithm.hash?_eq_some_iff.1 hhash,
    hsignature⟩

theorem IsAuthentic.ofString?_eq {t : CompactToken} {token secret : String}
    (h : t.IsAuthentic token secret) : ofString? token = some t :=
  ofString?_eq_some_iff.2 ⟨h.text, h.dotless.2⟩

theorem count_toString (t : CompactToken) : t.toString.toList.count '.' =
    t.header.count '.' + t.payload.count '.' + t.signature.count '.' + 2 := by
  simp only [toString, message, String.toList_ofList, List.count_append, List.count_cons_self]
  omega

/-- An authentic text has two dots, so it can be put together from three parts in one way only. -/
theorem IsAuthentic.eq_of_toString {t t' : CompactToken} {secret : String}
    (h : t.IsAuthentic t'.toString secret) : t = t' := by
  obtain ⟨hheader, hpayload, hsignature⟩ := h.dotless
  -- both texts have as many dots, and `t` has none in its parts
  have hcount := congrArg (fun s : String => s.toList.count '.') h.text
  simp only [count_toString, List.count_eq_zero_of_not_mem hheader,
    List.count_eq_zero_of_not_mem hpayload, List.count_eq_zero_of_not_mem hsignature] at hcount
  have hpayload' : '.' ∉ t'.payload := List.count_eq_zero.1 (by omega)
  have hsignature' : '.' ∉ t'.signature := List.count_eq_zero.1 (by omega)
  exact Option.some.inj (h.ofString?_eq.symm.trans (ofString?_toString hpayload' hsignature'))

/-- Header, payload and secret leave no choice of the signature. -/
theorem IsAuthentic.signature_eq {t t' : CompactToken} {token token' secret : String}
    (h : t.IsAuthentic token secret) (h' : t'.IsAuthentic token' secret)
    (hheader : t.header = t'.header) (hpayload : t.payload = t'.payload) :
    t.signature = t'.signature := by
  obtain ⟨tree, a, hash, htree, hname, hkeyed, hsignature⟩ := h.signed
  obtain ⟨tree', a', hash', htree', hname', hkeyed', hsignature'⟩ := h'.signed
  rw [hheader, htree'] at htree
  cases htree
  obtain rfl := Algorithm.eq_of_name_eq (Option.some.inj (hname.symm.trans hname'))
  have hhash : hash = hash' := Option.some.inj
    ((Algorithm.hash?_eq_some_iff.2 hkeyed).symm.trans (Algorithm.hash?_eq_some_iff.2 hkeyed'))
  rw [hsignature, hsignature', hheader, hpayload, hhash]

end CompactToken

/-- The claimed audience is read from the header and the payload; the signature does not count. -/
theorem ClaimedAudience.read_congr {token token' : String} {t t' : CompactToken}
    (ht : CompactToken.ofString? token = some t) (ht' : CompactToken.ofString? token' = some t')
    (hheader : t.header = t'.header) (hpayload : t.payload = t'.payload) :
    read token = read token' := by
  have halg : t.algorithm = t'.algorithm := by
    unfold CompactToken.algorithm
    rw [hheader]
  have htree : t.payloadTree = t'.payloadTree := congrArg CompactToken.treeOf hpayload
  unfold read
  rw [ht, ht']
  simp only [halg, htree]

namespace Keyring

/-- The audience by which the secret for a token is asked for: the given one, or without one the
audience that the token claims. -/
def AsksBy (k : Keyring) (given : Option String) (token audience : String) : Prop :=
  match given with
  | some a => audience = a
  | none => k.AsksFor token audience

/-- The host's reader has a secret for the audience. An empty one is none. -/
def Finds (k : Keyring) (given : Option String) (token secret : String) : Prop :=
  ∃ reader audience, k.reader = some reader ∧ k.AsksBy given token audience ∧
    reader audience = .ok secret ∧ secret ≠ ""

theorem AsksBy.unique {k : Keyring} {given : Option String}
    {token token' audience audience' : String}
    (hsame : ClaimedAudience.read token = ClaimedAudience.read token')
    (h : k.AsksBy given token audience) (h' : k.AsksBy given token' audience') :
    audience = audience' := by
  cases given with
  | some a => exact Eq.trans h (Eq.symm h')
  | none =>
    change k.AsksFor token audience at h
    change k.AsksFor token' audience' at h'
    unfold AsksFor at h h'
    cases hmode : k.mode with
    | shared =>
      rw [hmode] at h h'
      exact h.trans h'.symm
    | perAudience =>
      rw [hmode] at h h'
      obtain ⟨as, has, hfirst, -⟩ := h
      obtain ⟨as', has', hfirst', -⟩ := h'
      cases has.symm.trans (hsame.trans has')
      exact Option.some.inj (hfirst.symm.trans hfirst')

theorem Finds.unique {k : Keyring} {given : Option String} {token token' secret secret' : String}
    (hsame : ClaimedAudience.read token = ClaimedAudience.read token')
    (h : k.Finds given token secret) (h' : k.Finds given token' secret') : secret = secret' := by
  obtain ⟨reader, audience, hreader, hasks, hanswer, -⟩ := h
  obtain ⟨reader', audience', hreader', hasks', hanswer', -⟩ := h'
  cases hreader.symm.trans hreader'
  cases hasks.unique hsame hasks'
  exact Except.ok.inj (hanswer.symm.trans hanswer')

theorem asksFor_of_secretForToken {k : Keyring} {token secret : String}
    (h : k.secretForToken token = .ok secret) :
    ∃ audience, k.AsksFor token audience ∧ k.secretFor audience = .ok secret := by
  rw [secretForToken] at h
  unfold AsksFor
  cases hmode : k.mode with
  | shared =>
    rw [hmode] at h
    exact ⟨placeholder, rfl, h⟩
  | perAudience =>
    rw [hmode] at h
    obtain ⟨a, hpeek, h⟩ := bind_eq_ok.1 h
    exact ⟨a.name, ClaimedAudience.peek_eq_ok_iff.1 hpeek, h⟩

end Keyring

namespace Codec

/-- Verification for a given audience, or for the one that the token claims. -/
def verifyFor (codec : Codec) (now : Instant) (given : Option String) (token : String) :
    Except TokenError Claims :=
  match given with
  | some a => codec.verifyAs now token a
  | none => codec.verify now token

/-- A token is accepted under a secret that is found for it. -/
theorem authentic_of_verifyFor {codec : Codec} {now : Instant} {given : Option String}
    {token : String} {c : Claims} (h : codec.verifyFor now given token = .ok c) :
    ∃ (t : CompactToken) (secret : String), codec.keyring.Finds given token secret ∧
      t.IsAuthentic token secret := by
  have hsecret : ∃ audience secret, codec.keyring.AsksBy given token audience ∧
      codec.keyring.secretFor audience = .ok secret ∧
      codec.verifyWith now secret token = .ok c := by
    cases given with
    | some a =>
      obtain ⟨secret, hsecret, hwith⟩ := bind_eq_ok.1 h
      exact ⟨a, secret, rfl, hsecret, hwith⟩
    | none =>
      obtain ⟨secret, hsecret, hwith⟩ := bind_eq_ok.1 h
      obtain ⟨audience, hasks, hsecret⟩ := Keyring.asksFor_of_secretForToken hsecret
      exact ⟨audience, secret, hasks, hsecret, hwith⟩
  obtain ⟨audience, secret, hasks, hsecret, hwith⟩ := hsecret
  obtain ⟨reader, hreader, hanswer, hne⟩ := Keyring.secretFor_eq_ok_iff.1 hsecret
  obtain ⟨t, _, ht, hsigned, -⟩ := verifyWith_eq_ok_iff.1 hwith
  exact ⟨t, secret, ⟨reader, audience, hreader, hasks, hanswer, hne⟩,
    CompactToken.isAuthentic_of_isSignedWith ht hsigned hne⟩

/-- The same for a text that was put together from three parts. -/
theorem authentic_of_verifyFor_toString {codec : Codec} {now : Instant} {given : Option String}
    {t : CompactToken} {c : Claims} (h : codec.verifyFor now given t.toString = .ok c) :
    ∃ secret, codec.keyring.Finds given t.toString secret ∧
      t.IsAuthentic t.toString secret := by
  obtain ⟨t', secret, hfinds, hauthentic⟩ := authentic_of_verifyFor h
  obtain rfl := hauthentic.eq_of_toString
  exact ⟨secret, hfinds, hauthentic⟩

theorem signature_unique {codec : Codec} {now now' : Instant} {given : Option String}
    {header payload signature signature' : List Char} {c c' : Claims}
    (h : codec.verifyFor now given (CompactToken.mk header payload signature).toString = .ok c)
    (h' : codec.verifyFor now' given (CompactToken.mk header payload signature').toString =
      .ok c') : signature = signature' := by
  obtain ⟨secret, hfinds, hauthentic⟩ := authentic_of_verifyFor_toString h
  obtain ⟨secret', hfinds', hauthentic'⟩ := authentic_of_verifyFor_toString h'
  have hsame := ClaimedAudience.read_congr hauthentic.ofString?_eq hauthentic'.ofString?_eq rfl rfl
  obtain rfl := hfinds.unique hsame hfinds'
  exact hauthentic.signature_eq hauthentic' rfl rfl

/-- Accepted tokens are authentic, for a given audience and for the one that they claim. A token is
its three parts, and the last of them is the keyed hash of the others under the secret that was
found. So a header and a payload have one signature at most; no algorithm without a keyed hash is
accepted, known or not; and where a signature is put behind another header or payload, it is
accepted only if the two messages have the same keyed hash. -/
theorem verify_authenticates (codec : Codec) (given : Option String) :
    (∀ now token c, codec.verifyFor now given token = .ok c →
      ∃ (t : CompactToken) (secret : String), codec.keyring.Finds given token secret ∧
        t.IsAuthentic token secret) ∧
    (∀ header payload signature signature' now now' c c',
      codec.verifyFor now given (CompactToken.mk header payload signature).toString = .ok c →
      codec.verifyFor now' given (CompactToken.mk header payload signature').toString = .ok c' →
      signature = signature') ∧
    (∀ (t : CompactToken) tree name, CompactToken.treeOf t.header = .ok tree →
      TokenHeader.algorithmName? tree = some name → name ∉ ["HS256", "HS384", "HS512"] →
      ∀ now c, codec.verifyFor now given t.toString ≠ .ok c) ∧
    ∀ (signer : Codec) c signed token t, signer.sign c = .ok (token, signed) →
      CompactToken.ofString? token = some t → ∀ header payload now accepted,
      codec.verifyFor now given (CompactToken.mk header payload t.signature).toString =
        .ok accepted →
      ∃ key secret, signer.keyring.secretFor (signed.audience.getD "") = .ok key ∧
        t.signature = CompactToken.signatureOf .sha256 key t.message ∧
        codec.keyring.Finds given (CompactToken.mk header payload t.signature).toString secret ∧
        (CompactToken.mk header payload t.signature).IsAuthentic
          (CompactToken.mk header payload t.signature).toString secret := by
  refine ⟨fun _ _ _ => authentic_of_verifyFor, fun _ _ _ _ _ _ _ _ => signature_unique, ?_, ?_⟩
  · intro t tree name htree hname hother now c h
    obtain ⟨_, -, hauthentic⟩ := authentic_of_verifyFor_toString h
    obtain ⟨tree', a, hash, htree', hname', hkeyed, -⟩ := hauthentic.signed
    cases htree.symm.trans htree'
    cases hname.symm.trans hname'
    simp only [Algorithm.keyed, List.mem_cons, Prod.mk.injEq, List.not_mem_nil, or_false] at hkeyed
    rcases hkeyed with ⟨rfl, -⟩ | ⟨rfl, -⟩ | ⟨rfl, -⟩ <;> exact hother (by decide)
  · intro signer c signed token t hsign ht header payload now accepted h
    obtain ⟨-, -, -, key, hkey, rfl⟩ := sign_eq_ok_iff.1 hsign
    cases ht.symm.trans (ofString?_encode signer.format key signed)
    obtain ⟨secret, hfinds, hauthentic⟩ := authentic_of_verifyFor_toString h
    exact ⟨key, secret, hkey, signature_encode signer.format key signed, hfinds, hauthentic⟩

/-- A header that promises a signature with a pair of keys, and one that promises none. -/
def pairedHeader : String := "\x7b\"typ\":\"JWT\",\"alg\":\"RS256\"\x7d"

def unsignedHeader : String := "\x7b\"typ\":\"JWT\",\"alg\":\"none\"\x7d"

/-- What such a header says. -/
def headerTree (algorithm : String) : Tree :=
  .obj [(some "typ", .str (.text "JWT")), (some "alg", .str (.text algorithm))]

/-- The token of a visit. -/
def visitToken : CompactToken := encode .text "s3cret" Claims.shopVisit

/-- The token of a visit is authentic, whether its audience is given or not. Behind its header and
its payload no other signature is accepted, and none at all behind a header that does not promise a
keyed hash. -/
theorem verify_authenticates_shop :
    (∃ (t : CompactToken) (secret : String),
      shopVerifier.keyring.Finds none visitToken.toString secret ∧
        t.IsAuthentic visitToken.toString secret) ∧
    (∀ signature now c, signature ≠ visitToken.signature → shopVerifier.verifyFor now none
      (CompactToken.mk visitToken.header visitToken.payload signature).toString ≠ .ok c) ∧
    (∀ payload signature now c, ∀ header ∈ [pairedHeader, unsignedHeader],
      shopVerifier.verifyFor now none (CompactToken.mk (CompactToken.partOf header.toList) payload
        signature).toString ≠ .ok c) ∧
    ∃ key secret, shopSigner.keyring.secretFor "shop" = .ok key ∧
      visitToken.signature = CompactToken.signatureOf .sha256 key visitToken.message ∧
      shopVerifier.keyring.Finds (some "shop") visitToken.toString secret ∧
      visitToken.IsAuthentic visitToken.toString secret := by
  have hbegun : Claims.shopVisit.HaveBegun .shopOpens := Claims.haveBegun_shopVisit (by decide)
  have hverify : shopVerifier.verifyFor .shopOpens none visitToken.toString =
      .ok Claims.shopVisit := verify_encode Claims.isReadable_shopVisit hbegun rfl rfl
  have has : shopVerifier.verifyFor .shopOpens (some "shop") visitToken.toString =
      .ok Claims.shopVisit :=
    bind_eq_ok.2 ⟨"s3cret", rfl, verifyWith_encode Claims.isReadable_shopVisit hbegun rfl⟩
  have hsign : shopSigner.sign { Claims.shopVisit with provider := none } =
      .ok (visitToken.toString, Claims.shopVisit) :=
    sign_eq_ok_iff.2 ⟨rfl, fun _ => rfl, rfl, "s3cret", rfl, rfl⟩
  have htoken : CompactToken.ofString? visitToken.toString = some visitToken :=
    ofString?_encode .text "s3cret" Claims.shopVisit
  obtain ⟨hauthentic, hunique, hrefused, -⟩ := verify_authenticates shopVerifier none
  obtain ⟨-, -, -, hsigned⟩ := verify_authenticates shopVerifier (some "shop")
  refine ⟨hauthentic _ _ _ hverify, ?_, ?_, hsigned _ _ _ _ _ hsign htoken _ _ _ _ has⟩
  · intro signature now c hne h
    have hparts : visitToken =
        ⟨visitToken.header, visitToken.payload, visitToken.signature⟩ := by
      generalize visitToken = t
      rfl
    rw [hparts] at hverify
    exact hne (hunique _ _ _ _ _ _ _ _ h hverify)
  · intro payload signature now c header hheader
    simp only [List.mem_cons, List.not_mem_nil, or_false] at hheader
    rcases hheader with rfl | rfl
    · have hchars : Tree.ofChars? pairedHeader.toList = some (headerTree "RS256") := rfl
      have htree := CompactToken.treeOf_partOf pairedHeader.toList
      rw [hchars] at htree
      exact hrefused ⟨_, payload, signature⟩ _ "RS256" htree rfl (by decide) now c
    · have hchars : Tree.ofChars? unsignedHeader.toList = some (headerTree "none") := rfl
      have htree := CompactToken.treeOf_partOf unsignedHeader.toList
      rw [hchars] at htree
      exact hrefused ⟨_, payload, signature⟩ _ "none" htree rfl (by decide) now c

end Codec

end SignedSession
