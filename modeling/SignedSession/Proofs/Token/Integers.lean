import SignedSession.Proofs.Claims.Integers
import SignedSession.Proofs.Token.Authenticity

/-!
Integers in tokens. Main statement: an integer that is written in a payload is kept as it is or
refused, it is signed in the digits it has, and no token is accepted for a time that it does not
say.
-/
namespace SignedSession

open Json Json.MemberText Claims

namespace Codec

/-- The payload of what was signed is the text of the claims. -/
theorem exists_payload_of_sign {codec : Codec} {c c' : Claims} {token : String}
    (h : codec.sign c = .ok (token, c')) : ∃ t, CompactToken.ofString? token = some t ∧
      t.payload = CompactToken.partOf (c'.toValue codec.format).sortKeys.chars := by
  obtain ⟨-, -, -, secret, -, rfl⟩ := sign_eq_ok_iff.1 h
  refine ⟨_, ofString?_encode codec.format secret c', ?_⟩
  rw [payload_encode, canonical, Value.toList_render]

theorem exists_secret_of_verifyFor {codec : Codec} {now : Instant} {given : Option String}
    {token : String} {c : Claims} (h : codec.verifyFor now given token = .ok c) :
    ∃ secret, codec.verifyWith now secret token = .ok c := by
  cases given with
  | some a =>
    obtain ⟨secret, -, hwith⟩ := bind_eq_ok.1 h
    exact ⟨secret, hwith⟩
  | none =>
    obtain ⟨secret, -, hwith⟩ := bind_eq_ok.1 h
    exact ⟨secret, hwith⟩

/-- The time of a verified token is the integer in its payload, and has come if it must. -/
theorem time_of_verifyFor {codec : Codec} {now : Instant} {given : Option String}
    {token : String} {c : Claims} (h : codec.verifyFor now given token = .ok c) {t : CompactToken}
    (ht : CompactToken.ofString? token = some t) {tree : Tree} (htree : t.payloadTree = .ok tree)
    {f : TimeField} {n : Int} (hn : tree.HasField fieldNames f.name (.num (.ofInt n))) :
    (∃ e, f.get c = some e ∧ e.toInt = n) ∧
      ∀ ms, tree = .obj ms → (f = .notBefore → n < 0 ∨ n ≤ now.seconds) ∧
        (f = .issuedAt → n ≤ now.seconds) := by
  obtain ⟨secret, hwith⟩ := exists_secret_of_verifyFor h
  obtain ⟨t', notBefore, ht', -, hpayload, htimes, -⟩ := verifyWith_eq_ok_iff.1 hwith
  cases ht.symm.trans ht'
  obtain ⟨tree', htree', hclaims, hregistered⟩ := readPayload_eq_ok_iff.1 hpayload
  cases htree.symm.trans htree'
  obtain ⟨e, he, rfl⟩ := f.toInt_of_ofTree? hclaims hn
  refine ⟨⟨e, he, rfl⟩, ?_⟩
  rintro ms rfl
  -- in an object the time of validity that was checked is the one of the claims
  cases hregistered.symm.trans (Registered.notBefore?_of_claims hclaims)
  have hbegun := checkTimes_eq_ok_iff.1 htimes
  constructor
  · rintro rfl
    exact hbegun.notBefore e he
  · rintro rfl
    exact hbegun.issuedAt e he

/-- Integers keep their value. The digits of an integer are a numeral of any length. A time in such
digits is read exactly, on top of what the other members say, or refused if no signed word holds it.
An attribute in such digits, however deep, is that integer exactly if a word holds it, signed or
not; and such an integer can be read wherever anything can. The integers of signed claims stand in
the payload in their digits, each in its place. And a token is accepted only for the times that its
payload says, so for none that no word holds, and for no start and no issue that lies ahead. -/
theorem integers_exact :
    (∀ n : Int, Tree.ofChars? (intChars n) = some (.num (.ofInt n))) ∧
    (∀ (f : TimeField) (n : Int) (m : MemberText), m.name = f.name → m.tree = .num (.ofInt n) →
      ∀ before after : List MemberText,
        (¬ IsInt64 n → ofText? (objectText (before ++ m :: after)) = none) ∧
        (IsInt64 n → (Int64.ofInt n).toInt = n ∧ ((∀ x ∈ before ++ after, x.name ≠ f.name) →
          ofText? (objectText (before ++ m :: after)) =
            (ofText? (objectText (before ++ after))).map
              (f.set · (some (Int64.ofInt n)))))) ∧
    (∀ (t : Tree) (c : Claims) (p : Path) (n : Int), ofTree? t = some c →
      t.HasAttribute p (.num (.ofInt n)) →
        ∃ u, c.user = some u ∧ (u.attributes.HasInt p n ↔ IsWord n)) ∧
    (∀ (attrs attrs' user : MemberText) (p : Path) (x : Tree) (n : Int), attrs.name = "attrs" →
      attrs'.name = "attrs" → user.name = "user" → p ≠ [] → attrs.tree.at? p = some x →
      IsWord n → attrs'.tree = attrs.tree.put p (.num (.ofInt n)) →
      ∀ (before after front back : List MemberText) (c : Claims),
        ofText? (objectText (before ++ user.holding (front ++ attrs :: back) :: after)) = some c →
        ∃ u a, c.user = some u ∧ a.HasInt p n ∧
          ofText? (objectText (before ++ user.holding (front ++ attrs' :: back) :: after)) =
            some { c with user := some { u with attributes := a } }) ∧
    (∀ (codec : Codec) (c c' : Claims) (token : String), codec.sign c = .ok (token, c') →
      (∃ t, CompactToken.ofString? token = some t ∧
        t.payload = CompactToken.partOf (c'.toValue codec.format).sortKeys.chars) ∧
      (∀ (f : TimeField) (e : Int64), f.get c' = some e →
        (c'.toValue codec.format).sortKeys.WritesAt [.member f.name] (intChars e.toInt)) ∧
      ∀ (u : User) (p : Path) (n : Int), c'.user = some u → u.attributes.HasInt p n →
        (c'.toValue codec.format).sortKeys.WritesAt (.member "user" :: .member "attrs" :: p)
          (intChars n)) ∧
    ∀ (codec : Codec) (now : Instant) (given : Option String) (token : String) (c : Claims)
      (t : CompactToken) (tree : Tree) (f : TimeField) (n : Int),
      codec.verifyFor now given token = .ok c → CompactToken.ofString? token = some t →
      t.payloadTree = .ok tree → tree.HasField fieldNames f.name (.num (.ofInt n)) →
        IsInt64 n ∧ (∃ e, f.get c = some e ∧ e.toInt = n) ∧
        ∀ ms, tree = .obj ms → (f = .notBefore → n < 0 ∨ n ≤ now.seconds) ∧
          (f = .issuedAt → n ≤ now.seconds) := by
  refine ⟨Tree.ofChars?_intChars, ?_, ?_, ?_, ?_, ?_⟩
  · intro f n m hname htree before after
    obtain ⟨hrefused, hread⟩ := f.ofText?_insert hname htree before after
    exact ⟨hrefused, fun hn => ⟨hn.toInt_ofInt, hread hn⟩⟩
  · intro t c p n hc hn
    exact Claims.hasInt_iff hc hn
  · intro attrs attrs' user p x n hattrs hattrs' huser hp hx hn hput before after front back c hc
    exact ofText?_put hattrs hattrs' huser hp hx hn hput hc
  · intro codec c c' token h
    exact ⟨exists_payload_of_sign h, fun f e he => writesAt_time he codec.format,
      fun u p n hu hn => writesAt_attribute hu hn codec.format⟩
  · intro codec now given token c t tree f n h ht htree hn
    obtain ⟨⟨e, he, rfl⟩, hcome⟩ := time_of_verifyFor h ht htree hn
    exact ⟨isInt64_toInt e, ⟨e, he, rfl⟩, hcome⟩

/-- A time in digits. -/
def timeText (f : TimeField) (n : Int) : MemberText where
  key := '"' :: f.name.toList ++ ['"']
  name := f.name
  value := intChars n
  tree := .num (.ofInt n)
  key_says := by cases f <;> rfl
  value_says := Tree.ofChars?_intChars n

def maxWord : WordInt := ⟨18446744073709551615, by decide⟩

def noSeats : MemberText where
  key := "\"attrs\"".toList
  name := "attrs"
  value := "\x7b\"seats\": [null]\x7d".toList
  tree := .obj [(some "seats", .arr [.null])]
  key_says := rfl
  value_says := rfl

def allSeats : MemberText where
  key := "\"attrs\"".toList
  name := "attrs"
  value := "\x7b\"seats\": [18446744073709551615]\x7d".toList
  tree := .obj [(some "seats", .arr [.num (.ofInt maxWord.val)])]
  key_says := rfl
  value_says := rfl

def seats : Path := [.member "seats", .item 0]

/-- A visit by the owner of the seats. -/
def seatedVisit : Claims :=
  { Claims.shopVisit with
    user := some { name := "", id := "",
                   attributes := .ofMembers [("seats", .arr [.num (.int maxWord)])] } }

theorem hasInt_seatedVisit {u : User} (hu : seatedVisit.user = some u) :
    u.attributes.HasInt seats maxWord.val := by
  cases hu
  exact ⟨maxWord, rfl, rfl⟩

/-- A visit that starts one second after the last one that there is cannot be read. All seats can be
put where none were, and are read as many. They are signed as many; and a verified visit was issued
when its payload says, which has passed. -/
theorem integers_exact_seats :
    (ofText? (objectText [timeText .notBefore 9223372036854775808]) = none ∧
      ofText? (objectText [timeText .notBefore 9223372036854775807]) =
        some { notBefore := some Int64.maxValue }) ∧
    (∃ (u : User) (a : Attributes), a.HasInt seats maxWord.val ∧
      ofText? (objectText [shopUser.holding [allSeats]]) =
        some { user := some { u with attributes := a } }) ∧
    (∃ u, seatedVisit.user = some u ∧ (u.attributes.HasInt seats maxWord.val ↔
      IsWord maxWord.val)) ∧
    (seatedVisit.toValue .text).sortKeys.WritesAt (.member "user" :: .member "attrs" :: seats)
      "18446744073709551615".toList ∧
    ∃ e, Claims.shopVisit.issuedAt = some e ∧ e.toInt = 1 := by
  obtain ⟨-, htimes, hkept, hput, hprinted, hverified⟩ := integers_exact
  refine ⟨⟨?_, ?_⟩, ?_, ?_, ?_, ?_⟩
  · obtain ⟨hrefused, -⟩ := htimes .notBefore 9223372036854775808
      (timeText .notBefore 9223372036854775808) rfl rfl [] []
    exact hrefused fun h => absurd h.2 (by decide)
  · obtain ⟨-, hread⟩ := htimes .notBefore 9223372036854775807
      (timeText .notBefore 9223372036854775807) rfl rfl [] []
    obtain ⟨-, hread⟩ := hread ⟨by decide, by decide⟩
    exact (hread nofun).trans rfl
  · obtain ⟨u, a, -, hint, hread⟩ := hput noSeats allSeats shopUser seats .null maxWord.val rfl rfl
      rfl nofun rfl maxWord.mem_range rfl [] [] [] []
      { user := some { name := "", id := "",
                       attributes := .ofMembers [("seats", .arr [.null])] } } rfl
    exact ⟨u, a, hint, hread⟩
  · have htree : ofTree? (seatedVisit.toValue .text).toTree = some seatedVisit := rfl
    have hattribute : (seatedVisit.toValue .text).toTree.HasAttribute seats
        (.num (.ofInt maxWord.val)) :=
      ⟨_, _, .tail _ (.tail _ (.tail _ (.tail _ (.tail _ (.tail _ (.head _)))))),
        .tail _ (.tail _ (.head _)), rfl⟩
    exact hkept _ seatedVisit seats maxWord.val htree hattribute
  · have hsign : shopSigner.sign { seatedVisit with provider := none } =
        .ok ((encode .text "s3cret" seatedVisit).toString, seatedVisit) :=
      sign_eq_ok_iff.2 ⟨rfl, fun _ => rfl, rfl, "s3cret", rfl, rfl⟩
    obtain ⟨-, -, hattributes⟩ := hprinted _ _ _ _ hsign
    exact hattributes _ seats maxWord.val rfl (hasInt_seatedVisit rfl)
  · have hverify : shopVerifier.verifyFor .shopOpens none visitToken.toString =
        .ok Claims.shopVisit :=
      verify_encode Claims.isReadable_shopVisit (Claims.haveBegun_shopVisit (by decide)) rfl rfl
    have htoken : CompactToken.ofString? visitToken.toString = some visitToken :=
      ofString?_encode .text "s3cret" Claims.shopVisit
    have htree : visitToken.payloadTree =
        .ok (Claims.shopVisit.toValue .text).sortKeys.toTree := by
      rw [visitToken, CompactToken.payloadTree, payload_encode, CompactToken.treeOf_partOf,
        Claims.ofChars?_canonical Claims.isReadable_shopVisit]
    have hissued : (Claims.shopVisit.toValue .text).sortKeys.toTree.HasField fieldNames
        TimeField.issuedAt.name (.num (.ofInt 1)) :=
      .tail _ (.tail _ (.tail _ (.head _)))
    exact (hverified _ _ _ _ _ _ _ _ _ hverify htoken htree hissued).2.1

end Codec

end SignedSession
