import SignedSession.Proofs.Delivery.Writing
import SignedSession.Proofs.Service.CookieSession

/-!
What a session that has been signed can still fail for. A token is made of characters that may
stand anywhere in a message, so only the id is left, and only where it goes out in a cookie. Main
statement: a write fails for a value that no cookie can have, and for nothing else that settings,
claims or a clock could hold.
-/
namespace SignedSession

namespace Codec

theorem isValue_of_sign {codec : Codec} {c signed : Claims} {token : String}
    (h : codec.sign c = .ok (token, signed)) : Cookie.IsValue token := by
  obtain ⟨-, -, -, secret, -, rfl⟩ := sign_eq_ok_iff.1 h
  exact Service.isValue_encode _ _ _

end Codec

namespace Service

variable {s : Settings} {svc : Service} {now : Instant} {freshId token : String} {h : HeaderMap}
  {c filled signed : Claims}

theorem issue_of_sign {h' : HeaderMap} (hfill : svc.fill now freshId c = .ok filled)
    (hsign : svc.codec.sign filled = .ok (token, signed))
    (hwrite : svc.delivery.write h token signed = .ok h') :
    svc.issue now freshId h c = .ok (signed, h') :=
  issue_eq_ok_iff.2 ⟨filled, token, hfill, hsign, hwrite⟩

theorem issue_eq_error_iff_of_sign (hfill : svc.fill now freshId c = .ok filled)
    (hsign : svc.codec.sign filled = .ok (token, signed)) {e : TokenError} :
    svc.issue now freshId h c = .error e ↔ svc.delivery.write h token signed = .error e := by
  rw [issue, hfill, ok_bind, hsign, ok_bind, bind_eq_error]
  simp

end Service

namespace Delivery

open Text

variable {s : Settings} {d : Delivery}

/-- With a good token a write in cookies fails exactly for the id. -/
theorem exists_write_eq_error_iff (hnew : new s = .ok d) (hcookies : s.sendsHeader = false)
    {token : String} (htoken : Cookie.IsValue token) {h : HeaderMap} {c : Claims} :
    (∃ e, d.write h token c = .error e) ↔ ¬ Cookie.IsValue c.id := by
  constructor
  · rintro ⟨e, he⟩ hid
    rw [write_of_isValue hnew hcookies htoken hid] at he
    cases he
  · intro hid
    exact ⟨_, write_of_not_isValue_id hnew hcookies htoken hid h⟩

/-- What a write can fail for, once names and domain have been accepted. In cookies it is an octet
of the token, or else one of the id, that no cookie value may hold; the lines themselves can be
written whatever the domain and the age are. A signed token is fit for a cookie and for a header,
and so a signed session can only fail to be issued in cookies, for its id. -/
theorem write_fails_only_for_values (hnew : new s = .ok d) :
    (s.sendsHeader = false → ∀ h token (c : Claims),
      ((∃ h', d.write h token c = .ok h') ↔
        (∀ o ∈ Utf8.encode token.toList, Cookie.IsValueOctet o) ∧
          ∀ o ∈ Utf8.encode c.id.toList, Cookie.IsValueOctet o) ∧
      ((∃ o ∈ Utf8.encode token.toList, ¬ Cookie.IsValueOctet o) → d.write h token c =
        .error (.internal ("invalid value for cookie " ++ quoted s.tokenCookie))) ∧
      ((∀ o ∈ Utf8.encode token.toList, Cookie.IsValueOctet o) →
        (∃ o ∈ Utf8.encode c.id.toList, ¬ Cookie.IsValueOctet o) → d.write h token c =
          .error (.internal ("invalid value for cookie " ++ quoted s.xsrfCookie)))) ∧
    (∀ name value httpOnly maxAge, name = s.tokenCookie ∨ name = s.xsrfCookie →
      (∀ o ∈ Utf8.encode value.toList, Cookie.IsValueOctet o) →
        HeaderValue.IsValid (d.cookie name value httpOnly maxAge).render) ∧
    (∀ (codec : Codec) c token signed, codec.sign c = .ok (token, signed) →
      (∀ o ∈ Utf8.encode token.toList, Cookie.IsValueOctet o) ∧ HeaderValue.IsValid token) ∧
    ∀ svc : Service, svc.delivery = d → ∀ now freshId h c filled token signed,
      svc.fill now freshId c = .ok filled → svc.codec.sign filled = .ok (token, signed) →
      (s.sendsHeader = true → ∃ h', svc.issue now freshId h c = .ok (signed, h')) ∧
      (s.sendsHeader = false → ((∃ e, svc.issue now freshId h c = .error e) ↔
        ∃ o ∈ Utf8.encode signed.id.toList, ¬ Cookie.IsValueOctet o)) := by
  have hd := isOf_of_new hnew
  simp only [← Cookie.not_isValue_iff_octets, ← Cookie.isValue_iff_octets]
  refine ⟨?_, ?_, ?_, ?_⟩
  · intro hcookies h token c
    refine ⟨?_, fun htoken => write_of_not_isValue hnew hcookies htoken h c,
      fun htoken hid => write_of_not_isValue_id hnew hcookies htoken hid h⟩
    simp only [write_eq_ok_iff_isValue hnew hcookies, exists_and_left, exists_eq, and_true]
  · intro name value httpOnly maxAge hname hvalue
    have hisName : Cookie.IsName name := by
      rcases hname with rfl | rfl
      · exact hd.isName_tokenCookie
      · exact hd.isName_xsrfCookie
    exact isValid_line hnew hisName hvalue httpOnly maxAge
  · intro codec c token signed hsign
    have htoken := Codec.isValue_of_sign hsign
    exact ⟨htoken, Cookie.isValid_of_isReadable (Cookie.isReadable_of_isValue htoken)⟩
  · rintro svc rfl now freshId h c filled token signed hfill hsign
    have htoken := Codec.isValue_of_sign hsign
    constructor
    · intro hheader
      have hvalid := Cookie.isValid_of_isReadable (Cookie.isReadable_of_isValue htoken)
      exact ⟨_, Service.issue_of_sign hfill hsign
        ((write_eq_ok_iff_of_sendsHeader (hd.sendsHeader.trans hheader)).2 ⟨hvalid, rfl⟩)⟩
    · intro hcookies
      simp only [Service.issue_eq_error_iff_of_sign hfill hsign]
      exact exists_write_eq_error_iff hnew hcookies htoken

/-- The shop as it would be with tokens in the header. -/
def sendingShop : Service :=
  { Service.shop with
    settings := { Service.shop.settings with sendsHeader := true }
    delivery := { Service.shop.delivery with sendsHeader := true } }

/-- A visit with this id, or with none before it is issued. -/
def visitWith (tokenId : Option String) : Claims := { Claims.shopVisit with tokenId := tokenId }

/-- The shop writes good values in cookies and names the cookie that a bad one is for. A fresh id
with a semicolon is turned away in a cookie and does no harm where the token goes in the header. -/
theorem write_fails_only_for_values_shop :
    (∃ h', Service.shop.delivery.write .empty "a.b.c" (.new "id-1") = .ok h') ∧
    Service.shop.delivery.write .empty "a.b c" (.new "id;2") =
      .error (.internal ("invalid value for cookie " ++ quoted "JWT")) ∧
    (∃ e, Service.shop.issue .shopOpens "id;2" .empty (visitWith none) = .error e) ∧
    ∃ h', sendingShop.issue .shopOpens "id;2" .empty (visitWith none) =
      .ok (visitWith (some "id;2"), h') := by
  have hnew : new Service.shop.settings = .ok Service.shop.delivery :=
    new_eq_ok_iff.2 ⟨⟨by decide, by decide, by decide, by decide⟩, rfl⟩
  have hsending : new sendingShop.settings = .ok sendingShop.delivery :=
    new_eq_ok_iff.2 ⟨⟨by decide, by decide, by decide, by decide⟩, rfl⟩
  have hsign : Service.shop.codec.sign (visitWith (some "id;2")) =
      .ok ((Codec.encode .text "s3cret" (visitWith (some "id;2"))).toString,
        visitWith (some "id;2")) :=
    Codec.sign_eq_ok_iff.2 ⟨rfl, fun _ => rfl, rfl, "s3cret", rfl, rfl⟩
  obtain ⟨hwrites, -, -, hissues⟩ := write_fails_only_for_values hnew
  obtain ⟨-, -, -, hsends⟩ := write_fails_only_for_values hsending
  have hid := (hissues Service.shop rfl .shopOpens "id;2" .empty (visitWith none) _ _ _ rfl hsign).2
    rfl
  have hgood : Cookie.IsValue "a.b.c" ∧ Cookie.IsValue "id-1" := ⟨by decide, by decide⟩
  refine ⟨(hwrites rfl .empty "a.b.c" (.new "id-1")).1.2 ⟨Cookie.isValue_iff_octets.1 hgood.1,
    Cookie.isValue_iff_octets.1 hgood.2⟩, ?_, ?_, ?_⟩
  · exact (hwrites rfl .empty "a.b c" (.new "id;2")).2.1 ⟨0x20, by decide, by decide⟩
  · exact hid.2 ⟨0x3b, by decide, by decide⟩
  · exact (hsends sendingShop rfl .shopOpens "id;2" .empty (visitWith none) _ _ _ rfl hsign).1 rfl

end Delivery

end SignedSession
