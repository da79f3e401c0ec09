import SignedSession.Proofs.Delivery.Writing
import SignedSession.Proofs.Http.CookieLines

/-!
Tokens that are read as they were delivered. Each channel has a form of its own: an encoded query,
a line of headers, a piece of a line of cookies. Main statement: a token is taken out of each as it
was put in, whatever stands around it that can be read.
-/
namespace SignedSession

/-- No pair of an address's query has the name. -/
def Uri.Lacks (uri : Uri) (name : String) : Prop :=
  ∀ q, uri.query = some q → ∀ p ∈ Query.pairs q, p.1 ≠ name

namespace Delivery

variable {s : Settings} {d : Delivery} {uri : Uri} {h : HeaderMap} {token : String}

theorem fromQuery?_of_lacks (hlacks : uri.Lacks d.tokenQuery) : d.fromQuery? uri = none := by
  unfold fromQuery?
  cases hquery : uri.query with
  | none => rfl
  | some q =>
    rw [Option.bind_some, lookup_eq_none_of_forall_ne (hlacks q hquery)]
    rfl

theorem fromHeader?_of_values_nil (hvalues : h.values d.tokenHeader = []) :
    d.fromHeader? h = none := by
  rw [fromHeader?, HeaderMap.text?, HeaderMap.first?, hvalues]
  rfl

theorem lookup_cookies {p : Cookie.Placement} {n v : String} (hn : Cookie.IsName n)
    (hv : Cookie.IsValue v) (hfirst : p.IsFirst n) (hreadable : HeaderValue.IsReadable (p.line n v))
    (hlines : h.values .cookie = p.lines n v) : (cookies h).lookup n = some v := by
  rw [cookies, hlines]
  exact Cookie.Placement.lookup_flatMap_lines hfirst hn hv hreadable

theorem read_of_placement {p : Cookie.Placement} (hname : Cookie.IsName d.tokenCookie)
    (hne : token ≠ "") (hvalue : Cookie.IsValue token) (hlacks : uri.Lacks d.tokenQuery)
    (hheader : h.values d.tokenHeader = []) (hfirst : p.IsFirst d.tokenCookie)
    (hreadable : HeaderValue.IsReadable (p.line d.tokenCookie token))
    (hlines : h.values .cookie = p.lines d.tokenCookie token) :
    d.read uri h = .ok ⟨token, .cookie⟩ :=
  read_of_fromCookie? (fromQuery?_of_lacks hlacks) (fromHeader?_of_values_nil hheader)
    (fromCookie?_of_lookup hne (lookup_cookies hname hvalue hfirst hreadable hlines))

/-- A token in the query, in the header or in a cookie is read as it is, by the first channel that
has one. In the query any text may be a token, and in the header any that can be read. A cookie may
stand behind any pieces and lines that bring no other of its name, and before any at all, if only
its own line can be read. What is written in a cookie or, so that it can be read, in the header is
read back from there. -/
theorem read_recovers (hnew : new s = .ok d) (hne : token ≠ "") :
    (∀ ps uri h, ps.lookup s.tokenQuery = some token → uri.query = some (Query.ofPairs ps) →
      d.read uri h = .ok ⟨token, .query⟩) ∧
    (∀ uri h, uri.Lacks s.tokenQuery → HeaderValue.IsReadable token →
      h.first? d.tokenHeader = some token → d.read uri h = .ok ⟨token, .header⟩) ∧
    (∀ uri h (p : Cookie.Placement), uri.Lacks s.tokenQuery → h.values d.tokenHeader = [] →
      Cookie.IsValue token → p.IsFirst s.tokenCookie →
      HeaderValue.IsReadable (p.line s.tokenCookie token) →
      h.values .cookie = p.lines s.tokenCookie token → d.read uri h = .ok ⟨token, .cookie⟩) ∧
    ∀ h c h', d.write h token c = .ok h' →
      (s.sendsHeader = true → HeaderValue.IsReadable token →
        ∀ uri request, uri.Lacks s.tokenQuery →
          request.first? d.tokenHeader = h'.first? d.tokenHeader →
          d.read uri request = .ok ⟨token, .header⟩) ∧
      (s.sendsHeader = false → ∃ session xsrf n v,
        h' = (h.append .setCookie session).append .setCookie xsrf ∧
        SetCookie.carried? session = some (n, v) ∧
        ∀ uri request (p : Cookie.Placement), uri.Lacks s.tokenQuery →
          request.values d.tokenHeader = [] → p.IsFirst n → HeaderValue.IsReadable (p.line n v) →
          request.values .cookie = p.lines n v → d.read uri request = .ok ⟨token, .cookie⟩) := by
  have hd := isOf_of_new hnew
  have hname := isName_tokenCookie hnew
  have hquery : d.tokenQuery = s.tokenQuery := by
    obtain ⟨-, rfl⟩ := new_eq_ok_iff.1 hnew
    rfl
  rw [← hd.tokenCookie, ← hquery]
  have hheader : ∀ uri h, uri.Lacks d.tokenQuery → HeaderValue.IsReadable token →
      h.first? d.tokenHeader = some token → d.read uri h = .ok ⟨token, .header⟩ :=
    fun uri h hlacks hreadable hfirst => read_of_fromHeader? (fromQuery?_of_lacks hlacks)
      (fromHeader?_of_first? hne hreadable hfirst)
  refine ⟨?_, hheader, ?_, ?_⟩
  · rintro ps ⟨_⟩ h hlookup rfl
    exact read_of_fromQuery? (fromQuery?_ofPairs hne hlookup) h
  · intro uri h p hlacks hvalues hvalue hfirst hreadable hlines
    exact read_of_placement hname hne hvalue hlacks hvalues hfirst hreadable hlines
  · intro h c h' hw
    constructor
    · intro hsends hreadable uri request hlacks hfirst
      obtain ⟨-, rfl⟩ := (write_eq_ok_iff_of_sendsHeader (hd.sendsHeader.trans hsends)).1 hw
      refine hheader uri request hlacks hreadable (hfirst.trans ?_)
      rw [HeaderMap.first?, HeaderMap.values_insert, if_pos rfl]
      rfl
    · intro hcookies
      obtain ⟨htoken, -, hlines⟩ := (write_eq_ok_iff_isValue hnew hcookies).1 hw
      refine ⟨_, _, d.tokenCookie, token, hlines,
        SetCookie.carried?_render (c := d.cookie d.tokenCookie token true (d.maxAgeFor c)) hname
          htoken, ?_⟩
      intro uri request p hlacks hvalues hfirst hreadable hsent
      exact read_of_placement hname hne htoken hlacks hvalues hfirst hreadable hsent

/-- Before the cookie stand a line that cannot be read, one of another cookie, a piece that is no
cookie and a name in other letters; behind it stand more of its own name. -/
def crowded : Cookie.Placement where
  linesBefore := ["JWT=\u00e9", "lang=en"]
  before := ["JWT".toList, " jwt=x".toList]
  left := " \t".toList
  right := " ".toList
  after := [" JWT=y".toList, "=".toList]
  linesAfter := ["JWT=z"]
  whole_before := by decide
  blank_left := List.all_eq_true.1 (by decide)
  blank_right := List.all_eq_true.1 (by decide)

theorem isFirst_crowded : crowded.IsFirst "JWT" := ⟨by decide, by decide⟩

/-- What a request with a token in every channel is read as, and with fewer and fewer of them. -/
theorem read_recovers_crowded :
    (ofSettings .default).read ⟨some (Query.ofPairs [("lang", "en"), ("token", "a b&=\u00e9%")])⟩
      ⟨(crowded.lines "JWT" "a=b").map (.cookie, ·)⟩ = .ok ⟨"a b&=\u00e9%", .query⟩ ∧
    (ofSettings .default).read ⟨none⟩
      ⟨(⟨"x-jwt"⟩, "a.b.c") :: (crowded.lines "JWT" "a=b").map (.cookie, ·)⟩ =
        .ok ⟨"a.b.c", .header⟩ ∧
    (ofSettings .default).read ⟨none⟩ ⟨(crowded.lines "JWT" "a=b").map (.cookie, ·)⟩ =
      .ok ⟨"a=b", .cookie⟩ := by
  have hlacks : Uri.Lacks ⟨none⟩ "token" := nofun
  obtain ⟨hquery, -, -, -⟩ := read_recovers new_default (by decide : "a b&=\u00e9%" ≠ "")
  obtain ⟨-, hheader, -, -⟩ := read_recovers new_default (by decide : "a.b.c" ≠ "")
  obtain ⟨-, -, hcookie, -⟩ := read_recovers new_default (by decide : "a=b" ≠ "")
  refine ⟨hquery [("lang", "en"), ("token", "a b&=\u00e9%")] _ _ (by decide) rfl,
    hheader _ _ hlacks (by decide) rfl, ?_⟩
  exact hcookie _ _ crowded hlacks rfl (by decide) isFirst_crowded (by decide) rfl

/-- Behind the cookie stands a piece that cannot be read. -/
def spoiled : Cookie.Placement where
  linesBefore := []
  before := []
  left := []
  right := []
  after := [" lang=\u00e9".toList]
  linesAfter := []
  whole_before := by decide
  blank_left := List.all_eq_true.1 (by decide)
  blank_right := List.all_eq_true.1 (by decide)

/-- Settings under which tokens leave in the header. -/
def sending : Settings := { Settings.default with sendsHeader := true }

/-- The first cookie of the name is lost with its line, and a token that cannot be read is written
in the header all the same. -/
theorem read_spoiled :
    new .default = .ok (ofSettings .default) ∧
    spoiled.line "JWT" "a.b.c" = "JWT=a.b.c; lang=\u00e9" ∧ spoiled.IsFirst "JWT" ∧
    Cookie.IsValue "a.b.c" ∧
    (ofSettings .default).read ⟨none⟩ ⟨(spoiled.lines "JWT" "a.b.c").map (.cookie, ·)⟩ =
      .error .tokenNotFound ∧
    ∃ h', (ofSettings sending).write .empty "\u00e9" (.new "id-1") = .ok h' ∧
      (ofSettings sending).read ⟨none⟩ h' = .error .tokenNotFound :=
  ⟨new_default, rfl, ⟨by decide, by decide⟩, by decide, rfl, _, rfl, rfl⟩

end Delivery

end SignedSession
