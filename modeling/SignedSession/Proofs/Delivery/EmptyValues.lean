import SignedSession.Proofs.Delivery
import SignedSession.Proofs.Http.Pruning

/-!
Empty values. A channel may offer several values under the token's name, and only the first one is
looked at; so an empty value is as good as none where no other follows, and hides those that do.
Main statement: leaving out all empty values changes what is read exactly where one of them hides a
value of the first channel that would have one.
-/
namespace SignedSession

section

variable {α : Type} [DecidableEq α]

/-- The values of a name, in order. -/
def valuesOf (name : α) (ps : List (α × String)) : List String :=
  (ps.filter (·.1 = name)).map Prod.snd

theorem valuesOf_cons (name : α) (p : α × String) (ps : List (α × String)) :
    valuesOf name (p :: ps) = (if p.1 = name then [p.2] else []) ++ valuesOf name ps := by
  unfold valuesOf
  by_cases hp : p.1 = name <;> simp [hp]

theorem valuesOf_filter_ne (name : α) (ps : List (α × String)) :
    valuesOf name (ps.filter (· ≠ (name, ""))) = (valuesOf name ps).filter (· ≠ "") := by
  rw [valuesOf, valuesOf, List.filter_map, List.filter_filter, List.filter_filter]
  refine congrArg (List.map Prod.snd) (List.filter_congr fun ⟨n, v⟩ _ => ?_)
  by_cases hn : n = name <;> simp [hn]

end

theorem lookup_eq_head?_valuesOf (name : String) (ps : List (String × String)) :
    ps.lookup name = (valuesOf name ps).head? := by
  induction ps with
  | nil => rfl
  | cons p ps ih =>
    obtain ⟨n, v⟩ := p
    rw [valuesOf_cons]
    by_cases hn : n = name
    · rw [if_pos hn, hn, List.lookup_cons_self]
      rfl
    · have hne : (name == n) = false := by simpa using Ne.symm hn
      rw [if_neg hn, List.lookup_cons, hne, ih]
      rfl

/-- A reading under which only the empty value is empty keeps the others. -/
theorem map_filter_ne_empty {read : String → Option String} (h : ∀ v, read v = some "" ↔ v = "")
    (vs : List String) : (vs.filter (· ≠ "")).map read = (vs.map read).filter (· ≠ some "") := by
  rw [List.filter_map]
  refine congrArg (List.map read) (List.filter_congr fun v _ => ?_)
  simp [h]

theorem HeaderValue.readable?_eq_some_empty {v : String} : readable? v = some "" ↔ v = "" := by
  constructor
  · intro h
    exact Option.some_inj.1 (Option.ite_none_right_eq_some.1 h).2
  · rintro rfl
    rfl

theorem HeaderMap.values_eq_valuesOf (h : HeaderMap) (name : HeaderName) :
    h.values name = valuesOf name h.lines := rfl

theorem Channel.forall_iff {p : Channel → Prop} :
    (∀ channel, p channel) ↔ p .query ∧ p .header ∧ p .cookie := by
  constructor
  · intro h
    exact ⟨h _, h _, h _⟩
  · rintro ⟨hquery, hheader, hcookie⟩ channel
    cases channel
    · exact hquery
    · exact hheader
    · exact hcookie

namespace Delivery

/-- The first value offered, if it can be read and is not empty. -/
def firstOf (offers : List (Option String)) : Option String := offers.head?.join.bind filled

/-- An empty value stands before one that would be taken without it. -/
def Hides (offers : List (Option String)) : Prop :=
  offers.head? = some (some "") ∧ ∃ v, (offers.filter (· ≠ some "")).head? = some (some v)

instance (offers : List (Option String)) : Decidable (Hides offers) :=
  decidable_of_iff
    (offers.head? = some (some "") ∧ (offers.filter (· ≠ some "")).head?.join.isSome) <| by
    rw [Hides]
    rcases (offers.filter (· ≠ some "")).head? with _ | _ | v <;> simp

theorem firstOf_eq_none_iff {offers : List (Option String)} :
    firstOf offers = none ↔ ∀ v, offers.head? = some (some v) → v = "" := by
  unfold firstOf
  rcases offers.head? with _ | _ | v <;> simp [filled]

theorem firstOf_filter_eq_iff {offers : List (Option String)} :
    firstOf (offers.filter (· ≠ some "")) = firstOf offers ↔ ¬ Hides offers := by
  by_cases hempty : offers.head? = some (some "")
  · -- the empty value goes, and with it nothing is read but what it hides
    have hnone : firstOf offers = none := by
      rw [firstOf, hempty]
      rfl
    have hfilled : ∀ v, (offers.filter (· ≠ some "")).head? = some (some v) → v ≠ "" := by
      rintro v hv rfl
      simpa using (List.mem_filter.1 (List.mem_of_mem_head? hv)).2
    rw [hnone, firstOf_eq_none_iff]
    constructor
    · rintro h ⟨-, v, hv⟩
      exact hfilled v hv (h v hv)
    · intro h v hv
      exact absurd ⟨hempty, v, hv⟩ h
  · have hhead : (offers.filter (· ≠ some "")).head? = offers.head? := by
      cases offers with
      | nil => rfl
      | cons offer offers =>
        have hne : offer ≠ some "" := fun he => hempty (congrArg some he)
        rw [List.filter_cons_of_pos (by simpa using hne)]
        rfl
    exact iff_of_true (by rw [firstOf, firstOf, hhead]) fun h => hempty h.1

variable {d : Delivery} {uri uri' : Uri} {h h' : HeaderMap}

/-- The values that a channel offers under the token's name; none stands for one that cannot be
read. -/
def offers (d : Delivery) (uri : Uri) (h : HeaderMap) : Channel → List (Option String)
  | .query => (valuesOf d.tokenQuery (uri.query.elim [] Query.pairs)).map some
  | .header => (h.values d.tokenHeader).map HeaderValue.readable?
  | .cookie => (valuesOf d.tokenCookie (cookies h)).map some

/-- What a channel brings. -/
def from? (d : Delivery) (uri : Uri) (h : HeaderMap) : Channel → Option String
  | .query => d.fromQuery? uri
  | .header => d.fromHeader? h
  | .cookie => d.fromCookie? h

theorem from?_eq_firstOf (d : Delivery) (uri : Uri) (h : HeaderMap) (channel : Channel) :
    d.from? uri h channel = firstOf (d.offers uri h channel) := by
  cases channel with
  | query =>
    rw [from?, fromQuery?, offers, firstOf]
    cases uri.query with
    | none => rfl
    | some q =>
      rw [Option.bind_some, lookup_eq_head?_valuesOf, List.head?_map, Option.elim_some]
      cases (valuesOf d.tokenQuery (Query.pairs q)).head? <;> rfl
  | header =>
    rw [from?, fromHeader?, offers, firstOf, HeaderMap.text?, HeaderMap.first?, List.head?_map]
    cases (h.values d.tokenHeader).head? <;> rfl
  | cookie =>
    rw [from?, fromCookie?, offers, firstOf, lookup_eq_head?_valuesOf, List.head?_map]
    cases (valuesOf d.tokenCookie (cookies h)).head? <;> rfl

/-- An address without the pairs of the token's name that are empty. -/
def withoutEmptyPairs (d : Delivery) (uri : Uri) : Uri :=
  ⟨uri.query.map (Query.withoutEmpty d.tokenQuery)⟩

/-- A line without the cookies of the token's name that are empty, if it is one of cookies that can
be read. -/
def withoutEmptyCookies (d : Delivery) (line : HeaderName × String) : HeaderName × String :=
  if line.1 = .cookie ∧ HeaderValue.IsReadable line.2 then
    (line.1, Cookie.withoutEmpty d.tokenCookie line.2)
  else line

/-- The lines of a request without the empty ones of the token's header, and without empty cookies
of its name. -/
def withoutEmptyLines (d : Delivery) (h : HeaderMap) : HeaderMap :=
  ⟨(h.lines.filter (· ≠ (d.tokenHeader, ""))).map d.withoutEmptyCookies⟩

theorem cookies_cons (line : HeaderName × String) (lines : List (HeaderName × String)) :
    cookies ⟨line :: lines⟩ =
      (if line.1 = .cookie ∧ HeaderValue.IsReadable line.2 then Cookie.pairs line.2 else []) ++
        cookies ⟨lines⟩ := by
  unfold cookies HeaderMap.values HeaderValue.readable?
  by_cases hn : line.1 = .cookie <;> by_cases hr : HeaderValue.IsReadable line.2 <;> simp [hn, hr]

theorem withoutEmptyCookies_of_ne {line : HeaderName × String} (hn : line.1 ≠ .cookie) :
    d.withoutEmptyCookies line = line :=
  if_neg fun h => hn h.1

@[simp] theorem withoutEmptyCookies_fst (d : Delivery) (line : HeaderName × String) :
    (d.withoutEmptyCookies line).1 = line.1 := by
  unfold withoutEmptyCookies
  split <;> rfl

theorem valuesOf_map_withoutEmptyCookies {name : HeaderName} (hname : name ≠ .cookie)
    (lines : List (HeaderName × String)) :
    valuesOf name (lines.map d.withoutEmptyCookies) = valuesOf name lines := by
  induction lines with
  | nil => rfl
  | cons line lines ih =>
    rw [List.map_cons, valuesOf_cons, valuesOf_cons, ih, withoutEmptyCookies_fst]
    by_cases hline : line.1 = name
    · rw [withoutEmptyCookies_of_ne (hline ▸ hname)]
    · rw [if_neg hline, if_neg hline]

theorem cookies_map_withoutEmptyCookies (d : Delivery) (lines : List (HeaderName × String)) :
    cookies ⟨lines.map d.withoutEmptyCookies⟩ =
      (cookies ⟨lines⟩).filter (· ≠ (d.tokenCookie, "")) := by
  induction lines with
  | nil => rfl
  | cons line lines ih =>
    rw [List.map_cons, cookies_cons, cookies_cons, List.filter_append, ih,
      withoutEmptyCookies_fst]
    congr 1
    by_cases hline : line.1 = .cookie ∧ HeaderValue.IsReadable line.2
    · rw [withoutEmptyCookies, if_pos hline, if_pos hline,
        if_pos ⟨hline.1, Cookie.isReadable_withoutEmpty hline.2 d.tokenCookie⟩,
        Cookie.pairs_withoutEmpty]
    · rw [withoutEmptyCookies, if_neg hline, if_neg hline]
      rfl

theorem cookies_filter_ne {name : HeaderName} (hname : name ≠ .cookie)
    (lines : List (HeaderName × String)) :
    cookies ⟨lines.filter (· ≠ (name, ""))⟩ = cookies ⟨lines⟩ := by
  induction lines with
  | nil => rfl
  | cons line lines ih =>
    by_cases hempty : line = (name, "")
    · rw [List.filter_cons_of_neg (by simpa using hempty), ih, cookies_cons, hempty,
        if_neg fun h => hname h.1]
      rfl
    · rw [List.filter_cons_of_pos (by simpa using hempty), cookies_cons, cookies_cons, ih]

/-- Without empty values, a channel offers the values that are left. -/
theorem offers_withoutEmpty (hheader : d.tokenHeader ≠ .cookie) (uri : Uri) (h : HeaderMap)
    (channel : Channel) :
    d.offers (d.withoutEmptyPairs uri) (d.withoutEmptyLines h) channel =
      (d.offers uri h channel).filter (· ≠ some "") := by
  have hsome : ∀ v : String, some v = some "" ↔ v = "" := fun v => Option.some_inj
  cases channel with
  | query =>
    have hpairs : (d.withoutEmptyPairs uri).query.elim [] Query.pairs =
        (uri.query.elim [] Query.pairs).filter (· ≠ (d.tokenQuery, "")) := by
      rw [withoutEmptyPairs]
      cases uri.query with
      | none => rfl
      | some q =>
        rw [Option.map_some, Option.elim_some, Option.elim_some, Query.pairs_withoutEmpty]
    rw [offers, offers, hpairs, valuesOf_filter_ne, map_filter_ne_empty hsome]
  | header =>
    rw [offers, offers, HeaderMap.values_eq_valuesOf, HeaderMap.values_eq_valuesOf,
      withoutEmptyLines, valuesOf_map_withoutEmptyCookies hheader, valuesOf_filter_ne,
      map_filter_ne_empty fun v => HeaderValue.readable?_eq_some_empty]
  | cookie =>
    rw [offers, offers, withoutEmptyLines, cookies_map_withoutEmptyCookies,
      cookies_filter_ne hheader, valuesOf_filter_ne, map_filter_ne_empty hsome]

/-- Whether a channel is looked at: those before it bring no token. -/
def IsReached (d : Delivery) (uri : Uri) (h : HeaderMap) : Channel → Prop
  | .query => True
  | .header => d.fromQuery? uri = none
  | .cookie => d.fromQuery? uri = none ∧ d.fromHeader? h = none

/-- Two requests are read alike if each channel that is looked at brings the same. -/
theorem read_eq_read_iff : d.read uri' h' = d.read uri h ↔
    ∀ channel, d.IsReached uri h channel → d.from? uri' h' channel = d.from? uri h channel := by
  rw [Channel.forall_iff]
  unfold read IsReached from?
  cases d.fromQuery? uri <;> cases d.fromQuery? uri' <;> cases d.fromHeader? h <;>
    cases d.fromHeader? h' <;> cases d.fromCookie? h <;> cases d.fromCookie? h' <;> simp

theorem read_eq_tokenNotFound_iff :
    d.read uri h = .error .tokenNotFound ↔ ∀ channel, d.from? uri h channel = none := by
  rw [Channel.forall_iff]
  unfold read from?
  cases d.fromQuery? uri <;> cases d.fromHeader? h <;> cases d.fromCookie? h <;> simp

/-- If the token does not come in the header of cookies, then leaving out all empty values of its
name changes what is read exactly if, in a channel that is looked at, an empty value stands before
all others and hides one. No token is found exactly if the first value of every channel is missing,
cannot be read or is empty, whatever follows it. -/
theorem read_withoutEmpty_iff (d : Delivery) (uri : Uri) (h : HeaderMap) :
    (d.tokenHeader ≠ .cookie →
      (d.read (d.withoutEmptyPairs uri) (d.withoutEmptyLines h) = d.read uri h ↔
        ∀ channel, d.IsReached uri h channel → ¬ Hides (d.offers uri h channel))) ∧
    (d.read uri h = .error .tokenNotFound ↔
      ∀ channel v, (d.offers uri h channel).head? = some (some v) → v = "") := by
  constructor
  · intro hheader
    rw [read_eq_read_iff]
    refine forall_congr' fun channel => imp_congr_right fun _ => ?_
    rw [from?_eq_firstOf, from?_eq_firstOf, offers_withoutEmpty hheader, firstOf_filter_eq_iff]
  · rw [read_eq_tokenNotFound_iff]
    refine forall_congr' fun channel => ?_
    rw [from?_eq_firstOf, firstOf_eq_none_iff]

/-- An empty header line, and an empty cookie that hides the one in the next line. -/
def masked : HeaderMap := ⟨[(⟨"x-jwt"⟩, ""), (.cookie, "JWT=; lang=en"), (.cookie, "JWT=a.b.c")]⟩

/-- Without its empty values a request may have a token that it did not have. A token in the header
is read behind an empty value in the query, whatever the cookies hide. -/
theorem read_withoutEmpty_iff_masked :
    let d := ofSettings .default
    let uri : Uri := ⟨some "token=&lang=en"⟩
    let found : HeaderMap := ⟨(d.tokenHeader, "x.y.z") :: masked.lines⟩
    d.tokenHeader ≠ .cookie ∧
    d.read (d.withoutEmptyPairs uri) (d.withoutEmptyLines masked) ≠ d.read uri masked ∧
    d.read (d.withoutEmptyPairs uri) (d.withoutEmptyLines found) = d.read uri found ∧
    d.read uri masked = .error .tokenNotFound := by
  intro d uri found
  have hheader : d.tokenHeader ≠ .cookie := by decide
  refine ⟨hheader, fun h => ?_, ?_, ?_⟩
  · exact ((read_withoutEmpty_iff d uri masked).1 hheader).1 h .cookie ⟨rfl, rfl⟩ (by decide)
  · refine ((read_withoutEmpty_iff d uri found).1 hheader).2 fun channel => ?_
    cases channel with
    | query => exact fun _ => by decide
    | header => exact fun _ => by decide
    | cookie => exact fun hreached => absurd hreached.2 (by decide)
  · -- every first value is empty
    refine (read_withoutEmpty_iff d uri masked).2.2 fun channel v hv => ?_
    cases channel <;> (cases hv; rfl)

/-- In each channel an empty value hides the token behind it; in the header, so does one that cannot
be read. -/
theorem read_hidden :
    let d := ofSettings .default
    new .default = .ok d ∧
    d.withoutEmptyPairs ⟨some "token=&token=abc"⟩ = ⟨some "token=abc"⟩ ∧
    d.read ⟨some "token=abc"⟩ .empty = .ok ⟨"abc", .query⟩ ∧
    d.read ⟨some "token=&token=abc"⟩ .empty = .error .tokenNotFound ∧
    d.read ⟨none⟩ ⟨[(d.tokenHeader, "abc")]⟩ = .ok ⟨"abc", .header⟩ ∧
    d.read ⟨none⟩ ⟨[(d.tokenHeader, ""), (d.tokenHeader, "abc")]⟩ = .error .tokenNotFound ∧
    d.read ⟨none⟩ ⟨[(d.tokenHeader, "\u00e9"), (d.tokenHeader, "abc")]⟩ = .error .tokenNotFound ∧
    d.read ⟨none⟩ ⟨[(.cookie, "JWT=abc")]⟩ = .ok ⟨"abc", .cookie⟩ ∧
    d.read ⟨none⟩ ⟨[(.cookie, "JWT=; JWT=abc")]⟩ = .error .tokenNotFound :=
  ⟨new_default, rfl, rfl, rfl, rfl, rfl, rfl, rfl, rfl⟩

end Delivery

end SignedSession
