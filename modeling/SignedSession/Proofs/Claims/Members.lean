import SignedSession.Proofs.Claims.Fields
import SignedSession.Proofs.Json.Composition

/-!
Claims and the members of an object. Each member is read for itself, or not at all; only the
members of known names count, each name once, and their order does not. Main statement: this holds
of the members of claims and of the members of the user in them.
-/
namespace SignedSession

open Json

namespace Json.MemberText

variable {α : Type} {names : List String} {read : Fields → Option α}

/-- An outcome that members of these names decide, in whatever order and among whatever others; it
is a failure if one of the names stands twice. -/
structure DecidedBy (names : List String) (outcome : List MemberText → Option α) : Prop where
  perm : ∀ ms ms', ms.Perm ms' → outcome ms = outcome ms'
  unknown : ∀ ms, outcome (ms.filter (·.name ∈ names)) = outcome ms
  twice : ∀ before m between m' after, m.name ∈ names → m'.name = m.name →
    outcome (before ++ m :: between ++ m' :: after) = none

theorem all_isSome_member (ms : List MemberText) :
    (ms.map member).all (·.1.isSome) = true := by
  simp [member]

/-- The outcome of reading a record. -/
theorem decidedBy_record? (hread : Fields.LooksAt names read) :
    DecidedBy names fun ms => ((Tree.obj (ms.map member)).record? names).bind read where
  perm _ _ h := Tree.record?_bind_of_perm hread (h.map member)
  unknown ms := by
    have hfilter : (ms.filter (·.name ∈ names)).map member =
        (ms.map member).filter fun m => m.1.any (· ∈ names) := by
      rw [List.filter_map]
      rfl
    simp only [hfilter, Tree.record?_filter names (all_isSome_member ms)]
  twice before m between m' after hm hsame := by
    have hclash := Tree.record?_of_twice hm m.tree m'.tree (before.map member)
      (between.map member) (after.map member)
    have hsplit : (before ++ m :: between ++ m' :: after).map member =
        before.map member ++ (some m.name, m.tree) :: between.map member ++
          (some m.name, m'.tree) :: after.map member := by
      simp [member, hsame]
    simp only [hsplit, hclash, Option.bind_none]

end Json.MemberText

open Json.MemberText

/-- The attributes of a user are read from the field of their name. -/
theorem User.attributes_of_ofTree? {t : Tree} {u : User} (hu : ofTree? t = some u) {a : Tree}
    (ha : t.HasField fieldNames "attrs" a) : Attributes.ofTree? a = some u.attributes := by
  obtain ⟨fs, hrecord, hfields⟩ := Option.bind_eq_some_iff.1 hu
  have hread := (ofFields?_eq_some_iff.1 hfields).attributes
  rwa [Fields.withDefault?, Tree.lookup_of_hasField hrecord (by decide) ha] at hread

/-- Other attributes change nothing else of the user. -/
theorem User.ofTree?_exchange {t t' : Tree} {before after : List Member} {u : User}
    (h : ofTree? (.obj (before ++ (some "attrs", t) :: after)) = some u) {a : Attributes}
    (ha : Attributes.ofTree? t' = some a) :
    ofTree? (.obj (before ++ (some "attrs", t') :: after)) = some { u with attributes := a } := by
  obtain ⟨fs, hrecord, hfields⟩ := Option.bind_eq_some_iff.1 h
  have hread := ofFields?_eq_some_iff.1 hfields
  obtain ⟨fs', hrecord', hlookup, hothers⟩ := Tree.record?_exchange (by decide) t' hrecord
  have htext : ∀ k, k ≠ "attrs" → fs'.text? k = fs.text? k :=
    fun k hk => Fields.withDefault?_congr (hothers k hk) _ _
  have hattributes : fs'.withDefault? "attrs" Attributes.ofTree? .empty = some a := by
    rw [Fields.withDefault?, hlookup]
    exact ha
  rw [ofTree?, hrecord', Option.bind_some]
  simp (disch := decide) only [ofFields?, htext, hread.name, hread.id, hread.picture,
    hread.audience, hread.ip, hread.email, hread.role, hattributes, Option.bind_eq_bind,
    Option.bind_some]

namespace Claims

/-- The claims of a text made of members. -/
theorem ofText?_objectText (ms : List MemberText) :
    ofText? (objectText ms) = ofTree? (.obj (ms.map member)) := by
  rw [ofText?, objectText, String.toList_ofList, ofChars?_objectChars, Option.bind_some]

/-- The user of claims is read from the field of its name. -/
theorem user_of_ofTree? {t : Tree} {c : Claims} (hc : ofTree? t = some c) {ut : Tree}
    (hut : t.HasField fieldNames "user" ut) (hnull : ut ≠ .null) :
    ∃ u, User.ofTree? ut = some u ∧ c.user = some u := by
  obtain ⟨fs, hrecord, hread⟩ := ofTree?_eq_some_iff.1 hc
  have huser := hread.user
  rw [Fields.optional?, Tree.lookup_of_hasField hrecord (by decide) hut] at huser
  split at huser
  · next h => cases h
  · next h =>
    cases h
    exact absurd rfl hnull
  · next h =>
    cases h
    obtain ⟨u, hu, hsome⟩ := Option.map_eq_some_iff.1 huser
    exact ⟨u, hu, hsome.symm⟩

/-- Another user changes nothing else of the claims. -/
theorem ofTree?_exchange {t : Tree} {us : List Member} {before after : List Member} {c : Claims}
    (h : ofTree? (.obj (before ++ (some "user", t) :: after)) = some c) {u : User}
    (hu : User.ofTree? (.obj us) = some u) :
    ofTree? (.obj (before ++ (some "user", .obj us) :: after)) =
      some { c with user := some u } := by
  obtain ⟨fs, hrecord, hread⟩ := ofTree?_eq_some_iff.1 h
  obtain ⟨fs', hrecord', hlookup, hothers⟩ := Tree.record?_exchange (by decide) (.obj us) hrecord
  have hoptional : ∀ {β : Type} (read : Tree → Option β) (k : String), k ≠ "user" →
      fs'.optional? k read = fs.optional? k read :=
    fun read k hk => Fields.optional?_congr (hothers k hk) read
  have hflag : ∀ k, k ≠ "user" → fs'.flag? k = fs.flag? k :=
    fun k hk => Fields.withDefault?_congr (hothers k hk) _ _
  have haudiences : audiencesOfFields? fs' = some c.audiences := by
    rw [audiencesOfFields?, hoptional _ _ (by decide)]
    exact hread.audiences
  have huser : fs'.optional? "user" User.ofTree? = some (some u) := by
    rw [Fields.optional?, hlookup]
    exact congrArg (Option.map some) hu
  rw [ofTree?, hrecord', Option.bind_some]
  simp (disch := decide) only [ofFields?, hoptional, hflag, hread.subject, hread.issuer, haudiences,
    hread.expiry, hread.notBefore, hread.issuedAt, hread.tokenId, huser, hread.sessionOnly,
    hread.handshake, hread.withoutAvatar, hread.provider, Option.bind_eq_bind, Option.bind_some]

/-- Of the user nothing counts but what is read of it. -/
theorem ofTree?_congr_user {us us' : List Member}
    (h : User.ofTree? (.obj us) = User.ofTree? (.obj us')) (before after : List Member) :
    ofTree? (.obj (before ++ (some "user", .obj us) :: after)) =
      ofTree? (.obj (before ++ (some "user", .obj us') :: after)) := by
  have hread : ∀ {us us' : List Member}, User.ofTree? (.obj us) = User.ofTree? (.obj us') → ∀ c,
      ofTree? (.obj (before ++ (some "user", .obj us) :: after)) = some c →
      ofTree? (.obj (before ++ (some "user", .obj us') :: after)) = some c := by
    intro us us' hsame c hc
    obtain ⟨u, hu, hsome⟩ := user_of_ofTree? hc (List.mem_append_right _ List.mem_cons_self)
      (by intro h; cases h)
    have hexchanged := ofTree?_exchange hc (hsame.symm.trans hu)
    rwa [← hsome] at hexchanged
  exact Option.ext fun c => ⟨hread h c, hread h.symm c⟩

/-- Claims of a user who cannot be read cannot be read. -/
theorem ofTree?_of_user_none {us : List Member} (h : User.ofTree? (.obj us) = none)
    {ms : List Member} (hm : (some "user", .obj us) ∈ ms) : ofTree? (.obj ms) = none := by
  apply Option.eq_none_iff_forall_ne_some.2
  intro c hc
  obtain ⟨u, hu, -⟩ := user_of_ofTree? hc hm (by intro h; cases h)
  rw [h] at hu
  cases hu

/-- Reading claims depends on the members of the twelve known names alone. Neither the order of the
members nor any others among them make a difference, and a name that stands twice is refused
wherever it stands. The same is true of the members of the user. -/
theorem decidedBy_members :
    DecidedBy fieldNames (fun ms => ofText? (objectText ms)) ∧
    ∀ (before after : List MemberText) (user : MemberText), user.name = "user" →
      DecidedBy User.fieldNames fun us =>
        ofText? (objectText (before ++ user.holding us :: after)) := by
  constructor
  · simp only [ofText?_objectText]
    exact decidedBy_record? looksAt_ofFields?
  · intro before after user hname
    have hdecided : DecidedBy User.fieldNames fun us => User.ofTree? (.obj (us.map member)) :=
      decidedBy_record? User.looksAt_ofFields?
    have htext : ∀ us, ofText? (objectText (before ++ user.holding us :: after)) =
        ofTree? (.obj (before.map member ++ (some "user", .obj (us.map member)) ::
          after.map member)) := by
      intro us
      rw [ofText?_objectText, List.map_append, List.map_cons, ← hname]
      rfl
    simp only [htext]
    constructor
    · intro us us' hperm
      exact ofTree?_congr_user (hdecided.perm us us' hperm) _ _
    · intro us
      exact ofTree?_congr_user (hdecided.unknown us) _ _
    · intro us m between m' after' hm hsame
      apply ofTree?_of_user_none (hdecided.twice us m between m' after' hm hsame)
      exact List.mem_append_right _ List.mem_cons_self

end Claims

namespace Json.MemberText

/-- The subject, with an escape in its name. -/
def shopSubject : MemberText where
  key := " \"s\\u0075b\"".toList
  name := "sub"
  value := "\"ann\"".toList
  tree := .str (.text "ann")
  key_says := rfl
  value_says := rfl

/-- A member that no reader of claims knows: a number beyond all measure, and half a character. -/
def shopExtra : MemberText where
  key := "\"extra\"".toList
  name := "extra"
  value := "[1e9999999999, \"\\ud800\"]".toList
  tree := .arr [.num ⟨false, ['1'], [], some ⟨false, "9999999999".toList⟩⟩, .str (.faulty true)]
  key_says := rfl
  value_says := rfl

def shopUserId : MemberText where
  key := "\"id\"".toList
  name := "id"
  value := "\"u1\"".toList
  tree := .str (.text "u1")
  key_says := rfl
  value_says := rfl

def shopUser : MemberText where
  key := "\"user\"".toList
  name := "user"
  value := "null".toList
  tree := .null
  key_says := rfl
  value_says := rfl

end Json.MemberText

namespace Claims

/-- The extra members change nothing, nor does the order; the id of the user may not stand twice. -/
theorem decidedBy_members_shop :
    ofText? (objectText [shopExtra, shopUser.holding [shopExtra, shopUserId], shopSubject]) =
      some { subject := some "ann", user := some { name := "", id := "u1" } } ∧
    ofText? (objectText [shopSubject, shopUser.holding [shopUserId, shopExtra, shopUserId]]) =
      none := by
  obtain ⟨hclaims, huser⟩ := decidedBy_members
  constructor
  · calc ofText? (objectText [shopExtra, shopUser.holding [shopExtra, shopUserId], shopSubject])
      _ = ofText? (objectText [shopExtra, shopUser.holding [shopUserId], shopSubject]) :=
        ((huser [shopExtra] [shopSubject] shopUser rfl).unknown [shopExtra, shopUserId]).symm
      _ = ofText? (objectText [shopUser.holding [shopUserId], shopSubject]) :=
        (hclaims.unknown [shopExtra, shopUser.holding [shopUserId], shopSubject]).symm
      _ = ofText? (objectText [shopSubject, shopUser.holding [shopUserId]]) :=
        hclaims.perm _ _ (List.Perm.swap _ _ _)
      _ = some { subject := some "ann", user := some { name := "", id := "u1" } } := by
        rw [ofText?_objectText]
        rfl
  · exact (huser [shopSubject] [] shopUser rfl).twice [] shopUserId [shopExtra] shopUserId []
      (by decide) rfl

end Claims

end SignedSession
