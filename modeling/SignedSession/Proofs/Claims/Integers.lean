import SignedSession.Proofs.Claims.Printing
import SignedSession.Proofs.Json.Numerals

/-!
Integers in claims. A time is read as it is written or not at all, and an integer among the
attributes is kept exactly if a word of 64 bits, signed or unsigned, holds it. What was read is
printed in the same digits, in the place that belongs to it.
-/
namespace SignedSession

open Json Json.MemberText

/-- The digits of an integer are the text of its numeral. -/
theorem Json.Tree.ofChars?_intChars (n : Int) :
    ofChars? (intChars n) = some (.num (.ofInt n)) := by
  have hscan : Lexeme.scan? ((intChars n).map some) = some [.num (.ofInt n)] := by
    have hword := Scanner.scanOnto?_word [] (intChars_ne_nil n)
      (fun _ hc => endsWord_of_mem_intChars hc) (ofWord?_intChars n) Scanner.endsWord_nil
    rwa [List.append_nil, Scanner.scanOnto?_nil] at hword
  rw [ofChars?, ofSymbols?, hscan]
  rfl

/-- A signed word of 64 bits holds the integer. -/
def IsInt64 (n : Int) : Prop := Int64.minValue.toInt ≤ n ∧ n ≤ Int64.maxValue.toInt

theorem isInt64_toInt (e : Int64) : IsInt64 e.toInt := ⟨e.minValue_le_toInt, e.toInt_le⟩

theorem IsInt64.toInt_ofInt {n : Int} (h : IsInt64 n) : (Int64.ofInt n).toInt = n :=
  Int64.toInt_ofInt_of_le h.1 (Int.lt_add_one_of_le h.2)

theorem Json.Tree.int64?_ofInt_eq_some_iff {n : Int} {e : Int64} :
    (num (.ofInt n)).int64? = some e ↔ e.toInt = n := by
  rw [int64?, int?, Numeral.toInt?_ofInt, Option.bind_some]
  constructor
  · intro h
    split at h
    · next hrange =>
      cases h
      exact IsInt64.toInt_ofInt hrange
    · cases h
  · rintro rfl
    rw [if_pos ⟨e.minValue_le_toInt, e.toInt_le⟩, Int64.ofInt_toInt]

namespace Claims

/-- The times in claims. -/
inductive TimeField
  | expiry
  | notBefore
  | issuedAt
  deriving DecidableEq, Repr

namespace TimeField

def name : TimeField → String
  | expiry => "exp"
  | notBefore => "nbf"
  | issuedAt => "iat"

def get (c : Claims) : TimeField → Option Int64
  | expiry => c.expiry
  | notBefore => c.notBefore
  | issuedAt => c.issuedAt

def set (c : Claims) (e : Option Int64) : TimeField → Claims
  | expiry => { c with expiry := e }
  | notBefore => { c with notBefore := e }
  | issuedAt => { c with issuedAt := e }

theorem name_mem (f : TimeField) : f.name ∈ fieldNames := by
  cases f <;> decide

theorem optional?_of_isReadFrom {c : Claims} {fs : Fields} (h : c.IsReadFrom fs) (f : TimeField) :
    fs.optional? f.name Tree.int64? = some (f.get c) := by
  cases f
  · exact h.expiry
  · exact h.notBefore
  · exact h.issuedAt

/-- A time that is written in digits is the integer of these digits. -/
theorem toInt_of_ofTree? {t : Tree} {c : Claims} (hc : ofTree? t = some c) (f : TimeField)
    {n : Int} (hn : t.HasField fieldNames f.name (.num (.ofInt n))) :
    ∃ e, f.get c = some e ∧ e.toInt = n := by
  obtain ⟨fs, hrecord, hread⟩ := ofTree?_eq_some_iff.1 hc
  have hfield := optional?_of_isReadFrom hread f
  rw [Fields.optional?, Tree.lookup_of_hasField hrecord f.name_mem hn] at hfield
  obtain ⟨e, he, hget⟩ := Option.map_eq_some_iff.1 hfield
  exact ⟨e, hget.symm, Tree.int64?_ofInt_eq_some_iff.1 he⟩

/-- So no such claims have a time that is no word. -/
theorem ofTree?_eq_none {t : Tree} (f : TimeField) {n : Int} (hrange : ¬ IsInt64 n)
    (hn : t.HasField fieldNames f.name (.num (.ofInt n))) : ofTree? t = none := by
  apply Option.eq_none_iff_forall_ne_some.2
  intro c hc
  obtain ⟨e, -, rfl⟩ := toInt_of_ofTree? hc f hn
  exact hrange (isInt64_toInt e)

/-- Where only a time differs, the other fields say what they said. -/
theorem isReadFrom_set (f : TimeField) {c : Claims} {fs fs' : Fields} (h : c.IsReadFrom fs)
    {e : Option Int64} (htime : fs'.optional? f.name Tree.int64? = some e)
    (hothers : ∀ j, j ≠ f.name → fs'.lookup j = fs.lookup j) : (f.set c e).IsReadFrom fs' := by
  have hoptional : ∀ {α : Type} {read : Tree → Option α} {j : String} {a : Option α},
      j ≠ f.name → fs.optional? j read = some a → fs'.optional? j read = some a :=
    fun hj ha => (Fields.optional?_congr (hothers _ hj) _).trans ha
  have hflag : ∀ {j : String} {a : Bool}, j ≠ f.name → fs.flag? j = some a → fs'.flag? j = some a :=
    fun hj ha => (Fields.withDefault?_congr (hothers _ hj) _ _).trans ha
  have hne : ∀ j ∈ ["sub", "iss", "aud", "jti", "user", "sess_only", "handshake", "no-ava",
      "auth_provider"], j ≠ f.name := by
    cases f <;> decide
  have hsubject := hoptional (hne "sub" (by decide)) h.subject
  have hissuer := hoptional (hne "iss" (by decide)) h.issuer
  have haudiences : audiencesOfFields? fs' = some c.audiences := by
    rw [← h.audiences, audiencesOfFields?, audiencesOfFields?,
      Fields.optional?_congr (hothers "aud" (hne "aud" (by decide)))]
  have htokenId := hoptional (hne "jti" (by decide)) h.tokenId
  have huser := hoptional (hne "user" (by decide)) h.user
  have hsessionOnly := hflag (hne "sess_only" (by decide)) h.sessionOnly
  have hhandshake := hoptional (hne "handshake" (by decide)) h.handshake
  have hwithoutAvatar := hflag (hne "no-ava" (by decide)) h.withoutAvatar
  have hprovider := hoptional (hne "auth_provider" (by decide)) h.provider
  cases f with
  | expiry =>
    exact ⟨hsubject, hissuer, haudiences, htime, hoptional (by decide) h.notBefore,
      hoptional (by decide) h.issuedAt, htokenId, huser, hsessionOnly, hhandshake, hwithoutAvatar,
      hprovider⟩
  | notBefore =>
    exact ⟨hsubject, hissuer, haudiences, hoptional (by decide) h.expiry, htime,
      hoptional (by decide) h.issuedAt, htokenId, huser, hsessionOnly, hhandshake, hwithoutAvatar,
      hprovider⟩
  | issuedAt =>
    exact ⟨hsubject, hissuer, haudiences, hoptional (by decide) h.expiry,
      hoptional (by decide) h.notBefore, htime, htokenId, huser, hsessionOnly, hhandshake,
      hwithoutAvatar, hprovider⟩

/-- One more time is read without regard to the other fields. -/
theorem ofFields?_set (f : TimeField) (e : Int64) {fs fs' : Fields}
    (hnew : fs.lookup f.name = none) (htime : fs'.optional? f.name Tree.int64? = some (some e))
    (hothers : ∀ j, j ≠ f.name → fs'.lookup j = fs.lookup j) :
    ofFields? fs' = (ofFields? fs).map (f.set · (some e)) := by
  cases hread : ofFields? fs with
  | some c =>
    have hset := isReadFrom_set f (ofFields?_eq_some_iff.1 hread) htime hothers
    rw [ofFields?_eq_some_iff.2 hset, Option.map_some]
  | none =>
    have hmissing : fs.optional? f.name Tree.int64? = some none := by
      rw [Fields.optional?, hnew]
    apply Option.eq_none_iff_forall_ne_some.2
    intro c hc
    -- without the time the other fields would be read as well
    have hunset := isReadFrom_set f (ofFields?_eq_some_iff.1 hc) hmissing
      fun j hj => (hothers j hj).symm
    rw [ofFields?_eq_some_iff.2 hunset] at hread
    cases hread

/-- A member that writes a time is read as the integer it writes, on top of what the other members
say, and is refused if no word holds the integer. -/
theorem ofText?_insert (f : TimeField) {n : Int} {m : MemberText} (hname : m.name = f.name)
    (htree : m.tree = .num (.ofInt n)) (before after : List MemberText) :
    (¬ IsInt64 n → ofText? (objectText (before ++ m :: after)) = none) ∧
      (IsInt64 n → (∀ x ∈ before ++ after, x.name ≠ f.name) →
        ofText? (objectText (before ++ m :: after)) =
          (ofText? (objectText (before ++ after))).map (f.set · (some (Int64.ofInt n)))) := by
  have hmember : m.member = (some f.name, .num (.ofInt n)) := by
    rw [member, hname, htree]
  simp only [ofText?_objectText, List.map_append, List.map_cons, hmember]
  constructor
  · intro hrange
    exact ofTree?_eq_none f hrange (List.mem_append_right _ List.mem_cons_self)
  · intro hrange hnew
    refine Tree.record?_bind_insert f.name_mem _ (fun fs fs' hfresh hlookup hothers => ?_) ?_
    · apply ofFields?_set f _ hfresh _ hothers
      have htime := Tree.int64?_ofInt_eq_some_iff.2 hrange.toInt_ofInt
      rw [Fields.optional?, hlookup]
      exact congrArg (Option.map some) htime
    · rw [← List.map_append]
      intro x hx he
      obtain ⟨y, hy, rfl⟩ := List.mem_map.1 hx
      exact hnew y hy (Option.some.inj he)

end TimeField

end Claims

/-- There is this integer at this place among the attributes, as an integer. -/
def Attributes.HasInt (a : Attributes) (p : Path) (n : Int) : Prop :=
  ∃ w : WordInt, w.val = n ∧ (Value.obj a.entries).at? p = some (.num (.int w))

theorem Attributes.reads_of_ofTree? {t : Tree} {a : Attributes} (h : ofTree? t = some a) :
    t.Reads (Claims.maxAttributeNesting + 1) (.obj a.entries) := by
  cases t with
  | obj ms =>
    obtain ⟨vs, hvs, rfl⟩ := Option.map_eq_some_iff.1 h
    refine ⟨.obj vs, ?_, rfl⟩
    rw [Tree.toValue?, if_neg (Nat.succ_ne_zero _), Nat.add_sub_cancel, hvs, Option.map_some]
  | _ => cases h

/-- A signed or an unsigned word of 64 bits holds the integer. -/
def IsWord (n : Int) : Prop := Int64.minValue.toInt ≤ n ∧ n < UInt64.size

/-- An integer among attributes that are read is kept if a word holds it, and only then. -/
theorem Attributes.hasInt_iff {t : Tree} {a : Attributes} (h : ofTree? t = some a) {p : Path}
    {n : Int} (hn : t.at? p = some (.num (.ofInt n))) : a.HasInt p n ↔ IsWord n := by
  constructor
  · rintro ⟨w, rfl, -⟩
    exact w.mem_range
  · intro hrange
    have hpart := (reads_of_ofTree? h).at? p
    rw [hn] at hpart
    generalize hat : (Value.obj a.entries).at? p = part at hpart
    cases hpart with
    | some hreads =>
      obtain ⟨v, hv, rfl⟩ := hreads
      rw [Tree.toValue?, Numeral.toNumber?_ofInt ⟨n, hrange⟩] at hv
      cases hv
      exact ⟨⟨n, hrange⟩, rfl, hat⟩

theorem Attributes.ofTree?_isSome_iff {t : Tree} : (ofTree? t).isSome ↔
    (∃ ms, t = .obj ms) ∧ (t.toValue? (Claims.maxAttributeNesting + 1)).isSome := by
  cases t with
  | obj ms => simp [ofTree?, Tree.toValue?]
  | _ => simp [ofTree?]

/-- Where there is anything among the attributes, there can be any integer that a word holds. -/
theorem Attributes.exists_ofTree?_put {t x : Tree} {a : Attributes} (h : ofTree? t = some a)
    {p : Path} (hp : p ≠ []) (hx : t.at? p = some x) {n : Int} (hn : IsWord n) :
    ∃ a', ofTree? (t.put p (.num (.ofInt n))) = some a' ∧ a'.HasInt p n := by
  have hvalue : ∀ limit, ((Tree.num (.ofInt n)).toValue? limit).isSome := by
    intro limit
    rw [Tree.toValue?, Numeral.toNumber?_ofInt ⟨n, hn⟩]
    rfl
  obtain ⟨⟨ms, rfl⟩, hread⟩ := ofTree?_isSome_iff.1 (Option.isSome_of_eq_some h)
  have hobject : ∃ ms', (Tree.obj ms).put p (.num (.ofInt n)) = .obj ms' := by
    cases p with
    | nil => exact absurd rfl hp
    | cons s p => cases s <;> exact ⟨_, rfl⟩
  have hsome := ofTree?_isSome_iff.2 ⟨hobject, Tree.toValue?_put hvalue hread p⟩
  obtain ⟨a', ha'⟩ := Option.isSome_iff_exists.1 hsome
  exact ⟨a', ha', (hasInt_iff ha' (Tree.at?_put hx _)).2 hn⟩

/-- The tree of claims has this at this place among the attributes of the user. -/
def Json.Tree.HasAttribute (t : Tree) (p : Path) (x : Tree) : Prop :=
  ∃ u a, t.HasField Claims.fieldNames "user" u ∧ u.HasField User.fieldNames "attrs" a ∧
    a.at? p = some x

theorem Claims.hasInt_iff {t : Tree} {c : Claims} (hc : ofTree? t = some c) {p : Path} {n : Int}
    (hn : t.HasAttribute p (.num (.ofInt n))) :
    ∃ u, c.user = some u ∧ (u.attributes.HasInt p n ↔ IsWord n) := by
  obtain ⟨ut, a, hut, ha, hat⟩ := hn
  have hnull : ut ≠ .null := by
    rintro rfl
    exact ha.elim
  obtain ⟨u, hu, hsome⟩ := user_of_ofTree? hc hut hnull
  exact ⟨u, hsome, Attributes.hasInt_iff (User.attributes_of_ofTree? hu ha) hat⟩

/-- An integer that a word holds may be written in the place of anything among the attributes.
Claims that were read are still read; this integer is where it was put, and nothing but the
attributes is changed. -/
theorem Claims.ofText?_put {attrs attrs' user : MemberText} (hattrs : attrs.name = "attrs")
    (hattrs' : attrs'.name = "attrs") (huser : user.name = "user") {p : Path} (hp : p ≠ [])
    {x : Tree} (hx : attrs.tree.at? p = some x) {n : Int} (hn : IsWord n)
    (hput : attrs'.tree = attrs.tree.put p (.num (.ofInt n)))
    {before after front back : List MemberText} {c : Claims}
    (hc : ofText? (objectText (before ++ user.holding (front ++ attrs :: back) :: after)) =
      some c) :
    ∃ u a, c.user = some u ∧ a.HasInt p n ∧
      ofText? (objectText (before ++ user.holding (front ++ attrs' :: back) :: after)) =
        some { c with user := some { u with attributes := a } } := by
  have htext : ∀ m : MemberText, m.name = "attrs" →
      ofText? (objectText (before ++ user.holding (front ++ m :: back) :: after)) =
        ofTree? (.obj (before.map member ++ (some "user", .obj (front.map member ++
          (some "attrs", m.tree) :: back.map member)) :: after.map member)) := by
    intro m hm
    have hmember : m.member = (some "attrs", m.tree) := by
      rw [member, hm]
    have hholding : (user.holding (front ++ m :: back)).member =
        (some "user", .obj ((front ++ m :: back).map member)) := by
      rw [← huser]
      rfl
    simp only [ofText?_objectText, hholding, hmember, List.map_append, List.map_cons]
  rw [htext attrs hattrs] at hc
  obtain ⟨u, hu, hsome⟩ := user_of_ofTree? hc (List.mem_append_right _ List.mem_cons_self)
    (by intro h; cases h)
  have hread : Attributes.ofTree? attrs.tree = some u.attributes :=
    User.attributes_of_ofTree? hu (List.mem_append_right _ List.mem_cons_self)
  obtain ⟨a, ha, hint⟩ := Attributes.exists_ofTree?_put hread hp hx hn
  rw [← hput] at ha
  refine ⟨u, a, hsome, hint, ?_⟩
  rw [htext attrs' hattrs']
  exact ofTree?_exchange hc (User.ofTree?_exchange hu ha)

theorem User.at?_sortKeys {u : User} {p : Path} {w : WordInt}
    (hw : (Value.obj u.attributes.entries).at? p = some (.num (.int w))) :
    u.toValue.sortKeys.at? (.member "attrs" :: p) = some (.num (.int w)) := by
  have hkeys : (u.toMembers.map Prod.fst).Nodup := List.Nodup.sublist u.keys_sublist (by decide)
  have hlookup : u.toMembers.lookup "attrs" = some (.obj u.attributes.entries) := by
    rw [u.lookup_attrs, if_neg]
    intro hempty
    -- there is no integer in an empty object
    rw [Attributes.eq_empty_of_isEmpty hempty] at hw
    cases p with
    | nil => cases hw
    | cons s p => cases s <;> cases hw
  rw [Value.at?, toValue, Value.child?_sortKeys hkeys, hlookup, Option.map_some,
    Value.sortKeys_of_ordered _ u.attributes.ordered, Option.bind_some, hw]

namespace Claims

variable {c : Claims} {u : User}

theorem TimeField.lookup_toMembers (f : TimeField) (format : AudienceFormat) (c : Claims) :
    (c.toMembers format).lookup f.name = (f.get c).map .ofInt64 := by
  cases f <;> simp [name, get, toMembers, List.lookup_append, lookup_audienceMembers]

theorem child?_sortKeys (format : AudienceFormat) (c : Claims) (k : String) :
    (c.toValue format).sortKeys.child? (.member k) =
      ((c.toMembers format).lookup k).map Value.sortKeys :=
  Value.child?_sortKeys (List.Nodup.sublist (c.keys_sublist format) (by decide)) k

/-- A time is printed in its digits. -/
theorem writesAt_time {f : TimeField} {e : Int64} (he : f.get c = some e)
    (format : AudienceFormat) :
    (c.toValue format).sortKeys.WritesAt [.member f.name] (intChars e.toInt) := by
  have hat : (c.toValue format).sortKeys.at? [.member f.name] = some (.ofInt64 e) := by
    rw [Value.at?, child?_sortKeys, f.lookup_toMembers, he]
    rfl
  exact Value.writesAt_of_at? hat

/-- An integer among the attributes is printed in its digits. -/
theorem writesAt_attribute (hu : c.user = some u) {p : Path} {n : Int}
    (hn : u.attributes.HasInt p n) (format : AudienceFormat) :
    (c.toValue format).sortKeys.WritesAt (.member "user" :: .member "attrs" :: p)
      (intChars n) := by
  obtain ⟨w, rfl, hw⟩ := hn
  have hat : (c.toValue format).sortKeys.at? (.member "user" :: .member "attrs" :: p) =
      some (.num (.int w)) := by
    rw [Value.at?, child?_sortKeys, lookup_user, hu]
    exact User.at?_sortKeys hw
  exact Value.writesAt_of_at? hat

end Claims

end SignedSession
