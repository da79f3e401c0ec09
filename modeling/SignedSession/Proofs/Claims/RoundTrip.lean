import SignedSession.Claims.Printer
import SignedSession.Proofs.Claims.Fields
import SignedSession.Proofs.Json.Arrangement

/-!
Claims survive being written and read. Each part is written as members under its field names, left
out where it has its default, and read back from these members in every arrangement. Main
statement: the tree of written claims says the claims, in field order and in order of names.
-/
namespace SignedSession

open Json

/-- Attributes that can be read back: without doubles, and no deeper than attributes may nest. -/
def Attributes.IsReadable (a : Attributes) : Prop :=
  ∀ m ∈ a.entries, m.2.IsFloatFree ∧ m.2.depth ≤ Claims.maxAttributeNesting

/-- Claims with such attributes, or without a user. -/
def Claims.IsReadable (c : Claims) : Prop := ∀ u, c.user = some u → u.attributes.IsReadable

theorem Attributes.eq_empty_of_isEmpty {a : Attributes} (h : a.isEmpty = true) : a = .empty := by
  apply Attributes.ext
  exact List.isEmpty_iff.1 h

@[simp] theorem lookup_textMember (name s k : String) :
    (textMember name s).lookup k =
      if k = name then if s = "" then none else some (.str s) else none := by
  unfold textMember
  by_cases hs : s = "" <;> simp [hs, lookup_cons_ite]

@[simp] theorem lookup_flagMember (name : String) (b : Bool) (k : String) :
    (flagMember name b).lookup k =
      if k = name then if b then some (.bool true) else none else none := by
  cases b <;> simp [flagMember, lookup_cons_ite]

@[simp] theorem lookup_optionalMember {α : Type} (name : String) (write : α → Value)
    (o : Option α) (k : String) :
    (optionalMember name write o).lookup k = if k = name then o.map write else none := by
  cases o <;> simp [optionalMember, lookup_cons_ite]

@[simp] theorem lookup_attributes (name : String) (a : Attributes) (k : String) :
    (a.toMembers name).lookup k =
      if k = name then if a.isEmpty then none else some (.obj a.entries) else none := by
  unfold Attributes.toMembers
  cases ha : a.isEmpty <;> simp [lookup_cons_ite]

theorem textMember_sublist (name s : String) :
    ((textMember name s).map Prod.fst).Sublist [name] := by
  unfold textMember
  split <;> simp

theorem flagMember_sublist (name : String) (b : Bool) :
    ((flagMember name b).map Prod.fst).Sublist [name] := by
  cases b <;> simp [flagMember]

theorem optionalMember_sublist {α : Type} (name : String) (write : α → Value) (o : Option α) :
    ((optionalMember name write o).map Prod.fst).Sublist [name] := by
  cases o <;> simp [optionalMember]

theorem attributes_sublist (name : String) (a : Attributes) :
    ((a.toMembers name).map Prod.fst).Sublist [name] := by
  unfold Attributes.toMembers
  split <;> simp

/-- Members are written in the order of the fields. -/
theorem User.keys_sublist (u : User) : (u.toMembers.map Prod.fst).Sublist fieldNames := by
  simp only [toMembers, List.map_append]
  have hfirst : List.Sublist ["name", "id"] ["name", "id"] := List.Sublist.refl _
  exact (((((hfirst.append (textMember_sublist "picture" u.picture)).append
    (textMember_sublist "aud" u.audience)).append (textMember_sublist "ip" u.ip)).append
    (textMember_sublist "email" u.email)).append (attributes_sublist "attrs" u.attributes)).append
    (textMember_sublist "role" u.role)

theorem Handshake.keys_sublist (h : Handshake) :
    (h.toMembers.map Prod.fst).Sublist fieldNames := by
  simp only [toMembers, List.map_append]
  exact ((textMember_sublist "state" h.state).append (textMember_sublist "from" h.returnTo)).append
    (textMember_sublist "id" h.id)

/-- The fields of a record are the members of a value, each in its arrangement. -/
def Json.Fields.AreMembers (fs : Fields) (arrange : Value → Value)
    (ms : List (String × Value)) : Prop :=
  ∀ k, fs.lookup k = (ms.lookup k).map fun v => (arrange v).toTree

section

variable {arrange : Value → Value} (ha : Value.IsArrangement arrange)
variable {ms : List (String × Value)} {fs : Fields} (hfs : fs.AreMembers arrange ms) {name : String}

include ha

theorem toTree_arrange_str (s : String) : (arrange (.str s)).toTree = .str (.text s) := by
  rw [ha.ordered (.str s) trivial]
  rfl

theorem text?_arrange_str (s : String) : (arrange (.str s)).toTree.text? = some s := by
  rw [toTree_arrange_str ha]
  rfl

theorem toTree_arrange_bool (b : Bool) : (arrange (.bool b)).toTree = .bool b := by
  rw [ha.ordered (.bool b) trivial]
  rfl

include hfs

/-- A text that is always written. -/
theorem text?_of_member {s : String} (h : ms.lookup name = some (.str s)) :
    fs.text? name = some s := by
  apply Fields.withDefault?_of_lookup
  right
  refine ⟨.str (.text s), ?_, rfl⟩
  rw [hfs, h, Option.map_some, toTree_arrange_str ha]

/-- A text that is left out when it is empty. -/
theorem text?_of_textMember {s : String}
    (h : ms.lookup name = if s = "" then none else some (.str s)) : fs.text? name = some s := by
  by_cases hs : s = ""
  · apply Fields.withDefault?_of_lookup
    left
    refine ⟨?_, hs⟩
    rw [hfs, h, if_pos hs, Option.map_none]
  · rw [if_neg hs] at h
    exact text?_of_member ha hfs h

/-- A flag that is left out when it is false. -/
theorem flag?_of_flagMember {b : Bool}
    (h : ms.lookup name = if b then some (.bool true) else none) : fs.flag? name = some b := by
  apply Fields.withDefault?_of_lookup
  cases b with
  | false =>
    left
    refine ⟨?_, rfl⟩
    rw [hfs, h]
    rfl
  | true =>
    right
    refine ⟨.bool true, ?_, rfl⟩
    rw [hfs, h, if_pos rfl, Option.map_some, toTree_arrange_bool ha]

omit ha

/-- A field that is left out when there is nothing to write. -/
theorem optional?_of_optionalMember {α : Type} {o : Option α} {w : α → Value}
    {read : Tree → Option α} (h : ms.lookup name = o.map w) (hnull : read .null = none)
    (hread : ∀ a, o = some a → read (arrange (w a)).toTree = some a) :
    fs.optional? name read = some o := by
  have hl : fs.lookup name = o.map fun a => (arrange (w a)).toTree := by
    rw [hfs, h, Option.map_map]
    rfl
  exact Fields.optional?_of_lookup hl hnull hread

end

section

variable {arrange : Value → Value} (ha : Value.IsArrangement arrange)

include ha

/-- Attributes are in order, and so they are the same in every arrangement. -/
theorem Attributes.ofTree?_toTree {a : Attributes} (h : a.IsReadable) :
    ofTree? (arrange (.obj a.entries)).toTree = some a := by
  have hfree : Value.AreMembersFloatFree a.entries :=
    Value.areMembersFloatFree_iff.2 fun m hm => (h m hm).1
  have hdepth : Value.membersDepth a.entries ≤ Claims.maxAttributeNesting :=
    Value.membersDepth_le_iff.2 fun m hm => (h m hm).2
  rw [ha.ordered (.obj a.entries) a.ordered, Value.toTree, ofTree?,
    Tree.toMembers?_memberTrees _ hfree hdepth, Option.map_some, ofMembers_entries]

theorem User.isReadFrom_members {u : User} (hu : u.attributes.IsReadable) {fs : Fields}
    (hfs : fs.AreMembers arrange u.toMembers) : u.IsReadFrom fs where
  name := text?_of_member ha hfs (by simp [toMembers, lookup_cons_ite])
  id := text?_of_member ha hfs (by simp [toMembers, lookup_cons_ite])
  picture := text?_of_textMember ha hfs (by simp [toMembers, List.lookup_append, lookup_cons_ite])
  audience := text?_of_textMember ha hfs (by simp [toMembers, List.lookup_append, lookup_cons_ite])
  ip := text?_of_textMember ha hfs (by simp [toMembers, List.lookup_append, lookup_cons_ite])
  email := text?_of_textMember ha hfs (by simp [toMembers, List.lookup_append, lookup_cons_ite])
  attributes := by
    apply Fields.withDefault?_of_lookup
    have hl := hfs "attrs"
    simp only [toMembers, List.lookup_append, lookup_cons_ite] at hl
    cases he : u.attributes.isEmpty with
    | true =>
      left
      refine ⟨?_, Attributes.eq_empty_of_isEmpty he⟩
      simpa [he] using hl
    | false =>
      right
      refine ⟨_, ?_, Attributes.ofTree?_toTree ha hu⟩
      simpa [he] using hl
  role := text?_of_textMember ha hfs (by simp [toMembers, List.lookup_append, lookup_cons_ite])

theorem User.ofTree?_toTree {u : User} (hu : u.attributes.IsReadable) :
    ofTree? (arrange u.toValue).toTree = some u := by
  obtain ⟨fs, hrecord, hfs⟩ := Tree.record?_arranged ha u.keys_sublist (by decide)
  rw [ofTree?, toValue, hrecord, Option.bind_some, ofFields?_eq_some_iff]
  exact isReadFrom_members ha hu hfs

theorem Handshake.isReadFrom_members {h : Handshake} {fs : Fields}
    (hfs : fs.AreMembers arrange h.toMembers) : h.IsReadFrom fs where
  state := text?_of_textMember ha hfs (by simp [toMembers, List.lookup_append])
  returnTo := text?_of_textMember ha hfs (by simp [toMembers, List.lookup_append])
  id := text?_of_textMember ha hfs (by simp [toMembers, List.lookup_append])

theorem Handshake.ofTree?_toTree (s : Handshake) : ofTree? (arrange s.toValue).toTree = some s := by
  obtain ⟨fs, hrecord, hfs⟩ := Tree.record?_arranged ha s.keys_sublist (by decide)
  rw [ofTree?, toValue, hrecord, Option.bind_some, ofFields?_eq_some_iff]
  exact isReadFrom_members ha hfs

end

namespace Claims

theorem audiencesOfTree?_texts (as : List String) :
    audiencesOfTree? (Value.arr (as.map .str)).toTree = some as := by
  have hitems : (Value.itemTrees (as.map .str)).mapM Tree.text? = some as := by
    induction as with
    | nil => rfl
    | cons a as ih =>
      rw [List.map_cons, Value.itemTrees, List.mapM_cons, ih]
      rfl
  change (Tree.arr (Value.itemTrees (as.map .str))).texts? = some as
  rw [Tree.texts?, Tree.items?, Option.bind_some, hitems]

theorem ordered_texts (as : List String) : (Value.arr (as.map .str)).Ordered := by
  induction as with
  | nil => trivial
  | cons a as ih => exact ⟨trivial, ih⟩

theorem isFloatFree_texts (as : List String) : (Value.arr (as.map .str)).IsFloatFree := by
  induction as with
  | nil => trivial
  | cons a as ih => exact ⟨trivial, ih⟩

/-- Audiences are left out, or written as a text or a list that is read as these audiences. -/
theorem audienceMembers_cases (format : AudienceFormat) (as : List String) :
    (as = [] ∧ audienceMembers format as = []) ∨
      ∃ v, audienceMembers format as = [("aud", v)] ∧ v.Ordered ∧ v.IsFloatFree ∧
        audiencesOfTree? v.toTree = some as := by
  unfold audienceMembers
  split
  · exact Or.inl ⟨rfl, rfl⟩
  · next a => exact Or.inr ⟨_, rfl, trivial, trivial, rfl⟩
  · exact Or.inr ⟨_, rfl, ordered_texts as, isFloatFree_texts as, audiencesOfTree?_texts as⟩

theorem audienceMembers_sublist (format : AudienceFormat) (as : List String) :
    ((audienceMembers format as).map Prod.fst).Sublist ["aud"] := by
  rcases audienceMembers_cases format as with ⟨-, h⟩ | ⟨v, h, -⟩ <;> simp [h]

theorem lookup_audienceMembers (format : AudienceFormat) (as : List String) {k : String}
    (hk : k ≠ "aud") : (audienceMembers format as).lookup k = none := by
  rcases audienceMembers_cases format as with ⟨-, h⟩ | ⟨v, h, -⟩
  · rw [h, List.lookup_nil]
  · rw [h, lookup_cons_ite, if_neg hk, List.lookup_nil]

theorem keys_sublist (format : AudienceFormat) (c : Claims) :
    ((c.toMembers format).map Prod.fst).Sublist fieldNames := by
  simp only [toMembers, List.map_append]
  exact (((((((((((optionalMember_sublist "sub" .str c.subject).append
    (optionalMember_sublist "iss" .str c.issuer)).append
    (audienceMembers_sublist format c.audiences)).append
    (optionalMember_sublist "exp" .ofInt64 c.expiry)).append
    (optionalMember_sublist "nbf" .ofInt64 c.notBefore)).append
    (optionalMember_sublist "iat" .ofInt64 c.issuedAt)).append
    (optionalMember_sublist "jti" .str c.tokenId)).append
    (optionalMember_sublist "user" User.toValue c.user)).append
    (flagMember_sublist "sess_only" c.sessionOnly)).append
    (optionalMember_sublist "handshake" Handshake.toValue c.handshake)).append
    (flagMember_sublist "no-ava" c.withoutAvatar)).append
    (optionalMember_sublist "auth_provider" providerToValue c.provider)

section

variable {arrange : Value → Value} (ha : Value.IsArrangement arrange)

include ha

theorem providerOfTree?_toTree (name : String) :
    providerOfTree? (arrange (providerToValue name)).toTree = some name := by
  obtain ⟨fs, hrecord, hfs⟩ :=
    Tree.record?_arranged ha (textMember_sublist "name" name) (by decide)
  rw [providerOfTree?, providerToValue, hrecord, Option.bind_some]
  apply text?_of_textMember ha hfs
  simp

theorem audiencesOfFields?_members {fs : Fields} {format : AudienceFormat} {c : Claims}
    (hfs : fs.AreMembers arrange (c.toMembers format)) :
    audiencesOfFields? fs = some c.audiences := by
  have hl : (c.toMembers format).lookup "aud" =
      (audienceMembers format c.audiences).lookup "aud" := by
    simp [toMembers, List.lookup_append]
  have hfield := hfs "aud"
  rw [hl] at hfield
  rcases audienceMembers_cases format c.audiences with ⟨hnil, h⟩ | ⟨v, h, hordered, -, hread⟩
  · rw [audiencesOfFields?, Fields.optional?, hfield, h, hnil]
    rfl
  · rw [h, lookup_cons_ite, if_pos rfl, Option.map_some, ha.ordered v hordered] at hfield
    have hl' : fs.lookup "aud" = (some c.audiences).map fun _ => v.toTree := hfield
    have hopt : fs.optional? "aud" audiencesOfTree? = some (some c.audiences) := by
      apply Fields.optional?_of_lookup hl' rfl
      intro as has
      rw [hread, has]
    rw [audiencesOfFields?, hopt]
    rfl

theorem int64?_toTree (n : Int64) : (arrange (.ofInt64 n)).toTree.int64? = some n := by
  have hint : (arrange (.ofInt64 n)).toTree.int? = some n.toInt := by
    rw [ha.ordered (.ofInt64 n) trivial]
    exact Numeral.toInt?_ofInt n.toInt
  rw [Tree.int64?, hint, Option.bind_some, if_pos ⟨n.minValue_le_toInt, n.toInt_le⟩,
    Int64.ofInt_toInt]

theorem isReadFrom_members {c : Claims} (hc : c.IsReadable) {format : AudienceFormat} {fs : Fields}
    (hfs : fs.AreMembers arrange (c.toMembers format)) : c.IsReadFrom fs where
  subject := by
    apply optional?_of_optionalMember hfs (w := .str) _ rfl
      fun s _ => text?_arrange_str ha s
    simp [toMembers, List.lookup_append, lookup_audienceMembers]
  issuer := by
    apply optional?_of_optionalMember hfs (w := .str) _ rfl
      fun s _ => text?_arrange_str ha s
    simp [toMembers, List.lookup_append, lookup_audienceMembers]
  audiences := audiencesOfFields?_members ha hfs
  expiry := by
    apply optional?_of_optionalMember hfs (w := .ofInt64) _ rfl
      fun n _ => int64?_toTree ha n
    simp [toMembers, List.lookup_append, lookup_audienceMembers]
  notBefore := by
    apply optional?_of_optionalMember hfs (w := .ofInt64) _ rfl
      fun n _ => int64?_toTree ha n
    simp [toMembers, List.lookup_append, lookup_audienceMembers]
  issuedAt := by
    apply optional?_of_optionalMember hfs (w := .ofInt64) _ rfl
      fun n _ => int64?_toTree ha n
    simp [toMembers, List.lookup_append, lookup_audienceMembers]
  tokenId := by
    apply optional?_of_optionalMember hfs (w := .str) _ rfl
      fun s _ => text?_arrange_str ha s
    simp [toMembers, List.lookup_append, lookup_audienceMembers]
  user := by
    apply optional?_of_optionalMember hfs (w := User.toValue) _ rfl
      fun u hu => User.ofTree?_toTree ha (hc u hu)
    simp [toMembers, List.lookup_append, lookup_audienceMembers]
  sessionOnly := by
    apply flag?_of_flagMember ha hfs
    simp [toMembers, List.lookup_append, lookup_audienceMembers]
  handshake := by
    apply optional?_of_optionalMember hfs (w := Handshake.toValue) _ rfl
      fun h _ => Handshake.ofTree?_toTree ha h
    simp [toMembers, List.lookup_append, lookup_audienceMembers]
  withoutAvatar := by
    apply flag?_of_flagMember ha hfs
    simp [toMembers, List.lookup_append, lookup_audienceMembers]
  provider := by
    apply optional?_of_optionalMember hfs (w := providerToValue) _ rfl
      fun p _ => providerOfTree?_toTree ha p
    simp [toMembers, List.lookup_append, lookup_audienceMembers]

/-- The tree of written claims is a record of their fields. -/
theorem record?_toValue (format : AudienceFormat) (c : Claims) :
    ∃ fs, (arrange (c.toValue format)).toTree.record? fieldNames = some fs ∧
      fs.AreMembers arrange (c.toMembers format) :=
  Tree.record?_arranged ha (c.keys_sublist format) (by decide)

/-- Claims are read from their written form in every arrangement. -/
theorem ofTree?_toValue {c : Claims} (hc : c.IsReadable) (format : AudienceFormat) :
    ofTree? (arrange (c.toValue format)).toTree = some c := by
  obtain ⟨fs, hrecord, hfs⟩ := record?_toValue ha format c
  exact ofTree?_eq_some_iff.2 ⟨fs, hrecord, isReadFrom_members ha hc hfs⟩

end

end Claims

@[simp] theorem areMembersFloatFree_append {ms ms' : List (String × Value)} :
    Value.AreMembersFloatFree (ms ++ ms') ↔
      Value.AreMembersFloatFree ms ∧ Value.AreMembersFloatFree ms' := by
  simp only [Value.areMembersFloatFree_iff, List.forall_mem_append]

@[simp] theorem areMembersFloatFree_textMember (name s : String) :
    Value.AreMembersFloatFree (textMember name s) := by
  unfold textMember
  split
  · trivial
  · exact ⟨trivial, trivial⟩

@[simp] theorem areMembersFloatFree_flagMember (name : String) (b : Bool) :
    Value.AreMembersFloatFree (flagMember name b) := by
  cases b
  · trivial
  · exact ⟨trivial, trivial⟩

@[simp] theorem areMembersFloatFree_optionalMember {α : Type} {name : String} {write : α → Value}
    {o : Option α} : Value.AreMembersFloatFree (optionalMember name write o) ↔
      ∀ a, o = some a → (write a).IsFloatFree := by
  cases o <;> simp [optionalMember, Value.AreMembersFloatFree]

theorem User.isFloatFree_toValue {u : User} (hu : u.attributes.IsReadable) :
    u.toValue.IsFloatFree := by
  have hattrs : Value.AreMembersFloatFree (u.attributes.toMembers "attrs") := by
    unfold Attributes.toMembers
    split
    · trivial
    · exact ⟨Value.areMembersFloatFree_iff.2 fun m hm => (hu m hm).1, trivial⟩
  have hfirst : Value.AreMembersFloatFree [("name", .str u.name), ("id", .str u.id)] :=
    ⟨trivial, trivial, trivial⟩
  change Value.AreMembersFloatFree u.toMembers
  simp only [toMembers, areMembersFloatFree_append, areMembersFloatFree_textMember, hattrs, hfirst,
    and_self]

theorem Handshake.isFloatFree_toValue (h : Handshake) : h.toValue.IsFloatFree := by
  change Value.AreMembersFloatFree h.toMembers
  simp [toMembers]

namespace Claims

theorem isFloatFree_toValue {c : Claims} (hc : c.IsReadable) (format : AudienceFormat) :
    (c.toValue format).IsFloatFree := by
  have haudiences : Value.AreMembersFloatFree (audienceMembers format c.audiences) := by
    rcases audienceMembers_cases format c.audiences with ⟨-, h⟩ | ⟨v, h, -, hfree, -⟩
    · rw [h]; trivial
    · rw [h]; exact ⟨hfree, trivial⟩
  have hstr : ∀ s : String, (Value.str s).IsFloatFree := fun _ => trivial
  have hint : ∀ n : Int64, (Value.ofInt64 n).IsFloatFree := fun _ => trivial
  have hprovider : ∀ p, (providerToValue p).IsFloatFree := areMembersFloatFree_textMember "name"
  have huser : ∀ u, c.user = some u → u.toValue.IsFloatFree := fun u hu =>
    User.isFloatFree_toValue (hc u hu)
  change Value.AreMembersFloatFree (c.toMembers format)
  simpa [toMembers, haudiences, hstr, hint, hprovider, Handshake.isFloatFree_toValue] using huser

/-- The compact text of claims, with sorted members, has the tree of their value. -/
theorem ofChars?_canonical {c : Claims} (hc : c.IsReadable) (format : AudienceFormat) :
    Tree.ofChars? (c.canonical format).toList = some (c.toValue format).sortKeys.toTree := by
  have hfree := Value.isFloatFree_sortKeys _ (isFloatFree_toValue hc format)
  rw [canonical, Value.toList_render, Tree.ofChars?_chars hfree]

end Claims

def Attributes.IsFloatFree (a : Attributes) : Prop := ∀ m ∈ a.entries, m.2.IsFloatFree

theorem Attributes.depth_le_of_ofTree? {t : Tree} {a : Attributes} (h : ofTree? t = some a) :
    ∀ m ∈ a.entries, m.2.depth ≤ Claims.maxAttributeNesting := by
  cases t with
  | obj ms =>
    obtain ⟨vs, hvs, rfl⟩ := Option.map_eq_some_iff.1 h
    have hread := Tree.membersDepth_le_of_toMembers? ms hvs
    have hsorted : Value.membersDepth (ofMembers vs).entries ≤ Value.membersDepth vs :=
      Nat.le_of_succ_le_succ (Value.depth_sortKeys_le (.obj vs))
    exact Value.membersDepth_le_iff.1 (Nat.le_trans hsorted hread)
  | _ => cases h

theorem User.isReadable_of_ofTree? {t : Tree} {u : User} (h : ofTree? t = some u)
    (hfree : u.attributes.IsFloatFree) : u.attributes.IsReadable := by
  obtain ⟨fs, -, hfields⟩ := Option.bind_eq_some_iff.1 h
  have hattributes := (ofFields?_eq_some_iff.1 hfields).attributes
  intro m hm
  refine ⟨hfree m hm, ?_⟩
  rcases Fields.eq_default_or_exists hattributes with hempty | ⟨t, ht⟩
  · rw [hempty] at hm
    exact absurd hm List.not_mem_nil
  · exact Attributes.depth_le_of_ofTree? ht m hm

/-- No number among the attributes of the user is a double. -/
def Claims.IsFloatFree (c : Claims) : Prop := ∀ u, c.user = some u → u.attributes.IsFloatFree

/-- Claims that were read have the depth that reading allows, so only a double can keep them from
being read again. -/
theorem Claims.isReadable_of_ofTree? {t : Tree} {c : Claims} (h : ofTree? t = some c)
    (hfree : c.IsFloatFree) : c.IsReadable := by
  obtain ⟨fs, -, hread⟩ := ofTree?_eq_some_iff.1 h
  intro u hu
  have huser := hread.user
  rw [hu] at huser
  obtain ⟨t, ht⟩ := Fields.exists_of_optional? huser
  exact User.isReadable_of_ofTree? ht (hfree u hu)

end SignedSession
