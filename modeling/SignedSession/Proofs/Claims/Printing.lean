import SignedSession.Proofs.Claims.Members
import SignedSession.Proofs.Claims.RoundTrip
import SignedSession.Proofs.Json.Paths

/-!
The texts of claims. Claims are printed in the order of their fields, with the attributes of the
user in whatever order a table lists them, or with everything in order of names. Main statement:
each of these texts says the claims that were printed.
-/
namespace SignedSession

open Json

/-- A text that claims are printed as. The attributes are kept in a table, and the first form lists
them as the table does. -/
inductive Claims.IsPrint (c : Claims) : String → Prop
  | display : c.IsPrint c.display
  | listing (u : User) (entries : List (String × Value)) (hu : c.user = some u)
      (hentries : entries.Perm u.attributes.entries) :
      c.IsPrint ((c.toValue .text).put [.member "user", .member "attrs"] (.obj entries)).render
  | canonical (format : AudienceFormat) : c.IsPrint (c.canonical format)

theorem Json.Value.memberTrees_append_cons (front back : List (String × Value)) (k : String)
    (v : Value) : memberTrees (front ++ (k, v) :: back) =
      memberTrees front ++ (some k, v.toTree) :: memberTrees back := by
  simp [memberTrees_eq_map]

/-- A table has one form, however it is listed. -/
theorem Attributes.ofMembers_listing {a : Attributes} {entries : List (String × Value)}
    (h : entries.Perm a.entries) : ofMembers entries = a := by
  have hordered : Value.OrderedEach entries := Value.orderedEach_iff.2 fun m hm =>
    Value.orderedEach_iff.1 a.ordered.2 m (h.mem_iff.1 hm)
  apply Attributes.ext
  change sortMembers (Value.sortEach entries) = a.entries
  rw [Value.sortEach_of_ordered entries hordered]
  exact sortMembers_of_perm h a.ordered.1

theorem Attributes.ofTree?_listing {a : Attributes} (ha : a.IsReadable)
    {entries : List (String × Value)} (h : entries.Perm a.entries) :
    ofTree? (Value.obj entries).toTree = some a := by
  have hmem : ∀ m ∈ entries, m ∈ a.entries := fun m hm => h.mem_iff.1 hm
  have hfree : Value.AreMembersFloatFree entries :=
    Value.areMembersFloatFree_iff.2 fun m hm => (ha m (hmem m hm)).1
  have hdepth : Value.membersDepth entries ≤ Claims.maxAttributeNesting :=
    Value.membersDepth_le_iff.2 fun m hm => (ha m (hmem m hm)).2
  rw [Value.toTree, ofTree?, Tree.toMembers?_memberTrees entries hfree hdepth, Option.map_some,
    ofMembers_listing h]

namespace User

theorem lookup_attrs (u : User) : u.toMembers.lookup "attrs" =
    if u.attributes.isEmpty then none else some (.obj u.attributes.entries) := by
  simp [toMembers, List.lookup_append, lookup_cons_ite]

/-- The order in which the attributes are listed makes no difference to the user. -/
theorem ofTree?_listing {u : User} (hu : u.attributes.IsReadable)
    {entries : List (String × Value)} (h : entries.Perm u.attributes.entries) :
    ofTree? (u.toValue.put [.member "attrs"] (.obj entries)).toTree = some u := by
  have hwritten : ofTree? u.toValue.toTree = some u := ofTree?_toTree Value.isArrangement_id hu
  have hlookup := u.lookup_attrs
  change ofTree? (Value.obj (Value.modifyMember "attrs" (fun _ => .obj entries)
    u.toMembers)).toTree = some u
  cases hempty : u.attributes.isEmpty with
  | true =>
    rw [hempty, if_pos rfl] at hlookup
    rwa [Value.modifyMember_of_lookup_none hlookup]
  | false =>
    rw [hempty, if_neg Bool.false_ne_true] at hlookup
    obtain ⟨front, back, hsplit, hmodify⟩ := Value.exists_split_of_lookup hlookup
    rw [toValue, hsplit, Value.toTree, Value.memberTrees_append_cons] at hwritten
    rw [hmodify, Value.toTree, Value.memberTrees_append_cons]
    exact ofTree?_exchange hwritten (Attributes.ofTree?_listing hu h)

end User

namespace Claims

theorem lookup_user (format : AudienceFormat) (c : Claims) :
    (c.toMembers format).lookup "user" = c.user.map User.toValue := by
  simp [toMembers, List.lookup_append, lookup_audienceMembers]

theorem ofTree?_listing {c : Claims} (hc : c.IsReadable) {u : User} (hu : c.user = some u)
    {entries : List (String × Value)} (h : entries.Perm u.attributes.entries)
    (format : AudienceFormat) :
    ofTree? ((c.toValue format).put [.member "user", .member "attrs"] (.obj entries)).toTree =
      some c := by
  have hwritten : ofTree? (c.toValue format).toTree = some c :=
    ofTree?_toValue Value.isArrangement_id hc format
  have hlookup : (c.toMembers format).lookup "user" = some u.toValue := by
    rw [lookup_user, hu, Option.map_some]
  obtain ⟨front, back, hsplit, hmodify⟩ := Value.exists_split_of_lookup hlookup
  change ofTree? (Value.obj (Value.modifyMember "user"
    (fun v => v.put [.member "attrs"] (.obj entries)) (c.toMembers format))).toTree = some c
  rw [toValue, hsplit, Value.toTree, Value.memberTrees_append_cons] at hwritten
  rw [hmodify, Value.toTree, Value.memberTrees_append_cons]
  have hexchanged := ofTree?_exchange hwritten (User.ofTree?_listing (hc u hu) h)
  rwa [← hu] at hexchanged

theorem isFloatFree_listing {c : Claims} (hc : c.IsReadable) {entries : List (String × Value)}
    (hfree : Value.AreMembersFloatFree entries) (format : AudienceFormat) :
    ((c.toValue format).put [.member "user", .member "attrs"] (.obj entries)).IsFloatFree := by
  have hattributes : ∀ v : Value, v.IsFloatFree →
      (v.put [.member "attrs"] (.obj entries)).IsFloatFree := by
    intro v hv
    cases v with
    | obj ms =>
      exact Value.areMembersFloatFree_modifyMember (f := fun _ => .obj entries)
        (fun _ _ => hfree) hv
    | _ => exact hv
  exact Value.areMembersFloatFree_modifyMember hattributes (isFloatFree_toValue hc format)

/-- A text that claims are printed as says these claims. -/
theorem ofText?_of_isPrint {c : Claims} (hc : c.IsReadable) {s : String} (h : c.IsPrint s) :
    ofText? s = some c := by
  cases h with
  | display =>
    have htree := Tree.ofChars?_chars (isFloatFree_toValue hc .text)
    rw [ofText?, display, Value.toList_render, htree, Option.bind_some]
    exact ofTree?_toValue Value.isArrangement_id hc .text
  | listing u entries hu hentries =>
    have hfree : Value.AreMembersFloatFree entries :=
      Value.areMembersFloatFree_iff.2 fun m hm => (hc u hu m (hentries.mem_iff.1 hm)).1
    have htree := Tree.ofChars?_chars (isFloatFree_listing hc hfree .text)
    rw [ofText?, Value.toList_render, htree, Option.bind_some]
    exact ofTree?_listing hc hu hentries .text
  | canonical format =>
    rw [ofText?, ofChars?_canonical hc, Option.bind_some]
    exact ofTree?_toValue Value.isArrangement_sortKeys hc format

/-- Claims survive being printed and read. Whatever is printed says the claims it was printed of;
so claims that were read from any text at all, and hold no double, are read again from their print;
and no text is a print of two different claims. -/
theorem read_of_print :
    (∀ (c : Claims) (s : String), c.IsReadable → c.IsPrint s → ofText? s = some c) ∧
    (∀ (t : String) (c : Claims) (s : String), ofText? t = some c → c.IsFloatFree → c.IsPrint s →
      ofText? s = some c) ∧
    ∀ (c c' : Claims) (s : String), c.IsReadable → c'.IsReadable → c.IsPrint s → c'.IsPrint s →
      c = c' := by
  refine ⟨fun c s hc hs => ofText?_of_isPrint hc hs, ?_, ?_⟩
  · intro t c s ht hfree hs
    obtain ⟨tree, -, htree⟩ := Option.bind_eq_some_iff.1 ht
    exact ofText?_of_isPrint (isReadable_of_ofTree? htree hfree) hs
  · intro c c' s hc hc' hs hs'
    have hread := ofText?_of_isPrint hc hs
    rw [ofText?_of_isPrint hc' hs'] at hread
    exact (Option.some.inj hread).symm

/-- A login under way, with empty texts, two audiences and two attributes. -/
def callback : Claims where
  subject := some ""
  audiences := ["", "shop"]
  notBefore := some Int64.minValue
  user := some { name := "", id := "\"u\"",
                 attributes := (Attributes.empty.setText "lang" "de").setFlag "admin" false }
  handshake := some ⟨"", "", ""⟩
  provider := some ""

theorem isReadable_callback : callback.IsReadable := by
  intro u hu m hm
  cases hu
  change m ∈ [("admin", Value.bool false), ("lang", .str "de")] at hm
  simp only [List.mem_cons, List.not_mem_nil, or_false] at hm
  rcases hm with rfl | rfl
  · exact ⟨trivial, Nat.zero_le _⟩
  · exact ⟨trivial, Nat.zero_le _⟩

/-- The attributes stand in an order that a table may list them in. -/
def callbackText : String :=
  "\x7b\"sub\":\"\",\"aud\":[\"\",\"shop\"],\"nbf\":-9223372036854775808,\"user\":" ++
    "\x7b\"name\":\"\",\"id\":\"\\\"u\\\"\",\"attrs\":" ++
    "\x7b\"lang\":\"de\",\"admin\":false\x7d\x7d," ++
    "\"handshake\":\x7b\x7d,\"auth_provider\":\x7b\x7d\x7d"

theorem isPrint_callbackText : callback.IsPrint callbackText := by
  have htext : callbackText = ((callback.toValue .text).put [.member "user", .member "attrs"]
      (.obj [("lang", .str "de"), ("admin", .bool false)])).render := by decide +kernel
  rw [htext]
  exact .listing _ _ rfl (List.Perm.swap _ _ _)

/-- The text is read, and printed and read again; it is not the text of a callback with a token
id, not even an empty one. -/
theorem read_of_print_callback :
    ofText? callbackText = some callback ∧ ofText? (callback.canonical .list) = some callback ∧
      ¬ ({ callback with tokenId := some "" } : Claims).IsPrint callbackText := by
  obtain ⟨hread, hagain, hinjective⟩ := read_of_print
  have htext := hread callback callbackText isReadable_callback isPrint_callbackText
  refine ⟨htext, ?_, ?_⟩
  · have hfree : callback.IsFloatFree := fun u hu m hm => (isReadable_callback u hu m hm).1
    exact hagain callbackText callback _ htext hfree (.canonical .list)
  · intro hprint
    have hsame := hinjective callback { callback with tokenId := some "" } callbackText
      isReadable_callback isReadable_callback isPrint_callbackText hprint
    cases congrArg tokenId hsame

end Claims

end SignedSession
