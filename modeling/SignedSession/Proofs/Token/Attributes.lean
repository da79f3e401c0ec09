import SignedSession.Proofs.Claims.Printing
import SignedSession.Proofs.Token.RoundTrip

/-!
Attributes that a host sets one after the other. Each has the value of the last call that sets it,
and nothing else is left of the calls. Main statement: users whose calls end in the same values are
the same, and so are the tokens of their claims, in whatever order tables list the attributes.
-/
namespace SignedSession

open Json

namespace Attributes

theorem get?_insert (a : Attributes) (name : String) (v : Value) (hv : v.Ordered) (k : String) :
    (a.insert name v hv).get? k = if k = name then some v else a.get? k :=
  lookup_insertKey k name v a.entries

theorem nodup_entries (a : Attributes) : a.entries.Nodup :=
  List.Pairwise.of_map Prod.fst (fun _ _ hne he => hne (congrArg Prod.fst he)) a.ordered.1.nodup

theorem mem_entries_iff {a : Attributes} {m : String × Value} :
    m ∈ a.entries ↔ a.get? m.1 = some m.2 := by
  constructor
  · exact lookup_of_mem a.ordered.1.nodup
  · intro h
    obtain ⟨front, back, hsplit, -⟩ := Value.exists_split_of_lookup h
    rw [hsplit]
    exact List.mem_append_right _ List.mem_cons_self

/-- A table is what it answers. -/
theorem ext_get? {a b : Attributes} (h : ∀ name, a.get? name = b.get? name) : a = b := by
  have hperm : a.entries.Perm b.entries := by
    refine (List.perm_ext_iff_of_nodup a.nodup_entries b.nodup_entries).2 fun m => ?_
    rw [mem_entries_iff, mem_entries_iff, h]
  rw [← ofMembers_entries a, ofMembers_listing hperm]

/-- What a host can set an attribute to. -/
inductive Plain
  | flag (b : Bool)
  | text (s : String)
  deriving DecidableEq, Repr

namespace Plain

def toValue : Plain → Value
  | flag b => .bool b
  | text s => .str s

theorem ordered_toValue : (v : Plain) → v.toValue.Ordered
  | flag _ => trivial
  | text _ => trivial

/-- The answer to one who asks for a flag. -/
def asFlag : Plain → Bool
  | flag b => b
  | text _ => false

/-- The answer to one who asks for a text. -/
def asText : Plain → String
  | flag _ => ""
  | text s => s

end Plain

theorem flag_of_get? {a : Attributes} {name : String} {v : Plain}
    (h : a.get? name = some v.toValue) : a.flag name = v.asFlag := by
  rw [flag, h]
  cases v <;> rfl

theorem text_of_get? {a : Attributes} {name : String} {v : Plain}
    (h : a.get? name = some v.toValue) : a.text name = v.asText := by
  rw [text, h]
  cases v <;> rfl

end Attributes

open Attributes (Plain)

namespace User

/-- The user after an attribute is set. -/
def set (u : User) (name : String) : Plain → User
  | .flag b => u.setFlag name b
  | .text s => u.setText name s

/-- The user after calls that set one attribute each. -/
def setAll (u : User) (calls : List (String × Plain)) : User :=
  calls.foldl (fun u call => u.set call.1 call.2) u

theorem set_eq (u : User) (name : String) (v : Plain) : u.set name v =
    { u with attributes := u.attributes.insert name v.toValue v.ordered_toValue } := by
  cases v <;> rfl

theorem get?_set (u : User) (name : String) (v : Plain) (k : String) :
    (u.set name v).attributes.get? k =
      if k = name then some v.toValue else u.attributes.get? k := by
  rw [set_eq]
  exact u.attributes.get?_insert name v.toValue v.ordered_toValue k

/-- The last call that sets an attribute decides its value. -/
theorem get?_setAll (u : User) (calls : List (String × Plain)) (k : String) :
    (u.setAll calls).attributes.get? k =
      ((lookupLast k calls).map Plain.toValue).or (u.attributes.get? k) := by
  induction calls generalizing u with
  | nil => rfl
  | cons call calls ih =>
    change ((u.set call.1 call.2).setAll calls).attributes.get? k = _
    rw [ih, get?_set, lookupLast, Option.map_or, Option.or_assoc]
    by_cases hk : k = call.1
    · rw [if_pos hk, if_pos hk]
      rfl
    · rw [if_neg hk, if_neg hk]
      rfl

/-- Calls change nothing but the attributes. -/
theorem setAll_eq (u : User) (calls : List (String × Plain)) :
    u.setAll calls = { u with attributes := (u.setAll calls).attributes } := by
  induction calls generalizing u with
  | nil => rfl
  | cons call calls ih =>
    change (u.set call.1 call.2).setAll calls =
      { u with attributes := ((u.set call.1 call.2).setAll calls).attributes }
    rw [ih, set_eq]

theorem setAll_congr {calls calls' : List (String × Plain)}
    (h : ∀ name, lookupLast name calls' = lookupLast name calls) (u : User) :
    u.setAll calls' = u.setAll calls := by
  have hattributes : (u.setAll calls').attributes = (u.setAll calls).attributes :=
    Attributes.ext_get? fun name => by rw [get?_setAll, get?_setAll, h]
  rw [setAll_eq u calls', setAll_eq u calls, hattributes]

end User

/-- Members that are sorted alike may stand for each other in an object that is sorted. -/
theorem Json.Value.sortKeys_modifyMember {ms : List (String × Value)} {k : String} {v : Value}
    {f : Value → Value} (hv : ms.lookup k = some v) (hf : (f v).sortKeys = v.sortKeys) :
    (Value.obj (modifyMember k f ms)).sortKeys = (Value.obj ms).sortKeys := by
  obtain ⟨front, back, hsplit, hmodify⟩ := exists_split_of_lookup hv
  rw [hmodify, hsplit, sortKeys, sortKeys, sortEach_eq_map, sortEach_eq_map, List.map_append,
    List.map_append, List.map_cons, List.map_cons, hf]

theorem User.sortKeys_listing {u : User} {entries : List (String × Value)}
    (h : entries.Perm u.attributes.entries) :
    (u.toValue.put [.member "attrs"] (.obj entries)).sortKeys = u.toValue.sortKeys := by
  have hlookup := u.lookup_attrs
  change (Value.obj (Value.modifyMember "attrs" (fun _ => .obj entries) u.toMembers)).sortKeys = _
  cases hempty : u.attributes.isEmpty with
  | true =>
    rw [hempty, if_pos rfl] at hlookup
    rw [Value.modifyMember_of_lookup_none hlookup, toValue]
  | false =>
    rw [hempty, if_neg Bool.false_ne_true] at hlookup
    refine Value.sortKeys_modifyMember hlookup ?_
    rw [Value.sortKeys_of_ordered _ u.attributes.ordered]
    exact congrArg (fun a : Attributes => Value.obj a.entries) (Attributes.ofMembers_listing h)

/-- Sorted text does not show in which order a table lists the attributes. -/
theorem Claims.render_listing {c : Claims} {u : User} (hu : c.user = some u)
    {entries : List (String × Value)} (h : entries.Perm u.attributes.entries)
    (format : AudienceFormat) :
    ((c.toValue format).put [.member "user", .member "attrs"] (.obj entries)).sortKeys.render =
      c.canonical format := by
  have hlookup : (c.toMembers format).lookup "user" = some u.toValue := by
    rw [lookup_user, hu, Option.map_some]
  rw [canonical, toValue]
  congr 1
  exact Value.sortKeys_modifyMember hlookup (User.sortKeys_listing h)

namespace Codec

/-- Users whose attributes are set by calls. An attribute that no call sets keeps its value, and one
that is set answers with its last value, or as if it had none if it is asked for another type. If
two lists of calls set the same attributes to the same last values, the users answer alike, claims
with the one are signed like those with the other, and what their token says is the text of either,
sorted, in whatever order a table lists the attributes. -/
theorem sign_setAll (u : User) :
    (∀ calls name,
      (lookupLast name calls = none →
        (u.setAll calls).attributes.get? name = u.attributes.get? name) ∧
      ∀ v, lookupLast name calls = some v →
        (u.setAll calls).attributes.flag name = v.asFlag ∧
        (u.setAll calls).attributes.text name = v.asText) ∧
    ∀ calls calls', (∀ name, lookupLast name calls' = lookupLast name calls) →
      (∀ name,
        (u.setAll calls').attributes.flag name = (u.setAll calls).attributes.flag name ∧
        (u.setAll calls').attributes.text name = (u.setAll calls).attributes.text name) ∧
      (u.setAll calls').isAdmin = (u.setAll calls).isAdmin ∧
      ∀ c : Claims,
        (∀ codec : Codec, codec.sign (c.forUser (u.setAll calls')) =
          codec.sign (c.forUser (u.setAll calls))) ∧
        ∀ format secret entries, entries.Perm (u.setAll calls').attributes.entries →
          (encode format secret (c.forUser (u.setAll calls))).payload =
            CompactToken.partOf (((c.forUser (u.setAll calls')).toValue format).put
              [.member "user", .member "attrs"] (.obj entries)).sortKeys.render.toList := by
  refine ⟨fun calls name => ⟨fun hnone => ?_, fun v hlast => ?_⟩, fun calls calls' hlast => ?_⟩
  · rw [User.get?_setAll, hnone]
    rfl
  · have hget : (u.setAll calls).attributes.get? name = some v.toValue := by
      rw [User.get?_setAll, hlast]
      rfl
    exact ⟨Attributes.flag_of_get? hget, Attributes.text_of_get? hget⟩
  · have hsame := User.setAll_congr hlast u
    rw [hsame]
    refine ⟨fun _ => ⟨rfl, rfl⟩, rfl, fun c => ⟨fun _ => rfl, ?_⟩⟩
    intro format secret entries hentries
    rw [Claims.render_listing rfl hentries, payload_encode]

/-- The attribute of administrators is set, but not as a flag. -/
def clerk : User where
  name := "Cy"
  id := "u7"
  attributes := ((Attributes.empty.setText "admin" "yes").setText "lang" "fr").setFlag "paid" true

/-- Makes the clerk an administrator, at the second attempt. -/
def promotion : List (String × Plain) :=
  [("admin", .text "no"), ("lang", .text "de"), ("admin", .flag true)]

/-- The same in the end, by other calls. -/
def detour : List (String × Plain) :=
  [("admin", .flag false), ("admin", .flag true), ("lang", .flag true), ("lang", .text "de")]

/-- The promoted clerk is an administrator, has no text under that name any more, and is paid as
before. By the detour the clerk gets the same token, of which the payload is also the sorted text of
a table that lists the attributes backwards. -/
theorem sign_setAll_clerk :
    (clerk.setAll promotion).attributes.flag "admin" = true ∧
    (clerk.setAll promotion).attributes.text "admin" = "" ∧
    (clerk.setAll promotion).attributes.get? "paid" = clerk.attributes.get? "paid" ∧
    (∀ name, lookupLast name detour = lookupLast name promotion) ∧
    (clerk.setAll detour).isAdmin = (clerk.setAll promotion).isAdmin ∧
    shopSigner.sign (Claims.shopVisit.forUser (clerk.setAll detour)) =
      shopSigner.sign (Claims.shopVisit.forUser (clerk.setAll promotion)) ∧
    (encode .list "s3cret" (Claims.shopVisit.forUser (clerk.setAll promotion))).payload =
      CompactToken.partOf (((Claims.shopVisit.forUser (clerk.setAll detour)).toValue .list).put
        [.member "user", .member "attrs"]
        (.obj (clerk.setAll detour).attributes.entries.reverse)).sortKeys.render.toList := by
  have hlast : ∀ name, lookupLast name detour = lookupLast name promotion := by
    intro name
    by_cases hadmin : name = "admin"
    · rw [hadmin]
      rfl
    · by_cases hlang : name = "lang"
      · rw [hlang]
        rfl
      · simp [detour, promotion, lookupLast, hadmin, hlang]
  obtain ⟨hattributes, hsame⟩ := sign_setAll clerk
  obtain ⟨-, hadmin, hclaims⟩ := hsame promotion detour hlast
  obtain ⟨hsign, hpayload⟩ := hclaims Claims.shopVisit
  obtain ⟨hflag, htext⟩ := (hattributes promotion "admin").2 (.flag true) rfl
  exact ⟨hflag, htext, (hattributes promotion "paid").1 rfl, hlast, hadmin, hsign shopSigner,
    hpayload .list "s3cret" _ (List.reverse_perm _)⟩

end Codec

end SignedSession
