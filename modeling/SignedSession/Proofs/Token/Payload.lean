import SignedSession.Proofs.Claims.Fields
import SignedSession.Proofs.Json.Numerals
import SignedSession.Token.Keyring

/-!
The three readers of a payload: the one of all claims, the one of registered members, and the one
of the audience that picks a key. Main statements: where claims are read from an object, the other
two agree with them; an array is never read by all three.
-/
namespace SignedSession

open Json

namespace Claims

/-- A payload whose claims are known says this as the time before which it is not valid. A time
below zero says nothing. -/
def notBeforeSeconds (c : Claims) : Option Nat :=
  c.notBefore.bind fun n => if n.toInt < 0 then none else some n.toInt.toNat

theorem toItems?_of_mapM_text {limit : Nat} {ts : List Tree} {as : List String}
    (h : ts.mapM Tree.text? = some as) : Tree.toItems? limit ts = some (as.map .str) := by
  induction ts generalizing as with
  | nil =>
    cases h
    rfl
  | cons t ts ih =>
    rw [List.mapM_cons] at h
    obtain ⟨a, ha, h⟩ := Option.bind_eq_some_iff.1 h
    obtain ⟨as', has, h⟩ := Option.bind_eq_some_iff.1 h
    cases h
    cases t with
    | str l =>
      have hl : l.text? = some a := ha
      rw [Tree.toItems?, Tree.toValue?, hl, Option.map_some, Option.bind_some, ih has]
      rfl
    | _ => cases ha

/-- What is read as audiences has no fault, so every reader comes to its end. -/
theorem isName_of_audiencesOfTree? {t : Tree} {as : List String}
    (h : audiencesOfTree? t = some as) : Registered.isName t = true := by
  cases t with
  | str l =>
    obtain ⟨s, hs, -⟩ := Option.map_eq_some_iff.1 h
    exact Literal.isReadToEnd_of_text? hs
  | arr items =>
    have hitems : items.mapM Tree.text? = some as := h
    have hvalue : (Tree.arr items).toValue? Registered.maxNesting = some (.arr (as.map .str)) := by
      rw [Tree.toValue?, if_neg (by decide), toItems?_of_mapM_text hitems, Option.map_some]
    exact Tree.isReadToEnd_of_toValue? _ hvalue
  | null => rfl
  | bool b => rfl
  | num n => cases h
  | obj ms => cases h

end Claims

namespace Registered

theorem time?_of_int64? {t : Tree} {n : Int64} (h : t.int64? = some n) :
    time? t = some (if n.toInt < 0 then none else some n.toInt.toNat) := by
  obtain ⟨i, hi, h⟩ := Option.bind_eq_some_iff.1 h
  split at h
  · next hrange =>
    cases h
    cases t with
    | num m =>
      have hm : m.toInt? = some i := hi
      rw [time?, if_neg (Numeral.not_isAbandoned_of_toInt? hm), hm, Option.bind_some,
        Int64.toInt_ofInt_of_le hrange.1 (Int.lt_add_one_of_le hrange.2)]
    | _ => cases hi
  · cases h

theorem exists_literal_of_text? {t : Tree} {s : String} (h : t.text? = some s) :
    ∃ l, t = .str l ∧ l.isReadToEnd = true := by
  cases t with
  | str l => exact ⟨l, rfl, Literal.isReadToEnd_of_text? h⟩
  | _ => cases h

/-- The reader of registered members finds no fault in an object that says claims, and knows the
time before which they are not valid. -/
theorem notBefore?_of_claims {ms : List Member} {c : Claims}
    (h : Claims.ofTree? (.obj ms) = some c) : notBefore? (.obj ms) = some c.notBeforeSeconds := by
  obtain ⟨fs, hrecord, hread⟩ := Claims.ofTree?_eq_some_iff.1 h
  obtain ⟨fs', hrecord', hlookup⟩ :=
    Tree.record?_obj_of_subset fieldNames (by decide) hrecord
  have hexp : (fs'.lookup "exp").all (fun e => (time? e).isSome) = true := by
    rw [hlookup "exp" (by decide)]
    apply Fields.all_of_optional? hread.expiry rfl
    intro t n hn
    rw [time?_of_int64? hn]
    rfl
  have hsub : (fs'.lookup "sub").all isSubject = true := by
    rw [hlookup "sub" (by decide)]
    apply Fields.all_of_optional? hread.subject rfl
    intro t s hs
    obtain ⟨l, rfl, hend⟩ := exists_literal_of_text? hs
    exact hend
  have hiss : (fs'.lookup "iss").all isName = true := by
    rw [hlookup "iss" (by decide)]
    apply Fields.all_of_optional? hread.issuer rfl
    intro t s hs
    obtain ⟨l, rfl, hend⟩ := exists_literal_of_text? hs
    exact hend
  have haud : (fs'.lookup "aud").all isName = true := by
    rw [hlookup "aud" (by decide)]
    obtain ⟨o, ho, -⟩ := Option.map_eq_some_iff.1 hread.audiences
    exact Fields.all_of_optional? ho rfl fun t as has => Claims.isName_of_audiencesOfTree? has
  simp only [notBefore?, hrecord', Option.bind_eq_bind, Option.bind_some, Tree.items?,
    Option.all_none, hexp, hsub, hiss, haud, Bool.and_self, if_true, hlookup "nbf" (by decide)]
  have hn := hread.notBefore
  unfold Fields.optional? at hn
  split at hn
  · next hl =>
    rw [hl, Claims.notBeforeSeconds, ← Option.some.inj hn]
    rfl
  · next hl =>
    rw [hl, Claims.notBeforeSeconds, ← Option.some.inj hn]
    rfl
  · next t _ hl =>
    obtain ⟨n, hn, he⟩ := Option.map_eq_some_iff.1 hn
    rw [hl, Claims.notBeforeSeconds, ← he]
    exact time?_of_int64? hn

/-- An array must have all the registered members. -/
theorem length_of_notBefore? {items : List Tree} {n : Option Nat}
    (h : notBefore? (.arr items) = some n) : items.length = fieldNames.length := by
  obtain ⟨fs, -, h⟩ := Option.bind_eq_some_iff.1 h
  split at h
  · next hall =>
    simp only [Bool.and_eq_true] at hall
    simpa [Tree.items?] using hall.1.1.1.1
  · cases h

end Registered

namespace ClaimedAudience

/-- The audience is looked for where the reader of claims looks for it. -/
theorem audiences?_of_claims {ms : List Member} {c : Claims}
    (h : Claims.ofTree? (.obj ms) = some c) : audiences? (.obj ms) = some c.audiences := by
  obtain ⟨fs, hrecord, hread⟩ := Claims.ofTree?_eq_some_iff.1 h
  obtain ⟨fs', hrecord', hlookup⟩ :=
    Tree.record?_obj_of_subset ["aud"] (by decide) hrecord
  have hfield := Fields.optional?_congr (hlookup "aud" (by decide)) Claims.audiencesOfTree?
  rw [audiences?, hrecord', Option.bind_some, Claims.audiencesOfFields?, hfield]
  exact hread.audiences

/-- A payload that all readers accept is an object: an array is too long for the reader of the
audience, or too short for the reader of registered members. -/
theorem exists_members_of_readers {t : Tree} {as : List String} {n : Option Nat}
    (has : audiences? t = some as) (hn : Registered.notBefore? t = some n) : ∃ ms, t = .obj ms := by
  cases t with
  | obj ms => exact ⟨ms, rfl⟩
  | arr items =>
    have hlength := Registered.length_of_notBefore? hn
    obtain ⟨fs, hrecord, -⟩ := Option.bind_eq_some_iff.1 has
    rw [Tree.record?] at hrecord
    split at hrecord
    · next hle =>
      rw [hlength] at hle
      exact absurd hle (by decide)
    · cases hrecord
  | _ => cases has

end ClaimedAudience

/-- An array that has just the registered members ends before the id. -/
theorem Claims.lookup_id_of_length : {items : List Tree} →
    items.length = Registered.fieldNames.length → (fieldNames.zip items).lookup "jti" = none
  | [_, _, _, _, _], _ => rfl

/-- A payload with an id that the readers of claims and of registered members accept is an
object. -/
theorem Claims.exists_members_of_readers {t : Tree} {c : Claims} {n : Option Nat}
    (hc : ofTree? t = some c) (hn : Registered.notBefore? t = some n) (hid : c.tokenId ≠ none) :
    ∃ ms, t = .obj ms := by
  obtain ⟨fs, hrecord, hread⟩ := ofTree?_eq_some_iff.1 hc
  cases t with
  | obj ms => exact ⟨ms, rfl⟩
  | arr items =>
    have hlength := Registered.length_of_notBefore? hn
    have hle : items.length ≤ fieldNames.length := by
      rw [hlength]
      decide
    rw [Tree.record?, if_pos hle] at hrecord
    cases hrecord
    have hlookup : Fields.optional? (fieldNames.zip items) "jti" Tree.text? = some none := by
      rw [Fields.optional?, lookup_id_of_length hlength]
    exact absurd (Option.some.inj (hread.tokenId.symm.trans hlookup)) hid
  | _ => cases hrecord

end SignedSession
