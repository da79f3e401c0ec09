import SignedSession.Json.Value

/-!
Where the faults of a tree are found. A reader that takes no interest in a value goes on behind
it, even if the value is faulty, as long as it comes to the value's end. Main statement: a tree
that has a value is read to its end.
-/
namespace SignedSession.Json

namespace Numeral

theorem ofDigitChars_dropLast_le (ds : List Char) :
    Nat.ofDigitChars 10 ds.dropLast 0 ≤ Nat.ofDigitChars 10 ds 0 := by
  rcases List.eq_nil_or_concat ds with rfl | ⟨ds, d, rfl⟩
  · exact Nat.le_refl _
  · rw [List.concat_eq_append, List.dropLast_concat, Nat.ofDigitChars_append]
    simp only [Nat.ofDigitChars_cons, Nat.ofDigitChars_nil]
    omega

/-- A numeral that has a number is not given up. -/
theorem not_isAbandoned_of_toNumber? {n : Numeral} {x : Number} (h : n.toNumber? = some x) :
    ¬ n.IsAbandoned := by
  rintro ⟨e, he, hneg, hbig, hm⟩
  have hsize : Exponent.size? e = none :=
    if_neg (Nat.not_le.2 (Nat.lt_of_lt_of_le hbig (ofDigitChars_dropLast_le _)))
  have hint : n.toInt? = none := if_neg fun hp => by simp [hp.2] at he
  have hmag : n.magnitude? = none := by
    rw [Option.mem_def] at he
    simp [magnitude?, he, hsize, hm, hneg]
  simp [toNumber?, hint, toFloat?, hmag] at h

end Numeral

namespace Literal

theorem isReadToEnd_of_text? {l : Literal} {s : String} (h : l.text? = some s) :
    l.isReadToEnd = true := by
  cases l with
  | text _ => rfl
  | faulty _ => simp [text?] at h

end Literal

namespace Tree

mutual

/-- Whether reading a value, at most `limit` containers deep, comes to its end. In a container
only what stands last may be faulty. -/
def isReadToEnd (limit : Nat) : Tree → Bool
  | null => true
  | bool _ => true
  | num n => ¬ n.IsAbandoned
  | str l => l.isReadToEnd
  | arr items => limit ≠ 0 && areItemsReadToEnd (limit - 1) items
  | obj ms => limit ≠ 0 && areMembersReadToEnd (limit - 1) ms

def areItemsReadToEnd (limit : Nat) : List Tree → Bool
  | [] => true
  | [t] => isReadToEnd limit t
  | t :: ts => (toValue? limit t).isSome && areItemsReadToEnd limit ts

/-- A name is read before a colon, so it may not be faulty. -/
def areMembersReadToEnd (limit : Nat) : List (Option String × Tree) → Bool
  | [] => true
  | [(k, t)] => k.isSome && isReadToEnd limit t
  | (k, t) :: ms => k.isSome && (toValue? limit t).isSome && areMembersReadToEnd limit ms

end

mutual

theorem isReadToEnd_of_toValue? : (t : Tree) → {limit : Nat} → {v : Value} →
    t.toValue? limit = some v → t.isReadToEnd limit = true
  | null, _, _, _ => rfl
  | bool _, _, _, _ => rfl
  | num n, limit, v, h => by
    obtain ⟨x, hx, _⟩ := Option.map_eq_some_iff.1 h
    simpa [isReadToEnd] using Numeral.not_isAbandoned_of_toNumber? hx
  | str l, limit, v, h => by
    obtain ⟨s, hs, _⟩ := Option.map_eq_some_iff.1 h
    exact Literal.isReadToEnd_of_text? hs
  | arr items, limit, v, h => by
    rw [toValue?] at h
    split at h
    · cases h
    · next hl =>
      obtain ⟨vs, hvs, _⟩ := Option.map_eq_some_iff.1 h
      simp [isReadToEnd, hl, areItemsReadToEnd_of_toItems? items hvs]
  | obj ms, limit, v, h => by
    rw [toValue?] at h
    split at h
    · cases h
    · next hl =>
      obtain ⟨vs, hvs, _⟩ := Option.map_eq_some_iff.1 h
      simp [isReadToEnd, hl, areMembersReadToEnd_of_toMembers? ms hvs]

theorem areItemsReadToEnd_of_toItems? : (ts : List Tree) → {limit : Nat} → {vs : List Value} →
    toItems? limit ts = some vs → areItemsReadToEnd limit ts = true
  | [], _, _, _ => rfl
  | [t], limit, vs, h => by
    obtain ⟨v, hv, _⟩ := Option.bind_eq_some_iff.1 h
    exact isReadToEnd_of_toValue? t hv
  | t :: u :: ts, limit, vs, h => by
    obtain ⟨v, hv, h⟩ := Option.bind_eq_some_iff.1 h
    obtain ⟨ws, hws, _⟩ := Option.map_eq_some_iff.1 h
    simp [areItemsReadToEnd, hv, areItemsReadToEnd_of_toItems? (u :: ts) hws]

theorem areMembersReadToEnd_of_toMembers? : (ms : List (Option String × Tree)) → {limit : Nat} →
    {vs : List (String × Value)} → toMembers? limit ms = some vs →
    areMembersReadToEnd limit ms = true
  | [], _, _, _ => rfl
  | [(k, t)], limit, vs, h => by
    obtain ⟨s, hk, h⟩ := Option.bind_eq_some_iff.1 h
    obtain ⟨v, hv, _⟩ := Option.bind_eq_some_iff.1 h
    simp [areMembersReadToEnd, hk, isReadToEnd_of_toValue? t hv]
  | (k, t) :: m :: ms, limit, vs, h => by
    obtain ⟨s, hk, h⟩ := Option.bind_eq_some_iff.1 h
    obtain ⟨v, hv, h⟩ := Option.bind_eq_some_iff.1 h
    obtain ⟨ws, hws, _⟩ := Option.map_eq_some_iff.1 h
    simp [areMembersReadToEnd, hk, hv, areMembersReadToEnd_of_toMembers? (m :: ms) hws]

end

end Tree

end SignedSession.Json
