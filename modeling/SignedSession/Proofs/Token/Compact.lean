import SignedSession.Token.Codec

/-!
The parts of a signed token. No part that is encoded here holds a dot, so cutting a token's text
at its last two dots gives the parts it was put together from.
-/
namespace SignedSession

namespace Base64Url

/-- A text is made of digits of the alphabet only. -/
theorem exists_digit_of_mem_encode {c : Char} : {os : List UInt8} → c ∈ encode os →
    ∃ n < 64, c = digit n
  | [], h => absurd h List.not_mem_nil
  | [a], h => by
    have ha := a.toNat_lt
    simp only [encode, List.mem_cons, List.not_mem_nil, or_false] at h
    rcases h with rfl | rfl <;> exact ⟨_, by omega, rfl⟩
  | [a, b], h => by
    have ha := a.toNat_lt
    have hb := b.toNat_lt
    simp only [encode, List.mem_cons, List.not_mem_nil, or_false] at h
    rcases h with rfl | rfl | rfl <;> exact ⟨_, by omega, rfl⟩
  | a :: b :: c :: rest, h => by
    have ha := a.toNat_lt
    have hb := b.toNat_lt
    have hc := c.toNat_lt
    simp only [encode, List.mem_cons] at h
    rcases h with rfl | rfl | rfl | rfl | h
    · exact ⟨_, by omega, rfl⟩
    · exact ⟨_, by omega, rfl⟩
    · exact ⟨_, by omega, rfl⟩
    · exact ⟨_, by omega, rfl⟩
    · exact exists_digit_of_mem_encode h

theorem digit_ne_dot : ∀ n < 64, digit n ≠ '.' := by decide

theorem dot_not_mem_encode (os : List UInt8) : '.' ∉ encode os := by
  intro h
  obtain ⟨n, hn, he⟩ := exists_digit_of_mem_encode h
  exact digit_ne_dot n hn he.symm

/-- What can be decoded has no dot either. -/
theorem dot_not_mem_of_decode? {cs : List Char} {os : List UInt8} (h : decode? cs = some os) :
    '.' ∉ cs := by
  obtain ⟨vs, hvs, -⟩ := Option.bind_eq_some_iff.1 h
  clear h
  induction cs generalizing vs with
  | nil => exact List.not_mem_nil
  | cons c cs ih =>
    rw [List.mapM_cons] at hvs
    obtain ⟨v, hv, hvs⟩ := Option.bind_eq_some_iff.1 hvs
    obtain ⟨vs', hvs', -⟩ := Option.bind_eq_some_iff.1 hvs
    intro hmem
    rcases List.mem_cons.1 hmem with rfl | hmem
    · cases hv
    · exact ih vs' hvs' hmem

end Base64Url

namespace CompactToken

theorem takeWhile_ne_append {cs rest : List Char} (h : '.' ∉ cs) :
    (cs ++ '.' :: rest).takeWhile (· ≠ '.') = cs := by
  induction cs with
  | nil => rfl
  | cons c cs ih =>
    obtain ⟨hc, hcs⟩ := not_or.1 (mt List.mem_cons.2 h)
    have hne : c ≠ '.' := fun he => hc he.symm
    simpa [hne] using ih hcs

theorem splitLast?_append {cs tail : List Char} (h : '.' ∉ tail) :
    splitLast? (cs ++ '.' :: tail) = some (cs, tail) := by
  have hrev : (cs ++ '.' :: tail).reverse = tail.reverse ++ '.' :: cs.reverse := by simp
  have htail : ((cs ++ '.' :: tail).reverse.takeWhile (· ≠ '.')).reverse = tail := by
    rw [hrev, takeWhile_ne_append (by simpa using h), List.reverse_reverse]
  have hlength : (cs ++ '.' :: tail).length - tail.length - 1 = cs.length := by
    simp only [List.length_append, List.length_cons]
    omega
  unfold splitLast?
  rw [if_pos (by simp)]
  simp only [htail, hlength, List.take_left]

theorem splitLast?_eq_some_iff {cs message tail : List Char} :
    splitLast? cs = some (message, tail) ↔ cs = message ++ '.' :: tail ∧ '.' ∉ tail := by
  constructor
  · intro h
    have hmem : '.' ∈ cs := by
      unfold splitLast? at h
      split at h
      · assumption
      · cases h
    obtain ⟨before, after, hcs, hbefore⟩ :=
      List.eq_append_cons_of_mem (List.mem_reverse.2 hmem)
    have hsplit : cs = after.reverse ++ '.' :: before.reverse := by
      rw [← cs.reverse_reverse, hcs]
      simp
    have hdotless : '.' ∉ before.reverse := by rwa [List.mem_reverse]
    rw [hsplit, splitLast?_append hdotless] at h
    cases h
    exact ⟨hsplit, hdotless⟩
  · rintro ⟨rfl, htail⟩
    exact splitLast?_append htail

/-- A token whose last two parts have no dot is read as it was put together. -/
theorem ofString?_toString {t : CompactToken} (hp : '.' ∉ t.payload) (hs : '.' ∉ t.signature) :
    ofString? t.toString = some t := by
  have hmessage : splitLast? (t.message ++ '.' :: t.signature) = some (t.message, t.signature) :=
    splitLast?_append hs
  have hheader : splitLast? t.message = some (t.header, t.payload) := splitLast?_append hp
  simp only [ofString?, toString, String.toList_ofList, hmessage, hheader, Option.bind_eq_bind,
    Option.bind_some]

/-- A token is read as the parts that its last two dots leave. -/
theorem ofString?_eq_some_iff {s : String} {t : CompactToken} :
    ofString? s = some t ↔ s = t.toString ∧ '.' ∉ t.payload ∧ '.' ∉ t.signature := by
  constructor
  · intro h
    obtain ⟨⟨signed, signature⟩, hsigned, h⟩ := Option.bind_eq_some_iff.1 h
    obtain ⟨⟨header, payload⟩, hheader, h⟩ := Option.bind_eq_some_iff.1 h
    cases h
    obtain ⟨hs, hsignature⟩ := splitLast?_eq_some_iff.1 hsigned
    obtain ⟨hm, hpayload⟩ := splitLast?_eq_some_iff.1 hheader
    refine ⟨?_, hpayload, hsignature⟩
    rw [toString, message, ← hm, ← hs, String.ofList_toList]
  · rintro ⟨rfl, hpayload, hsignature⟩
    exact ofString?_toString hpayload hsignature

/-- The text of a token holds two dots at least. -/
theorem toString_ne_empty (t : CompactToken) : t.toString ≠ "" := by
  intro h
  have hlist := congrArg String.toList h
  rw [toString, String.toList_ofList] at hlist
  simp at hlist

theorem dot_not_mem_partOf (text : List Char) : '.' ∉ partOf text :=
  Base64Url.dot_not_mem_encode _

theorem dot_not_mem_signatureOf (h : Digest.Hash) (key : String) (message : List Char) :
    '.' ∉ signatureOf h key message := Base64Url.dot_not_mem_encode _

end CompactToken

namespace Codec

open Json

section

variable (format : AudienceFormat) (secret : String) (c : Claims)

theorem header_encode : (encode format secret c).header = CompactToken.partOf header.toList := by
  simp only [encode]

theorem payload_encode :
    (encode format secret c).payload = CompactToken.partOf (c.canonical format).toList := by
  simp only [encode]

theorem signature_encode : (encode format secret c).signature =
    CompactToken.signatureOf .sha256 secret (encode format secret c).message := by
  simp only [encode, CompactToken.message]

theorem ofString?_encode :
    CompactToken.ofString? (encode format secret c).toString = some (encode format secret c) := by
  apply CompactToken.ofString?_toString
  · rw [payload_encode]
    exact CompactToken.dot_not_mem_partOf _
  · rw [signature_encode]
    exact CompactToken.dot_not_mem_signatureOf _ _ _

theorem ofChars?_header : Tree.ofChars? header.toList =
    some (.obj [(some "typ", .str (.text "JWT")), (some "alg", .str (.text "HS256"))]) := rfl

/-- The header of signed tokens names the first keyed hash. -/
theorem algorithm_encode : (encode format secret c).algorithm = .ok .hs256 := by
  have hnamed : TokenHeader.algorithm? (.obj [(some "typ", .str (.text "JWT")),
      (some "alg", .str (.text "HS256"))]) = some .hs256 := rfl
  simp only [CompactToken.algorithm, header_encode, CompactToken.treeOf_partOf, ofChars?_header,
    hnamed]

/-- A signed token is made of digits of the alphabet and dots. -/
theorem forall_mem_encode {p : Char → Prop} (hdigit : ∀ n < 64, p (Base64Url.digit n))
    (hdot : p '.') : ∀ x ∈ (encode format secret c).toString.toList, p x := by
  have hpart : ∀ os, ∀ x ∈ Base64Url.encode os, p x := by
    intro os x hx
    obtain ⟨n, hn, rfl⟩ := Base64Url.exists_digit_of_mem_encode hx
    exact hdigit n hn
  intro x hx
  rw [CompactToken.toString, String.toList_ofList, CompactToken.message, header_encode,
    payload_encode, signature_encode] at hx
  simp only [List.mem_append, List.mem_cons] at hx
  rcases hx with (hx | rfl | hx) | rfl | hx
  · exact hpart _ x hx
  · exact hdot
  · exact hpart _ x hx
  · exact hdot
  · exact hpart _ x hx

end

end Codec

end SignedSession
