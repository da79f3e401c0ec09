import SignedSession.Proofs.Steps
import SignedSession.Proofs.Token.Payload
import SignedSession.Token.Codec

/-!
When verification succeeds. Each of its steps has an exact condition of success, and a token is
verified exactly when it meets them all.
-/
namespace SignedSession

open Json

theorem Claims.namedAudience?_eq_some_iff {c : Claims} {a : String} :
    c.namedAudience? = some a ↔ c.audience = some a ∧ Text.allBlank a = false := by
  simp [namedAudience?, Option.filter_eq_some_iff]

/-- An allow-list that is known and admits the audience, or no allow-list. -/
def Allowed (allow : Option AllowList) (audience : String) : Prop :=
  ∀ list, allow = some list → ∃ as, list = .ok as ∧ Admits as audience

theorem checkAudience_eq_ok_iff {allow : Option AllowList} {c : Claims} :
    checkAudience allow c = .ok () ↔ ∃ a, c.namedAudience? = some a ∧ Allowed allow a := by
  unfold checkAudience
  cases c.namedAudience? with
  | none => simp
  | some a =>
    cases allow with
    | none => simp [Allowed]
    | some list =>
      cases list with
      | error reason => simp [Allowed]
      | ok as => simp [Allowed]

namespace Keyring

theorem secretFor_eq_ok_iff {k : Keyring} {audience secret : String} :
    k.secretFor audience = .ok secret ↔
      ∃ reader, k.reader = some reader ∧ reader audience = .ok secret ∧ secret ≠ "" := by
  unfold secretFor require
  cases hk : k.reader with
  | none => simp [bind_eq_ok]
  | some reader =>
    cases hr : reader audience with
    | error reason => simp [bind_eq_ok, hr]
    | ok s =>
      by_cases hs : s = ""
      · simp only [bind_eq_ok, Except.ok.injEq, exists_eq_left', Option.some.injEq, hr, hs, if_true]
        constructor
        · intro h
          cases h
        · rintro ⟨rfl, hne⟩
          exact absurd rfl hne
      · simp only [bind_eq_ok, Except.ok.injEq, exists_eq_left', Option.some.injEq, hr, if_neg hs]
        constructor
        · rintro rfl
          exact ⟨rfl, hs⟩
        · exact And.left

theorem secretFor_of_reader {k : Keyring} {reader : SecretReader} (h : k.reader = some reader)
    (audience : String) : k.secretFor audience = match reader audience with
      | .error reason => .error (.secretResolution reason)
      | .ok secret => if secret = "" then .error (.emptySecret audience) else .ok secret := by
  rw [secretFor, require, h]
  rfl

/-- The audience by which the secret for verifying claims is asked for. -/
def askedFor (k : Keyring) (c : Claims) : String :=
  match k.mode with
  | .shared => placeholder
  | .perAudience => c.audience.getD ""

end Keyring

/-- The signature is the keyed hash that the header names, under this secret. -/
def CompactToken.IsSignedWith (t : CompactToken) (secret : String) : Prop :=
  ∃ a h, t.algorithm = .ok a ∧ a.hash? = some h ∧ t.signature = signatureOf h secret t.message

/-- Neither the time of validity nor the time of issue lies ahead. A time of validity below zero
says nothing. -/
structure Claims.HaveBegun (c : Claims) (now : Instant) : Prop where
  notBefore : ∀ n, c.notBefore = some n → n.toInt < 0 ∨ n.toInt ≤ now.seconds
  issuedAt : ∀ n, c.issuedAt = some n → n.toInt ≤ now.seconds

namespace Codec

theorem authenticate_eq_ok_iff {secret : String} {t : CompactToken} :
    authenticate secret t = .ok () ↔ t.IsSignedWith secret := by
  unfold authenticate CompactToken.IsSignedWith
  constructor
  · intro h
    obtain ⟨a, ha, h⟩ := bind_eq_ok.1 h
    cases hh : a.hash? with
    | none => simp [hh] at h
    | some hash =>
      rw [hh] at h
      simp only at h
      split at h
      · next hs => exact ⟨a, hash, mapError_eq_ok.1 ha, hh, hs⟩
      · cases h
  · rintro ⟨a, hash, ha, hh, hs⟩
    refine bind_eq_ok.2 ⟨a, mapError_eq_ok.2 ha, ?_⟩
    simp only [hh, if_pos hs]

theorem readPayload_eq_ok_iff {t : CompactToken} {c : Claims} {notBefore : Option Nat} :
    readPayload t = .ok (c, notBefore) ↔ ∃ tree, t.payloadTree = .ok tree ∧
      Claims.ofTree? tree = some c ∧ Registered.notBefore? tree = some notBefore := by
  unfold readPayload
  rw [bind_eq_ok]
  apply exists_congr
  intro tree
  rw [mapError_eq_ok]
  apply and_congr_right
  intro _
  cases Claims.ofTree? tree with
  | none => simp
  | some c' => cases Registered.notBefore? tree <;> simp

/-- The times are those of the claims if the payload is an object. -/
theorem checkTimes_eq_ok_iff {now : Instant} {c : Claims} :
    checkTimes now c.notBeforeSeconds c = .ok () ↔ c.HaveBegun now := by
  have hnotBefore : (c.notBeforeSeconds.any fun n => now.seconds < n) = false ↔
      ∀ n, c.notBefore = some n → n.toInt < 0 ∨ n.toInt ≤ now.seconds := by
    unfold Claims.notBeforeSeconds
    cases c.notBefore with
    | none => simp
    | some n =>
      by_cases hn : n.toInt < 0
      · simp [hn]
      · have hnat : (n.toInt.toNat : Int) = n.toInt := Int.toNat_of_nonneg (by omega)
        rw [Option.bind_some, if_neg hn]
        change decide (now.seconds < (n.toInt.toNat : Int)) = false ↔ _
        rw [hnat]
        simp [hn]
  have hissuedAt : (c.issuedAt.any fun n => now.seconds < n.toInt) = false ↔
      ∀ n, c.issuedAt = some n → n.toInt ≤ now.seconds := by
    cases c.issuedAt <;> simp
  unfold checkTimes
  rw [guard_eq_ok, guard_eq_ok, Bool.not_eq_true, Bool.not_eq_true, hnotBefore, hissuedAt]
  exact ⟨fun h => ⟨h.1, h.2.1⟩, fun h => ⟨h.1, h.2, rfl⟩⟩

/-- A token is verified under a secret when it is signed with it, its payload says the claims, and
these are due and for an allowed audience. -/
theorem verifyWith_eq_ok_iff {codec : Codec} {now : Instant} {secret token : String} {c : Claims} :
    codec.verifyWith now secret token = .ok c ↔
      ∃ t notBefore, CompactToken.ofString? token = some t ∧ t.IsSignedWith secret ∧
        readPayload t = .ok (c, notBefore) ∧ checkTimes now notBefore c = .ok () ∧
        checkAudience codec.allow c = .ok () := by
  unfold verifyWith
  cases CompactToken.ofString? token with
  | none => simp
  | some t =>
    simp only [bind_eq_ok, Except.ok.injEq, Option.some.injEq]
    constructor
    · rintro ⟨_, hs, ⟨c', notBefore⟩, hr, _, ht, _, ha, rfl⟩
      exact ⟨t, notBefore, rfl, authenticate_eq_ok_iff.1 hs, hr, ht, ha⟩
    · rintro ⟨_, notBefore, rfl, hs, hr, ht, ha⟩
      exact ⟨(), authenticate_eq_ok_iff.2 hs, (c, notBefore), hr, (), ht, (), ha, rfl⟩

end Codec

namespace ClaimedAudience

theorem read_eq_ok_iff {token : String} {as : List String} :
    read token = .ok as ↔ ∃ t a tree notBefore, CompactToken.ofString? token = some t ∧
      t.algorithm = .ok a ∧ t.payloadTree = .ok tree ∧ audiences? tree = some as ∧
      Registered.notBefore? tree = some notBefore := by
  unfold read
  cases CompactToken.ofString? token with
  | none => simp
  | some t =>
    simp only [bind_eq_ok, Option.some.injEq, exists_and_left, exists_eq_left']
    constructor
    · rintro ⟨a, ha, tree, htree, h⟩
      cases has : audiences? tree with
      | none => simp [has] at h
      | some as' =>
        cases hn : Registered.notBefore? tree with
        | none => simp [has, hn] at h
        | some notBefore =>
          simp only [has, hn, Except.ok.injEq] at h
          subst h
          exact ⟨a, ha, tree, htree, has, notBefore, hn⟩
    · rintro ⟨a, ha, tree, htree, has, notBefore, hn⟩
      refine ⟨a, ha, tree, htree, ?_⟩
      simp only [has, hn]

theorem peek_eq_ok_iff {token : String} {a : ClaimedAudience} :
    peek token = .ok a ↔
      ∃ as, read token = .ok as ∧ as.head? = some a.name ∧ Text.allBlank a.name = false := by
  unfold peek
  cases read token with
  | error e => simp
  | ok as =>
    simp only [Except.ok.injEq, exists_eq_left']
    cases as.head? with
    | none => simp
    | some b =>
      simp only [guard_eq_ok, Bool.not_eq_true, Except.ok.injEq, Option.some.injEq]
      constructor
      · rintro ⟨hb, rfl⟩
        exact ⟨rfl, hb⟩
      · rintro ⟨rfl, hb⟩
        exact ⟨hb, rfl⟩

/-- An object that says claims claims their audience. -/
theorem peek_of_claims {token : String} {t : CompactToken} {alg : Algorithm} {ms : List Member}
    {c : Claims} {a : String} (ht : CompactToken.ofString? token = some t)
    (halg : t.algorithm = .ok alg) (htree : t.payloadTree = .ok (.obj ms))
    (hclaims : Claims.ofTree? (.obj ms) = some c) (ha : c.namedAudience? = some a) :
    peek token = .ok ⟨a⟩ := by
  obtain ⟨hfirst, hblank⟩ := Claims.namedAudience?_eq_some_iff.1 ha
  have hread : read token = .ok c.audiences := read_eq_ok_iff.2 ⟨t, alg, .obj ms, _, ht, halg,
    htree, audiences?_of_claims hclaims, Registered.notBefore?_of_claims hclaims⟩
  exact peek_eq_ok_iff.2 ⟨c.audiences, hread, hfirst, hblank⟩

end ClaimedAudience

end SignedSession
