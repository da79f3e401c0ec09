import SignedSession.Proofs.Response
import SignedSession.Proofs.Service.Construction
import SignedSession.Proofs.Token.Refusal
import SignedSession.Settings.Environment

/-!
Settings from named variables, and the services that are made of them. Only a lifetime can keep
settings from being loaded, and only one that no duration has; what a lifetime does to the calendar
shows when a session is issued. Main statement: exactly such lifetimes are not loaded, and those
that are loaded give a service whose failures to issue change nothing.
-/
namespace SignedSession

namespace Instant

/-- The exact sum of an instant and a duration lies outside the calendar. -/
def Leaves (t : Instant) (d : Duration) : Prop :=
  t.totalNanos + d.nanos < firstSecond * nanosPerSecond ∨
    (lastSecond + 1) * nanosPerSecond ≤ t.totalNanos + d.nanos

instance (t : Instant) (d : Duration) : Decidable (t.Leaves d) :=
  inferInstanceAs (Decidable (_ ∨ _))

theorem add?_eq_none_iff {t : Instant} {d : Duration} : t.add? d = none ↔ t.Leaves d := by
  have hpos : (0 : Int) ≤ nanosPerSecond := by decide
  unfold add? ofSeconds? Leaves
  simp only [dite_eq_right_iff, reduceCtorEq, imp_false]
  rw [Int.fdiv_eq_ediv_of_nonneg _ hpos, Int.fmod_eq_emod_of_nonneg _ hpos]
  simp only [nanosPerSecond, firstSecond, lastSecond]
  omega

end Instant

namespace Settings

variable {lookup : Lookup} {key : String} {fallback : Duration}

/-- The number that a variable says, if it says one, can be the seconds of a duration. -/
def HasLifetime (lookup : Lookup) (key : String) : Prop :=
  ∀ n, (lookup key).bind secondsOf? = some n → n.natAbs ≤ Duration.maxSeconds

/-- The number that a variable says, in seconds; without one the fallback. -/
def lifetimeFor (lookup : Lookup) (key : String) (fallback : Duration) : Duration :=
  (((lookup key).bind secondsOf?).map Duration.ofSeconds).getD fallback

theorem lifetime_eq_ok_iff {d : Duration} : lifetime lookup key fallback = .ok d ↔
    HasLifetime lookup key ∧ d = lifetimeFor lookup key fallback := by
  unfold lifetime HasLifetime lifetimeFor
  cases (lookup key).bind secondsOf? with
  | none => simp [eq_comm]
  | some n =>
    by_cases hn : n.natAbs ≤ Duration.maxSeconds <;> simp [hn, eq_comm]

def tokenKey : String := "SESSION_TOKEN_DURATION_SECS"

def cookieKey : String := "SESSION_COOKIE_DURATION_SECS"

/-- Nothing but the lifetimes decides whether settings can be loaded. -/
theorem exists_load_iff :
    (∃ s, load lookup = .ok s) ↔ HasLifetime lookup tokenKey ∧ HasLifetime lookup cookieKey := by
  unfold load
  simp only [bind_eq_ok, lifetime_eq_ok_iff]
  constructor
  · rintro ⟨_, _, ⟨htoken, -⟩, _, ⟨hcookie, -⟩, -⟩
    exact ⟨htoken, hcookie⟩
  · rintro ⟨htoken, hcookie⟩
    exact ⟨_, _, ⟨htoken, rfl⟩, _, ⟨hcookie, rfl⟩, rfl⟩

theorem lifetimes_of_load {s : Settings} (h : load lookup = .ok s) :
    s.tokenLifetime = lifetimeFor lookup tokenKey default.tokenLifetime ∧
      s.cookieLifetime = lifetimeFor lookup cookieKey default.cookieLifetime := by
  unfold load at h
  simp only [bind_eq_ok, lifetime_eq_ok_iff] at h
  obtain ⟨_, ⟨-, rfl⟩, _, ⟨-, rfl⟩, h⟩ := h
  cases h
  exact ⟨rfl, rfl⟩

end Settings

/-- Signing has other reasons to fail, and so has writing. -/
theorem Codec.sign_failsOnly (codec : Codec) (c : Claims) :
    FailsOnly (· ≠ .durationOutOfRange) (codec.sign c) := by
  have haudience : ∀ c, FailsOnly (· ≠ .durationOutOfRange) (checkAudience codec.allow c) := by
    intro c
    refine (checkAudience_failsOnly codec.allow c).mono fun e he => ?_
    rintro rfl
    exact he
  have hsecret : ∀ audience,
      FailsOnly (· ≠ .durationOutOfRange) (codec.keyring.secretFor audience) := by
    intro audience
    refine (codec.keyring.secretFor_failsOnly audience).mono fun e he => ?_
    cases he with
    | noReader => decide
    | unknown => nofun
    | empty => nofun
  have hreader : FailsOnly (· ≠ .durationOutOfRange) codec.keyring.require := by
    unfold Keyring.require
    cases codec.keyring.reader with
    | none => exact .error (by decide)
    | some reader => exact .ok _ reader
  unfold sign
  refine .bind hreader fun _ _ => .ite (.error nofun) ?_
  exact .bind (haudience _) fun _ _ => .bind (hsecret _) fun _ _ => .ok _ _

theorem Delivery.write_failsOnly (d : Delivery) (h : HeaderMap) (token : String) (c : Claims) :
    FailsOnly (· ≠ .durationOutOfRange) (d.write h token c) := by
  have hcookie : ∀ name value httpOnly maxAge,
      FailsOnly (· ≠ .durationOutOfRange) (d.setCookie name value httpOnly maxAge) :=
    fun _ _ _ _ => .ite (.error nofun) (.ite (.error nofun) (.ok _ _))
  unfold write
  refine .ite (.ite (.ok _ _) (.error nofun)) ?_
  exact .bind (hcookie _ _ _ _) fun _ _ => .bind (hcookie _ _ _ _) fun _ _ => .ok _ _

namespace Service

variable {svc : Service} {now : Instant} {c : Claims}

/-- Claims without an expiry of their own, where the lifetime ends outside the calendar. -/
def LacksExpiry (svc : Service) (now : Instant) (c : Claims) : Prop :=
  c.expiry.filter (· ≠ 0) = none ∧ now.Leaves svc.settings.tokenLifetime

theorem expiryFor_eq_error_iff {e : TokenError} :
    svc.expiryFor now c = .error e ↔ e = .durationOutOfRange ∧ svc.LacksExpiry now c := by
  unfold expiryFor LacksExpiry
  rw [← Instant.add?_eq_none_iff]
  cases c.expiry.filter (· ≠ 0) with
  | some own => simp
  | none => cases now.add? svc.settings.tokenLifetime <;> simp [eq_comm]

theorem fill_eq_error_iff {freshId : String} {e : TokenError} :
    svc.fill now freshId c = .error e ↔ e = .durationOutOfRange ∧ svc.LacksExpiry now c := by
  rw [fill, bind_eq_error, expiryFor_eq_error_iff]
  constructor
  · rintro (h | ⟨_, -, h⟩)
    · exact h
    · cases h
  · exact .inl

theorem issue_eq_durationOutOfRange_iff {freshId : String} {response : HeaderMap} :
    svc.issue now freshId response c = .error .durationOutOfRange ↔ svc.LacksExpiry now c := by
  constructor
  · intro h
    rcases bind_eq_error.1 h with hfill | ⟨filled, -, h⟩
    · exact (fill_eq_error_iff.1 hfill).2
    rcases bind_eq_error.1 h with hsign | ⟨⟨token, signed⟩, -, h⟩
    · exact absurd rfl (svc.codec.sign_failsOnly filled _ hsign)
    rcases bind_eq_error.1 h with hwrite | ⟨_, -, h⟩
    · exact absurd rfl (svc.delivery.write_failsOnly response token signed _ hwrite)
    · cases h
  · intro h
    exact bind_eq_error.2 (.inl (fill_eq_error_iff.2 ⟨rfl, h⟩))

theorem respond_eq_error_iff {freshId : String} {response response' : HeaderMap} {e : TokenError} :
    svc.respond now freshId c response = .error e response' ↔
      svc.issue now freshId response c = .error e ∧ response' = response := by
  rw [respond_eq_atomically, Responding.atomically]
  cases svc.issue now freshId response c <;> simp [eq_comm]

end Service

namespace Settings

/-- Services from named variables. Settings are loaded exactly if no lifetime is a number of seconds
too large for a duration; a lifetime that is no number is the default one. A service is then made of
them, or they are reported as unusable. Where it fails to issue a session the response stays as it
is, and where the lifetime leads out of the calendar, that is what is reported. -/
theorem service_of_load (lookup : Lookup) :
    ((∃ s, load lookup = .ok s) ↔ ∀ key ∈ [tokenKey, cookieKey], ∀ n,
      (lookup key).bind secondsOf? = some n → n.natAbs ≤ Duration.maxSeconds) ∧
    ∀ s, load lookup = .ok s →
      s.tokenLifetime = lifetimeFor lookup tokenKey default.tokenLifetime ∧
      s.cookieLifetime = lifetimeFor lookup cookieKey default.cookieLifetime ∧
      ∀ hooks, (∀ e, Service.new s hooks = .error e → ∃ detail, e = .config detail) ∧
        ∀ svc, Service.new s hooks = .ok svc → ∀ now freshId c response,
          (∀ e response', svc.respond now freshId c response = .error e response' →
            response' = response) ∧
          (svc.respond now freshId c response = .error .durationOutOfRange response ↔
            svc.LacksExpiry now c) := by
  constructor
  · rw [exists_load_iff]
    simp [HasLifetime]
  · intro s h
    obtain ⟨htoken, hcookie⟩ := lifetimes_of_load h
    refine ⟨htoken, hcookie, fun hooks => ⟨?_, ?_⟩⟩
    · exact Service.new_failsOnly s hooks
    · intro svc _ now freshId c response
      refine ⟨fun e response' hfails => (Service.respond_eq_error_iff.1 hfails).2, ?_⟩
      rw [Service.respond_eq_error_iff, Service.issue_eq_durationOutOfRange_iff]
      exact and_iff_left rfl

/-- Variables of a shop whose sessions are to last longer than the calendar, and whose cookies are
to last for a while. -/
def shopVariables : Lookup := fun key =>
  if key = tokenKey then some " +9000000000000000 "
  else if key = cookieKey then some "a while"
  else none

def shopSettings : Settings := { default with tokenLifetime := .ofSeconds 9000000000000000 }

/-- They are loaded, and no session can be issued that does not say itself when it ends. -/
theorem service_of_load_shop : (∃ s, load shopVariables = .ok s) ∧
    shopSettings.cookieLifetime = .ofDays 31 ∧
    ∃ svc, Service.new shopSettings Service.shop.hooks = .ok svc ∧
      svc.respond .shopOpens "id-2" (.new "id-1") .empty = .error .durationOutOfRange .empty := by
  have hload : load shopVariables = .ok shopSettings := rfl
  obtain ⟨-, hloaded⟩ := service_of_load shopVariables
  obtain ⟨-, hcookie, hservice⟩ := hloaded _ hload
  have hfallback : lifetimeFor shopVariables cookieKey default.cookieLifetime = .ofDays 31 := rfl
  refine ⟨⟨_, hload⟩, hcookie.trans hfallback, _, rfl, ?_⟩
  exact ((hservice Service.shop.hooks).2 _ rfl _ _ _ _).2.2 ⟨rfl, by decide⟩

/-- Variables of a shop whose sessions are to last for ever. -/
def endlessVariables : Lookup := fun key =>
  if key = tokenKey then some "9223372036854775807" else none

/-- They are not loaded, although a lifetime that is no number would have been the default one. -/
theorem load_endlessVariables : load endlessVariables = .error (.durationTooLong tokenKey) := rfl

end Settings

end SignedSession
