import SignedSession.Proofs.Settings.ExemptMethods

/-!
Variables that say nothing. What counts as saying nothing depends on what a variable is read as: a
name, a number of seconds, a flag, a policy, a list of methods. Main statement: such variables may
as well be unset, for the settings that are loaded get the same defaults.
-/
namespace SignedSession.Settings

open Text

/-- Decimal digits after an optional sign, and the number in a signed 64-bit word that they make. -/
def WritesWord (cs : List Char) (n : Int) : Prop :=
  ∃ sign ds, cs = sign ++ ds ∧ sign ∈ [[], ['+'], ['-']] ∧ ds ≠ [] ∧ ds.all Char.isDigit = true ∧
    n = (if sign = ['-'] then -(Nat.ofDigitChars 10 ds 0 : Int) else Nat.ofDigitChars 10 ds 0) ∧
    Int64.minValue.toInt ≤ n ∧ n ≤ Int64.maxValue.toInt

theorem digits?_eq_some_iff {negative : Bool} {ds : List Char} {n : Int} :
    wordOfChars?.digits? negative ds = some n ↔ ds ≠ [] ∧ ds.all Char.isDigit = true ∧
      n = (if negative then -(Nat.ofDigitChars 10 ds 0 : Int) else Nat.ofDigitChars 10 ds 0) ∧
      Int64.minValue.toInt ≤ n ∧ n ≤ Int64.maxValue.toInt := by
  simp only [wordOfChars?.digits?, Option.ite_none_right_eq_some, Option.some.injEq]
  constructor
  · rintro ⟨⟨hne, hdigits⟩, hrange, rfl⟩
    exact ⟨hne, hdigits, rfl, hrange⟩
  · rintro ⟨hne, hdigits, rfl, hrange⟩
    exact ⟨⟨hne, hdigits⟩, hrange, rfl⟩

theorem wordOfChars?_eq_some_iff {cs : List Char} {n : Int} :
    wordOfChars? cs = some n ↔ WritesWord cs n := by
  constructor
  · intro h
    unfold wordOfChars? at h
    split at h
    · next ds => exact ⟨['-'], ds, rfl, by decide, digits?_eq_some_iff.1 h⟩
    · next ds => exact ⟨['+'], ds, rfl, by decide, digits?_eq_some_iff.1 h⟩
    · next ds _ _ => exact ⟨[], cs, rfl, by decide, digits?_eq_some_iff.1 h⟩
  · rintro ⟨sign, ds, rfl, hsign, hne, hdigits, hn, hrange⟩
    simp only [List.mem_cons, List.not_mem_nil, or_false] at hsign
    rcases hsign with rfl | rfl | rfl
    · -- what is read as a sign is no digit, so nothing is taken from `ds`
      have hfirst : ∀ x : Char, x.isDigit = false → ∀ rest, ds ≠ x :: rest := by
        rintro x hx rest rfl
        rw [List.all_cons, hx, Bool.false_and] at hdigits
        cases hdigits
      rw [List.nil_append]
      unfold wordOfChars?
      split
      · exact absurd rfl (hfirst '-' (by decide) _)
      · exact absurd rfl (hfirst '+' (by decide) _)
      · exact digits?_eq_some_iff.2 ⟨hne, hdigits, hn, hrange⟩
    · exact digits?_eq_some_iff.2 ⟨hne, hdigits, hn, hrange⟩
    · exact digits?_eq_some_iff.2 ⟨hne, hdigits, hn, hrange⟩

/-- What a variable is read as. -/
inductive Kind
  | name
  | lifetime
  | flag
  | sameSite
  | methods
  deriving DecidableEq

/-- A text that chooses nothing. -/
def Kind.SaysNothing : Kind → String → Prop
  | name, v => v = ""
  | lifetime, v => ∀ n, WritesWord (trim v).toList n → n = 0
  | flag, v => lower (trim v) ∉ ["1", "true", "yes"]
  | sameSite, v => lower (trim v) ∉ ["strict", "lax", "none"]
  | methods, v => ∀ c ∈ v.toList, c = ',' ∨ isBlank c = true

/-- All variables, and what they are read as. -/
def kinds : List (String × Kind) :=
  [("SESSION_JWT_COOKIE_NAME", .name), ("SESSION_JWT_COOKIE_DOMAIN", .name),
    ("SESSION_JWT_HEADER_KEY", .name), ("SESSION_XSRF_COOKIE_NAME", .name),
    ("SESSION_XSRF_HEADER_KEY", .name), ("SESSION_XSRF_IGNORE_METHODS", .methods),
    ("SESSION_JWT_QUERY", .name), ("SESSION_ISSUER", .name),
    ("SESSION_TOKEN_DURATION_SECS", .lifetime), ("SESSION_COOKIE_DURATION_SECS", .lifetime),
    ("SESSION_SECURE_COOKIES", .flag), ("SESSION_DISABLE_XSRF", .flag),
    ("SESSION_DISABLE_IAT", .flag), ("SESSION_SEND_JWT_HEADER", .flag),
    ("SESSION_AUD_SECRETS", .flag), ("SESSION_SAME_SITE", .sameSite)]

/-- The variables with some of them unset. -/
def Lookup.without (lookup : Lookup) (keys : List String) : Lookup :=
  fun key => if key ∈ keys then none else lookup key

/-- Where some variables are set, they choose nothing. -/
def Idle (lookup : Lookup) (keys : List String) : Prop :=
  ∀ key ∈ keys, ∀ v, lookup key = some v → ∀ kind, kinds.lookup key = some kind →
    kind.SaysNothing v

theorem secondsOf?_of_saysNothing {v : String} (h : Kind.lifetime.SaysNothing v) :
    secondsOf? v = none ∨ secondsOf? v = some 0 := by
  cases hn : secondsOf? v with
  | none => exact .inl rfl
  | some n => exact .inr (congrArg some (h n (wordOfChars?_eq_some_iff.1 hn)))

theorem isYes_of_saysNothing {v : String} (h : Kind.flag.SaysNothing v) : isYes v = false := by
  simp only [Kind.SaysNothing, List.mem_cons, List.not_mem_nil, or_false, not_or] at h
  simp [isYes, h]

theorem sameSiteOf?_of_saysNothing {v : String} (h : Kind.sameSite.SaysNothing v) :
    sameSiteOf? v = none := by
  simp only [Kind.SaysNothing, List.mem_cons, List.not_mem_nil, or_false, not_or] at h
  simp [sameSiteOf?, h]

theorem methodsOf_of_saysNothing {v : String} (h : Kind.methods.SaysNothing v) :
    methodsOf v = [] :=
  methodsOf_of_isListing (isListing_of_blank h) (List.forall_mem_nil _)

/-- Having no name is a choice where no other name is to stand for it. -/
theorem nameOr_empty (n : String) : nameOr n "" = n := by
  unfold nameOr
  split <;> simp [*]

section

variable {lookup : Lookup} {keys : List String} {key : String} {kind : Kind}

/-- A reader to which a text that chooses nothing is as good as none cannot tell whether an idle
variable is set. -/
theorem Idle.read_without {β : Type} (h : Idle lookup keys) (hkey : kinds.lookup key = some kind)
    (read : Option String → β) (hread : ∀ v, kind.SaysNothing v → read (some v) = read none) :
    read (lookup.without keys key) = read (lookup key) := by
  unfold Lookup.without
  split
  · next hmem =>
    cases hv : lookup key with
    | none => rfl
    | some v => exact (hread v (h key hmem v hv kind hkey)).symm
  · rfl

variable (h : Idle lookup keys)

include h

theorem Idle.flag_without (hkey : kinds.lookup key = some .flag) :
    flag (lookup.without keys) key = flag lookup key := by
  refine h.read_without hkey (fun v => (v.map isYes).getD false) fun v hv => ?_
  rw [Option.map_some, isYes_of_saysNothing hv]
  rfl

theorem Idle.nameOr_without (hkey : kinds.lookup key = some .name) (fallback : String) :
    nameOr (name (lookup.without keys) key fallback) fallback =
      nameOr (name lookup key fallback) fallback := by
  refine h.read_without hkey (fun v => nameOr (v.getD fallback) fallback) ?_
  rintro _ rfl
  simp [nameOr]

theorem Idle.hasLifetime_without (hkey : kinds.lookup key = some .lifetime) :
    HasLifetime (lookup.without keys) key ↔ HasLifetime lookup key := by
  refine (h.read_without hkey (fun v => ∀ n, v.bind secondsOf? = some n →
    n.natAbs ≤ Duration.maxSeconds) fun v hv => ?_).to_iff
  simp only [Option.bind_some, Option.bind_none, reduceCtorEq, false_imp_iff, implies_true,
    eq_iff_iff, iff_true]
  intro n hn
  rcases secondsOf?_of_saysNothing hv with hv | hv <;> rw [hv] at hn <;> cases hn
  exact Nat.zero_le _

theorem Idle.lifetimeOr_without (hkey : kinds.lookup key = some .lifetime) (fallback : Duration) :
    lifetimeOr (lifetimeFor (lookup.without keys) key fallback) fallback =
      lifetimeOr (lifetimeFor lookup key fallback) fallback := by
  refine h.read_without hkey (fun v => lifetimeOr
    (((v.bind secondsOf?).map Duration.ofSeconds).getD fallback) fallback) fun v hv => ?_
  have hzero : Duration.ofSeconds 0 = .zero := rfl
  rcases secondsOf?_of_saysNothing hv with hn | hn <;> simp [hn, hzero, lifetimeOr]

theorem Idle.sameSite_without (hkey : kinds.lookup key = some .sameSite) :
    (lookup.without keys key).bind sameSiteOf? = (lookup key).bind sameSiteOf? := by
  refine h.read_without hkey (·.bind sameSiteOf?) fun v hv => ?_
  rw [Option.bind_some, sameSiteOf?_of_saysNothing hv, Option.bind_none]

theorem Idle.methods_without (hkey : kinds.lookup key = some .methods) :
    ((lookup.without keys key).map methodsOf).getD [] = ((lookup key).map methodsOf).getD [] := by
  refine h.read_without hkey (fun v => (v.map methodsOf).getD []) fun v hv => ?_
  rw [Option.map_some, methodsOf_of_saysNothing hv, Option.map_none]
  rfl

theorem Idle.load_without {s : Settings} (hs : load lookup = .ok s) :
    ∃ s', load (lookup.without keys) = .ok s' ∧ s'.withDefaults = s.withDefaults := by
  obtain ⟨token, htoken, hs⟩ := bind_eq_ok.1 hs
  obtain ⟨cookie, hcookie, hs⟩ := bind_eq_ok.1 hs
  cases hs
  rw [lifetime_eq_ok_iff] at htoken hcookie
  -- whether a lifetime is too long cannot change either
  have htoken' := (h.hasLifetime_without (by decide)).2 htoken.1
  have hcookie' := (h.hasLifetime_without (by decide)).2 hcookie.1
  refine ⟨_, bind_eq_ok.2 ⟨_, lifetime_eq_ok_iff.2 ⟨htoken', rfl⟩,
    bind_eq_ok.2 ⟨_, lifetime_eq_ok_iff.2 ⟨hcookie', rfl⟩, rfl⟩⟩, ?_⟩
  have hkey : kinds.lookup "SESSION_JWT_COOKIE_DOMAIN" = some .name := by decide
  -- the defaults put no name in place of an empty domain
  have hdomain := h.nameOr_without hkey ""
  rw [nameOr_empty, nameOr_empty] at hdomain
  rw [htoken.2, hcookie.2]
  simp only [withDefaults, mk.injEq]
  exact ⟨h.flag_without (by decide), h.lifetimeOr_without (by decide) _,
    h.lifetimeOr_without (by decide) _, h.flag_without (by decide), h.flag_without (by decide),
    h.nameOr_without (by decide) _, hdomain, h.nameOr_without (by decide) _,
    h.nameOr_without (by decide) _, h.nameOr_without (by decide) _, h.methods_without (by decide),
    h.nameOr_without (by decide) _, h.nameOr_without (by decide) _, h.flag_without (by decide),
    h.flag_without (by decide), h.sameSite_without (by decide), trivial⟩

end

theorem nameOr_of_ne {n : String} (h : n ≠ "") (fallback : String) : nameOr n fallback = n :=
  if_neg h

theorem lifetimeOr_of_ne {t : Duration} (h : t ≠ .zero) (fallback : Duration) :
    lifetimeOr t fallback = t :=
  if_neg h

theorem nameOr_nameOr (n fallback : String) :
    nameOr (nameOr n fallback) fallback = nameOr n fallback := by
  by_cases h : n = "" <;> simp [nameOr, h]

theorem lifetimeOr_lifetimeOr (t fallback : Duration) :
    lifetimeOr (lifetimeOr t fallback) fallback = lifetimeOr t fallback := by
  by_cases h : t = .zero <;> simp [lifetimeOr, h]

theorem withDefaults_withDefaults (s : Settings) :
    s.withDefaults.withDefaults = s.withDefaults := by
  simp only [withDefaults, nameOr_nameOr, lifetimeOr_lifetimeOr]

/-- All names in settings. -/
def names : List (Settings → String) :=
  [tokenCookie, cookieDomain, tokenHeader, xsrfCookie, xsrfHeader, tokenQuery, issuer]

/-- All lifetimes in settings. -/
def lifetimes : List (Settings → Duration) := [tokenLifetime, cookieLifetime]

theorem name_withDefaults {s : Settings} :
    ∀ name ∈ names, name s ≠ "" → name s.withDefaults = name s := by
  simp only [names, List.forall_mem_cons, List.not_mem_nil, false_imp_iff, implies_true, and_true]
  exact ⟨(nameOr_of_ne · _), fun _ => rfl, (nameOr_of_ne · _), (nameOr_of_ne · _),
    (nameOr_of_ne · _), (nameOr_of_ne · _), (nameOr_of_ne · _)⟩

theorem lifetime_withDefaults {s : Settings} :
    ∀ lifetime ∈ lifetimes, lifetime s ≠ .zero → lifetime s.withDefaults = lifetime s := by
  simp only [lifetimes, List.forall_mem_cons, List.not_mem_nil, false_imp_iff, implies_true,
    and_true]
  exact ⟨(lifetimeOr_of_ne · _), (lifetimeOr_of_ne · _)⟩

/-- Variables that choose nothing may as well be unset: where settings can be loaded with them they
can be loaded without them, and with the defaults filled in they are the same. Defaults are filled
in once and for all, and no name and no lifetime that was chosen gives way to one. -/
theorem defaults_of_idle {lookup : Lookup} {keys : List String} (h : Idle lookup keys) :
    (∀ s, load lookup = .ok s →
      ∃ s', load (lookup.without keys) = .ok s' ∧ s'.withDefaults = s.withDefaults) ∧
    ∀ s : Settings, s.withDefaults.withDefaults = s.withDefaults ∧
      (∀ name ∈ names, name s ≠ "" → name s.withDefaults = name s) ∧
      ∀ lifetime ∈ lifetimes, lifetime s ≠ .zero → lifetime s.withDefaults = lifetime s :=
  ⟨fun _ hs => h.load_without hs,
    fun s => ⟨s.withDefaults_withDefaults, name_withDefaults, lifetime_withDefaults⟩⟩

/-- Variables of a shop that is called by its name and for the rest has its variables filled with
something. -/
def fillerVariables : Lookup := fun key =>
  [("SESSION_ISSUER", "shop"), ("SESSION_JWT_COOKIE_NAME", ""), ("SESSION_DISABLE_XSRF", "on"),
    ("SESSION_TOKEN_DURATION_SECS", " -0 "), ("SESSION_SAME_SITE", "sometimes"),
    ("SESSION_XSRF_IGNORE_METHODS", ", ")].lookup key

def fillerKeys : List String :=
  ["SESSION_JWT_COOKIE_NAME", "SESSION_DISABLE_XSRF", "SESSION_TOKEN_DURATION_SECS",
    "SESSION_SAME_SITE", "SESSION_XSRF_IGNORE_METHODS"]

/-- Only the name of the shop counts. -/
theorem defaults_of_idle_filler : ∃ s s', load fillerVariables = .ok s ∧
    load (fillerVariables.without fillerKeys) = .ok s' ∧ s'.withDefaults = s.withDefaults ∧
    s.tokenLifetime = .zero ∧ s'.tokenLifetime = .ofMinutes 15 := by
  have hidle : Idle fillerVariables fillerKeys := by
    simp only [Idle, fillerKeys, List.forall_mem_cons, List.not_mem_nil, false_imp_iff,
      implies_true, and_true]
    refine ⟨?_, ?_, ?_, ?_, ?_⟩ <;> rintro _ ⟨⟩ _ ⟨⟩
    · rfl
    · exact (by decide : lower (trim "on") ∉ ["1", "true", "yes"])
    · intro n hn
      have hzero : secondsOf? " -0 " = some 0 := rfl
      have hword := wordOfChars?_eq_some_iff.2 hn
      exact Option.some.inj (hword.symm.trans hzero)
    · exact (by decide : lower (trim "sometimes") ∉ ["strict", "lax", "none"])
    · exact List.forall_mem_cons.2 ⟨.inl rfl, List.forall_mem_singleton.2 (.inr rfl)⟩
  obtain ⟨s', hs', hsame⟩ := (defaults_of_idle hidle).1 _ rfl
  exact ⟨_, s', rfl, hs', hsame, rfl, by cases hs'; rfl⟩

end SignedSession.Settings
