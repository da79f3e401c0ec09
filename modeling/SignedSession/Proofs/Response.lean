import SignedSession.Proofs.Service.Acceptance
import SignedSession.Response

/-!
Responses as a whole. A step takes effect in full or changes nothing, and so the headers in the end
are told by the steps that succeeded. Main statement: cookies are added in the order of the steps,
the token header holds the last token written, and everything else is left alone.
-/
namespace SignedSession

namespace Responding

variable {α β : Type} {f : HeaderMap → Except TokenError (α × HeaderMap)} {h h' : HeaderMap}

/-- A step that takes effect in full or changes nothing. -/
def atomically (f : HeaderMap → Except TokenError (α × HeaderMap)) : Responding α := fun h =>
  match f h with
  | .ok (a, h') => .ok a h'
  | .error e => .error e h

theorem atomically_eq_ok {a : α} (hf : f h = .ok (a, h')) : atomically f h = .ok a h' := by
  rw [atomically, hf]

theorem atomically_eq_error {e : TokenError} (hf : f h = .error e) :
    atomically f h = .error e h := by
  rw [atomically, hf]

theorem unchanged_of_atomically {e : TokenError} (hfails : atomically f h = .error e h') :
    h' = h := by
  cases hf : f h with
  | error e' =>
    rw [atomically_eq_error hf] at hfails
    cases hfails
    rfl
  | ok p =>
    rw [atomically_eq_ok hf] at hfails
    cases hfails

/-- What only looks may come first. -/
theorem ofExcept_bind_atomically (x : Except TokenError β)
    (f : β → HeaderMap → Except TokenError (α × HeaderMap)) :
    (ofExcept x >>= fun b => atomically (f b)) = atomically fun h => x >>= fun b => f b h := by
  cases x <;> rfl

/-- What only gives a value may come last. -/
theorem atomically_bind_pure (f : HeaderMap → Except TokenError (β × HeaderMap)) (a : α) :
    (atomically f >>= fun _ => pure a) = atomically fun h => f h >>= fun p => .ok (a, p.2) := by
  funext h
  change EStateM.bind (atomically f) (fun _ => pure a) h = _
  rw [EStateM.bind, atomically, atomically]
  cases f h <;> rfl

end Responding

open Responding

namespace Delivery

variable {d : Delivery}

/-- Both cookies are made before the first is added. -/
theorem send_eq_atomically (d : Delivery) (token : String) (c : Claims) :
    d.send token c = atomically fun h => d.write h token c >>= fun h' => .ok ((), h') := by
  funext h
  unfold send write atomically
  cases d.sendsHeader with
  | true =>
    by_cases hvalid : HeaderValue.IsValid token
    · simp only [hvalid]
      rfl
    · simp only [hvalid]
      rfl
  | false =>
    cases d.setCookie d.tokenCookie token true (d.maxAgeFor c) with
    | error e => rfl
    | ok session =>
      cases d.setCookie d.xsrfCookie c.id false (d.maxAgeFor c) with
      | error e => rfl
      | ok xsrf => rfl

end Delivery

/-- A session is signed and its token checked before anything is added. -/
theorem Service.respond_eq_atomically (svc : Service) (now : Instant) (freshId : String)
    (c : Claims) :
    svc.respond now freshId c = atomically fun h => svc.issue now freshId h c := by
  unfold respond
  simp only [Delivery.send_eq_atomically, atomically_bind_pure, ofExcept_bind_atomically,
    bind_assoc, ok_bind]
  rfl

/-- The last of the values that a list gives is what is left if each takes the place of the one
before. -/
theorem foldl_elim_eq {α β γ : Type} (f : α → Option β) (g : β → γ) (l : List α) (c : γ) :
    l.foldl (fun c a => (f a).elim c g) c = (l.filterMap f).getLast?.elim c g := by
  induction l generalizing c with
  | nil => rfl
  | cons a l ih =>
    rw [List.foldl_cons, ih]
    cases ha : f a with
    | none => rw [List.filterMap_cons_none ha, Option.elim_none]
    | some b =>
      rw [List.filterMap_cons_some ha, List.getLast?_cons, Option.elim_some, Option.elim_some]
      cases (l.filterMap f).getLast? <;> rfl

theorem HeaderMap.values_append_pair (h : HeaderMap) (n : HeaderName) (v w : String)
    (name : HeaderName) : ((h.append n v).append n w).values name =
      h.values name ++ if n = name then [v, w] else [] := by
  rw [values_append, values_append, List.append_assoc]
  by_cases hn : n = name
  · simp only [if_pos hn, List.singleton_append]
  · simp only [if_neg hn, List.append_nil]

namespace Delivery

variable {d : Delivery} {h h' : HeaderMap} {token : String} {c : Claims}

theorem attempt_write_of_ok (hw : d.write h token c = .ok h') :
    d.attempt (.write token c) h = (.ok (), h') := by
  have hsend : d.send token c h = .ok () h' := by
    rw [send_eq_atomically]
    exact atomically_eq_ok (bind_eq_ok.2 ⟨h', hw, rfl⟩)
  rw [attempt, perform, hsend]

theorem attempt_write_of_error {e : TokenError} (hw : d.write h token c = .error e) :
    d.attempt (.write token c) h = (.error e, h) := by
  have hsend : d.send token c h = .error e h := by
    rw [send_eq_atomically]
    exact atomically_eq_error (bind_eq_error.2 (.inl hw))
  rw [attempt, perform, hsend]

theorem attempt_clear (d : Delivery) (h : HeaderMap) : d.attempt .clear h = (.ok (), d.clear h) :=
  rfl

theorem unchanged_of_perform {step : Step} {e : TokenError}
    (hfails : d.perform step h = .error e h') : h' = h := by
  cases step with
  | write token c =>
    rw [perform, send_eq_atomically] at hfails
    exact unchanged_of_atomically hfails
  | clear => cases hfails

/-- The lines that set the session cookie and the one with the id. -/
def writtenLines (d : Delivery) (token : String) (c : Claims) : List String :=
  [(d.cookie d.tokenCookie token true (d.maxAgeFor c)).render,
    (d.cookie d.xsrfCookie c.id false (d.maxAgeFor c)).render]

/-- The lines that take both cookies back. -/
def resetLines (d : Delivery) : List String :=
  [(d.resetCookie d.tokenCookie).render, (d.resetCookie d.xsrfCookie).render]

theorem values_clear (d : Delivery) (h : HeaderMap) (name : HeaderName) :
    (d.clear h).values name = h.values name ++ if .setCookie = name then d.resetLines else [] :=
  HeaderMap.values_append_pair h .setCookie _ _ name

theorem values_write_cookies (hd : d.sendsHeader = false) (hw : d.write h token c = .ok h')
    (name : HeaderName) :
    h'.values name = h.values name ++ if .setCookie = name then d.writtenLines token c else [] := by
  obtain ⟨session, xsrf, hsession, hxsrf, rfl⟩ := (write_eq_ok_iff hd).1 hw
  obtain ⟨-, -, rfl⟩ := setCookie_eq_ok_iff.1 hsession
  obtain ⟨-, -, rfl⟩ := setCookie_eq_ok_iff.1 hxsrf
  exact HeaderMap.values_append_pair h .setCookie _ _ name

theorem values_write_header (hd : d.sendsHeader = true) (hw : d.write h token c = .ok h')
    (name : HeaderName) :
    h'.values name = if d.tokenHeader = name then [token] else h.values name := by
  obtain ⟨-, rfl⟩ := (write_eq_ok_iff_of_sendsHeader hd).1 hw
  exact HeaderMap.values_insert h d.tokenHeader name token

section

variable {name : HeaderName}

/-- If each step updates the values of a header by what became of it, a run updates them in the
order of its steps. -/
theorem values_performAll (update : List String → Step × Except TokenError Unit → List String)
    (hwrite : ∀ h h' token c, d.write h token c = .ok h' →
      h'.values name = update (h.values name) (.write token c, .ok ()))
    (hfail : ∀ values token c e, update values (.write token c, .error e) = values)
    (hclear : ∀ h, (d.clear h).values name = update (h.values name) (.clear, .ok ()))
    (steps : List Step) (h : HeaderMap) : (d.performAll steps h).2.values name =
      (d.performAll steps h).1.foldl update (h.values name) := by
  have hstep : ∀ step h, (d.attempt step h).2.values name =
      update (h.values name) (step, (d.attempt step h).1) := by
    intro step h
    cases step with
    | write token c =>
      cases hw : d.write h token c with
      | ok h' =>
        rw [attempt_write_of_ok hw]
        exact hwrite h h' token c hw
      | error e =>
        rw [attempt_write_of_error hw]
        exact (hfail (h.values name) token c e).symm
    | clear =>
      rw [attempt_clear]
      exact hclear h
  induction steps generalizing h with
  | nil => rfl
  | cons step steps ih =>
    rw [performAll, List.foldl_cons, ← hstep]
    exact ih (d.attempt step h).2

/-- If each step adds lines to a header by what became of it, a run adds them in the order of its
steps. -/
theorem values_performAll_of_append (added : Step × Except TokenError Unit → List String)
    (hwrite : ∀ h h' token c, d.write h token c = .ok h' →
      h'.values name = h.values name ++ added (.write token c, .ok ()))
    (hfail : ∀ token c e, added (.write token c, .error e) = [])
    (hclear : ∀ h, (d.clear h).values name = h.values name ++ added (.clear, .ok ()))
    (steps : List Step) (h : HeaderMap) : (d.performAll steps h).2.values name =
      h.values name ++ (d.performAll steps h).1.flatMap added := by
  have hfail' : ∀ (values : List String) token c e,
      values ++ added (.write token c, .error e) = values := by
    intro values token c e
    rw [hfail, List.append_nil]
  rw [values_performAll (fun values entry => values ++ added entry) hwrite hfail' hclear,
    List.foldl_append_eq_append]
  rfl

/-- A header that no step adds to stays as it is. -/
theorem values_performAll_of_unchanged
    (hwrite : ∀ h h' token c, d.write h token c = .ok h' → h'.values name = h.values name)
    (hname : name ≠ .setCookie) (steps : List Step) (h : HeaderMap) :
    (d.performAll steps h).2.values name = h.values name := by
  have hadded : (d.performAll steps h).2.values name =
      h.values name ++ (d.performAll steps h).1.flatMap fun _ => [] := by
    refine values_performAll_of_append (fun _ => []) ?_ (fun _ _ _ => rfl) ?_ steps h
    · intro h h' token c hw
      rw [hwrite h h' token c hw, List.append_nil]
    · intro h
      rw [values_clear, if_neg hname.symm]
  rw [hadded, List.flatMap_eq_nil_iff.2 fun _ _ => rfl, List.append_nil]

end

theorem map_fst_performAll (steps : List Step) (h : HeaderMap) :
    (d.performAll steps h).1.map Prod.fst = steps := by
  induction steps generalizing h with
  | nil => rfl
  | cons step steps ih => exact congrArg (step :: ·) (ih (d.attempt step h).2)

/-- The lines that a step adds in cookies, by what became of it. -/
def cookieLines (d : Delivery) : Step × Except TokenError Unit → List String
  | (.write token c, .ok _) => d.writtenLines token c
  | (.write _ _, .error _) => []
  | (.clear, _) => d.resetLines

/-- The lines that a step adds if tokens go out in the header. -/
def clearedLines (d : Delivery) : Step → List String
  | .write _ _ => []
  | .clear => d.resetLines

/-- The token that a step has written. -/
def sentToken? : Step × Except TokenError Unit → Option String
  | (.write token _, .ok _) => some token
  | _ => none

/-- The lines of all cookies after a run of steps that write cookies. -/
theorem setCookies_performAll (hd : d.sendsHeader = false) (steps : List Step) (h : HeaderMap) :
    (d.performAll steps h).2.values .setCookie =
      h.values .setCookie ++ (d.performAll steps h).1.flatMap d.cookieLines := by
  refine values_performAll_of_append d.cookieLines ?_ (fun _ _ _ => rfl) ?_ steps h
  · intro h h' token c hw
    rw [values_write_cookies hd hw, if_pos rfl, cookieLines]
  · intro h
    rw [values_clear, if_pos rfl, cookieLines]

/-- The lines of all cookies after a run of steps that write the header. -/
theorem setCookies_performAll_of_sendsHeader (hd : d.sendsHeader = true)
    (hname : d.tokenHeader ≠ .setCookie) (steps : List Step) (h : HeaderMap) :
    (d.performAll steps h).2.values .setCookie =
      h.values .setCookie ++ steps.flatMap d.clearedLines := by
  have hadded : (d.performAll steps h).2.values .setCookie = h.values .setCookie ++
      (d.performAll steps h).1.flatMap fun entry => d.clearedLines entry.1 := by
    refine values_performAll_of_append _ ?_ (fun _ _ _ => rfl) ?_ steps h
    · intro h h' token c hw
      rw [values_write_header hd hw, if_neg hname, clearedLines, List.append_nil]
    · intro h
      rw [values_clear, if_pos rfl, clearedLines]
  rw [hadded, ← List.flatMap_map, map_fst_performAll]

/-- The token header after a run of steps that write it. -/
theorem tokenHeader_performAll (hd : d.sendsHeader = true) (hname : d.tokenHeader ≠ .setCookie)
    (steps : List Step) (h : HeaderMap) :
    (d.performAll steps h).2.values d.tokenHeader =
      ((d.performAll steps h).1.filterMap sentToken?).getLast?.elim (h.values d.tokenHeader)
        fun token => [token] := by
  rw [← foldl_elim_eq]
  refine values_performAll _ ?_ (fun _ _ _ _ => rfl) ?_ steps h
  · intro h h' token c hw
    rw [values_write_header hd hw, if_pos rfl]
    rfl
  · intro h
    rw [values_clear, if_neg hname.symm, List.append_nil]
    rfl

/-- Responses over any run of writes and clears. A step that fails changes nothing. With cookies,
each write that succeeds adds its two lines and each clear the two that take them back, in order;
with the header, it holds the last token written, and only clears add cookies. No other header is
touched. A session that cannot be issued changes nothing either. -/
theorem headers_of_performAll (d : Delivery) :
    (∀ step h e h', d.perform step h = .error e h' → h' = h) ∧
    (∀ steps h, (d.performAll steps h).1.map Prod.fst = steps) ∧
    (d.sendsHeader = false → ∀ steps h log h', d.performAll steps h = (log, h') →
      h'.values .setCookie = h.values .setCookie ++ log.flatMap d.cookieLines ∧
      ∀ name, name ≠ .setCookie → h'.values name = h.values name) ∧
    (d.sendsHeader = true → d.tokenHeader ≠ .setCookie →
      ∀ steps h log h', d.performAll steps h = (log, h') →
      h'.values d.tokenHeader =
        (log.filterMap sentToken?).getLast?.elim (h.values d.tokenHeader) (fun token => [token]) ∧
      h'.values .setCookie = h.values .setCookie ++ steps.flatMap d.clearedLines ∧
      ∀ name, name ≠ .setCookie → name ≠ d.tokenHeader → h'.values name = h.values name) ∧
    ∀ (svc : Service) now freshId c h e h', svc.respond now freshId c h = .error e h' → h' = h := by
  refine ⟨fun _ _ _ _ => unchanged_of_perform, map_fst_performAll, ?_, ?_, ?_⟩
  · intro hd steps h log h' hrun
    obtain rfl : (d.performAll steps h).1 = log := congrArg Prod.fst hrun
    obtain rfl : (d.performAll steps h).2 = h' := congrArg Prod.snd hrun
    refine ⟨setCookies_performAll hd steps h, fun name hname => ?_⟩
    refine values_performAll_of_unchanged (fun h h' token c hw => ?_) hname steps h
    rw [values_write_cookies hd hw, if_neg hname.symm, List.append_nil]
  · intro hd htoken steps h log h' hrun
    obtain rfl : (d.performAll steps h).1 = log := congrArg Prod.fst hrun
    obtain rfl : (d.performAll steps h).2 = h' := congrArg Prod.snd hrun
    refine ⟨tokenHeader_performAll hd htoken steps h,
      setCookies_performAll_of_sendsHeader hd htoken steps h, fun name hname hother => ?_⟩
    refine values_performAll_of_unchanged (fun h h' token c hw => ?_) hname steps h
    rw [values_write_header hd hw, if_neg hother.symm]
  · intro svc now freshId c h e h' hfails
    rw [Service.respond_eq_atomically] at hfails
    exact unchanged_of_atomically hfails

/-- The id of the second visit may not stand in a cookie, and the token of the third neither in a
cookie nor in a header. -/
def shopDay : List Step :=
  [.write "a.b.c" (.new "id-1"), .write "d.e.f" (.new "id;2"), .clear, .write "g\nh" (.new "id-3")]

/-- The shop as it would be with tokens in the header. -/
def shopSender : Delivery := { Service.shop.delivery with sendsHeader := true }

def shopHeaders : HeaderMap := ⟨[(.setCookie, "lang=en"), (⟨"x-jwt"⟩, "old"), (⟨"date"⟩, "today")]⟩

/-- What becomes of the day, given what becomes of the second and the third visit. -/
def shopLog (second third : Except TokenError Unit) : List (Step × Except TokenError Unit) :=
  shopDay.zip [.ok (), second, .ok (), third]

/-- The shop without a reader of secrets. -/
def mutedShop : Service :=
  { Service.shop with codec := { Service.shop.codec with keyring := ⟨none, .shared⟩ } }

/-- Visits that are refused leave no trace, in cookies or in the header, and neither does one that
cannot be signed. -/
theorem headers_of_performAll_shop :
    (∃ e h', Service.shop.delivery.perform (.write "d.e.f" (.new "id;2")) shopHeaders =
      .error e h' ∧ h' = shopHeaders) ∧
    (∃ e h', mutedShop.respond .shopOpens "id-2" Claims.shopVisit shopHeaders = .error e h' ∧
      h' = shopHeaders) ∧
    (Service.shop.delivery.performAll shopDay shopHeaders).2.values .setCookie =
      "lang=en" :: (Service.shop.delivery.writtenLines "a.b.c" (.new "id-1") ++
        Service.shop.delivery.resetLines) ∧
    (shopSender.performAll shopDay shopHeaders).2.values shopSender.tokenHeader = ["d.e.f"] ∧
    (shopSender.performAll shopDay shopHeaders).2.values .setCookie =
      "lang=en" :: shopSender.resetLines ∧
    (shopSender.performAll shopDay shopHeaders).2.values ⟨"date"⟩ = ["today"] := by
  have hrefused : Service.shop.delivery.perform (.write "d.e.f" (.new "id;2")) shopHeaders =
      .error (.invalidCookieValue "XSRF-TOKEN") shopHeaders := rfl
  have hmuted : mutedShop.respond .shopOpens "id-2" Claims.shopVisit shopHeaders =
      .error .noSecretReader shopHeaders := rfl
  have hcookies : (Service.shop.delivery.performAll shopDay shopHeaders).1 =
      shopLog (.error (.invalidCookieValue "XSRF-TOKEN")) (.error (.invalidCookieValue "JWT")) :=
    rfl
  have hsender : (shopSender.performAll shopDay shopHeaders).1 =
      shopLog (.ok ()) (.error .invalidTokenHeader) := rfl
  obtain ⟨hstep, -, hcookie, -, hservice⟩ := headers_of_performAll Service.shop.delivery
  obtain ⟨-, -, -, hheader, -⟩ := headers_of_performAll shopSender
  obtain ⟨htoken, hlines, hothers⟩ := hheader rfl (by decide) _ _ _ _ (Prod.ext hsender rfl)
  refine ⟨⟨_, _, hrefused, hstep _ _ _ _ hrefused⟩, ?_⟩
  refine ⟨⟨_, _, hmuted, hservice _ _ _ _ _ _ _ hmuted⟩, ?_⟩
  refine ⟨(hcookie rfl _ _ _ _ (Prod.ext hcookies rfl)).1, htoken, hlines, ?_⟩
  exact hothers ⟨"date"⟩ (by decide) (by decide)

end Delivery

end SignedSession
