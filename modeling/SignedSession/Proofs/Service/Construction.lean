import SignedSession.Proofs.Service.CookieSession

/-!
What a new service has checked. The names that it writes must be fit for a message; the name of the
header that repeats an id, which it only looks for, is taken as it is. Main statement: a service is
made exactly if the names that it writes are fit, and a user's session in a cookie can be confirmed
exactly if the other name is fit as well, or no confirmation is asked for.
-/
namespace SignedSession

namespace DoubleSubmit

variable {g : DoubleSubmit} {c : Claims}

/-- A request that repeats an id, where the guard's key is a name. -/
theorem exists_isRepeated (hkey : HeaderName.IsToken g.headerKey) {id : String}
    (hid : Cookie.IsValue id) :
    ∃ h, HeaderMap.ofPairs? [(g.headerKey, id)] = some h ∧ g.IsRepeated h id := by
  have hname : HeaderName.ofString? g.headerKey = some ⟨Text.lower g.headerKey⟩ := if_pos hkey
  have hreadable := Cookie.isReadable_of_isValue hid
  have hline : HeaderMap.ofPairs?.line? (g.headerKey, id) =
      some (⟨Text.lower g.headerKey⟩, id) := by
    rw [HeaderMap.ofPairs?.line?, if_pos (Cookie.isValid_of_isReadable hreadable), hname,
      Option.map_some]
  refine ⟨⟨[(⟨Text.lower g.headerKey⟩, id)]⟩, ?_, _, hname, ?_, hreadable⟩
  · rw [HeaderMap.ofPairs?, List.mapM_cons, hline]
    rfl
  · simp [HeaderMap.first?, HeaderMap.values]

/-- When any request at all can pass with a user's claims from a cookie. -/
theorem exists_check_eq_ok_iff (huser : c.user.isSome) (hid : c.id ≠ "")
    (hvalue : Cookie.IsValue c.id) (method : String) :
    (∃ h, g.check method h c .cookie = .ok ()) ↔
      g.disabled = true ∨ g.Exempts method ∨ HeaderName.IsToken g.headerKey := by
  simp only [check_eq_ok_iff]
  constructor
  · rintro ⟨h, hpasses⟩
    by_cases hdisabled : g.disabled = true
    · exact .inl hdisabled
    by_cases hexempt : g.Exempts method
    · exact .inr (.inl hexempt)
    obtain ⟨-, name, hname, -⟩ := hpasses ⟨hdisabled, hexempt, rfl, huser⟩
    exact .inr (.inr (Option.ite_none_right_eq_some.1 hname).1)
  · rintro (hdisabled | hexempt | hkey)
    · exact ⟨.empty, fun happlies => absurd hdisabled happlies.1⟩
    · exact ⟨.empty, fun happlies => absurd hexempt happlies.2.1⟩
    · obtain ⟨h, -, hrepeated⟩ := exists_isRepeated hkey hvalue
      exact ⟨h, fun _ => ⟨hid, hrepeated⟩⟩

end DoubleSubmit

namespace Service

theorem guard_of_new {s : Settings} {hooks : Hooks} {svc : Service} (h : new s hooks = .ok svc) :
    svc.guard = .new s.withDefaults := by
  obtain ⟨_, -, rfl⟩ := new_eq_ok_iff.1 h
  rfl

theorem new_failsOnly (s : Settings) (hooks : Hooks) :
    FailsOnly (fun e => ∃ detail, e = .config detail) (new s hooks) :=
  .bind (Delivery.new_failsOnly s.withDefaults) fun _ _ => .ok _ _

/-- The names of a new service. It is made exactly if its cookies, its token's header and its domain
are fit for a message, and otherwise the settings are reported as unusable. The header that repeats
an id is not looked at: only where its name is fit, or no id needs to be repeated, can a user's
session in a cookie be confirmed, and then it is confirmed by the id under that name. -/
theorem new_checks_names (s : Settings) (hooks : Hooks) :
    ((∃ svc, new s hooks = .ok svc) ↔ Delivery.CanWrite s.withDefaults) ∧
    (∀ e, new s hooks = .error e → ∃ detail, e = .config detail) ∧
    ∀ svc, new s hooks = .ok svc → ∀ c : Claims, c.user.isSome → c.id ≠ "" → Cookie.IsValue c.id →
      ∀ method,
      ((∃ h, svc.guard.check method h c .cookie = .ok ()) ↔ svc.guard.disabled = true ∨
        svc.guard.Exempts method ∨ HeaderName.IsToken s.withDefaults.xsrfHeader) ∧
      (HeaderName.IsToken s.withDefaults.xsrfHeader →
        ∃ h, HeaderMap.ofPairs? [(s.withDefaults.xsrfHeader, c.id)] = some h ∧
          svc.guard.check method h c .cookie = .ok ()) := by
  refine ⟨?_, new_failsOnly s hooks, ?_⟩
  · constructor
    · rintro ⟨svc, h⟩
      obtain ⟨_, hdelivery, -⟩ := new_eq_ok_iff.1 h
      exact (Delivery.new_eq_ok_iff.1 hdelivery).1
    · intro hwrites
      exact ⟨_, new_eq_ok_iff.2 ⟨_, Delivery.new_eq_ok_iff.2 ⟨hwrites, rfl⟩, rfl⟩⟩
  · intro svc h c huser hid hvalue method
    rw [guard_of_new h]
    refine ⟨DoubleSubmit.exists_check_eq_ok_iff huser hid hvalue method, fun hkey => ?_⟩
    obtain ⟨request, hrequest, hrepeated⟩ :=
      DoubleSubmit.exists_isRepeated (g := .new s.withDefaults) hkey hvalue
    exact ⟨request, hrequest, DoubleSubmit.check_eq_ok_iff.2 fun _ => ⟨hid, hrepeated⟩⟩

/-- A shop whose cookie has a name that no cookie can have. -/
def misnamedCookie : Settings := { shop.settings with tokenCookie := "my token" }

/-- The shop is made, and the id of a visit confirms it; with the other cookie it is not. -/
theorem new_checks_names_shop :
    Delivery.CanWrite shop.settings ∧
    (∃ h, HeaderMap.ofPairs? [("X-XSRF-TOKEN", "id-1")] = some h ∧
      shop.guard.check "POST" h Claims.shopVisit .cookie = .ok ()) ∧
    ∃ detail, new misnamedCookie shop.hooks = .error (.config detail) := by
  have hnew : new shop.settings shop.hooks = .ok shop := rfl
  have hrefused : new misnamedCookie shop.hooks = .error (.invalidCookieName "my token") := rfl
  obtain ⟨hmade, -, hconfirmed⟩ := new_checks_names shop.settings shop.hooks
  have hvisit := hconfirmed shop hnew Claims.shopVisit rfl (by decide) (by decide) "POST"
  obtain ⟨detail, hdetail⟩ := (new_checks_names misnamedCookie shop.hooks).2.1 _ hrefused
  exact ⟨hmade.1 ⟨shop, hnew⟩, hvisit.2 (by decide), detail, hrefused.trans (congrArg _ hdetail)⟩

/-- Settings in which ids are to be repeated under a name that no header can have. -/
def misnamedHeader : Settings := { Settings.default with xsrfHeader := "bad header" }

/-- A service is made of them, and then turns away every visit that comes in a cookie. -/
theorem new_misnamedHeader : ¬ HeaderName.IsToken misnamedHeader.withDefaults.xsrfHeader ∧
    ∃ svc, new misnamedHeader { secrets := some (.fixed "s") } = .ok svc ∧
      ∀ h, svc.guard.check "POST" h Claims.shopVisit .cookie = .error .xsrfMismatch :=
  ⟨by decide, _, rfl, fun _ => rfl⟩

end Service

end SignedSession
