import SignedSession.DoubleSubmit
import SignedSession.Proofs.Settings.Loading

/-!
Exempt methods from a variable. A text lists methods between commas, with blanks around them and
with blank entries among them, in any letter case. Main statement: a guard that is made of such a
text and one that is given the methods themselves pass the same requests.
-/
namespace SignedSession

open Text

namespace DoubleSubmit

variable {g g' : DoubleSubmit}

/-- A check counts no more of a guard and a request than which methods are exempt, and which id is
repeated. -/
theorem check_eq_of_supplied {h h' : HeaderMap} (hdisabled : g'.disabled = g.disabled)
    (hsupplied : g'.supplied h' = g.supplied h)
    (hexempt : ∀ method, g'.Exempts method ↔ g.Exempts method) (method : String) (c : Claims)
    (channel : Channel) : g'.check method h' c channel = g.check method h c channel := by
  unfold check
  refine ite_congr (propext ?_) (fun _ => rfl) fun _ => rfl
  simp only [Applies, hdisabled, hsupplied, hexempt]

/-- Of the exempt methods a guard's check counts no more than which methods they exempt. -/
theorem check_congr (hdisabled : g'.disabled = g.disabled) (hkey : g'.headerKey = g.headerKey)
    (hexempt : ∀ method, g'.Exempts method ↔ g.Exempts method) (method : String) (h : HeaderMap)
    (c : Claims) (channel : Channel) :
    g'.check method h c channel = g.check method h c channel :=
  check_eq_of_supplied hdisabled (by rw [supplied, supplied, hkey]) hexempt method c channel

/-- Folding the letter case of the list exempts no other methods. -/
theorem exempts_iff_of_map {fold : String → String} (hfold : ∀ m, lower (fold m) = lower m)
    {ms : List String} (h : g.exemptMethods = ms.map fold) (method : String) :
    g.Exempts method ↔ ∃ m ∈ ms, SameUpToCase m method := by
  rw [Exempts, h]
  constructor
  · rintro ⟨_, hm, hsame⟩
    obtain ⟨m, hmem, rfl⟩ := List.mem_map.1 hm
    exact ⟨m, hmem, (hfold m).symm.trans hsame⟩
  · rintro ⟨m, hm, hsame⟩
    exact ⟨fold m, List.mem_map_of_mem hm, (hfold m).trans hsame⟩

theorem exempts_iff_of_upper {ms : List String} (h : g.exemptMethods = ms.map upper)
    (method : String) : g.Exempts method ↔ ∃ m ∈ ms, SameUpToCase m method :=
  exempts_iff_of_map lower_upper h method

end DoubleSubmit

namespace Settings

/-- A method that can be an entry of a list. -/
structure IsEntry (m : String) : Prop where
  ne_empty : m ≠ ""
  comma_not_mem : ',' ∉ m.toList
  trim_eq : trim m = m

/-- Entries that list methods in order: each is blank, or a method with blanks around it. -/
inductive Lists : List (List Char) → List String → Prop
  | nil : Lists [] []
  | blank {part parts ms} (hpart : ∀ c ∈ part, isBlank c = true) (hrest : Lists parts ms) :
      Lists (part :: parts) ms
  | entry {left right parts ms} (m : String) (hleft : ∀ c ∈ left, isBlank c = true)
      (hright : ∀ c ∈ right, isBlank c = true) (hrest : Lists parts ms) :
      Lists ((left ++ m.toList ++ right) :: parts) (m :: ms)

/-- A text in which commas join entries that list methods. -/
def IsListing (text : String) (ms : List String) : Prop :=
  ∃ parts, text.toList = List.intercalate [','] parts ∧ Lists parts ms

theorem comma_not_mem_of_isBlank {cs : List Char} (h : ∀ c ∈ cs, isBlank c = true) : ',' ∉ cs := by
  intro hmem
  have hcomma := h ',' hmem
  revert hcomma
  decide

theorem Lists.comma_not_mem {parts : List (List Char)} {ms : List String} (h : Lists parts ms)
    (hms : ∀ m ∈ ms, IsEntry m) : ∀ part ∈ parts, ',' ∉ part := by
  induction h with
  | nil => exact List.forall_mem_nil _
  | blank hpart _ ih => exact List.forall_mem_cons.2 ⟨comma_not_mem_of_isBlank hpart, ih hms⟩
  | entry m hleft hright _ ih =>
    rw [List.forall_mem_cons] at hms
    refine List.forall_mem_cons.2 ⟨?_, ih hms.2⟩
    simp [comma_not_mem_of_isBlank hleft, comma_not_mem_of_isBlank hright, hms.1.comma_not_mem]

/-- What is left of the entries once they are trimmed and the empty ones dropped. -/
theorem Lists.filter_strip {parts : List (List Char)} {ms : List String} (h : Lists parts ms)
    (hms : ∀ m ∈ ms, IsEntry m) :
    (parts.map (strip isBlank)).filter (· ≠ []) = ms.map String.toList := by
  induction h with
  | nil => rfl
  | blank hpart _ ih =>
    rw [List.map_cons, strip_eq_nil hpart, List.filter_cons_of_neg (by simp), ih hms]
  | entry m hleft hright _ ih =>
    rw [List.forall_mem_cons] at hms
    have hstrip : strip isBlank m.toList = m.toList := by rw [← toList_trim, hms.1.trim_eq]
    have hne : m.toList ≠ [] := by simpa using hms.1.ne_empty
    rw [List.map_cons, strip_around hleft hright, hstrip, List.filter_cons_of_pos (by simp [hne]),
      ih hms.2, List.map_cons]

theorem methodsOf_of_isListing {text : String} {ms : List String} (h : IsListing text ms)
    (hms : ∀ m ∈ ms, IsEntry m) : methodsOf text = ms.map upper := by
  obtain ⟨parts, htext, hlists⟩ := h
  have hentries : ((splitAt ',' text.toList).map (strip isBlank)).filter (· ≠ []) =
      ms.map String.toList := by
    -- commas join no entries to the text that one empty entry is split from
    by_cases hne : parts = []
    · subst hne
      cases hlists
      rw [htext]
      rfl
    · rw [htext, splitAt_intercalate hne (hlists.comma_not_mem hms), hlists.filter_strip hms]
  rw [methodsOf, hentries, List.map_map]
  simp

/-- A text of nothing but commas and blanks lists no methods. -/
theorem isListing_of_blank {text : String}
    (h : ∀ c ∈ text.toList, c = ',' ∨ isBlank c = true) : IsListing text [] := by
  have hblank : ∀ parts : List (List Char), (∀ part ∈ parts, ∀ c ∈ part, isBlank c = true) →
      Lists parts [] := by
    intro parts hparts
    induction parts with
    | nil => exact .nil
    | cons part parts ih =>
      rw [List.forall_mem_cons] at hparts
      exact .blank hparts.1 (ih hparts.2)
  refine ⟨splitAt ',' text.toList, (intercalate_splitAt ',' _).symm, hblank _ ?_⟩
  intro part hpart c hc
  obtain ⟨hmem, hne⟩ := of_mem_splitAt hpart c hc
  exact (h c hmem).resolve_left hne

def exemptKey : String := "SESSION_XSRF_IGNORE_METHODS"

/-- The variables with one of them set. -/
def Lookup.set (lookup : Lookup) (key text : String) : Lookup :=
  fun k => if k = key then some text else lookup k

/-- The variable decides the exempt methods and nothing else. -/
theorem load_set_exemptKey {lookup : Lookup} {s : Settings} (h : load lookup = .ok s)
    (text : String) :
    load (lookup.set exemptKey text) = .ok { s with exemptMethods := methodsOf text } := by
  have hkey : lookup.set exemptKey text "SESSION_XSRF_IGNORE_METHODS" = some text := if_pos rfl
  have hother : ∀ k, k ≠ exemptKey → lookup.set exemptKey text k = lookup k := fun _ hk => if_neg hk
  obtain ⟨token, htoken, h⟩ := bind_eq_ok.1 h
  obtain ⟨cookie, hcookie, h⟩ := bind_eq_ok.1 h
  cases h
  unfold lifetime at htoken hcookie
  rw [← hother _ (by decide)] at htoken hcookie
  refine bind_eq_ok.2 ⟨token, htoken, bind_eq_ok.2 ⟨cookie, hcookie, ?_⟩⟩
  simp (disch := decide) only [name, flag, hkey, hother, Option.map_some, Option.getD_some]

/-- A guard from the variable and a guard from the methods themselves. Whatever the other variables
say, a text that lists methods is loaded, and the guard of these settings exempts the methods that
the listed ones agree with up to letter case; so does a guard that is given the list itself, and
the two pass the same requests. A text of commas and blanks exempts no method, not even an empty
one. -/
theorem guard_of_listing {lookup : Lookup} {s : Settings} (h : load lookup = .ok s) :
    (∀ text ms, (∀ m ∈ ms, IsEntry m) → IsListing text ms →
      ∃ s', load (lookup.set exemptKey text) = .ok s' ∧ ∀ method,
        ((DoubleSubmit.new s').Exempts method ↔ ∃ m ∈ ms, SameUpToCase m method) ∧
        ((DoubleSubmit.new s').Exempts method ↔
          (DoubleSubmit.new { s with exemptMethods := ms }).Exempts method) ∧
        ∀ request c channel, (DoubleSubmit.new s').check method request c channel =
          (DoubleSubmit.new { s with exemptMethods := ms }).check method request c channel) ∧
    ∀ text, (∀ c ∈ text.toList, c = ',' ∨ isBlank c = true) →
      ∃ s', load (lookup.set exemptKey text) = .ok s' ∧
        ∀ method, ¬ (DoubleSubmit.new s').Exempts method := by
  have hexempts : ∀ text ms, (∀ m ∈ ms, IsEntry m) → IsListing text ms → ∀ method,
      (DoubleSubmit.new { s with exemptMethods := methodsOf text }).Exempts method ↔
        ∃ m ∈ ms, SameUpToCase m method :=
    fun _ _ hms htext => DoubleSubmit.exempts_iff_of_upper (methodsOf_of_isListing htext hms)
  constructor
  · intro text ms hms htext
    refine ⟨_, load_set_exemptKey h text, fun method => ?_⟩
    have hsame := hexempts text ms hms htext
    refine ⟨hsame method, hsame method, fun request c channel => ?_⟩
    refine DoubleSubmit.check_congr ?_ ?_ hsame method request c channel <;> rfl
  · intro text htext
    refine ⟨_, load_set_exemptKey h text, fun method hmethod => ?_⟩
    obtain ⟨m, hm, -⟩ := (hexempts text [] (List.forall_mem_nil _) (isListing_of_blank htext)
      method).1 hmethod
    cases hm

/-- A shop that lists two methods untidily exempts these two, and one that lists none exempts not
even the method without a name. -/
theorem guard_of_listing_shop :
    (∃ s, load (shopVariables.set exemptKey " get ,, Head\t") = .ok s ∧
      (DoubleSubmit.new s).Exempts "GET" ∧ ¬ (DoubleSubmit.new s).Exempts "POST" ∧
      ∀ request, (DoubleSubmit.new s).check "head" request Claims.shopVisit .cookie = .ok ()) ∧
    ∃ s, load (shopVariables.set exemptKey " , ") = .ok s ∧ ¬ (DoubleSubmit.new s).Exempts "" := by
  have hload : load shopVariables = .ok shopSettings := rfl
  have hspace : ∀ c ∈ [' '], isBlank c = true := List.forall_mem_singleton.2 rfl
  have htab : ∀ c ∈ ['\t'], isBlank c = true := List.forall_mem_singleton.2 rfl
  have hlisting : IsListing " get ,, Head\t" ["get", "Head"] := by
    refine ⟨[" get ".toList, [], " Head\t".toList], by decide, ?_⟩
    have hhead : Lists [" Head\t".toList] ["Head"] := .entry "Head" hspace htab .nil
    exact .entry "get" hspace hspace (.blank (List.forall_mem_nil _) hhead)
  have hentries : ∀ m ∈ ["get", "Head"], IsEntry m :=
    List.forall_mem_cons.2 ⟨⟨by decide, by decide, by decide⟩,
      List.forall_mem_singleton.2 ⟨by decide, by decide, by decide⟩⟩
  have htext : ∀ c ∈ " , ".toList, c = ',' ∨ isBlank c = true :=
    List.forall_mem_cons.2 ⟨.inr rfl, List.forall_mem_cons.2 ⟨.inl rfl,
      List.forall_mem_singleton.2 (.inr rfl)⟩⟩
  obtain ⟨hlisted, hblank⟩ := guard_of_listing hload
  obtain ⟨s, hs, hguard⟩ := hlisted " get ,, Head\t" ["get", "Head"] hentries hlisting
  obtain ⟨s', hs', hnone⟩ := hblank " , " htext
  refine ⟨⟨s, hs, (hguard "GET").1.2 (by decide), fun h => ?_, fun request => ?_⟩,
    s', hs', hnone ""⟩
  · have hpost := (hguard "POST").1.1 h
    revert hpost
    decide
  · exact ((hguard "head").2.2 request Claims.shopVisit .cookie).trans rfl

end Settings

end SignedSession
