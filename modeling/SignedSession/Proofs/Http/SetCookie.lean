import SignedSession.Proofs.Http.Cookie

/-!
Lines that set cookies. A line starts with the name and the value, which hold no semicolon, and the
attributes follow; of these only the domain can be unfit for a header.
-/
namespace SignedSession

open Text

theorem Text.isVisible_of_isDigit {c : Char} (h : c.isDigit = true) : isVisible c = true := by
  simp only [Char.isDigit, Bool.and_eq_true, decide_eq_true_eq] at h
  simp only [isVisible, Bool.and_eq_true, decide_eq_true_eq, Char.le_def]
  exact ⟨UInt32.le_trans (by decide) h.1, UInt32.le_trans h.2 (by decide)⟩

theorem Cookie.isOctet_of_isDigit {c : Char} (h : c.isDigit = true) : isOctet c = true := by
  have hne : ∀ x : Char, x.isDigit = false → c ≠ x := by
    rintro x hx rfl
    rw [h] at hx
    cases hx
  simp [isOctet, isVisible_of_isDigit h, hne]

theorem Cookie.isValue_append {s t : String} : IsValue (s ++ t) ↔ IsValue s ∧ IsValue t := by
  simp [IsValue]

theorem Cookie.isValue_toString (n : Int) : IsValue (toString n) := by
  have hdigits : ∀ m : Nat, IsValue m.repr := by
    intro m
    apply List.all_eq_true.2
    intro c hc
    rw [Nat.toList_repr] at hc
    exact isOctet_of_isDigit (Nat.isDigit_of_mem_toDigits (by decide) (by decide) hc)
  cases n with
  | ofNat m => exact hdigits m
  | negSucc m => exact isValue_append.2 ⟨by decide, hdigits (m + 1)⟩

namespace SetCookie

/-- The name and the value that a line sets: what stands before and after the first equals sign of
all that comes before the first semicolon. -/
def carried? (line : String) : Option (String × String) :=
  ((splitAt ';' line.toList).head?.bind (cutAt? '=')).map fun p =>
    (String.ofList p.1, String.ofList p.2)

theorem toList_render (c : SetCookie) : c.render.toList =
    c.name.toList ++ '=' :: c.value.toList ++
      c.attributes.flatMap fun a => ';' :: ' ' :: a.toList := by
  simp [render, String.toList_join, List.flatMap_map]

/-- A cookie with a name and a value is a header value if its attributes are. -/
theorem isValid_render_iff {c : SetCookie} (hn : Cookie.IsName c.name)
    (hv : Cookie.IsValue c.value) :
    HeaderValue.IsValid c.render ↔ ∀ a ∈ c.attributes, HeaderValue.IsValid a := by
  have hpair := Cookie.isValid_of_isReadable (Cookie.isReadable_pair hn hv)
  have htext : (c.name ++ "=" ++ c.value).toList = c.name.toList ++ '=' :: c.value.toList := by simp
  unfold HeaderValue.IsValid at *
  rw [htext] at hpair
  rw [toList_render, List.all_append, hpair, Bool.true_and, List.all_eq_true]
  constructor
  · intro h a ha
    apply List.all_eq_true.2
    intro x hx
    exact h x (List.mem_flatMap.2 ⟨a, ha, List.mem_cons_of_mem _ (List.mem_cons_of_mem _ hx)⟩)
  · intro ha x hx
    obtain ⟨a, hmem, hx⟩ := List.mem_flatMap.1 hx
    simp only [List.mem_cons] at hx
    rcases hx with rfl | rfl | hx
    · decide
    · decide
    · exact List.all_eq_true.1 (ha a hmem) x hx

theorem isValid_render {c : SetCookie} (hn : Cookie.IsName c.name) (hv : Cookie.IsValue c.value)
    (ha : ∀ a ∈ c.attributes, HeaderValue.IsValid a) : HeaderValue.IsValid c.render :=
  (isValid_render_iff hn hv).2 ha

/-- Nothing in a rendered cookie but its name and value comes before the first semicolon. -/
theorem carried?_render {c : SetCookie} (hn : Cookie.IsName c.name) (hv : Cookie.IsValue c.value) :
    carried? c.render = some (c.name, c.value) := by
  have hpair := Cookie.semicolon_not_mem_pair hn hv
  have hhead : (splitAt ';' c.render.toList).head? =
      some (c.name.toList ++ '=' :: c.value.toList) := by
    rw [toList_render]
    cases c.attributes with
    | nil => rw [List.flatMap_nil, List.append_nil, splitAt_of_not_mem hpair, List.head?_cons]
    | cons a as =>
      rw [List.flatMap_cons, List.cons_append, splitAt_append_sep hpair, List.head?_cons]
  rw [carried?, hhead, Option.bind_some, Cookie.cutAt?_pair hn]
  simp

/-- All that a line says from the first semicolon on. -/
def attributeText (line : String) : String := String.ofList (line.toList.dropWhile (· ≠ ';'))

/-- A value cannot put off where the attributes begin. -/
theorem attributeText_render {c : SetCookie} (hn : Cookie.IsName c.name)
    (hv : Cookie.IsValue c.value) :
    attributeText c.render = String.join (c.attributes.map ("; " ++ ·)) := by
  have hpair : ∀ x ∈ c.name.toList ++ '=' :: c.value.toList, decide (x ≠ ';') = true := by
    intro x hx
    refine decide_eq_true ?_
    rintro rfl
    exact Cookie.semicolon_not_mem_pair hn hv hx
  have htext : (String.join (c.attributes.map ("; " ++ ·))).toList =
      c.attributes.flatMap fun a => ';' :: ' ' :: a.toList := by
    simp [String.toList_join, List.flatMap_map]
  have hstart : (c.attributes.flatMap fun a => ';' :: ' ' :: a.toList).dropWhile (· ≠ ';') =
      c.attributes.flatMap fun a => ';' :: ' ' :: a.toList := by
    cases c.attributes <;> rfl
  rw [attributeText, toList_render, List.dropWhile_append_of_pos hpair, hstart, ← htext,
    String.ofList_toList]

/-- Of all attributes only the domain can be unfit for a header. -/
theorem isValid_attributes_iff {c : SetCookie} :
    (∀ a ∈ c.attributes, HeaderValue.IsValid a) ↔ HeaderValue.IsValid (domainText c.domain) := by
  constructor
  · intro h
    by_cases hdomain : c.domain = ""
    · rw [hdomain]
      rfl
    · have hattribute := h ("Domain=" ++ domainText c.domain) (by simp [attributes, hdomain])
      exact (HeaderValue.isValid_append.1 hattribute).2
  · intro h a ha
    simp only [attributes, List.mem_append, List.mem_singleton, Option.mem_toList] at ha
    rcases ha with (((((ha | ha) | ha) | rfl) | ha) | ha) | ha
    · obtain rfl := List.mem_singleton.1 (List.mem_ite_nil_right.1 ha).2
      decide
    · obtain ⟨s, -, rfl⟩ := Option.map_eq_some_iff.1 ha
      cases s <;> decide
    · obtain rfl := List.mem_singleton.1 (List.mem_ite_nil_right.1 ha).2
      decide
    · decide
    · obtain rfl := List.mem_singleton.1 (List.mem_ite_nil_left.1 ha).2
      exact HeaderValue.isValid_append.2 ⟨by decide, h⟩
    · obtain ⟨n, -, rfl⟩ := Option.map_eq_some_iff.1 ha
      exact Cookie.isValid_of_isReadable (Cookie.isReadable_of_isValue
        (Cookie.isValue_append.2 ⟨by decide, Cookie.isValue_toString n⟩))
    · obtain rfl := List.mem_singleton.1 (List.mem_ite_nil_right.1 ha).2
      decide

end SetCookie

end SignedSession
