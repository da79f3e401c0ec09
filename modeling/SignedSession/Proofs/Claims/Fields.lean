import SignedSession.Claims.Reader
import SignedSession.Proofs.Json.Members

/-!
What claims say, field by field. Reading claims succeeds exactly when every field has a value, and
then gives the claims of these values. Nothing but the fields' values counts.
-/
namespace SignedSession

open Json

/-- Each field of a user is what the record says. -/
structure User.IsReadFrom (u : User) (fs : Fields) : Prop where
  name : fs.text? "name" = some u.name
  id : fs.text? "id" = some u.id
  picture : fs.text? "picture" = some u.picture
  audience : fs.text? "aud" = some u.audience
  ip : fs.text? "ip" = some u.ip
  email : fs.text? "email" = some u.email
  attributes : fs.withDefault? "attrs" Attributes.ofTree? .empty = some u.attributes
  role : fs.text? "role" = some u.role

theorem User.ofFields?_eq_some_iff {fs : Fields} {u : User} :
    ofFields? fs = some u ↔ u.IsReadFrom fs := by
  constructor
  · intro h
    simp only [ofFields?, Option.bind_eq_bind, Option.bind_eq_some_iff, Option.some.injEq] at h
    obtain ⟨_, h₁, _, h₂, _, h₃, _, h₄, _, h₅, _, h₆, _, h₇, _, h₈, rfl⟩ := h
    exact ⟨h₁, h₂, h₃, h₄, h₅, h₆, h₇, h₈⟩
  · intro h
    simp only [ofFields?, h.name, h.id, h.picture, h.audience, h.ip, h.email, h.attributes, h.role,
      Option.bind_eq_bind, Option.bind_some]

/-- A user is known by the fields of these names. -/
theorem User.looksAt_ofFields? : Fields.LooksAt fieldNames ofFields? := by
  intro fs fs' h
  have htext : ∀ k ∈ fieldNames, fs.text? k = fs'.text? k :=
    fun k hk => Fields.withDefault?_congr (h k hk) _ _
  have hattributes := Fields.withDefault?_congr (h "attrs" (by decide)) Attributes.ofTree? .empty
  simp only [ofFields?, hattributes, htext "name" (by decide), htext "id" (by decide),
    htext "picture" (by decide), htext "aud" (by decide), htext "ip" (by decide),
    htext "email" (by decide), htext "role" (by decide)]

structure Handshake.IsReadFrom (h : Handshake) (fs : Fields) : Prop where
  state : fs.text? "state" = some h.state
  returnTo : fs.text? "from" = some h.returnTo
  id : fs.text? "id" = some h.id

theorem Handshake.ofFields?_eq_some_iff {fs : Fields} {s : Handshake} :
    ofFields? fs = some s ↔ s.IsReadFrom fs := by
  constructor
  · intro h
    simp only [ofFields?, Option.bind_eq_bind, Option.bind_eq_some_iff, Option.some.injEq] at h
    obtain ⟨_, h₁, _, h₂, _, h₃, rfl⟩ := h
    exact ⟨h₁, h₂, h₃⟩
  · intro h
    simp only [ofFields?, h.state, h.returnTo, h.id, Option.bind_eq_bind, Option.bind_some]

namespace Claims

/-- Each field of the claims is what the record says. -/
structure IsReadFrom (c : Claims) (fs : Fields) : Prop where
  subject : fs.optional? "sub" Tree.text? = some c.subject
  issuer : fs.optional? "iss" Tree.text? = some c.issuer
  audiences : audiencesOfFields? fs = some c.audiences
  expiry : fs.optional? "exp" Tree.int64? = some c.expiry
  notBefore : fs.optional? "nbf" Tree.int64? = some c.notBefore
  issuedAt : fs.optional? "iat" Tree.int64? = some c.issuedAt
  tokenId : fs.optional? "jti" Tree.text? = some c.tokenId
  user : fs.optional? "user" User.ofTree? = some c.user
  sessionOnly : fs.flag? "sess_only" = some c.sessionOnly
  handshake : fs.optional? "handshake" Handshake.ofTree? = some c.handshake
  withoutAvatar : fs.flag? "no-ava" = some c.withoutAvatar
  provider : fs.optional? "auth_provider" providerOfTree? = some c.provider

theorem ofFields?_eq_some_iff {fs : Fields} {c : Claims} :
    ofFields? fs = some c ↔ c.IsReadFrom fs := by
  constructor
  · intro h
    simp only [ofFields?, Option.bind_eq_bind, Option.bind_eq_some_iff, Option.some.injEq] at h
    obtain ⟨_, h₁, _, h₂, _, h₃, _, h₄, _, h₅, _, h₆, _, h₇, _, h₈, _, h₉, _, h₁₀, _, h₁₁, _, h₁₂,
      rfl⟩ := h
    exact ⟨h₁, h₂, h₃, h₄, h₅, h₆, h₇, h₈, h₉, h₁₀, h₁₁, h₁₂⟩
  · intro h
    simp only [ofFields?, h.subject, h.issuer, h.audiences, h.expiry, h.notBefore, h.issuedAt,
      h.tokenId, h.user, h.sessionOnly, h.handshake, h.withoutAvatar, h.provider,
      Option.bind_eq_bind, Option.bind_some]

/-- Claims are known by the fields of these names. -/
theorem looksAt_ofFields? : Fields.LooksAt fieldNames ofFields? := by
  intro fs fs' h
  have hoptional : ∀ {α : Type} (read : Tree → Option α) (k : String), k ∈ fieldNames →
      fs.optional? k read = fs'.optional? k read :=
    fun read k hk => Fields.optional?_congr (h k hk) read
  have hflag : ∀ k ∈ fieldNames, fs.flag? k = fs'.flag? k :=
    fun k hk => Fields.withDefault?_congr (h k hk) _ _
  have haudiences : audiencesOfFields? fs = audiencesOfFields? fs' := by
    rw [audiencesOfFields?, audiencesOfFields?, hoptional _ "aud" (by decide)]
  simp only [ofFields?, haudiences, hoptional _ "sub" (by decide), hoptional _ "iss" (by decide),
    hoptional _ "exp" (by decide), hoptional _ "nbf" (by decide), hoptional _ "iat" (by decide),
    hoptional _ "jti" (by decide), hoptional _ "user" (by decide), hflag "sess_only" (by decide),
    hoptional _ "handshake" (by decide), hflag "no-ava" (by decide),
    hoptional _ "auth_provider" (by decide)]

/-- Claims are read from a tree that is a record of their fields. -/
theorem ofTree?_eq_some_iff {t : Tree} {c : Claims} :
    ofTree? t = some c ↔ ∃ fs, t.record? fieldNames = some fs ∧ c.IsReadFrom fs := by
  simp only [ofTree?, Option.bind_eq_some_iff, ofFields?_eq_some_iff]

end Claims

end SignedSession
