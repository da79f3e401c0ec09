import SignedSession.Delivery
import SignedSession.Settings.Basic

/-!
Protection against requests that another site makes in a browser's name. The browser sends the
session cookie by itself, so a user's token from a cookie counts only if a header repeats the
token id, which just scripts of this site can read.
-/
namespace SignedSession

structure DoubleSubmit where
  disabled : Bool
  headerKey : String
  exemptMethods : List String
  deriving DecidableEq, Repr

namespace DoubleSubmit

def new (s : Settings) : DoubleSubmit := ⟨s.xsrfDisabled, s.xsrfHeader, s.exemptMethods⟩

/-- A method is exempt if it is in the list, up to letter case. -/
def Exempts (g : DoubleSubmit) (method : String) : Prop :=
  ∃ m ∈ g.exemptMethods, Text.SameUpToCase m method

instance (g : DoubleSubmit) (method : String) : Decidable (g.Exempts method) :=
  inferInstanceAs (Decidable (∃ m ∈ _, _))

/-- The id that a request repeats, empty if there is none that can be read. A key that is no
header name finds none. -/
def supplied (g : DoubleSubmit) (h : HeaderMap) : String :=
  ((HeaderName.ofString? g.headerKey).bind h.text?).getD ""

/-- Whether a request must repeat the id of its claims. -/
def Applies (g : DoubleSubmit) (method : String) (c : Claims) (channel : Channel) : Prop :=
  ¬ g.disabled ∧ ¬ g.Exempts method ∧ channel = .cookie ∧ c.user.isSome

instance (g : DoubleSubmit) (method : String) (c : Claims) (channel : Channel) :
    Decidable (g.Applies method c channel) := inferInstanceAs (Decidable (_ ∧ _))

/-- Passes a request that need not repeat the id or repeats it. An empty id is never repeated. -/
def check (g : DoubleSubmit) (method : String) (h : HeaderMap) (c : Claims) (channel : Channel) :
    Except TokenError Unit :=
  if g.Applies method c channel ∧ (c.id = "" ∨ g.supplied h ≠ c.id) then .error .xsrfMismatch
  else .ok ()

end DoubleSubmit

end SignedSession
