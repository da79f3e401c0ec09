import SignedSession.Json.Value
import SignedSession.Time

/-!
What a session token says: who it was issued for, by and to, when it is valid, and the user and
the state of a login that it carries. A user has free-form attributes: JSON values under names. The
entries, and the members of every object in them, stand in order of their names, so that one set of
attributes has one form.
-/
namespace SignedSession

open Json

structure Attributes where
  entries : List (String × Value)
  ordered : (Value.obj entries).Ordered

namespace Attributes

def empty : Attributes := ⟨[], ascendingKeys_nil, trivial⟩

instance : Inhabited Attributes := ⟨empty⟩

@[ext] theorem ext {a b : Attributes} (h : a.entries = b.entries) : a = b := by
  cases a; cases b; simp_all

/-- Attributes from members in any order; of several with one name the last stays. -/
def ofMembers (ms : List (String × Value)) : Attributes :=
  ⟨sortMembers (Value.sortEach ms), Value.ordered_sortKeys (.obj ms)⟩

/-- Members that are in order are kept as they are. -/
theorem ofMembers_entries (a : Attributes) : ofMembers a.entries = a :=
  Attributes.ext (Value.obj.inj (Value.sortKeys_of_ordered _ a.ordered))

def isEmpty (a : Attributes) : Bool := a.entries.isEmpty

def size (a : Attributes) : Nat := a.entries.length

def get? (a : Attributes) (name : String) : Option Value := a.entries.lookup name

/-- Puts a value under a name, in place of one that is there. -/
def insert (a : Attributes) (name : String) (v : Value) (h : v.Ordered) : Attributes where
  entries := insertKey name v a.entries
  ordered := ⟨a.ordered.1.insertKey name v, Value.orderedEach_iff.2 fun m hm =>
    (mem_insertKey hm).elim (fun e => e ▸ h) (Value.orderedEach_iff.1 a.ordered.2 m)⟩

/-- A flag, false if there is none of that name or the value is not one. -/
def flag (a : Attributes) (name : String) : Bool := ((a.get? name).bind Value.bool?).getD false

/-- A text, empty if there is none of that name or the value is not one. -/
def text (a : Attributes) (name : String) : String := ((a.get? name).bind Value.str?).getD ""

def setFlag (a : Attributes) (name : String) (b : Bool) : Attributes :=
  a.insert name (.bool b) trivial

def setText (a : Attributes) (name : String) (s : String) : Attributes :=
  a.insert name (.str s) trivial

end Attributes

structure User where
  name : String
  id : String
  picture : String := ""
  audience : String := ""
  ip : String := ""
  email : String := ""
  attributes : Attributes := .empty
  role : String := ""

/-- The state of a login while another party asks the user who they are, and the address to go
back to after it. -/
structure Handshake where
  state : String
  returnTo : String
  id : String
  deriving DecidableEq, Repr

/-- Times are seconds since 1970. The first of the audiences is the one the token is for. -/
structure Claims where
  subject : Option String := none
  issuer : Option String := none
  audiences : List String := []
  expiry : Option Int64 := none
  notBefore : Option Int64 := none
  issuedAt : Option Int64 := none
  tokenId : Option String := none
  user : Option User := none
  sessionOnly : Bool := false
  handshake : Option Handshake := none
  withoutAvatar : Bool := false
  provider : Option String := none

namespace User

/-- Whether the attribute that marks administrators is set. -/
def isAdmin (u : User) : Bool := u.attributes.flag "admin"

def setFlag (u : User) (name : String) (b : Bool) : User :=
  { u with attributes := u.attributes.setFlag name b }

def setText (u : User) (name s : String) : User :=
  { u with attributes := u.attributes.setText name s }

end User

namespace Claims

/-- Claims with nothing but a token id. -/
def new (tokenId : String) : Claims := { tokenId := some tokenId }

def audience (c : Claims) : Option String := c.audiences.head?

/-- The token id, empty if there is none. -/
def id (c : Claims) : String := c.tokenId.getD ""

/-- Claims are expired from the second of their expiry on, and always if they have none. -/
def IsExpired (c : Claims) (now : Instant) : Prop :=
  match c.expiry with
  | some e => e.toInt ≤ now.seconds
  | none => True

instance (c : Claims) (now : Instant) : Decidable (c.IsExpired now) := by
  unfold IsExpired; split <;> infer_instance

/-- The instant of the expiry, unless no calendar date names it. -/
def expiresAt (c : Claims) : Option Instant := c.expiry.bind fun e => Instant.ofSeconds? e.toInt 0

def forAudience (c : Claims) (audience : String) : Claims := { c with audiences := [audience] }

def forSubject (c : Claims) (subject : String) : Claims := { c with subject := some subject }

def forUser (c : Claims) (user : User) : Claims := { c with user := some user }

/-- Sets the expiry to the second of an instant. -/
def expiringAt (c : Claims) (t : Instant) : Claims := { c with expiry := some t.timestamp }

def keepSessionOnly (c : Claims) (b : Bool) : Claims := { c with sessionOnly := b }

def duringHandshake (c : Claims) (h : Handshake) : Claims := { c with handshake := some h }

def byProvider (c : Claims) (name : String) : Claims := { c with provider := some name }

def hideAvatar (c : Claims) : Claims := { c with withoutAvatar := true }

end Claims

end SignedSession
