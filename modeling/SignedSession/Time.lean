/-!
Instants and durations to the nanosecond. An instant lies in the years that a calendar date can
name, and adding a duration fails rather than leaves them.
-/
namespace SignedSession

def nanosPerSecond : Nat := 1000000000

structure Duration where
  nanos : Int
  deriving DecidableEq, Repr

namespace Duration

def ofMillis (ms : Int) : Duration := ⟨ms * 1000000⟩

def ofSeconds (s : Int) : Duration := ⟨s * 1000000000⟩

def ofMinutes (m : Int) : Duration := ofSeconds (m * 60)

def ofDays (d : Int) : Duration := ofSeconds (d * 86400)

def zero : Duration := ⟨0⟩

/-- Whole seconds, toward zero. -/
def wholeSeconds (d : Duration) : Int := d.nanos.tdiv 1000000000

/-- Whole milliseconds, toward zero. -/
def wholeMillis (d : Duration) : Int := d.nanos.tdiv 1000000

/-- The longest number of seconds, either way, that a duration can have: one whose milliseconds
fit a signed 64-bit word. -/
def maxSeconds : Nat := 9223372036854775

end Duration

/-- The first and the last second of an instant, counted from 1970. -/
def Instant.firstSecond : Int := -8334601228800

def Instant.lastSecond : Int := 8210266876799

/-- A second and the nanoseconds passed in it. -/
structure Instant where
  seconds : Int
  nanos : Nat
  nanos_lt : nanos < nanosPerSecond
  seconds_mem : Instant.firstSecond ≤ seconds ∧ seconds ≤ Instant.lastSecond
  deriving DecidableEq, Repr

namespace Instant

def ofSeconds? (s : Int) (nanos : Nat) : Option Instant :=
  if h : nanos < nanosPerSecond ∧ firstSecond ≤ s ∧ s ≤ lastSecond then
    some ⟨s, nanos, h.1, h.2⟩
  else none

def epoch : Instant := ⟨0, 0, by decide, by decide⟩

/-- Nanoseconds since the epoch. -/
def totalNanos (t : Instant) : Int := t.seconds * nanosPerSecond + t.nanos

/-- The instant a duration later, unless the calendar ends before. -/
def add? (t : Instant) (d : Duration) : Option Instant :=
  let n := t.totalNanos + d.nanos
  ofSeconds? (n.fdiv nanosPerSecond) (n.fmod nanosPerSecond).toNat

/-- The second of an instant as a machine word, which holds all of them. -/
def timestamp (t : Instant) : Int64 := Int64.ofInt t.seconds

theorem toInt_timestamp (t : Instant) : t.timestamp.toInt = t.seconds := by
  have h := t.seconds_mem
  simp only [firstSecond, lastSecond] at h
  exact Int64.toInt_ofInt_of_le (by omega) (by omega)

end Instant

end SignedSession
