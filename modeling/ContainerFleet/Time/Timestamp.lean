import ContainerFleet.Time.Duration

namespace ContainerFleet

/-- An instant of wall-clock time: nanoseconds since 1970-01-01T00:00:00Z. The second that is
inserted at the end of a minute shares its count with the second that follows, and `leap` tells the
two apart. -/
structure Timestamp where
  nanos : Int
  leap : Bool := false
deriving DecidableEq, Repr, Inhabited

namespace Timestamp

def epoch : Timestamp := { nanos := 0 }

def ofSecs (s : Int) : Timestamp := { nanos := s * 1000000000 }

def ofMillis (ms : Int) : Timestamp := { nanos := ms * 1000000 }

def millis (t : Timestamp) : Int := t.nanos / 1000000

/-- The second since the epoch that the instant lies in. An inserted one has the count of the second
before it. -/
def second (t : Timestamp) : Int := t.nanos / 1000000000 - if t.leap then 1 else 0

def secondOfDay (t : Timestamp) : Int := t.second % 86400

/-- An inserted second is left by what does not fit into it, and does not count then. -/
def add (t : Timestamp) (d : Duration) : Timestamp :=
  if t.leap ∧ 1000000000 ≤ t.nanos % 1000000000 + d.nanos then
    { nanos := t.nanos + d.nanos - 1000000000 }
  else { t with nanos := t.nanos + d.nanos }

/-- How long after `earlier` the instant is, in nanoseconds; negative if it is before. The inserted second of
one of the two counts if the other one has a later time of day, whatever their days. -/
def since (t earlier : Timestamp) : Int :=
  t.nanos - earlier.nanos +
    if earlier.leap ∧ earlier.secondOfDay < t.secondOfDay then 1000000000
    else if t.leap ∧ t.secondOfDay < earlier.secondOfDay then -1000000000
    else 0

def elapsed? (t earlier : Timestamp) : Option Duration :=
  if 0 ≤ t.since earlier then some ⟨(t.since earlier).toNat⟩ else none

/-- The first and the last second of the calendar: years -262143 and 262142. -/
def firstSecond : Int := -8334601228800

def lastSecond : Int := 8210266876799

def ofSecs? (s : Int) : Option Timestamp :=
  if firstSecond ≤ s ∧ s ≤ lastSecond then some (ofSecs s) else none

def ofMillis? (ms : Int) : Option Timestamp := (ofSecs? (ms / 1000)).map fun _ => ofMillis ms

end Timestamp

end ContainerFleet
