import ContainerFleet.Data.Value
import ContainerFleet.Time.Duration

namespace ContainerFleet

/-- A stretch of time for which a fault takes a cloud or a template out of use. Instants count from
the start of the clock. -/
structure Outage where
  reason : String
  cause : Option String
  since : Duration
  /-- The first instant at which it is over. -/
  clears : Duration
deriving DecidableEq, Repr

namespace Outage

def elapsed (o : Outage) (now : Duration) : Duration := now - o.since

def remaining (o : Outage) (now : Duration) : Duration := o.clears - now

def toData (o : Outage) (now : Duration) : Data :=
  .table [("reason", .text o.reason), ("cause", .ofText? o.cause),
    ("elapsed_ms", .text (toString (o.elapsed now).millis)),
    ("remaining_ms", .text (toString (o.remaining now).millis))]

end Outage

structure Availability where
  byChoice : Bool := false
  outage : Option Outage := none
deriving DecidableEq, Repr

namespace Availability

def choose (a : Availability) (disabled : Bool) : Availability := { a with byChoice := disabled }

/-- Takes the place out of use until `now + d`. The sum has no bound here; a clock whose instants do have one
stops the program on a larger sum, before anything is changed. -/
def trip (a : Availability) (now : Duration) (reason : String) (d : Duration)
    (cause : Option String) : Availability :=
  { a with outage := some ⟨reason, cause, now, now + d⟩ }

def refresh (a : Availability) (now : Duration) : Availability :=
  { a with outage := a.outage.filter fun o => now < o.clears }

def current? (a : Availability) (now : Duration) : Option Outage := (a.refresh now).outage

def isDisabled (a : Availability) (now : Duration) : Bool :=
  a.byChoice || (a.current? now).isSome

def text (a : Availability) (now : Duration) : String :=
  match a.current? now with
  | some o =>
    (if a.byChoice then "ByChoice," else "") ++
      s!"BySystem,{(o.elapsed now).secs}s ago,{(o.remaining now).secs}s remaining,{o.reason}"
  | none => if a.byChoice then "ByChoice" else "No"

end Availability

end ContainerFleet
