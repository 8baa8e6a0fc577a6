import ContainerFleet.Container.Memory
import ContainerFleet.Container.Removal

namespace ContainerFleet

inductive Fault where
  | pass
  | notFound
  | conflict
  | api
  | unavailable
  | timeout
  | panic
  /-- The container goes just before the call. -/
  | vanish
  /-- The container exits as soon as it is started. -/
  | exited
deriving DecidableEq, Repr

namespace Fault

def name : Fault → String
  | pass => "pass"
  | notFound => "not_found"
  | conflict => "conflict"
  | api => "api"
  | unavailable => "unavailable"
  | timeout => "timeout"
  | panic => "panic"
  | vanish => "vanish"
  | exited => "exited"

def all : List Fault :=
  [pass, notFound, conflict, api, unavailable, timeout, panic, vanish, exited]

def ofName? (s : String) : Option Fault := all.find? (·.name = s)

end Fault

def Call.subject : Call → String
  | list _ => ""
  | create spec => spec.name
  | inspect id | start id | stop id _ | remove id _ => id

def Fault.error? (uri subject : String) : Fault → Option RuntimeError
  | notFound => some (.notFound subject)
  | conflict => some (.conflict (subject ++ " is busy"))
  | api => some (.api 500 "server error")
  | unavailable => some (.unavailable "gone fishing")
  | timeout => some (.timeout uri (.ofMillis 1500))
  | _ => none

structure Site where
  memory : Memory := .empty
  /-- The faults of the next calls of a kind, in order. -/
  faults : List (CallKind × List Fault) := []
  /-- The calls that the runtime itself received, the last one first. -/
  received : List CallKind := []
  /-- Nothing answers at an endpoint that cannot be reached. -/
  reachable : Bool := true
deriving DecidableEq, Repr

namespace Site

def count (s : Site) (k : CallKind) : Nat := s.received.count k

def setFaults (s : Site) (k : CallKind) (fs : List Fault) : Site :=
  { s with faults := (k, fs) :: s.faults.filter (·.1 ≠ k) }

def takeFault (s : Site) (k : CallKind) : Fault × Site :=
  match s.faults.lookup k with
  | some (x :: xs) => (x, s.setFaults k xs)
  | _ => (.pass, s)

def answer (s : Site) (now : Timestamp) (c : Call) : c.Outcome × Site :=
  let (o, memory) := s.memory.answer now c
  (o, { s with memory })

def receive (s : Site) (k : CallKind) : Site := { s with received := k :: s.received }

def vanish (s : Site) (now : Timestamp) (id : String) : Bool × Site :=
  let (o, s) := (s.receive .remove).answer now (.remove id ⟨true, false⟩)
  (o.toBool, s)

inductive Issued (c : Call) where
  | answered (o : c.Outcome)
  | died
  | accepted (f : Fault)

def issue (s : Site) (now : Timestamp) (uri : String) (c : Call) : Issued c × Site :=
  let (f, s) := s.takeFault c.kind
  if !s.reachable then (.answered (c.fail (.http "")), s)
  else match f, f.error? uri c.subject with
    | _, some e => (.answered (c.fail e), s)
    | .panic, _ => (.died, s)
    | .vanish, _ => (.accepted f, (s.vanish now c.subject).2.receive c.kind)
    | _, _ => (.accepted f, s.receive c.kind)

def complete (s : Site) (now : Timestamp) (c : Call) (f : Fault) : c.Outcome × Site :=
  let (o, s) := s.answer now c
  match c, f with
  | .start id, .exited => (o, { s with memory := (s.memory.update id (·.stopped)).2 })
  | _, _ => (o, s)

def run (s : Site) (now : Timestamp) (uri : String) (c : Call) : Option c.Outcome × Site :=
  match s.issue now uri c with
  | (.answered o, s) => (some o, s)
  | (.died, s) => (none, s)
  | (.accepted f, s) => let (o, s) := s.complete now c f; (some o, s)

/-- Carries a removal through, which takes three calls at most: the calls made, and how it ended; none
if the caller dies. -/
def carryOut (s : Site) (now : Timestamp) (uri : String) (r : Removal) :
    Nat → Removal.Phase → List Call × Option (Except RuntimeError Removed) × Site
  | 0, _ => ([], none, s)
  | n + 1, p =>
    match s.run now uri (r.call p) with
    | (none, s) => ([r.call p], none, s)
    | (some a, s) =>
      match Removal.resume p (r.reply p a) with
      | .done x => ([r.call p], some x, s)
      | .wait q =>
        let (calls, x, s) := s.carryOut now uri r n q
        (r.call p :: calls, x, s)

end Site

end ContainerFleet
