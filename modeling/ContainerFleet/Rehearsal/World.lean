import ContainerFleet.Fleet.Job
import ContainerFleet.Rehearsal.Site
import ContainerFleet.Settings

namespace ContainerFleet

inductive Actor where
  | operation
  | task (n : Nat)
deriving DecidableEq, Repr

structure Flight where
  actor : Actor
  /-- The part of the actor's job that made the call. -/
  part : Nat
  fault : Fault
  due : Nat
deriving DecidableEq, Repr

structure Timer where
  due : Nat
  actor : Actor
deriving DecidableEq, Repr

inductive LoopKind where
  | watchdog
  | reaper
  | janitor
deriving DecidableEq, Repr

def LoopKind.all : List LoopKind := [watchdog, reaper, janitor]

def LoopKind.name : LoopKind → String
  | watchdog => "watchdog"
  | reaper => "reaper"
  | janitor => "janitor"

def LoopKind.ofName? (s : String) : Option LoopKind := all.find? (·.name = s)

inductive LoopPhase where
  | fresh
  /-- It lets the first tick pass. -/
  | skipping (next : Duration)
  | ticking (next : Duration)
  | busy (next : Duration) (j : Job)

structure Loop where
  kind : LoopKind
  /-- It takes the time of day from a clock that is far ahead. -/
  ahead : Bool
  /-- The last signal that it has noticed. -/
  noticed : Nat
  phase : LoopPhase := .fresh

inductive Task where
  | creation (id : NodeId) (j : Job)
  | loop (l : Loop)

/-- A fleet whose runtimes are in memory and whose clock moves only when all its activities wait.
Timers count whole milliseconds. -/
structure World where
  fleet : Fleet
  state : State
  sites : Dict Site := .empty
  /-- The endpoints at which no client can be made. -/
  unserved : List String := []
  listDelay : Option Nat := none
  createDelay : Option Nat := none
  sweepEvery : Duration := .ofSecs 300
  reapEvery : Duration := .ofSecs 60
  /-- The time of day at the start. -/
  epoch : Timestamp
  /-- How far the time of day runs ahead of the clock, in nanoseconds. -/
  skew : Int := 0
  ticks : Duration := .zero
  /-- The millisecond up to which timers have gone off. -/
  checked : Nat := 0
  timers : List Timer := []
  flights : List Flight := []
  tasks : List (Nat × Task) := []
  nextTask : Nat := 0
  ready : List Nat := []
  queue : List Nat := []
  /-- The value that the ids of nodes come after. -/
  idBase : Nat := 0
  ordered : Nat := 0
  /-- All plans made so far, and whether their outcomes have been taken. -/
  plans : List (Plan × Bool) := []
  /-- How creations ended; none if they died. -/
  outcomes : List (NodeId × Option Creation.Result) := []
  /-- The loops that ended, and whether they ended well. -/
  ended : List (Nat × Bool) := []
  /-- The loops that were started and not joined yet. -/
  handles : List Nat := []
  signals : Nat := 0
  signal : Bool := false
  /-- How many registrations the scheduler still refuses. -/
  refusals : Nat := 0
  /-- How many clients may still be made, if there is a limit. -/
  connectsLeft : Option Nat := none
  connects : Nat := 0
  /-- The calls made, the last one first. -/
  calls : List (String × Call) := []

namespace World

def start (f : Fleet) (clientIdle : Duration) (workers : Nat) (epoch : Timestamp) : World :=
  { fleet := f
    state := .initial clientIdle workers
    sites := Dict.ofList (f.clouds.map fun c => (c.endpoint.uri, {}))
    epoch }

def start? (f : Fleet) (clientIdle : Duration) (workers : Nat) (epoch : Timestamp) : Option World :=
  if workers ≤ Settings.maxWorkers then some (start f clientIdle workers epoch) else none

def withhold (w : World) (uris : List String) : World :=
  { w with unserved := uris, sites := w.sites.filter fun uri _ => !uris.contains uri }

def farAhead : Duration := .ofSecs 100000000000

def wall (w : World) : Timestamp := { nanos := w.epoch.nanos + w.ticks.nanos + w.skew }

def refusal (w : World) (k : ClientKey) : Option RuntimeError :=
  if w.connectsLeft = some 0 then some (.invalidEndpoint k.uri "connection refused")
  else if w.unserved.contains k.uri then
    some (.invalidEndpoint k.uri "no runtime registered for this endpoint")
  else none

def moment (w : World) (ahead : Bool) : Moment :=
  { wall := if ahead then w.wall.add farAhead else w.wall
    ticks := w.ticks
    refusal := w.refusal
    freshId := ⟨.ofNat (w.idBase + w.ordered + 1)⟩ }

def wake (w : World) (n : Nat) : World :=
  if w.ready.contains n then w else { w with ready := w.ready ++ [n] }

def spawn (w : World) (t : Task) : World :=
  { w with
    tasks := w.tasks ++ [(w.nextTask, t)]
    ready := w.ready ++ [w.nextTask]
    nextTask := w.nextTask + 1 }

def setTask (w : World) (n : Nat) (t : Task) : World :=
  { w with tasks := w.tasks.map fun e => if e.1 = n then (n, t) else e }

def dropTask (w : World) (n : Nat) : World := { w with tasks := w.tasks.filter (·.1 ≠ n) }

def setTimer (w : World) (a : Actor) (due : Nat) : World :=
  if w.timers.contains ⟨due, a⟩ then w
  else
    let (before, after) := w.timers.span (·.due ≤ due)
    { w with timers := before ++ ⟨due, a⟩ :: after }

/-- Counts an attempt to make a client, if there was one and it was not refused beforehand. -/
def countConnect (w : World) (before : Pool) : World :=
  if before.dialled = w.state.pool.dialled ∨ w.connectsLeft = some 0 then w
  else { w with connects := w.connects + 1, connectsLeft := w.connectsLeft.map (· - 1) }

/-- Takes over the state that an activity left. Permits that are free go to the first creations that
wait for one. -/
def adopt (w : World) (s : State) : World :=
  let before := w.state
  let w := { w with state := s }.countConnect before.pool
  (w.queue.take s.permits).foldl wake w

def order (w : World) (o : Order) : World :=
  { w with ordered := w.ordered + 1 }.spawn (.creation o.id (.creation o .queued))

inductive Got (α : Type) where
  | answer (a : α)
  | blocked
  | died

def awaitPermit (w : World) : Actor → Got Unit × World
  | .operation => (.answer (), w)
  | .task n =>
    let queue := if w.queue.contains n then w.queue else w.queue ++ [n]
    if queue.idxOf n < w.state.permits then
      (.answer (), { w with queue := queue.filter (· ≠ n) })
    else (.blocked, { w with queue })

def delay (w : World) : CallKind → Option Nat
  | .list => w.listDelay
  | .create => w.createDelay
  | _ => none

def now (w : World) : Nat := w.ticks.millis

def complete (w : World) (uri : String) (c : Call) (f : Fault) : Got c.Outcome × World :=
  let (o, site) := ((w.sites.get? uri).getD {}).complete w.wall c f
  (.answer o, { w with sites := w.sites.insert uri site })

def awaitFlight (w : World) (a : Actor) (part : Nat) (uri : String) (c : Call) (f : Flight) :
    Got c.Outcome × World :=
  if f.due ≤ w.checked then
    { w with flights := w.flights.filter fun x => !(x.actor = a && x.part = part) }.complete
      uri c f.fault
  else (.blocked, w)

def makeCall (w : World) (a : Actor) (part : Nat) (uri : String) (c : Call) :
    Got c.Outcome × World :=
  let w := { w with calls := (uri, c) :: w.calls }
  let (issued, site) := ((w.sites.get? uri).getD { reachable := false }).issue w.wall uri c
  let w := { w with sites := w.sites.insert uri site }
  match issued with
  | .answered o => (.answer o, w)
  | .died => (.died, w)
  | .accepted fault =>
    match w.delay c.kind with
    | none => w.complete uri c fault
    | some d =>
      let flight : Flight := { actor := a, part, fault, due := w.now + d }
      if flight.due ≤ w.checked then w.complete uri c fault
      else (.blocked, { w with flights := flight :: w.flights }.setTimer a flight.due)

def await (w : World) (a : Actor) (part : Nat) : (x : Wait) → Got x.Answer × World
  | .turn => (.answer (), w)
  | .lock cloud => (if w.state.locked.contains cloud then .blocked else .answer (), w)
  | .permit => w.awaitPermit a
  | .admission =>
    if w.refusals = 0 then (.answer true, w)
    else (.answer false, { w with refusals := w.refusals - 1 })
  | .call uri c =>
    match w.flights.find? fun x => x.actor = a && x.part = part with
    | some f => w.awaitFlight a part uri c f
    | none => w.makeCall a part uri c

inductive Driven where
  | waiting (j : Job)
  | ended (r : JobResult)
  | died

def take (w : World) (t : Turn Job JobResult) : Progress Job JobResult × World :=
  (t.progress, t.ordered.foldl order (w.adopt t.state))

def ground (w : World) (a : Actor) : World :=
  { w with flights := w.flights.filter (·.actor ≠ a) }

def drive (a : Actor) (ahead : Bool) : Nat → Nat → Job → World → Driven × World
  | 0, _, j, w => (.waiting j, w)
  | fuel + 1, first, j, w =>
    match (j.pending w.fleet).find? (first ≤ ·.1) with
    | none => (.waiting j, w)
    | some (i, p) =>
      match w.await a i p.wait with
      | (.blocked, w) => drive a ahead fuel (i + 1) j w
      | (.died, w) => (.died, (w.adopt (j.abandon w.state (w.moment ahead))).ground a)
      | (.answer x, w) =>
        match w.take (p.resume w.state (w.moment ahead) x) with
        | (.done r, w) => (.ended r, w)
        | (.wait j, w) => drive a ahead fuel i j w

def patience : Nat := 1000000

end World

end ContainerFleet
