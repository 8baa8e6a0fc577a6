import ContainerFleet.Rehearsal.World

namespace ContainerFleet.World

/-- The first millisecond at which an instant has passed. -/
def dueAt (d : Duration) : Nat := (d.nanos + 999999) / 1000000

def period (w : World) : LoopKind → Duration
  | .watchdog => w.sweepEvery
  | .reaper => w.reapEvery
  | .janitor => w.state.pool.purgePeriod

def purge (w : World) : Nat × World :=
  let (n, pool) := w.state.pool.purge w.ticks
  (n, { w with state := { w.state with pool } })

def loopJob? (w : World) (l : Loop) : Option Job :=
  match l.kind with
  | .watchdog => some (.sweep .looking)
  | .reaper => some (.reap (.looking (w.moment l.ahead).wall))
  | .janitor => none

/-- Carries a loop on until it waits or ends. The result says whether it ended, and if so, whether
it ended well. A loop without a period dies at once. -/
def runLoop (n : Nat) : Nat → Loop → World → Option Bool × Loop × World
  | 0, l, w => (none, l, w)
  | fuel + 1, l, w =>
    match l.phase with
    | .fresh =>
      if w.period l.kind = .zero then (some false, l, w)
      else runLoop n fuel
        { l with phase := if l.kind = .janitor then .ticking w.ticks else .skipping w.ticks } w
    | .skipping next =>
      if dueAt next ≤ w.checked then
        runLoop n fuel { l with phase := .ticking (next + w.period l.kind) } w
      else (none, l, w.setTimer (.task n) (dueAt next))
    | .ticking next =>
      if l.noticed < w.signals then
        if w.signal then (some true, l, w)
        else runLoop n fuel { l with noticed := w.signals } w
      else if dueAt next ≤ w.checked then
        let next := next + w.period l.kind
        match w.loopJob? l with
        | some j => runLoop n fuel { l with phase := .busy next j } w
        | none => runLoop n fuel { l with phase := .ticking next } w.purge.2
      else (none, l, w.setTimer (.task n) (dueAt next))
    | .busy next j =>
      match drive (.task n) l.ahead patience 0 j w with
      | (.waiting j, w) => (none, { l with phase := .busy next j }, w)
      | (.ended _, w) => runLoop n fuel { l with phase := .ticking next } w
      | (.died, w) => (some false, l, w)

def runTask (w : World) (n : Nat) : World :=
  match w.tasks.lookup n with
  | none => w
  | some (.creation id j) =>
    match drive (.task n) false patience 0 j w with
    | (.waiting j, w) => w.setTask n (.creation id j)
    | (.ended (.created r), w) => { w with outcomes := (id, some r) :: w.outcomes }.dropTask n
    | (_, w) => { w with outcomes := (id, none) :: w.outcomes }.dropTask n
  | some (.loop l) =>
    match runLoop n patience l w with
    | (none, l, w) => w.setTask n (.loop l)
    | (some well, _, w) => { w with ended := (n, well) :: w.ended }.dropTask n

def runTasks : Nat → World → World
  | 0, w => w
  | fuel + 1, w =>
    match w.ready with
    | [] => w
    | n :: rest => runTasks fuel ({ w with ready := rest }.runTask n)

def checkTimers (w : World) : World :=
  let (due, later) := w.timers.span (·.due ≤ w.now)
  due.foldl (fun w t => match t.actor with
      | .task n => w.wake n
      | .operation => w)
    { w with timers := later, checked := w.now }

def skipAhead? (w : World) : Option World :=
  match w.timers with
  | [] => none
  | t :: _ => some { w with ticks := w.ticks + Duration.ofMillis (t.due - w.now) }.checkTimers

/-- Carries an operation on until it ends. Tasks go on while it waits, and time passes when all wait.
An operation that waits for what never comes yields none. -/
def block {σ α : Type} (poll : σ → World → Progress σ α × World) :
    Nat → σ → World → Option α × World
  | 0, _, w => (none, w)
  | fuel + 1, s, w =>
    match poll s w with
    | (.done a, w) => (some a, w)
    | (.wait s, w) =>
      match poll s (runTasks patience w) with
      | (.done a, w) => (some a, w)
      | (.wait s, w) =>
        if w.ready.isEmpty then
          match w.skipAhead? with
          | none => (none, w)
          | some w => block poll fuel s w
        else block poll fuel s w

def runJob (w : World) (ahead : Bool) (j : Job) : Option JobResult × World :=
  let (r, w) := block (fun j w => match drive .operation ahead patience 0 j w with
      | (.waiting j, w) => (.wait j, w)
      | (.ended r, w) => (.done (some r), w)
      | (.died, w) => (.done none, w)) patience j w
  (r.join, w)

end ContainerFleet.World
