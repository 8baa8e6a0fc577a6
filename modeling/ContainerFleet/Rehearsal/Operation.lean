import ContainerFleet.Rehearsal.Schedule

namespace ContainerFleet.World

def turnPage (w : World) : World := { w with calls := [] }

def request (w : World) (label : Option LabelExpr) (executors : Nat) : Option Round × World :=
  let finish (r : Round) (w : World) : Option Round × World :=
    (some r, { w with plans := w.plans ++ r.plans.map (·, false) })
  match (Planning.start w.fleet w.state (w.moment false) label executors) with
  | { state, progress := .done r, .. } => finish r (w.adopt state)
  | { state, progress := .wait p, .. } =>
    match (w.adopt state).runJob false (.planning p) with
    | (some (.planned r), w) => finish r w
    | (_, w) => (none, w)

def terminate (w : World) (name : String) : Option Termination.Result × World :=
  match w.runJob false (.termination name .lookingUp) with
  | (some (.terminated r), w) => (some r, w)
  | (_, w) => (none, w)

def sweep (w : World) (ahead : Bool) : Option FleetReport × World :=
  match w.runJob ahead (.sweep .looking) with
  | (some (.swept r), w) => (some r, w)
  | (_, w) => (none, w)

def reap (w : World) (ahead : Bool) : Option ReapReport × World :=
  match w.runJob ahead (.reap (.looking (w.moment ahead).wall)) with
  | (some (.reaped r), w) => (some r, w)
  | (_, w) => (none, w)

/-- How a plan ended, if it did; none inside if its creation died. -/
def outcome? (w : World) : Plan → Option (Option Creation.Result)
  | .failed _ e => some (some (.error e))
  | .pending o => w.outcomes.lookup o.id

def awaitPlans (w : World) (ps : List Plan) : List (Option Creation.Result) × World :=
  let (r, w) := block (fun _ w => match ps.mapM w.outcome? with
      | some rs => (.done rs, w)
      | none => (.wait (), w)) patience () w
  (r.getD [], w)

def settle (w : World) (wanted : Nat → Bool) : List (Option Creation.Result) × World :=
  let untaken := w.plans.zipIdx.filter fun ((_, taken), i) => !taken && wanted i
  let (rs, w) := w.awaitPlans (untaken.map (·.1.1))
  (rs, { w with plans := w.plans.zipIdx.map fun ((p, taken), i) => (p, taken || wanted i) })

def sleep (w : World) (ms : Nat) : World :=
  let due := dueAt (w.ticks + Duration.ofMillis ms)
  let w := if due ≤ w.checked then w else w.setTimer .operation due
  (block (fun _ w => (if due ≤ w.checked then .done () else .wait (), w)) patience () w).2

def advance (w : World) (ms : Nat) : World :=
  (runTasks patience { w with ticks := w.ticks + Duration.ofMillis ms }).checkTimers

def startLoop (w : World) (kind : LoopKind) (ahead : Bool) : World :=
  { w with handles := w.handles ++ [w.nextTask] }.spawn (.loop { kind, ahead, noticed := w.signals })

def startLoops (w : World) (kinds : List LoopKind) (ahead : Bool) : World :=
  kinds.foldl (·.startLoop · ahead) w

def loopTasks (w : World) : List Nat :=
  w.tasks.filterMap fun
    | (n, .loop _) => some n
    | _ => none

def sendSignal (w : World) (value : Bool) : Bool × World :=
  if w.loopTasks.isEmpty then (false, w)
  else (true, w.loopTasks.foldl wake { w with signals := w.signals + 1, signal := value })

def join (w : World) : Nat × World :=
  let (r, w) := block (fun _ w => match w.handles.mapM fun n => w.ended.lookup n with
      | some ends => (.done (ends.count true), w)
      | none => (.wait (), w)) patience () w
  (r.getD 0, { w with handles := [] })

def modifySite (w : World) (uri : String) (f : Site → Site) : World :=
  { w with sites := w.sites.modify uri f }

def insertContainer (w : World) (uri : String) (c : Container) : World :=
  w.modifySite uri fun s => { s with memory := s.memory.insert c }

def vanish (w : World) (uri id : String) : Bool × World :=
  let (gone, site) := ((w.sites.get? uri).getD {}).vanish w.wall id
  (gone, { w with sites := w.sites.insert uri site })

def setRegistry (w : World) (r : Registry) : World := { w with state := { w.state with registry := r } }

def updateRegistry (w : World) (f : Registry → Except RegistryError Registry) :
    Except RegistryError Unit × World :=
  match f w.state.registry with
  | .error e => (.error e, w)
  | .ok r => (.ok (), w.setRegistry r)

def register (w : World) (n : Node) : Except RegistryError Unit × World :=
  match w.await .operation 0 .admission with
  | (.answer true, w) => w.updateRegistry (·.register n)
  | (_, w) => (.error (.alreadyRegistered n.name), w)

def setAvailability (w : World) (c : Cloud) (t? : Option Template) (f : Availability → Availability) :
    World :=
  { w with state := match t? with
    | none => w.state.setCloud c (f (w.state.cloudAvailability c))
    | some t => w.state.setTemplate ⟨c, t⟩ (f (w.state.templateAvailability ⟨c, t⟩)) }

end ContainerFleet.World
