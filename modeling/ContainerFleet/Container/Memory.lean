import ContainerFleet.Container.Call
import ContainerFleet.Text.Blank

namespace ContainerFleet

structure Container where
  id : String
  name : String
  image : String
  status : Option String
  running : Bool
  created : Timestamp
  labels : Dict String
deriving DecidableEq, Repr

namespace Container

def summary (c : Container) : Summary :=
  { id := c.id, image := c.image, status := c.status, created := c.created, labels := c.labels }

def details (c : Container) : Details :=
  { id := c.id, name := c.name, image := c.image, running := c.running, created := c.created,
    labels := c.labels }

def started (c : Container) : Container := { c with running := true, status := some "running" }

def stopped (c : Container) : Container := { c with running := false, status := some "exited" }

end Container

/-- A container runtime that holds its containers in memory. Each kind of call but an inspection may
be set to fail. -/
structure Memory where
  containers : Dict Container := .empty
  /-- The ids given out so far. -/
  issued : Nat := 0
  broken : List CallKind := []
deriving DecidableEq, Repr

namespace Memory

def empty : Memory := {}

def get? (m : Memory) (id : String) : Option Container := m.containers.get? id

def insert (m : Memory) (c : Container) : Memory :=
  { m with containers := m.containers.insert c.id c }

def setBroken (m : Memory) (k : CallKind) (broken : Bool) : Memory :=
  { m with broken := if broken then k :: m.broken else m.broken.filter (· ≠ k) }

def isBroken (m : Memory) (k : CallKind) : Bool := k ≠ .inspect && m.broken.contains k

def brokenError (k : CallKind) : RuntimeError :=
  .unavailable ("mock runtime configured to fail " ++ k.name)

def idOf (n : Nat) : String := Text.padZero 12 (Text.hex n)

def listed (m : Memory) (f : ListFilter) : List Container :=
  m.containers.values.filter fun c => (f.all || c.running) && f.admits c.labels

def create (m : Memory) (now : Timestamp) (spec : CreateSpec) : Except RuntimeError String × Memory :=
  if m.containers.values.any (·.name = spec.name) then
    (.error (.conflict s!"container name {spec.name} already in use"), m)
  else
    let id := idOf (m.issued + 1)
    (.ok id,
      { m with
        issued := m.issued + 1
        containers := m.containers.insert id
          { id, name := spec.name, image := spec.image, status := some "created", running := false,
            created := now, labels := spec.labels } })

def update (m : Memory) (id : String) (f : Container → Container) :
    Except RuntimeError Unit × Memory :=
  match m.get? id with
  | none => (.error (.notFound id), m)
  | some c => (.ok (), { m with containers := m.containers.insert id (f c) })

/-- A running container goes only by force. -/
def remove (m : Memory) (id : String) (force : Bool) : Except RuntimeError Unit × Memory :=
  match m.get? id with
  | none => (.error (.notFound id), m)
  | some c =>
    if c.running && !force then
      (.error (.conflict s!"container {id} is running, stop it or use force"), m)
    else (.ok (), { m with containers := m.containers.erase id })

def answer (m : Memory) (now : Timestamp) (c : Call) : c.Outcome × Memory :=
  if m.isBroken c.kind then (c.fail (brokenError c.kind), m)
  else match c with
    | .list f => (.ok ((m.listed f).map (·.summary)), m)
    | .inspect id =>
      (match m.get? id with
        | some c => .ok c.details
        | none => .error (.notFound id), m)
    | .create spec => m.create now spec
    | .start id => m.update id (·.started)
    | .stop id _ => m.update id (·.stopped)
    | .remove id options => m.remove id options.force

end Memory

end ContainerFleet
