import ContainerFleet.Fleet.Availability
import ContainerFleet.Fleet.Capacity
import ContainerFleet.Fleet.Cloud
import ContainerFleet.Fleet.Error
import ContainerFleet.Container.Removal

namespace ContainerFleet

structure Fleet where
  owner : FleetId
  clouds : List Cloud
  /-- How long a fault takes a cloud out of use. -/
  outageFor : Duration
  /-- The age up to which a container may still get its node. -/
  grace : Duration
deriving DecidableEq, Repr

def Fleet.cloud? (f : Fleet) (name : String) : Option Cloud := f.clouds.find? (·.name.text = name)

def Fleet.place? (f : Fleet) (cloud : String) (template : Option String) :
    Option (Cloud × Option Template) := do
  let c ← f.cloud? cloud
  match template with
  | none => some (c, none)
  | some name => some (c, some (← c.template? name))

structure Target where
  cloud : Cloud
  template : Template
deriving DecidableEq, Repr

def Fleet.targets (f : Fleet) : List Target :=
  f.clouds.flatMap fun cloud => cloud.templates.map fun template => ⟨cloud, template⟩

structure Order where
  id : NodeId
  target : Target
deriving DecidableEq, Repr

namespace Order

def cloud (o : Order) : Cloud := o.target.cloud

def template (o : Order) : Template := o.target.template

def nodeName (o : Order) : String := o.id.nodeName o.template.nameStem

end Order

structure State where
  clouds : Dict Availability := .empty
  templates : Dict (Dict Availability) := .empty
  /-- The clouds whose capacity is being decided on. -/
  locked : Dict Unit := .empty
  capacity : Capacity := .empty
  pool : Pool
  registry : Registry := .empty
  /-- How many more creations may run at the same time. -/
  permits : Nat
deriving DecidableEq, Repr

structure Moment where
  wall : Timestamp
  ticks : Duration
  /-- Why no client can be made for a key, if none can. -/
  refusal : ClientKey → Option RuntimeError
  /-- An id that no node has. -/
  freshId : NodeId

inductive Wait where
  | turn
  /-- The sole right to decide on the capacity of a cloud. -/
  | lock (cloud : String)
  /-- The permission to create one more node. -/
  | permit
  /-- Whether the scheduler takes one more node. -/
  | admission
  | call (uri : String) (c : Call)
deriving DecidableEq, Repr

abbrev Wait.Answer : Wait → Type
  | .admission => Bool
  | .call _ c => c.Outcome
  | _ => Unit

structure Turn (σ : Type) (α : Type) where
  state : State
  progress : Progress σ α
  /-- The nodes whose creation it started. -/
  ordered : List Order := []

def Turn.map {σ τ α β : Type} (f : σ → τ) (g : α → β) (t : Turn σ α) : Turn τ β :=
  { state := t.state, ordered := t.ordered
    progress := match t.progress with
      | .wait s => .wait (f s)
      | .done a => .done (g a) }

structure Pending (σ : Type) (α : Type) where
  wait : Wait
  resume : State → Moment → wait.Answer → Turn σ α

def Pending.map {σ τ α β : Type} (f : σ → τ) (g : α → β) (p : Pending σ α) : Pending τ β :=
  ⟨p.wait, fun s m a => (p.resume s m a).map f g⟩

namespace State

def cloudAvailability (s : State) (c : Cloud) : Availability :=
  (s.clouds.get? c.name.text).getD { byChoice := c.disabled }

def templateAvailability (s : State) (t : Target) : Availability :=
  (((s.templates.get? t.cloud.name.text).getD .empty).get? t.template.name.text).getD
    { byChoice := t.template.disabled }

def setCloud (s : State) (c : Cloud) (a : Availability) : State :=
  { s with clouds := s.clouds.insert c.name.text a }

def setTemplate (s : State) (t : Target) (a : Availability) : State :=
  let ofCloud := (s.templates.get? t.cloud.name.text).getD .empty
  { s with templates :=
      s.templates.insert t.cloud.name.text (ofCloud.insert t.template.name.text a) }

def isOpen (s : State) (m : Moment) (t : Target) : Bool :=
  !(s.cloudAvailability t.cloud).isDisabled m.ticks &&
    !(s.templateAvailability t).isDisabled m.ticks

def trip (s : State) (f : Fleet) (m : Moment) (c : Cloud) (reason cause : String) : State :=
  s.setCloud c ((s.cloudAvailability c).trip m.ticks reason f.outageFor (some cause))

def lock (s : State) (c : Cloud) : State := { s with locked := s.locked.insert c.name.text () }

def unlock (s : State) (c : Cloud) : State := { s with locked := s.locked.erase c.name.text }

def lease (s : State) (m : Moment) (c : Cloud) : Except PoolError Client × State :=
  let out := s.pool.lease m.ticks c.endpoint (m.refusal c.endpoint)
  (out.1, { s with pool := out.2 })

def giveBack (s : State) (m : Moment) (c : Cloud) : State :=
  { s with pool := (s.pool.release m.ticks c.endpoint).2 }

def reserve (s : State) (t : Target) : State :=
  { s with capacity := s.capacity.reserve t.cloud.name.text t.template.name.text }

def unreserve (s : State) (t : Target) : State :=
  { s with capacity := s.capacity.release t.cloud.name.text t.template.name.text }

end State

/-- The state of a fleet that has done nothing yet. At least one creation may always run. -/
def State.initial (idleFor : Duration) (workers : Nat) : State :=
  { pool := .ofIdle idleFor, permits := max workers 1 }

end ContainerFleet
