import ContainerFleet.Id.Tagged
import ContainerFleet.Id.Name
import ContainerFleet.Node.State
import ContainerFleet.Node.Connector
import ContainerFleet.Node.Retention

namespace ContainerFleet

structure Node where
  id : NodeId
  name : String
  cloud : CloudName
  template : TemplateName
  containerId : String
  executors : Nat
  state : NodeState
  launcher : Launcher
  createdAt : Timestamp
  activity : Activity
deriving DecidableEq, Repr

def Node.toData (n : Node) : Data :=
  .table [("id", .text n.id.toText), ("name", .text n.name), ("cloud", n.cloud.toData),
    ("template", n.template.toData), ("container_id", .text n.containerId),
    ("executors", .nat n.executors), ("state", .text n.state.name),
    ("launcher", n.launcher.toData), ("created_at", .text (Rfc3339.format n.createdAt)),
    ("activity", n.activity.toData)]

inductive RegistryError where
  | alreadyRegistered (name : String)
  | notFound (name : String)
  | invalidTransition (name : String) (source target : NodeState)
  | notBusy (name : String)
deriving DecidableEq, Repr

def RegistryError.message : RegistryError → String
  | alreadyRegistered name => s!"node {name} is already registered"
  | notFound name => s!"node {name} is not registered"
  | invalidTransition name source target =>
    "node " ++ name ++ " cannot move from " ++ source.name ++ " to " ++ target.name
  | notBusy name => s!"node {name} has no task running"

abbrev Registry := Dict Node

namespace Registry

/-- Changes the node `name` as `f` says, or nothing if there is no such node or `f` fails. -/
def update (r : Registry) (name : String) (f : Node → Except RegistryError Node) :
    Except RegistryError Registry :=
  match r.get? name with
  | none => .error (.notFound name)
  | some n => (f n).map (r.insert name)

def register (r : Registry) (n : Node) : Except RegistryError Registry :=
  if r.contains n.name then .error (.alreadyRegistered n.name) else .ok (r.insert n.name n)

/-- Moves a node to another state. To stay in a state is always legal. -/
def setState (r : Registry) (name : String) (s : NodeState) : Except RegistryError Registry :=
  r.update name fun n =>
    if n.state = s then .ok n
    else if n.state.canBecome s then .ok { n with state := s }
    else .error (.invalidTransition name n.state s)

def remove (r : Registry) (name : String) : Except RegistryError (Node × Registry) :=
  match r.get? name with
  | none => .error (.notFound name)
  | some n => .ok (n, r.erase name)

def taskStarted (r : Registry) (name : String) : Except RegistryError Registry :=
  r.update name fun n =>
    .ok { n with
      state := if n.state = .registered then .running else n.state
      activity := { n.activity with busy := n.activity.busy + 1, idleSince := none } }

def taskFinished (r : Registry) (name : String) (now : Timestamp) : Except RegistryError Registry :=
  r.update name fun n =>
    let a := n.activity
    if a.busy = 0 then .error (.notBusy name)
    else .ok { n with
      activity :=
        { busy := a.busy - 1
          completed := a.completed + 1
          idleSince := if a.busy = 1 then some now else a.idleSince } }

end Registry

end ContainerFleet
