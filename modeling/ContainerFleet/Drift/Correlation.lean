import ContainerFleet.Data.Value
import ContainerFleet.Time.Timestamp

namespace ContainerFleet

structure Mapped where
  id : String
  node : String
  status : String
  created : Timestamp
deriving DecidableEq, Repr

def Mapped.toData (c : Mapped) : Data :=
  .table [("container", .text c.id), ("node", .text c.node), ("status", .text c.status),
    ("created_ms", .int c.created.millis)]

inductive CorrelationError where
  | duplicateContainer (id : String)
  | duplicateNode (node existing refused : String)
deriving DecidableEq, Repr

def CorrelationError.message : CorrelationError → String
  | duplicateContainer id => s!"container {id} already mapped"
  | duplicateNode node existing refused =>
    s!"node '{node}' already mapped to container {existing}, refusing {refused}"

inductive Skip where
  | missingStatus
  | missingNodeName
deriving DecidableEq, Repr

def Skip.all : List Skip := [missingStatus, missingNodeName]

def Skip.name : Skip → String
  | missingStatus => "missing_status"
  | missingNodeName => "missing_node_name"

/-- Which container belongs to which node, both ways, and which containers were seen without being
matched. -/
structure Correlation where
  byContainer : Dict Mapped := .empty
  byNode : Dict String := .empty
  skipped : Dict Unit := .empty
deriving DecidableEq, Repr

namespace Correlation

def empty : Correlation := {}

def register (m : Correlation) (c : Mapped) : Except CorrelationError Correlation :=
  if m.byContainer.contains c.id then .error (.duplicateContainer c.id)
  else match m.byNode.get? c.node with
    | some existing => .error (.duplicateNode c.node existing c.id)
    | none => .ok { m with
        byContainer := m.byContainer.insert c.id c
        byNode := m.byNode.insert c.node c.id }

def skip (m : Correlation) (id : String) : Correlation :=
  { m with skipped := m.skipped.insert id () }

def nodeName? (m : Correlation) (id : String) : Option String :=
  (m.byContainer.get? id).map (·.node)

def containerId? (m : Correlation) (node : String) : Option String := m.byNode.get? node

def contains (m : Correlation) (id : String) : Bool := m.byContainer.contains id

def wasSeen (m : Correlation) (id : String) : Bool := m.contains id || m.skipped.contains id

def containers (m : Correlation) : List Mapped := m.byContainer.values

def size (m : Correlation) : Nat := m.byContainer.size

def isEmpty (m : Correlation) : Bool := m.byContainer.isEmpty

end Correlation

end ContainerFleet
