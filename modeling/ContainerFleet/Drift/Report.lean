import ContainerFleet.Data.Value
import ContainerFleet.Drift.Correlation

namespace ContainerFleet

/-- What was created at `created` is older than `grace`, in nanoseconds. What was created in the
future never is, unless the grace is negative. -/
def isPastGrace (created now : Timestamp) (grace : Int) : Bool := grace < now.since created

structure StaleNode where
  node : String
  container : String
deriving DecidableEq, Repr

def StaleNode.toData (s : StaleNode) : Data :=
  .table [("node", .text s.node), ("container", .text s.container)]

structure Drift where
  /-- Containers without a live node, older than the grace. -/
  orphans : List Mapped
  /-- Containers without a live node that may still get one. -/
  inGrace : List Mapped
  stale : List StaleNode
deriving DecidableEq, Repr

namespace Drift

def isConverged (d : Drift) : Bool := d.orphans.isEmpty && d.inGrace.isEmpty && d.stale.isEmpty

def between (m : Correlation) (live : Dict String) (now : Timestamp) (grace : Int) : Drift :=
  let loose := m.containers.filter fun c => !live.contains c.node
  { orphans := loose.filter fun c => isPastGrace c.created now grace
    inGrace := loose.filter fun c => !isPastGrace c.created now grace
    stale := live.toList.filterMap fun e => if m.wasSeen e.2 then none else some ⟨e.1, e.2⟩ }

end Drift

end ContainerFleet
