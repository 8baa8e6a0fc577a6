import ContainerFleet.Fleet.Creation
import ContainerFleet.Fleet.Planning
import ContainerFleet.Fleet.Reap
import ContainerFleet.Fleet.Sweep

namespace ContainerFleet

inductive Job where
  | planning (p : Planning.Phase)
  | creation (o : Order) (p : Creation.Phase)
  | termination (name : String) (p : Termination.Phase)
  | sweep (p : Sweep.Phase)
  | reap (p : Reap.Phase)

inductive JobResult where
  | planned (r : Round)
  | created (r : Creation.Result)
  | terminated (r : Termination.Result)
  | swept (r : FleetReport)
  | reaped (r : ReapReport)

namespace Job

variable (f : Fleet)

/-- What the parts of an activity wait for, by their number. Only a sweep has several parts. -/
def pending : Job → List (Nat × Pending Job JobResult)
  | planning p => [(0, (Planning.pending f p).map .planning .planned)]
  | creation o p => [(0, (Creation.pending f o p).map (.creation o) .created)]
  | termination name p => [(0, (Termination.pending f name p).map (.termination name) .terminated)]
  | sweep p => (Sweep.pending f p).map fun (i, x) => (i, x.map .sweep .swept)
  | reap p => [(0, (Reap.pending f p).map .reap .reaped)]

def abandon (s : State) (m : Moment) : Job → State
  | planning p => Planning.abandon s m p
  | creation o p => Creation.abandon o s m p
  | termination _ p => Termination.abandon s m p
  | sweep p => Sweep.abandon s m p
  | reap p => Reap.abandon s m p

end Job

end ContainerFleet
