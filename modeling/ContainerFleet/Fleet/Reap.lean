import ContainerFleet.Fleet.Termination

namespace ContainerFleet

structure DueNode where
  name : String
  reason : RetentionReason
deriving DecidableEq, Repr

structure ReapReport where
  terminated : List DueNode := []
  failures : Dict ProvisionError := .empty
deriving DecidableEq, Repr

def ReapReport.toData (r : ReapReport) : Data :=
  .table [("terminated", .list (r.terminated.map fun n => .ofTexts [n.name, n.reason.name])),
    ("failures", .table (r.failures.toList.map fun (n, e) => (n, .text e.message)))]

namespace Reap

inductive Phase where
  | looking (now : Timestamp)
  | terminating (n : DueNode) (p : Termination.Phase) (rest : List DueNode) (report : ReapReport)
deriving DecidableEq, Repr

abbrev wait : Phase → Wait
  | .looking _ => .turn
  | .terminating _ p _ _ => Termination.wait p

variable (f : Fleet)

/-- The policy of a node's template; the standard one if the template is not there. -/
def policy (n : Node) : RetentionPolicy :=
  (((f.cloud? n.cloud.text).bind (·.template? n.template.text)).map (·.retention)).getD .standard

/-- Why a node has to go, if it has to. One whose termination was begun goes in any case. -/
def due (now : Timestamp) (n : Node) : Option RetentionReason :=
  if n.state = .terminating then some .idle
  else if n.state.expectsContainer then (policy f n).verdict n.activity now
  else none

def goOn (s : State) (report : ReapReport) : List DueNode → Turn Phase ReapReport
  | [] => { state := s, progress := .done report }
  | n :: rest => { state := s, progress := .wait (.terminating n .lookingUp rest report) }

def look (s : State) (now : Timestamp) : Turn Phase ReapReport :=
  goOn s {} (s.registry.values.filterMap fun n => (due f now n).map (⟨n.name, ·⟩))

def continueWith (n : DueNode) (rest : List DueNode) (report : ReapReport)
    (t : Turn Termination.Phase Termination.Result) : Turn Phase ReapReport :=
  match t.progress with
  | .wait p => { state := t.state, progress := .wait (.terminating n p rest report) }
  | .done (.ok ()) => goOn t.state { report with terminated := report.terminated ++ [n] } rest
  | .done (.error e) =>
    goOn t.state { report with failures := report.failures.insert n.name e } rest

def resume (s : State) (m : Moment) : (p : Phase) → (wait p).Answer → Turn Phase ReapReport
  | .looking now, _ => look f s now
  | .terminating n p rest report, a =>
    continueWith n rest report (Termination.resume f n.name s m p a)

def abandon (s : State) (m : Moment) : Phase → State
  | .looking _ => s
  | .terminating _ p _ _ => Termination.abandon s m p

def pending (p : Phase) : Pending Phase ReapReport := ⟨wait p, fun s m => resume f s m p⟩

end Reap

end ContainerFleet
