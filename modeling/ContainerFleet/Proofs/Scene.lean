import ContainerFleet.Container.Memory
import ContainerFleet.Definition.Basic
import ContainerFleet.Fleet.Job
import Mathlib.Logic.Function.Basic

namespace ContainerFleet

structure Reply where
  part : Nat
  call : Call
  outcome : call.Outcome

def Reply.outcome? (part : Nat) (c : Call) (r : Reply) : Option c.Outcome :=
  if h : r.part = part ∧ r.call = c then some (h.2 ▸ r.outcome) else none

inductive Strand where
  | underWay (j : Job) (replies : List Reply)
  | ended (r : JobResult)
  | died

namespace Strand

def ofProgress (replies : List Reply) : Progress Job JobResult → Strand
  | .wait j => .underWay j replies
  | .done r => .ended r

def ofOrder (o : Order) : Strand := .underWay (.creation o .queued) []

end Strand

inductive Reaction where
  | obeys
  /-- The call takes effect, but its caller is told that it failed. -/
  | obeysUnheard (e : RuntimeError)
  | refuses (e : RuntimeError)

namespace Memory

def react (m : Memory) (now : Timestamp) (c : Call) : Reaction → c.Outcome × Memory
  | .obeys => m.answer now c
  | .obeysUnheard e => (c.fail e, (m.answer now c).2)
  | .refuses e => (c.fail e, m)

def livensOnly (m : Memory) (p : Dict String → Bool) : Call → Bool
  | .create spec => p spec.labels
  | .start id => (m.get? id).all fun c => p c.labels
  | _ => true

end Memory

/-- The activities of a fleet side by side, and the runtimes that they call. -/
structure Scene where
  state : State
  sites : String → Memory
  strands : List Strand := []

inductive Move where
  | request (m : Moment) (label : Option LabelExpr) (executors : Nat)
  | terminate (name : String)
  | sweep
  | reap (now : Timestamp)
  | react (k part : Nat) (now : Timestamp) (r : Reaction)
  | goOn (k part : Nat) (m : Moment) (admitted : Bool)
  | die (k : Nat) (m : Moment)
  /-- Somebody else calls a runtime. In this way containers also stop and go on their own. -/
  | outside (uri : String) (now : Timestamp) (c : Call)
  | breaks (uri : String) (kinds : List CallKind)
  /-- Operators, the scheduler and time change what is not about capacity. -/
  | adjust (clouds : Dict Availability) (templates : Dict (Dict Availability)) (pool : Pool)
      (registry : Registry)

/-- Others change what is not about capacity. -/
def Move.adjusts : Move → Bool
  | .adjust .. => true
  | _ => false

namespace Scene

variable (f : Fleet)

def grant? (s : State) (admitted : Bool) (part : Nat) (replies : List Reply) :
    (w : Wait) → Option w.Answer
  | .turn => some ()
  | .lock cloud => if s.locked.contains cloud then none else some ()
  | .permit => if s.permits = 0 then none else some ()
  | .admission => some admitted
  | .call _ c => replies.findSome? (·.outcome? part c)

def take (s : Scene) (k : Nat) (replies : List Reply) (t : Turn Job JobResult) : Scene :=
  { s with
    state := t.state
    strands := s.strands.set k (.ofProgress replies t.progress) ++ t.ordered.map .ofOrder }

def enter (s : Scene) (x : Strand) : Scene := { s with strands := s.strands ++ [x] }

def setSite (s : Scene) (uri : String) (m : Memory) : Scene :=
  { s with sites := Function.update s.sites uri m }

def deliver (s : Scene) (k part : Nat) (j : Job) (replies : List Reply) (uri : String) (c : Call)
    (now : Timestamp) (r : Reaction) : Scene :=
  let out := (s.sites uri).react now c r
  { s with strands := s.strands.set k (.underWay j (⟨part, c, out.1⟩ :: replies)) }.setSite uri out.2

def react (s : Scene) (k part : Nat) (now : Timestamp) (r : Reaction) : Option Scene :=
  match s.strands[k]? with
  | some (.underWay j replies) =>
    match ((j.pending f).lookup part).map Pending.wait with
    | some (.call uri c) =>
      if replies.any (·.part = part) then none else some (s.deliver k part j replies uri c now r)
    | _ => none
  | _ => none

def goOn (s : Scene) (k part : Nat) (m : Moment) (admitted : Bool) : Option Scene :=
  match s.strands[k]? with
  | some (.underWay j replies) =>
    match (j.pending f).lookup part with
    | some p =>
      (grant? s.state admitted part replies p.wait).map fun a =>
        s.take k (replies.filter (·.part ≠ part)) (p.resume s.state m a)
    | none => none
  | _ => none

def die (s : Scene) (k : Nat) (m : Moment) : Option Scene :=
  match s.strands[k]? with
  | some (.underWay j _) =>
    some { s with state := j.abandon s.state m, strands := s.strands.set k .died }
  | _ => none

def Waits (s : Scene) (k part : Nat) (uri : String) (c : Call) : Prop :=
  ∃ j replies, s.strands[k]? = some (.underWay j replies) ∧
    ((j.pending f).lookup part).map Pending.wait = some (.call uri c)

/-- What comes of a move, if it is possible. Of the containers at an endpoint, others create and start
only those whose labels `may` allows. -/
def move (may : String → Dict String → Bool) (s : Scene) : Move → Option Scene
  | .request m label executors =>
    let t := Planning.start f s.state m label executors
    some ({ s with state := t.state }.enter
      (.ofProgress [] (t.map Job.planning JobResult.planned).progress))
  | .terminate name => some (s.enter (.underWay (.termination name .lookingUp) []))
  | .sweep => some (s.enter (.underWay (.sweep .looking) []))
  | .reap now => some (s.enter (.underWay (.reap (.looking now)) []))
  | .react k part now r => s.react f k part now r
  | .goOn k part m admitted => s.goOn f k part m admitted
  | .die k m => s.die k m
  | .outside uri now c =>
    if (s.sites uri).livensOnly (may uri) c then
      some (s.setSite uri ((s.sites uri).answer now c).2)
    else none
  | .breaks uri kinds => some (s.setSite uri { s.sites uri with broken := kinds })
  | .adjust clouds templates pool registry =>
    some { s with state := { s.state with clouds, templates, pool, registry } }

def play (may : String → Dict String → Bool) (s : Scene) : List Move → Option Scene
  | [] => some s
  | x :: xs => (s.move f may x).bind fun s => s.play may xs

end Scene

def CloudName.sample : CloudName := ⟨"a", by decide⟩

def TemplateName.sample : TemplateName := ⟨"t", by decide⟩

def Fleet.sample (names : List CloudName) : Fleet :=
  { owner := ⟨.ofNat 1⟩
    clouds := Definition.build ⟨names.map fun name =>
      { name
        uri := "tcp://h:1"
        containerCap := some 1
        templates := [{ name := TemplateName.sample, image := "alpine" }] }⟩
    outageFor := .ofSecs 300
    grace := .ofSecs 60 }

def Fleet.one : Fleet := .sample [CloudName.sample]

def Fleet.two : Fleet := .sample [CloudName.sample, ⟨"b", by decide⟩]

def Moment.sample (n : Nat) : Moment :=
  { wall := .epoch, ticks := .zero, refusal := fun _ => none, freshId := ⟨.ofNat n⟩ }

def Scene.sample : Scene := { state := .initial (.ofSecs 300) 8, sites := fun _ => .empty }

def Node.sample : Node :=
  { id := ⟨.ofNat 1⟩
    name := "n1"
    cloud := CloudName.sample
    template := TemplateName.sample
    containerId := "c1"
    executors := 1
    state := .registered
    launcher := .attach "c1" none
    createdAt := .epoch
    activity := .idle .epoch }

def Stage.sampleSites (broken : List CallKind) : String → Memory := fun _ =>
  { broken
    containers := Dict.empty.insert "c1"
      { id := "c1", name := "n1", image := "alpine", status := some "running", running := true,
        created := .epoch, labels := .empty } }

namespace Move

def callOnce (k : Nat) (m : Moment) : List Move := [.react k 0 m.wall .obeys, .goOn k 0 m true]

def decideOnce (k n : Nat) : List Move :=
  [.goOn k 0 (.sample n) true, .react k 0 .epoch .obeys, .goOn k 0 (.sample n) true]

def createOnce (k n : Nat) : List Move :=
  [.goOn k 0 (.sample n) true, .react k 0 .epoch .obeys, .goOn k 0 (.sample n) true,
    .react k 0 .epoch .obeys, .goOn k 0 (.sample n) true, .goOn k 0 (.sample n) true]

end Move

end ContainerFleet
