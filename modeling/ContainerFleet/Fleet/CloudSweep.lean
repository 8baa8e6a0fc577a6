import ContainerFleet.Container.Removal
import ContainerFleet.Drift.Report
import ContainerFleet.Fleet.State
import ContainerFleet.Text.Blank

namespace ContainerFleet

structure SweepReport where
  mapped : Nat := 0
  skipped : List (String × Skip) := []
  removed : List String := []
  removalFailures : List String := []
  inGrace : List String := []
  stale : List StaleNode := []
  /-- The containers that the map refused. -/
  ignored : List CorrelationError := []
deriving DecidableEq, Repr

def SweepReport.toData (r : SweepReport) : Data :=
  .table [("mapped", .nat r.mapped),
    ("skipped", .list (r.skipped.map fun (id, why) => .ofTexts [id, why.name])),
    ("removed", .ofTexts r.removed), ("removal_failures", .ofTexts r.removalFailures),
    ("in_grace", .ofTexts r.inGrace), ("stale", .list (r.stale.map (·.toData)))]

inductive SweepError where
  | list (cloud : CloudName) (cause : RuntimeError)
  | client (cloud : CloudName) (cause : PoolError)
deriving DecidableEq, Repr

def SweepError.message : SweepError → String
  | list cloud cause => s!"failed to list containers on {cloud}: {cause.message}"
  | client cloud cause => s!"no client for {cloud}: {cause.message}"

namespace CloudSweep

structure Findings where
  map : Correlation := .empty
  /-- The labels of the matched containers. -/
  labels : Dict (Dict String) := .empty
  skipped : List (String × Skip) := []
  ignored : List CorrelationError := []
deriving DecidableEq, Repr

inductive Phase where
  | starting
  | listing
  /-- The container `c`, which has a status, is being looked at. -/
  | inspecting (c : Summary) (status : String) (rest : List Summary) (found : Findings)
  | removing (r : Removal) (p : Removal.Phase) (rest : List Removal) (report : SweepReport)
deriving DecidableEq, Repr

abbrev Result := Except SweepError SweepReport

variable (f : Fleet) (c : Cloud)

def ownFilter : ListFilter :=
  { all := true
    labels := Dict.ofList [
      (Identity.ownerKey, f.owner.toText),
      (Identity.cloudKey, c.name.text)] }

abbrev wait : Phase → Wait
  | .starting => .turn
  | .listing => .call c.endpoint.uri (.list (ownFilter f c))
  | .inspecting s _ _ _ => .call c.endpoint.uri (.inspect s.id)
  | .removing r p _ _ => .call c.endpoint.uri (r.call p)

def Phase.isUnderWay : Phase → Bool
  | starting => false
  | _ => true

/-- The span that ages are compared with, in nanoseconds. Graces of `2 ^ 63` milliseconds or more are
cut to a thousandth of that. -/
def graceSpan (d : Duration) : Int :=
  if d.millis < Word.count 63 then d.millis * 1000000 else (Word.count 63 - 1) / 1000 * 1000000

def live (nodes : Registry) : Dict String :=
  (nodes.filter fun _ n => n.cloud = c.name && n.state.expectsContainer).map fun _ n => n.containerId

/-- The removal of an orphan. A container without a template of the cloud gets ten seconds. -/
def removal (found : Findings) (orphan : Mapped) : Removal :=
  let labels := (found.labels.get? orphan.id).getD .empty
  let template? := (labels.get? Identity.templateKey).bind c.template?
  { id := orphan.id
    timeout := template?.elim (.ofSecs 10) (·.stopTimeout)
    volumes := Identity.removesVolumes labels }

def removeNext (s : State) (m : Moment) (report : SweepReport) : List Removal → Turn Phase Result
  | [] => { state := s.giveBack m c, progress := .done (.ok report) }
  | r :: rest => { state := s, progress := .wait (.removing r .stopping rest report) }

def classify (nodes : Registry) (s : State) (m : Moment) (found : Findings) : Turn Phase Result :=
  let drift := Drift.between found.map (live c nodes) m.wall (graceSpan f.grace)
  removeNext c s m
    { mapped := found.map.size
      skipped := found.skipped
      inGrace := drift.inGrace.map (·.id)
      stale := drift.stale
      ignored := found.ignored }
    (drift.orphans.map (removal c found))

def inspectNext (nodes : Registry) (s : State) (m : Moment) (found : Findings) :
    List Summary → Turn Phase Result
  | [] => classify f c nodes s m found
  | x :: rest =>
    match x.status with
    | some status => { state := s, progress := .wait (.inspecting x status rest found) }
    | none =>
      inspectNext nodes s m
        { found with
          map := found.map.skip x.id
          skipped := found.skipped ++ [(x.id, .missingStatus)] } rest

def correlate (found : Findings) (x : Summary) (status : String) :
    Except RuntimeError Details → Findings
  | .error (.notFound _) => found
  | .error _ => { found with map := found.map.skip x.id }
  | .ok d =>
    match d.labels.get? Identity.nodeNameKey with
    | none =>
      { found with
        map := found.map.skip x.id
        skipped := found.skipped ++ [(x.id, .missingNodeName)] }
    | some node =>
      match found.map.register ⟨x.id, node, status, x.created⟩ with
      | .ok map => { found with map, labels := found.labels.insert x.id d.labels }
      | .error e => { found with ignored := found.ignored ++ [e] }

def start (s : State) (m : Moment) : Turn Phase Result :=
  match s.lease m c with
  | (.error e, s) => { state := s, progress := .done (.error (.client c.name e)) }
  | (.ok _, s) => { state := s, progress := .wait .listing }

def listed (nodes : Registry) (s : State) (m : Moment) :
    Except RuntimeError (List Summary) → Turn Phase Result
  | .error e => { state := s.giveBack m c, progress := .done (.error (.list c.name e)) }
  | .ok containers => inspectNext f c nodes s m {} containers

def remove (s : State) (m : Moment) (r : Removal) (p : Removal.Phase) (rest : List Removal)
    (report : SweepReport) (a : Except RuntimeError Unit) : Turn Phase Result :=
  match Removal.resume p a with
  | .wait p => { state := s, progress := .wait (.removing r p rest report) }
  | .done (.ok _) => removeNext c s m { report with removed := report.removed ++ [r.id] } rest
  | .done (.error _) =>
    removeNext c s m { report with removalFailures := report.removalFailures ++ [r.id] } rest

def resume (nodes : Registry) (s : State) (m : Moment) :
    (p : Phase) → (wait f c p).Answer → Turn Phase Result
  | .starting, _ => start c s m
  | .listing, a => listed f c nodes s m a
  | .inspecting x status rest found, a =>
    inspectNext f c nodes s m (correlate found x status a) rest
  | .removing r p rest report, a => remove c s m r p rest report (r.reply p a)

def abandon (s : State) (m : Moment) (p : Phase) : State :=
  if p.isUnderWay then s.giveBack m c else s

def pending (nodes : Registry) (p : Phase) : Pending Phase Result :=
  ⟨wait f c p, fun s m => resume f c nodes s m p⟩

end CloudSweep

end ContainerFleet
