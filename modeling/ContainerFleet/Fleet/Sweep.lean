import ContainerFleet.Fleet.CloudSweep

namespace ContainerFleet

structure SweepStrand where
  cloud : Cloud
  progress : Progress CloudSweep.Phase CloudSweep.Result

structure FleetReport where
  results : List (CloudName × CloudSweep.Result) := []

namespace FleetReport

def clouds (r : FleetReport) : List (CloudName × SweepReport) :=
  r.results.filterMap fun (n, x) => x.toOption.map (n, ·)

def failures (r : FleetReport) : List (CloudName × SweepError) :=
  r.results.filterMap fun
    | (n, .error e) => some (n, e)
    | (_, .ok _) => none

def removed (r : FleetReport) : Nat := r.clouds.foldr (·.2.removed.length + ·) 0

def stale (r : FleetReport) : Nat := r.clouds.foldr (·.2.stale.length + ·) 0

def ignored (r : FleetReport) : List CorrelationError := r.clouds.flatMap (·.2.ignored)

def toData (r : FleetReport) : Data :=
  .table [("clouds", .table (r.clouds.map fun (n, x) => (n.text, x.toData))),
    ("failures", .table (r.failures.map fun (n, e) => (n.text, .text e.message))),
    ("removed", .nat r.removed), ("stale", .nat r.stale),
    ("ignored", .ofTexts (r.ignored.map (·.message)))]

end FleetReport

namespace Sweep

inductive Phase where
  | looking
  | sweeping (nodes : Registry) (strands : List SweepStrand)

variable (f : Fleet)

def report? (strands : List SweepStrand) : Option FleetReport :=
  (strands.mapM fun (x : SweepStrand) => match x.progress with
    | .wait _ => none
    | .done r => some (x.cloud.name, r)).map (⟨·⟩)

def settle (s : State) (nodes : Registry) (strands : List SweepStrand) : Turn Phase FleetReport :=
  { state := s
    progress := match report? strands with
      | some r => .done r
      | none => .wait (.sweeping nodes strands) }

def look (s : State) : Turn Phase FleetReport :=
  settle s s.registry (f.clouds.map fun c => ⟨c, .wait .starting⟩)

def goOn (nodes : Registry) (strands : List SweepStrand) (i : Nat)
    (t : Turn CloudSweep.Phase CloudSweep.Result) : Turn Phase FleetReport :=
  settle t.state nodes (strands.modify i fun x => { x with progress := t.progress })

def pending : Phase → List (Nat × Pending Phase FleetReport)
  | .looking => [(0, ⟨.turn, fun s _ _ => look f s⟩)]
  | .sweeping nodes strands =>
    strands.zipIdx.filterMap fun (x, i) => match x.progress with
      | .done _ => none
      | .wait p =>
        some (i, ⟨CloudSweep.wait f x.cloud p, fun s m a =>
          goOn nodes strands i (CloudSweep.resume f x.cloud nodes s m p a)⟩)

def abandon (s : State) (m : Moment) : Phase → State
  | .looking => s
  | .sweeping _ strands => strands.foldl (fun s x => match x.progress with
      | .wait p => CloudSweep.abandon x.cloud s m p
      | .done _ => s) s

end Sweep

end ContainerFleet
