import ContainerFleet.Proofs.BusyNodes
import ContainerFleet.Proofs.SweepEffect
import ContainerFleet.Proofs.SweepHistory

namespace ContainerFleet

namespace CloudSweep

variable {f : Fleet} {c : Cloud} {nodes : Registry} {now : Timestamp} {ys : List Sighting}
  {report : SweepReport} {node id : String}

theorem stale_iff (h : SameFindings report (verdict f c nodes now ys)) :
    ⟨node, id⟩ ∈ report.stale ↔
      (∃ n, nodes.get? node = some n ∧ n.cloud = c.name ∧
        (n.state = .registered ∨ n.state = .running) ∧ n.containerId = id) ∧ Overlooked ys id := by
  obtain ⟨removed, removalFailures, rfl⟩ := h
  change ⟨node, id⟩ ∈
    (Drift.between (Findings.of ys).map (live c nodes) now (graceSpan f.grace)).stale ↔ _
  rw [Drift.mem_stale, get?_live, wasSeen_eq_false_iff (mirrors_of ys)]

end CloudSweep

def Strand.swept? : Strand → Option FleetReport
  | .ended (.swept r) => some r
  | _ => none

theorem Strand.eq_of_swept? {x : Strand} {r : FleetReport} (h : x.swept? = some r) :
    x = .ended (.swept r) := by
  unfold swept? at h
  split at h
  · obtain rfl := Option.some.inj h
    rfl
  · cases h

namespace Scene

variable {f : Fleet} {may : String → Dict String → Bool} {s s' : Scene} {moves : List Move} {k : Nat}
  {r : FleetReport} {name : CloudName} {report : SweepReport}

/-- The sweep reports just those nodes as stale that were live when it began and whose containers had
vanished, were not listed, or carry the name of a node with which another container was matched. -/
theorem play_stale_iff (hk : s.strands.length ≤ k) (h : s.play f may moves = some s')
    (hr : s'.strands[k]? = some (.ended (.swept r))) (hrep : (name, .ok report) ∈ r.results) :
    ∃ i c nodes after ys, f.clouds[i]? = some c ∧ c.name = name ∧
      Looked f may s moves k nodes after ∧
      CloudSweep.Examined f c (Told f may s moves k i c.endpoint.uri) ys [] ∧
      ∀ node id, ⟨node, id⟩ ∈ report.stale ↔
        (∃ n, nodes.get? node = some n ∧ n.cloud = name ∧
          (n.state = .registered ∨ n.state = .running) ∧ n.containerId = id) ∧
        CloudSweep.Overlooked ys id := by
  obtain ⟨nodes, strands, hcourse, hreport⟩ := play_history hk h hr
  obtain ⟨after, hlooked, hparts⟩ := hcourse.parts
  obtain ⟨⟨c, p⟩, hx, rfl, rfl⟩ := ((Sweep.report_some hreport).2.1 name _).1 hrep
  obtain ⟨i, hi⟩ := List.mem_iff_getElem?.1 hx
  have hc := hcourse.getElem?_clouds hi
  cases hparts i _ hi with
  | @swept ys m _ examined compared found =>
    exact ⟨i, c, nodes, after, ys, hc, rfl, hlooked, examined, fun _ _ => CloudSweep.stale_iff found⟩

/-- Two containers carry the name of one node, which stands for the second one. -/
def twins : Scene :=
  { state := { State.initial (.ofSecs 300) 8 with
      registry := Dict.empty.insert "n1" { Node.sample with containerId := "c2" } }
    sites := fun _ => (Memory.empty.insert .sample).insert { Container.sample with id := "c2" } }

def twinsSwept : List Move :=
  [.sweep, .goOn 0 0 (.sample 1) true, .goOn 0 0 (.sample 1) true] ++ Move.callOnce 0 (.sample 1) ++
    Move.callOnce 0 (.sample 1) ++ Move.callOnce 0 (.sample 1)

/-- The container is still there when its node has been reported as stale. -/
theorem play_stale_iff_twins : ∃ s r report,
    twins.play .one (fun _ _ => false) twinsSwept = some s ∧
    s.strands[0]? = some (.ended (.swept r)) ∧ (CloudName.sample, .ok report) ∈ r.results ∧
    ⟨"n1", "c2"⟩ ∈ report.stale ∧ ((s.sites "tcp://h:1").get? "c2").isSome = true ∧
    ∃ i c ys, CloudSweep.Examined .one c
      (Told .one (fun _ _ => false) twins twinsSwept 0 i c.endpoint.uri) ys [] ∧
      CloudSweep.Overlooked ys "c2" := by
  let report : SweepReport :=
    { mapped := 1, stale := [⟨"n1", "c2"⟩], ignored := [.duplicateNode "n1" "c1" "c2"] }
  have hrun : (twins.play .one (fun _ _ => false) twinsSwept).map (fun s =>
      ((s.strands[0]?.bind Strand.swept?).map (·.results),
        ((s.sites "tcp://h:1").get? "c2").isSome)) =
      some (some [(CloudName.sample, .ok report)], true) := by decide
  obtain ⟨s, hs, hfacts⟩ := Option.map_eq_some_iff.1 hrun
  obtain ⟨hswept, hthere⟩ := Prod.ext_iff.1 hfacts
  obtain ⟨r, hr, hresults⟩ := Option.map_eq_some_iff.1 hswept
  obtain ⟨x, hx, hr⟩ := Option.bind_eq_some_iff.1 hr
  obtain rfl := Strand.eq_of_swept? hr
  have hrep : (CloudName.sample, .ok report) ∈ r.results := by
    rw [hresults]
    exact List.mem_cons_self
  have hstale : (⟨"n1", "c2"⟩ : StaleNode) ∈ report.stale := List.mem_cons_self
  obtain ⟨i, c, _, _, ys, _, _, _, hexamined, hiff⟩ := play_stale_iff (Nat.zero_le 0) hs hx hrep
  exact ⟨s, r, report, hs, hx, hrep, hstale, hthere, i, c, ys, hexamined, ((hiff _ _).1 hstale).2⟩

end Scene

end ContainerFleet
