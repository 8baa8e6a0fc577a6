import ContainerFleet.Proofs.Scene
import ContainerFleet.Proofs.SweepRun

namespace ContainerFleet

namespace Stage

def sweep? (f : Fleet) (m : Moment) (g : Stage) (parts : List Nat) : Option (FleetReport × Stage) :=
  match g.run f m (.sweep .looking) parts with
  | some (.done (.swept r), g') => some (r, g')
  | _ => none

def loose (f : Fleet) (g : Stage) (c : Cloud) : List Container :=
  CloudSweep.loose c g.state.registry ((g.sites c.endpoint.uri).owned f c).values

def orphans (f : Fleet) (m : Moment) (span : Int) (g : Stage) (c : Cloud) : List Container :=
  (g.loose f c).filter fun x => span < m.wall.since x.created

def Condemned (f : Fleet) (m : Moment) (span : Int) (g : Stage) (r : FleetReport) (uri id : String) :
    Prop :=
  ∃ c ∈ f.clouds, c.endpoint.uri = uri ∧ (∃ report, (c.name, .ok report) ∈ r.results) ∧
    ∃ x ∈ g.orphans f m span c, x.id = id

end Stage

/-- What a sweep that leads from `g` to `g'` has to do, where the grace is `span`. -/
structure Swept (f : Fleet) (m : Moment) (span : Int) (g g' : Stage) (r : FleetReport) : Prop where
  clouds : r.results.map (·.1) = f.clouds.map (·.name)
  failed : ∀ c ∈ f.clouds, ∀ e, (c.name, .error e) ∈ r.results →
    (m.refusal c.endpoint ≠ none ∧ ∃ e', e = .client c.name e') ∨
    ((g.sites c.endpoint.uri).isBroken .list = true ∧
      e = .list c.name (Memory.brokenError .list))
  reported : ∀ c ∈ f.clouds, ∀ report, (c.name, .ok report) ∈ r.results →
    (g.sites c.endpoint.uri).isBroken .list = false ∧
    (report.removed, report.removalFailures) =
      if (g.sites c.endpoint.uri).isBroken .remove then ([], (g.orphans f m span c).map (·.id))
      else ((g.orphans f m span c).map (·.id), [])
  calls : ∃ new, g'.calls = g.calls ++ new ∧ (∀ x ∈ new, x.2.livens = false) ∧
    ∀ uri id, CloudSweep.Struck new uri id ↔ g.Condemned f m span r uri id
  condemned : ∀ uri id, g.Condemned f m span r uri id →
    (g'.sites uri).get? id = ((g.sites uri).get? id).bind (g.sites uri).remains
  others : ∀ uri id, ¬ g.Condemned f m span r uri id → (g'.sites uri).get? id = (g.sites uri).get? id
  registry : g'.state.registry = g.state.registry

namespace Sweep

variable {f : Fleet} {m : Moment} {g g' : Stage} {strands : List SweepStrand} {r : FleetReport}
  {c : Cloud} {res : CloudSweep.Result}

theorem sweeping_of_result (hf : (f.clouds.map (·.name)).Nodup) (hu : Underway f m g g' strands)
    (hr : report? strands = some r) (hc : c ∈ f.clouds) (hres : (c.name, res) ∈ r.results) :
    CloudSweep.Sweeping f c g.state.registry m (g.sites c.endpoint.uri)
      ((g'.sites c.endpoint.uri).owned f c) (.done res) := by
  obtain ⟨⟨d, p⟩, hx, hname, rfl⟩ := ((report_some hr).2.1 _ _).1 hres
  have hd : d ∈ f.clouds := hu.clouds ▸ List.mem_map_of_mem hx
  obtain rfl : d = c := Fleet.cloud_eq hf hd hc (congrArg _ hname)
  exact hu.each _ hx

theorem exists_result (hu : Underway f m g g' strands) (hr : report? strands = some r)
    (hc : c ∈ f.clouds) : ∃ res, (c.name, res) ∈ r.results := by
  rw [← hu.clouds] at hc
  obtain ⟨x, hx, rfl⟩ := List.mem_map.1 hc
  obtain ⟨res, hres⟩ := (report_some hr).2.2 x hx
  exact ⟨res, ((report_some hr).2.1 _ _).2 ⟨x, hx, rfl, hres⟩⟩

theorem struck_iff (hf : (f.clouds.map (·.name)).Nodup) (hu : Underway f m g g' strands)
    (hr : report? strands = some r) (uri id : String) :
    (∃ x ∈ strands, x.cloud.endpoint.uri = uri ∧ id ∈ CloudSweep.tried x.progress) ↔
      g.Condemned f m (CloudSweep.graceSpan f.grace) r uri id := by
  constructor
  · rintro ⟨x, hx, rfl, hid⟩
    obtain ⟨res, hres⟩ := (report_some hr).2.2 x hx
    have hmem := ((report_some hr).2.1 _ _).2 ⟨x, hx, rfl, hres⟩
    have hsweep := hu.each x hx
    rw [hres] at hsweep hid
    cases res with
    | error e => cases hid
    | ok report =>
      rw [hsweep.of_ok.2.1, CloudSweep.tried_reportOn] at hid
      obtain ⟨y, hy, rfl⟩ := List.mem_map.1 hid
      exact ⟨x.cloud, hu.clouds ▸ List.mem_map_of_mem hx, rfl, ⟨_, hmem⟩, y, hy, rfl⟩
  · rintro ⟨c, hc, rfl, ⟨report, hrep⟩, y, hy, rfl⟩
    have hsweep := sweeping_of_result hf hu hr hc hrep
    obtain ⟨x, hx, hname, hp⟩ := ((report_some hr).2.1 _ _).1 hrep
    have hxc : x.cloud = c :=
      Fleet.cloud_eq hf (hu.clouds ▸ List.mem_map_of_mem hx) hc (congrArg _ hname)
    refine ⟨x, hx, hxc ▸ rfl, ?_⟩
    rw [hp, hsweep.of_ok.2.1, CloudSweep.tried_reportOn]
    exact List.mem_map_of_mem hy

theorem get?_of_swept (hu : Underway f m g g' strands) {id : String} {x : Container}
    (hx : (g.sites c.endpoint.uri).get? id = some x) (ho : f.owns c x.labels = true) :
    (g'.sites c.endpoint.uri).get? id = ((g'.sites c.endpoint.uri).owned f c).get? id ∧
      ((g.sites c.endpoint.uri).owned f c).get? id = some x := by
  constructor
  · refine (Memory.get?_owned_of fun y hy => ?_).symm
    rw [(hu.culled c.endpoint.uri).labels_eq hx hy]
    exact ho
  · exact Memory.get?_owned.2 ⟨hx, ho⟩

theorem ended_swept (hf : (f.clouds.map (·.name)).Nodup) (hk : ∀ uri, (g.sites uri).Keyed)
    (hu : Underway f m g g' strands) (hr : report? strands = some r) :
    Swept f m (CloudSweep.graceSpan f.grace) g g' r := by
  refine ⟨?_, fun c hc e he => ?_, fun c hc report hrep => ?_, ?_, ?_, fun uri id hnot => ?_, hu.registry⟩
  · rw [(report_some hr).1, ← hu.clouds, List.map_map]
    rfl
  · exact (sweeping_of_result hf hu hr hc he).of_error.2
  · obtain ⟨works, hreport, _⟩ := (sweeping_of_result hf hu hr hc hrep).of_ok
    refine ⟨works, ?_⟩
    rw [hreport, CloudSweep.reportOn]
    split <;> rfl
  · obtain ⟨new, hnew, htame, hstruck⟩ := hu.calls
    exact ⟨new, hnew, htame, fun uri id => (hstruck uri id).trans (struck_iff hf hu hr uri id)⟩
  · rintro _ _ ⟨c, hc, rfl, ⟨report, hrep⟩, x, hx, rfl⟩
    have hown := CloudSweep.get?_of_mem_doomed (hk c.endpoint.uri) (m := m) hx
    obtain ⟨hget, ho⟩ := Memory.get?_owned.1 hown
    obtain ⟨hleft, _⟩ := get?_of_swept hu hget ho
    have hin : x.id ∈ (CloudSweep.doomed f c g.state.registry m (g.sites c.endpoint.uri)).map (·.id) :=
      List.mem_map_of_mem hx
    rw [hleft, (sweeping_of_result hf hu hr hc hrep).of_ok.2.2, CloudSweep.leftOf, if_pos hin, hown,
      hget]
  · cases hget : (g.sites uri).get? id with
    | none =>
      rw [(hu.culled uri).get?_eq fun x hx => ?_, hget]
      rw [hget] at hx
      cases hx
    | some x =>
      by_cases ho : ∃ c ∈ f.clouds, c.endpoint.uri = uri ∧ f.owns c x.labels = true
      · obtain ⟨c, hc, rfl, ho⟩ := ho
        obtain ⟨hleft, hown⟩ := get?_of_swept hu hget ho
        obtain ⟨res, hres⟩ := exists_result hu hr hc
        have hsweep := sweeping_of_result hf hu hr hc hres
        cases res with
        | error e => rw [hleft, hsweep.of_error.1, hown]
        | ok report =>
          have hout : id ∉
              (CloudSweep.doomed f c g.state.registry m (g.sites c.endpoint.uri)).map (·.id) := by
            intro hid
            obtain ⟨y, hy, rfl⟩ := List.mem_map.1 hid
            exact hnot ⟨c, hc, rfl, ⟨_, hres⟩, y, hy, rfl⟩
          rw [hleft, hsweep.of_ok.2.2, CloudSweep.leftOf, if_neg hout, hown]
      · rw [(hu.culled uri).get?_eq fun y hy => ?_, hget]
        rw [Option.some.inj (hy.symm.trans hget)]
        exact ho

end Sweep

variable {f : Fleet} {m : Moment} {g g' : Stage} {r : FleetReport}

theorem Swept.congr {span span' : Int} (h : Swept f m span g g' r)
    (hs : ∀ c ∈ f.clouds, ∀ report, (c.name, .ok report) ∈ r.results →
      g.orphans f m span' c = g.orphans f m span c) : Swept f m span' g g' r := by
  have hc (uri id : String) : g.Condemned f m span' r uri id ↔ g.Condemned f m span r uri id := by
    refine exists_congr fun c => and_congr_right fun hc => and_congr_right fun _ =>
      and_congr_right fun hrep => ?_
    obtain ⟨report, hrep⟩ := hrep
    rw [hs c hc report hrep]
  refine ⟨h.clouds, h.failed, fun c hc report hrep => ?_, ?_, fun uri id hid => ?_,
    fun uri id hid => ?_, h.registry⟩
  · rw [hs c hc report hrep]
    exact h.reported c hc report hrep
  · obtain ⟨new, hnew, htame, hstruck⟩ := h.calls
    exact ⟨new, hnew, htame, fun uri id => (hstruck uri id).trans (hc uri id).symm⟩
  · exact h.condemned uri id ((hc uri id).1 hid)
  · exact h.others uri id fun hin => hid ((hc uri id).2 hin)

/-- Two graces for which a sweep has done the same agree on each container without a live node. -/
theorem Swept.orphans_iff {span span' : Int} (hk : ∀ uri, (g.sites uri).Keyed)
    (h : Swept f m span g g' r) (h' : Swept f m span' g g' r) {c : Cloud} (hc : c ∈ f.clouds)
    {report : SweepReport} (hrep : (c.name, .ok report) ∈ r.results) {x : Container}
    (hx : x ∈ g.loose f c) :
    span < m.wall.since x.created ↔ span' < m.wall.since x.created := by
  have hids : (g.orphans f m span c).map (·.id) = (g.orphans f m span' c).map (·.id) := by
    have he := (h.reported c hc report hrep).2.symm.trans (h'.reported c hc report hrep).2
    split at he
    · exact (Prod.ext_iff.1 he).2
    · exact (Prod.ext_iff.1 he).1
  have hmem (s : Int) : x.id ∈ (g.orphans f m s c).map (·.id) ↔ s < m.wall.since x.created := by
    have hsub : (g.loose f c).Sublist ((g.sites c.endpoint.uri).owned f c).values :=
      List.filter_sublist.trans (CloudSweep.eligible_sublist _)
    constructor
    · intro hin
      obtain ⟨y, hy, hid⟩ := List.mem_map.1 hin
      obtain ⟨hl, hs⟩ := List.mem_filter.1 hy
      have hgy := (hk c.endpoint.uri).get?_of_mem (hsub.subset hl)
      rw [hid, (hk c.endpoint.uri).get?_of_mem (hsub.subset hx)] at hgy
      rw [Option.some.inj hgy]
      exact of_decide_eq_true hs
    · exact fun hs => List.mem_map_of_mem (List.mem_filter.2 ⟨hx, decide_eq_true hs⟩)
  rw [← hmem, ← hmem, hids]

/-- Every sweep comes to an end, whatever the order of its parts, and does what it has to do with the grace
that its ages are compared with. That is not the grace of the fleet just if a container without a live node
is older than the one and not older than the other. -/
theorem sweep_effect (hf : (f.clouds.map (·.name)).Nodup) (hk : ∀ uri, (g.sites uri).Keyed) :
    (∀ parts j g₁, g.run f m (.sweep .looking) parts = some (.wait j, g₁) →
      parts.length ≤ Sweep.ahead f g (.wait (.sweep .looking)) ∧
      ∃ more r g', g.sweep? f m (parts ++ more) = some (r, g')) ∧
    ∀ parts r g', g.sweep? f m parts = some (r, g') →
      Swept f m (CloudSweep.graceSpan f.grace) g g' r ∧
      (Swept f m f.grace.nanos g g' r ↔
        ∀ c ∈ f.clouds, ∀ report, (c.name, .ok report) ∈ r.results → ∀ x ∈ g.loose f c,
          ¬ (CloudSweep.graceSpan f.grace < m.wall.since x.created ∧
            m.wall.since x.created ≤ f.grace.nanos)) := by
  have hstep : ∀ g₁ j part p g₂, Sweep.OnSweep f m g (.wait j) g₁ →
      Stage.step f m g₁ j part = some (p, g₂) →
      Sweep.OnSweep f m g p g₂ ∧ Sweep.ahead f g p < Sweep.ahead f g (.wait j) :=
    fun _ _ _ _ _ h hs => Sweep.step_onSweep hf hk h hs
  have hrun {parts : List Nat} {p : Progress Job JobResult} {g₁ : Stage}
      (h : g.run f m (.sweep .looking) parts = some (p, g₁)) : Sweep.OnSweep f m g p g₁ :=
    Stage.run_induction (fun _ _ _ _ _ h hs => (hstep _ _ _ _ _ h hs).1) .looking h
  refine ⟨fun parts j g₁ h => ⟨?_, ?_⟩, fun parts r g' h => ?_⟩
  · have hle := Stage.length_le_ahead hstep .looking h
    omega
  · obtain ⟨more, res, g', hmore⟩ :=
      Stage.exists_run hstep (fun _ _ h => Sweep.exists_step h) (hrun h)
    have hall := Stage.run_append more h
    rw [hmore] at hall
    cases hrun hall with
    | ended underway reported => exact ⟨more, _, g', by rw [Stage.sweep?, hall]⟩
  · unfold Stage.sweep? at h
    split at h
    · rename_i hend
      obtain ⟨rfl, rfl⟩ := Prod.ext_iff.1 (Option.some.inj h)
      cases hrun hend with
      | ended underway reported =>
        have hswept := Sweep.ended_swept hf hk underway reported
        refine ⟨hswept, fun h c hc report hrep x hx hage => ?_, fun hall => ?_⟩
        · have hlt := (hswept.orphans_iff hk h hc hrep hx).1 hage.1
          omega
        · refine hswept.congr fun c hc report hrep => ?_
          apply List.filter_congr
          intro x hx
          have hx := hall c hc report hrep x hx
          have hle := CloudSweep.graceSpan_le f.grace
          rw [decide_eq_decide]
          omega
    · cases h

def Fleet.patient : Fleet := { Fleet.one with grace := .ofMillis (Word.count 63) }

def Container.sample : Container :=
  { id := "c1"
    name := "n1"
    image := "alpine"
    status := some "running"
    running := true
    created := .ofMillis (-8000000000000000)
    labels := Dict.ofList [(Identity.ownerKey, Fleet.patient.owner.toText), (Identity.cloudKey, "a"),
      (Identity.nodeNameKey, "n1")] }

def Stage.withContainer (x : Container) : Stage :=
  { state := .initial (.ofSecs 300) 8, sites := fun _ => Memory.empty.insert x }

/-- The container is younger than the grace of the fleet, and the sweep removes it. -/
theorem sweep_effect_patient : ∃ (m : Moment) (g' : Stage) (r : FleetReport),
    (Stage.withContainer .sample).sweep? .patient m (List.replicate 6 0) = some (r, g') ∧
    m.wall.since Container.sample.created ≤ Fleet.patient.grace.nanos ∧
    (g'.sites "tcp://h:1").get? "c1" = none ∧
    Swept .patient m (CloudSweep.graceSpan Fleet.patient.grace) (.withContainer .sample) g' r ∧
    ¬ Swept .patient m Fleet.patient.grace.nanos (.withContainer .sample) g' r := by
  let m : Moment := { Moment.sample 1 with wall := .ofMillis 2000000000000000 }
  have hrun : ((Stage.withContainer .sample).sweep? .patient m (List.replicate 6 0)).map
      (fun x => (x.2.sites "tcp://h:1").get? "c1") = some none := by decide
  obtain ⟨⟨r, g'⟩, h, hgone⟩ := Option.map_eq_some_iff.1 hrun
  have hk : ∀ uri, ((Stage.withContainer .sample).sites uri).Keyed := fun _ =>
    Memory.keyed_empty.insert
  have hswept := ((sweep_effect (f := .patient) (m := m) (by decide) hk).2 _ r g' h).1
  refine ⟨m, g', r, h, by decide, hgone, hswept, fun hs => ?_⟩
  have hnone : ∀ c ∈ Fleet.patient.clouds,
      (Stage.withContainer .sample).orphans .patient m Fleet.patient.grace.nanos c = [] := by decide
  have hstays := hs.others "tcp://h:1" "c1" (by
    rintro ⟨c, hc, _, _, x, hx, _⟩
    rw [hnone c hc] at hx
    cases hx)
  rw [hgone] at hstays
  cases hstays

end ContainerFleet
