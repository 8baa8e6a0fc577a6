import ContainerFleet.Proofs.FirstFit
import ContainerFleet.Proofs.Provenance
import ContainerFleet.Proofs.SweepEffect

namespace ContainerFleet

namespace CloudSweep

variable {f : Fleet} {c : Cloud} {nodes : Registry} {now : Timestamp} {span : Int}
  {xs : List Container} {x : Container}

structure Clear (xs : List Container) : Prop where
  marked : ∀ x ∈ xs, x.status.isSome = true ∧ x.node?.isSome = true
  apart : xs.Pairwise (·.node? ≠ ·.node?)

theorem Clear.of_concat (h : Clear (xs ++ [x])) : Clear xs ∧ x.standsAfter xs = true := by
  obtain ⟨hxs, -, hx⟩ := List.pairwise_append.1 h.apart
  obtain ⟨hstatus, hnode⟩ := h.marked x (List.mem_append_right _ List.mem_cons_self)
  have hall : xs.all (·.node? ≠ x.node?) = true :=
    List.all_eq_true.2 fun y hy => decide_eq_true (hx y hy x List.mem_cons_self)
  refine ⟨⟨fun y hy => h.marked y (List.mem_append_left _ hy), hxs⟩, ?_⟩
  rw [Container.standsAfter, hstatus, hnode, hall]
  rfl

theorem Clear.eligible_eq (h : Clear xs) : eligible xs = xs := by
  induction xs using List.reverseRecOn with
  | nil => rfl
  | append_singleton xs x ih =>
    obtain ⟨hxs, hx⟩ := h.of_concat
    rw [eligible_concat, ih hxs, if_pos hx]

theorem note_skipped (found : Findings) {status node : String} (hs : x.status = some status)
    (hn : x.node? = some node) :
    (note found x).skipped = found.skipped ∧ (note found x).map.skipped = found.map.skipped := by
  have hd : x.details.labels.get? Identity.nodeNameKey = some node := hn
  simp only [note, hs, correlate, hd]
  split
  · rename_i m hm
    unfold Correlation.register at hm
    split at hm
    · cases hm
    · split at hm
      · cases hm
      · obtain rfl := Except.ok.inj hm
        exact ⟨rfl, rfl⟩
  · exact ⟨rfl, rfl⟩

theorem Clear.skipped_eq (h : Clear xs) :
    (findings xs).skipped = [] ∧ (findings xs).map.skipped = .empty := by
  induction xs using List.reverseRecOn with
  | nil => exact ⟨rfl, rfl⟩
  | append_singleton xs x ih =>
    obtain ⟨hstatus, hnode⟩ := h.marked x (List.mem_append_right _ List.mem_cons_self)
    obtain ⟨status, hs⟩ := Option.isSome_iff_exists.1 hstatus
    obtain ⟨node, hn⟩ := Option.isSome_iff_exists.1 hnode
    obtain ⟨hskipped, hmap⟩ := note_skipped (findings xs) hs hn
    rw [findings_concat, hskipped, hmap]
    exact ih h.of_concat.1

theorem Clear.inGrace_eq (h : Clear xs) (hs : xs.Pairwise (·.id < ·.id)) :
    (Drift.between (findings xs).map (live c nodes) now span).inGrace.map (·.id) =
      (xs.filter fun x => !decide (span < now.since x.created) && !x.node?.any (isLive c nodes)).map
        (·.id) := by
  have hv : (findings xs).map.containers = xs.map (·.mapped) := by
    rw [Correlation.containers, Dict.values, (findings_matched hs).containers, h.eligible_eq,
      List.map_map]
    rfl
  have hnode : ∀ x ∈ xs, x.node? = some x.mapped.node := fun x hx =>
    node?_of_mem_eligible (h.eligible_eq.symm ▸ hx)
  simp only [Drift.between, hv, List.filter_map, List.filter_filter, List.map_map]
  congr 1
  refine List.filter_congr fun x hx => ?_
  simp only [Function.comp_apply, hnode x hx, Option.any_some, contains_live, isPastGrace]
  rfl

theorem wasSeen_owned {m : Memory} (hk : m.Keyed) (h : Clear (m.owned f c).values) (id : String) :
    (findings (m.owned f c).values).map.wasSeen id = ((m.owned f c).get? id).isSome := by
  have hid : ∀ e ∈ (m.owned f c).entries, e.2.id = e.1 := fun e he =>
    hk e.1 e.2 (Memory.get?_owned.1 (Dict.get?_eq_some_iff.2 he)).1
  have hmap : (findings (m.owned f c).values).map.byContainer =
      (m.owned f c).map fun _ x => x.mapped := by
    apply Dict.ext
    rw [(findings_matched hk.sorted_owned).containers, h.eligible_eq, Dict.values, List.map_map]
    exact List.map_congr_left fun e he => by simp [hid e he]
  rw [Correlation.wasSeen, h.skipped_eq.2, Correlation.contains, hmap, Dict.contains, Dict.get?_map,
    Option.isSome_map]
  exact Bool.or_false _

theorem mem_live {name id : String} (h : (name, id) ∈ (live c nodes).toList) :
    ∃ n, nodes.get? name = some n ∧ n.containerId = id ∧ n.cloud = c.name ∧
      isLive c nodes name = true := by
  have hget : (live c nodes).get? name = some id := Dict.get?_eq_some_iff.2 h
  have hlive : (live c nodes).contains name = true := by rw [Dict.contains, hget]; rfl
  rw [contains_live] at hlive
  rw [live, Dict.get?_map, Dict.get?_filter] at hget
  obtain ⟨n, hn, rfl⟩ := Option.map_eq_some_iff.1 hget
  obtain ⟨hn, hcloud⟩ := Option.filter_eq_some_iff.1 hn
  simp only [Bool.and_eq_true, decide_eq_true_eq] at hcloud
  exact ⟨n, hn, rfl, hcloud.1, hlive⟩

end CloudSweep

namespace Stage

/-- Containers of the fleet, one for each node, and nodes that know their containers. -/
structure Sound (f : Fleet) (g : Stage) : Prop where
  keyed : ∀ uri, (g.sites uri).Keyed
  containers : ∀ uri id x, (g.sites uri).get? id = some x →
    x.status.isSome = true ∧ x.node?.isSome = true ∧
      ∃ c ∈ f.clouds, c.endpoint.uri = uri ∧ f.owns c x.labels = true
  apart : ∀ uri id id' x x', (g.sites uri).get? id = some x → (g.sites uri).get? id' = some x' →
    x.node? = x'.node? → id = id'
  nodes : ∀ c ∈ f.clouds, ∀ k n, g.state.registry.get? k = some n → n.cloud = c.name →
    n.name = k ∧ ∀ x, (g.sites c.endpoint.uri).get? n.containerId = some x →
      f.owns c x.labels = true ∧ x.node? = some k

structure Works (f : Fleet) (m : Moment) (g : Stage) : Prop where
  leases : ∀ c ∈ f.clouds, m.refusal c.endpoint = none
  lists : ∀ c ∈ f.clouds, (g.sites c.endpoint.uri).isBroken .list = false
  removes : ∀ c ∈ f.clouds, (g.sites c.endpoint.uri).isBroken .remove = false

/-- The container is one of a cloud, and older than the span, but its node is not live there. -/
def Orphaned (f : Fleet) (m : Moment) (span : Int) (g : Stage) (uri : String) (x : Container) :
    Prop :=
  ∃ c ∈ f.clouds, c.endpoint.uri = uri ∧ f.owns c x.labels = true ∧
    x.node?.any (CloudSweep.isLive c g.state.registry) = false ∧ span < m.wall.since x.created

variable {f : Fleet} {m : Moment} {g g' : Stage} {span : Int} {c : Cloud} {uri id : String}
  {x : Container}

theorem Sound.clear (h : g.Sound f) (uri : String) :
    CloudSweep.Clear ((g.sites uri).owned f c).values := by
  have hget : ∀ x ∈ ((g.sites uri).owned f c).values, (g.sites uri).get? x.id = some x := fun x hx =>
    (Memory.get?_owned.1 ((h.keyed uri).get?_of_mem hx)).1
  constructor
  · intro x hx
    obtain ⟨hs, hn, -⟩ := h.containers uri x.id x (hget x hx)
    exact ⟨hs, hn⟩
  · refine (h.keyed uri).sorted_owned.imp_of_mem fun {x y} hx hy hlt he => ?_
    exact String.lt_irrefl _ (h.apart uri x.id y.id x y (hget x hx) (hget y hy) he ▸ hlt)

theorem Sound.mem_orphans (h : g.Sound f) : x ∈ g.orphans f m span c ↔
    (g.sites c.endpoint.uri).get? x.id = some x ∧ f.owns c x.labels = true ∧
      x.node?.any (CloudSweep.isLive c g.state.registry) = false ∧
      span < m.wall.since x.created := by
  have hmem : x ∈ ((g.sites c.endpoint.uri).owned f c).values ↔
      (g.sites c.endpoint.uri).get? x.id = some x ∧ f.owns c x.labels = true := by
    rw [← Memory.get?_owned]
    exact ⟨(h.keyed _).get?_of_mem, fun hx => Dict.mem_values_iff.2 ⟨x.id, hx⟩⟩
  rw [orphans, loose, CloudSweep.loose, (h.clear _).eligible_eq, List.mem_filter, List.mem_filter, hmem]
  simp [and_assoc]

theorem orphaned_iff (hf : (f.clouds.map (·.name)).Nodup) (hc : c ∈ f.clouds)
    (ho : f.owns c x.labels = true) : g.Orphaned f m span c.endpoint.uri x ↔
      x.node?.any (CloudSweep.isLive c g.state.registry) = false ∧
        span < m.wall.since x.created := by
  constructor
  · rintro ⟨d, hd, -, hod, hlive, hage⟩
    have hn : d.name = c.name := by
      by_contra hne
      exact Fleet.not_owns hod hne ho
    obtain rfl := Fleet.cloud_eq hf hd hc (congrArg _ hn)
    exact ⟨hlive, hage⟩
  · exact fun h => ⟨c, hc, rfl, ho, h⟩

theorem isLive_iff {nodes : Registry} {k : String} : CloudSweep.isLive c nodes k = true ↔
    ∃ n, nodes.get? k = some n ∧ n.cloud = c.name ∧
      (n.state = .registered ∨ n.state = .running) := by
  rw [CloudSweep.isLive, Option.any_eq_true]
  simp

section Swept

variable {r : FleetReport} (hs : g.Sound f) (hw : g.Works f m) (h : Swept f m span g g' r)

include hw h in
theorem exists_report (hc : c ∈ f.clouds) : ∃ report, (c.name, .ok report) ∈ r.results := by
  have hin : c.name ∈ r.results.map (·.1) := h.clouds ▸ List.mem_map_of_mem hc
  obtain ⟨⟨n, res⟩, hres, rfl⟩ := List.mem_map.1 hin
  cases res with
  | ok report => exact ⟨report, hres⟩
  | error e =>
    obtain ⟨hrefused, -⟩ | ⟨hbroken, -⟩ := h.failed c hc e hres
    · exact absurd (hw.leases c hc) hrefused
    · rw [hw.lists c hc] at hbroken
      cases hbroken

include hs hw h

/-- The sweep of a sound stage takes the orphans away, and nothing else. -/
theorem get?_swept_iff : (g'.sites uri).get? id = some x ↔
    (g.sites uri).get? id = some x ∧ ¬ g.Orphaned f m span uri x := by
  by_cases hd : g.Condemned f m span r uri id
  · have hleft := h.condemned uri id hd
    obtain ⟨c, hc, rfl, -, y, hy, rfl⟩ := hd
    obtain ⟨hget, ho, horphan⟩ := hs.mem_orphans.1 hy
    have hgone : (g'.sites c.endpoint.uri).get? y.id = none := by
      rw [hleft, hget]
      simp [Memory.remains, hw.removes c hc]
    rw [hgone, hget]
    constructor
    · intro hx
      cases hx
    · rintro ⟨hx, hnot⟩
      obtain rfl := Option.some.inj hx
      exact absurd ⟨c, hc, rfl, ho, horphan⟩ hnot
  · rw [h.others uri id hd]
    refine ⟨fun hx => ⟨hx, ?_⟩, And.left⟩
    rintro ⟨c, hc, rfl, ho, horphan⟩
    have hid : x.id = id := hs.keyed _ id x hx
    exact hd ⟨c, hc, rfl, exists_report hw h hc, x, hs.mem_orphans.2 ⟨hid ▸ hx, ho, horphan⟩, hid⟩

theorem sound_swept : g'.Sound f := by
  have hold : ∀ uri id x, (g'.sites uri).get? id = some x → (g.sites uri).get? id = some x :=
    fun uri id x hx => ((get?_swept_iff hs hw h).1 hx).1
  refine ⟨fun uri id x hx => hs.keyed uri id x (hold uri id x hx),
    fun uri id x hx => hs.containers uri id x (hold uri id x hx),
    fun uri id id' x x' hx hx' => hs.apart uri id id' x x' (hold uri id x hx) (hold uri id' x' hx'),
    fun c hc k n hn hcloud => ?_⟩
  rw [h.registry] at hn
  obtain ⟨hk, hx⟩ := hs.nodes c hc k n hn hcloud
  exact ⟨hk, fun x hx' => hx x (hold _ _ x hx')⟩

theorem values_swept (hf : (f.clouds.map (·.name)).Nodup) (hc : c ∈ f.clouds) :
    ((g'.sites c.endpoint.uri).owned f c).values =
      ((g.sites c.endpoint.uri).owned f c).values.filter fun x =>
        x.node?.any (CloudSweep.isLive c g.state.registry) ||
          !decide (span < m.wall.since x.created) := by
  have howned : (g'.sites c.endpoint.uri).owned f c =
      ((g.sites c.endpoint.uri).owned f c).filter fun _ x =>
        x.node?.any (CloudSweep.isLive c g.state.registry) ||
          !decide (span < m.wall.since x.created) := by
    refine Dict.ext_get? fun id => Option.ext fun x => ?_
    rw [Memory.get?_owned, get?_swept_iff hs hw h, Dict.get?_filter, Option.filter_eq_some_iff,
      Memory.get?_owned, and_right_comm]
    refine and_congr_right fun ⟨_, ho⟩ => ?_
    rw [orphaned_iff hf hc ho]
    cases x.node?.any (CloudSweep.isLive c g.state.registry) <;> simp
  rw [howned, Dict.values, Dict.values, List.filter_map]
  rfl

theorem get?_live (hf : (f.clouds.map (·.name)).Nodup) (hc : c ∈ f.clouds) {k : String} {n : Node}
    (hn : g.state.registry.get? k = some n) (hcloud : n.cloud = c.name)
    (hlive : CloudSweep.isLive c g.state.registry k = true) :
    (g'.sites c.endpoint.uri).get? n.containerId = (g.sites c.endpoint.uri).get? n.containerId := by
  refine Option.ext fun x => (get?_swept_iff hs hw h).trans ⟨And.left, fun hx => ⟨hx, ?_⟩⟩
  obtain ⟨ho, hnode⟩ := (hs.nodes c hc k n hn hcloud).2 x hx
  rw [orphaned_iff hf hc ho, hnode, Option.any_some, hlive]
  exact fun hdead => Bool.noConfusion hdead.1

/-- A second sweep at the same time finds no orphan and reports the rest as the first one did. -/
theorem reportOn_swept (hf : (f.clouds.map (·.name)).Nodup) (hc : c ∈ f.clouds) {m' : Moment}
    (hm : m'.wall = m.wall) (hspan : span = CloudSweep.graceSpan f.grace)
    (gone gone' : List Container) :
    let first := CloudSweep.reportOn f c g.state.registry m (g.sites c.endpoint.uri) gone
    let second := CloudSweep.reportOn f c g'.state.registry m' (g'.sites c.endpoint.uri) gone'
    second.inGrace = first.inGrace ∧ second.skipped = first.skipped ∧ second.stale = first.stale := by
  have hs' : g'.Sound f := sound_swept hs hw h
  have hclear := hs.clear (c := c) c.endpoint.uri
  have hclear' := hs'.clear (c := c) c.endpoint.uri
  refine ⟨?_, hclear'.skipped_eq.1.trans hclear.skipped_eq.1.symm, ?_⟩
  · simp only [CloudSweep.reportOn]
    rw [hclear.inGrace_eq (hs.keyed _).sorted_owned, hclear'.inGrace_eq (hs'.keyed _).sorted_owned,
      h.registry, values_swept hs hw h hf hc, hm, ← hspan, List.filter_filter]
    congr 1
    refine List.filter_congr fun x _ => ?_
    cases x.node?.any (CloudSweep.isLive c g.state.registry) <;>
      cases decide (span < m.wall.since x.created) <;> rfl
  · simp only [CloudSweep.reportOn, Drift.between, h.registry]
    refine List.filterMap_congr fun e he => ?_
    obtain ⟨n, hn, hid, hcloud, hlive⟩ := CloudSweep.mem_live he
    have hget := get?_live hs hw h hf hc hn hcloud hlive
    rw [CloudSweep.wasSeen_owned (hs.keyed _) hclear, CloudSweep.wasSeen_owned (hs'.keyed _) hclear',
      ← hid, Memory.get?_owned_congr hget]

theorem old_swept (hf : (f.clouds.map (·.name)).Nodup) (hspan : span = CloudSweep.graceSpan f.grace)
    (hx : (g'.sites uri).get? id = some x) (hage : f.grace.nanos < m.wall.since x.created) :
    ∃ c ∈ f.clouds, c.endpoint.uri = uri ∧ f.owns c x.labels = true ∧
      ∃ k n, x.node? = some k ∧ g'.state.registry.get? k = some n ∧ n.cloud = c.name ∧
        (n.state = .registered ∨ n.state = .running) := by
  obtain ⟨hold, hstays⟩ := (get?_swept_iff hs hw h).1 hx
  obtain ⟨-, hnode, c, hc, rfl, ho⟩ := hs.containers uri id x hold
  obtain ⟨k, hk⟩ := Option.isSome_iff_exists.1 hnode
  have hlive : CloudSweep.isLive c g.state.registry k = true := by
    by_contra hdead
    refine hstays ((orphaned_iff hf hc ho).2 ⟨?_, ?_⟩)
    · rw [hk, Option.any_some]
      exact Bool.eq_false_iff.2 hdead
    · rw [hspan]
      exact Int.lt_of_le_of_lt (CloudSweep.graceSpan_le _) hage
  rw [← h.registry] at hlive
  obtain ⟨n, hn⟩ := isLive_iff.1 hlive
  exact ⟨c, hc, rfl, ho, k, n, hk, hn⟩

theorem backing_swept (hf : (f.clouds.map (·.name)).Nodup) (hc : c ∈ f.clouds) {k : String} {n : Node}
    (hn : g.state.registry.get? k = some n) (hcloud : n.cloud = c.name)
    (hstate : n.state = .registered ∨ n.state = .running)
    (hx : (g.sites c.endpoint.uri).get? id = some x)
    (hbacks : id = n.containerId ∨ f.owns c x.labels = true ∧ x.node? = some k) :
    (g'.sites c.endpoint.uri).get? id = some x := by
  have hlive : CloudSweep.isLive c g.state.registry k = true :=
    isLive_iff.2 ⟨n, hn, hcloud, hstate⟩
  obtain rfl | ⟨ho, hk⟩ := hbacks
  · rw [get?_live hs hw h hf hc hn hcloud hlive, hx]
  · refine (get?_swept_iff hs hw h).2 ⟨hx, fun horphan => ?_⟩
    have hdead := ((orphaned_iff hf hc ho).1 horphan).1
    rw [hk, Option.any_some, hlive] at hdead
    cases hdead

end Swept

theorem onSweep_of_run (hf : (f.clouds.map (·.name)).Nodup) (hk : ∀ uri, (g.sites uri).Keyed)
    {parts : List Nat} {p : Progress Job JobResult}
    (h : g.run f m (.sweep .looking) parts = some (p, g')) : Sweep.OnSweep f m g p g' :=
  Stage.run_induction (fun _ _ _ _ _ h hs => (Sweep.step_onSweep hf hk h hs).1) .looking h

def Ends (f : Fleet) (m : Moment) (g : Stage) : Prop :=
  ∀ parts j g₁, g.run f m (.sweep .looking) parts = some (.wait j, g₁) →
    ∃ more r g', g.sweep? f m (parts ++ more) = some (r, g')

theorem ends (hf : (f.clouds.map (·.name)).Nodup) (hk : ∀ uri, (g.sites uri).Keyed) : g.Ends f m := by
  intro parts j g₁ h
  have hstep : ∀ g₁ j part p g₂, Sweep.OnSweep f m g (.wait j) g₁ →
      Stage.step f m g₁ j part = some (p, g₂) →
      Sweep.OnSweep f m g p g₂ ∧ Sweep.ahead f g p < Sweep.ahead f g (.wait j) :=
    fun _ _ _ _ _ h hs => Sweep.step_onSweep hf hk h hs
  obtain ⟨more, res, g', hmore⟩ :=
    Stage.exists_run hstep (fun _ _ h => Sweep.exists_step h) (onSweep_of_run hf hk h)
  have hall := Stage.run_append more h
  rw [hmore] at hall
  cases onSweep_of_run hf hk hall with
  | ended underway reported => exact ⟨more, _, g', by rw [Stage.sweep?, hall]⟩

theorem underway_of_sweep (hf : (f.clouds.map (·.name)).Nodup) (hk : ∀ uri, (g.sites uri).Keyed)
    {parts : List Nat} {r : FleetReport} (h : g.sweep? f m parts = some (r, g')) :
    ∃ strands, Sweep.Underway f m g g' strands ∧ Sweep.report? strands = some r := by
  unfold Stage.sweep? at h
  split at h
  · rename_i hend
    obtain ⟨rfl, rfl⟩ := Prod.ext_iff.1 (Option.some.inj h)
    cases onSweep_of_run hf hk hend with
    | ended underway reported => exact ⟨_, underway, reported⟩
  · cases h

end Stage

/-- What a sweep that leads from `g` to `g'` makes of a fleet. -/
structure Converged (f : Fleet) (m : Moment) (g g' : Stage) (r : FleetReport) : Prop where
  old : ∀ uri id x, (g'.sites uri).get? id = some x → f.grace.nanos < m.wall.since x.created →
    ∃ c ∈ f.clouds, c.endpoint.uri = uri ∧ f.owns c x.labels = true ∧
      ∃ k n, x.node? = some k ∧ g'.state.registry.get? k = some n ∧ n.cloud = c.name ∧
        (n.state = .registered ∨ n.state = .running)
  backing : ∀ c ∈ f.clouds, ∀ k n, g.state.registry.get? k = some n → n.cloud = c.name →
    n.state = .registered ∨ n.state = .running → ∀ id x,
      (g.sites c.endpoint.uri).get? id = some x →
      id = n.containerId ∨ f.owns c x.labels = true ∧ x.node? = some k →
      (g'.sites c.endpoint.uri).get? id = some x
  registry : g'.state.registry = g.state.registry
  again : ∀ m', m'.wall = m.wall → (∀ c ∈ f.clouds, m'.refusal c.endpoint = none) →
    g'.Ends f m' ∧ ∀ parts r' g'', g'.sweep? f m' parts = some (r', g'') →
      (∀ uri id, (g''.sites uri).get? id = (g'.sites uri).get? id) ∧
      ∀ c ∈ f.clouds, ∃ report report',
        (c.name, .ok report) ∈ r.results ∧ (c.name, .ok report') ∈ r'.results ∧
        report'.removed = [] ∧ report'.removalFailures = [] ∧ report'.inGrace = report.inGrace ∧
        report'.skipped = report.skipped ∧ report'.stale = report.stale

namespace Stage

variable {f : Fleet} {m : Moment} {g g' : Stage}

theorem converged (hf : (f.clouds.map (·.name)).Nodup) (hs : g.Sound f) (hw : g.Works f m)
    {parts : List Nat} {r : FleetReport} (h : g.sweep? f m parts = some (r, g')) :
    Converged f m g g' r := by
  obtain ⟨strands, hunder, hreport⟩ := underway_of_sweep hf hs.keyed h
  have hswept := Sweep.ended_swept hf hs.keyed hunder hreport
  have hs' : g'.Sound f := sound_swept hs hw hswept
  refine ⟨fun uri id x => old_swept hs hw hswept hf rfl,
    fun c hc k n hn hcloud hstate id x => backing_swept hs hw hswept hf hc hn hcloud hstate,
    hswept.registry, fun m' hwall hleases => ⟨ends hf hs'.keyed, fun parts' r' g'' h' => ?_⟩⟩
  have hbroken : ∀ uri, (g'.sites uri).broken = (g.sites uri).broken :=
    fun uri => (hunder.culled uri).broken
  have hw' : g'.Works f m' := ⟨hleases,
    fun c hc => (Memory.isBroken_congr (hbroken _) _).trans (hw.lists c hc),
    fun c hc => (Memory.isBroken_congr (hbroken _) _).trans (hw.removes c hc)⟩
  obtain ⟨strands', hunder', hreport'⟩ := underway_of_sweep hf hs'.keyed h'
  have hswept' := Sweep.ended_swept hf hs'.keyed hunder' hreport'
  -- The first sweep has left no orphan for the second one.
  have hnone : ∀ uri id x, (g'.sites uri).get? id = some x →
      ¬ g'.Orphaned f m' (CloudSweep.graceSpan f.grace) uri x := by
    intro uri id x hx
    rw [Orphaned, hswept.registry, hwall]
    exact ((get?_swept_iff hs hw hswept).1 hx).2
  refine ⟨fun uri id => Option.ext fun x => (get?_swept_iff hs' hw' hswept').trans
    ⟨And.left, fun hx => ⟨hx, hnone uri id x hx⟩⟩, fun c hc => ?_⟩
  have hdoomed : CloudSweep.doomed f c g'.state.registry m' (g'.sites c.endpoint.uri) = [] := by
    refine List.eq_nil_iff_forall_not_mem.2 fun x hx => ?_
    obtain ⟨hget, ho, horphan⟩ := hs'.mem_orphans.1 hx
    exact hnone _ _ x hget ⟨c, hc, rfl, ho, horphan⟩
  obtain ⟨report, hrep⟩ := exists_report hw hswept hc
  obtain ⟨report', hrep'⟩ := exists_report hw' hswept' hc
  obtain ⟨-, rfl, -⟩ := (Sweep.sweeping_of_result hf hunder hreport hc hrep).of_ok
  obtain ⟨-, rfl, -⟩ := (Sweep.sweeping_of_result hf hunder' hreport' hc hrep').of_ok
  obtain ⟨hgrace, hskipped, hstale⟩ := reportOn_swept hs hw hswept hf hc hwall rfl
    (CloudSweep.doomed f c g.state.registry m (g.sites c.endpoint.uri)) []
  rw [hdoomed] at hrep'
  refine ⟨_, _, hrep, hrep', ?_, ?_, hgrace, hskipped, hstale⟩ <;> simp [CloudSweep.reportOn]

end Stage

namespace Scene

variable {f : Fleet} {m : Moment} {s : Scene}

def stage (s : Scene) : Stage := { state := s.state, sites := s.sites }

theorem Sourced.stage (hf : (f.clouds.map (·.name)).Nodup) (h : s.Sourced f) : s.stage.Sound f := by
  have hnode {uri : String} {x : Container} {o : Order} (ho : o.Fits f uri x) :
      x.node? = some o.nodeName := by
    rw [Container.node?, ho.labels]
    exact o.get?_nodeNameKey f.owner
  refine ⟨fun uri => (h.sites uri).keyed, fun uri id x hx => ?_, fun uri id id' x x' hx hx' he => ?_,
    fun c hc k n hn hcloud => ?_⟩
  · obtain ⟨o, ho⟩ := (h.sites uri).each id x hx
    refine ⟨ho.status, by rw [hnode ho]; rfl, o.cloud, (Fleet.mem_targets.1 ho.target).1,
      ho.endpoint, ?_⟩
    rw [ho.labels, o.owns_labels]
    exact decide_eq_true rfl
  · obtain ⟨o, ho⟩ := (h.sites uri).each id x hx
    obtain ⟨o', ho'⟩ := (h.sites uri).each id' x' hx'
    rw [hnode ho, hnode ho', ← ho.name, ← ho'.name] at he
    exact (h.sites uri).names id id' x x' hx hx' (Option.some.inj he)
  · obtain ⟨hk, o, ho⟩ := h.nodes k n hn
    have hoc : o.cloud = c :=
      Fleet.cloud_eq hf (Fleet.mem_targets.1 ho.target).1 hc (congrArg _ (ho.cloud.symm.trans hcloud))
    refine ⟨hk, fun x hx => ?_⟩
    obtain ⟨-, -, -, hlabels⟩ := ho.made
    have hl : x.labels = o.labels f.owner := hlabels x (hoc ▸ hx)
    refine ⟨?_, ?_⟩
    · rw [hl, o.owns_labels, hoc]
      exact decide_eq_true rfl
    · rw [Container.node?, hl, ← hk, ho.name]
      exact o.get?_nodeNameKey f.owner

/-- Whatever a fleet that began with nothing has come to, a sweep that nothing keeps from its work
brings its containers and its nodes together. Nodes with one name need not be ruled out, for a runtime
refuses a name that is in use. -/
theorem sweep_converges (hf : (f.clouds.map (·.name)).Nodup) (h : s.Reached f)
    (hw : s.stage.Works f m) : s.stage.Ends f m ∧
      ∀ parts r g', s.stage.sweep? f m parts = some (r, g') → Converged f m s.stage g' r :=
  have hs := h.sourced.stage hf
  ⟨Stage.ends hf hs.keyed, fun _ _ _ hsweep => Stage.converged hf hs hw hsweep⟩

/-- Of two creations one is told that its container was not made, and the other one gets its node, which
takes up a task. -/
def leaking : List Move :=
  .request (.sample 1) none 3 ::
    Move.decideOnce 0 1 ++ Move.decideOnce 0 2 ++ Move.decideOnce 0 2 ++
    [.goOn 1 0 (.sample 3) true, .react 1 0 .epoch (.obeysUnheard (.notFound "n")),
      .goOn 1 0 (.sample 3) true] ++ Move.createOnce 2 4

/-- Past the grace the sweep removes the container without a node, and leaves the other one. -/
theorem sweep_converges_leaking : ∃ s r g', Reached .twoTemplates s ∧
    s.stage.sweep? .twoTemplates { Moment.sample 5 with wall := .ofSecs 61 } (List.replicate 7 0) =
      some (r, g') ∧
    (s.sites "tcp://h:1").containers.keys = ["000000000001", "000000000002"] ∧
    (g'.sites "tcp://h:1").containers.keys = ["000000000002"] ∧
    Converged .twoTemplates { Moment.sample 5 with wall := .ofSecs 61 } s.stage g' r := by
  let m : Moment := { Moment.sample 5 with wall := .ofSecs 61 }
  let name := "docker-00000000000000000000000002"
  have hrun : (sample.play .twoTemplates (fun _ _ => false) leaking).bind (fun s =>
      (s.state.registry.taskStarted name).toOption.bind fun registry =>
        (Stage.sweep? .twoTemplates m ⟨{ s.state with registry }, s.sites, []⟩
          (List.replicate 7 0)).map fun x =>
            ((s.sites "tcp://h:1").containers.keys, (s.sites "tcp://h:1").broken,
              (x.2.sites "tcp://h:1").containers.keys)) =
      some (["000000000001", "000000000002"], [], ["000000000002"]) := by decide +kernel
  obtain ⟨s, hplay, hrun⟩ := Option.bind_eq_some_iff.1 hrun
  obtain ⟨registry, htask, hrun⟩ := Option.bind_eq_some_iff.1 hrun
  obtain ⟨⟨r, g'⟩, hsweep, hkeys⟩ := Option.map_eq_some_iff.1 hrun
  obtain ⟨hbefore, hkeys⟩ := Prod.ext_iff.1 hkeys
  obtain ⟨hbroken, hafter⟩ := Prod.ext_iff.1 hkeys
  have hbroken : (s.sites "tcp://h:1").broken = [] := hbroken
  have htask' : s.state.registry.taskStarted name = .ok registry := by
    cases ht : s.state.registry.taskStarted name with
    | ok registry' =>
      rw [ht] at htask
      rw [Option.some.inj htask]
    | error e =>
      rw [ht] at htask
      cases htask
  have hempty : Reached .twoTemplates sample := .bare ⟨rfl, rfl, rfl⟩ rfl fun _ => rfl
  have hreached : Reached .twoTemplates { s with state := { s.state with registry } } :=
    (hempty.play (by decide) hplay).next
      (x := .adjust s.state.clouds s.state.templates s.state.pool registry)
      (Registry.within_report (.inl htask')) rfl
  have huri : ∀ c ∈ Fleet.twoTemplates.clouds, c.endpoint.uri = "tcp://h:1" := by decide
  have hworks : Stage.Works .twoTemplates m
      (stage { s with state := { s.state with registry } }) := by
    refine ⟨fun _ _ => rfl, fun c hc => ?_, fun c hc => ?_⟩ <;>
    · simp only [stage, Memory.isBroken, huri c hc, hbroken]
      rfl
  exact ⟨_, r, g', hreached, hsweep, hbefore, hafter,
    (sweep_converges (by decide) hreached hworks).2 _ r g' hsweep⟩

end Scene

end ContainerFleet
