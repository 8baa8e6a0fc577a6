import ContainerFleet.Proofs.SweepStrand
import Mathlib.Data.List.Nodup

namespace ContainerFleet.Sweep

variable {f : Fleet} {m : Moment} {g₀ g g₁ : Stage} {strands : List SweepStrand}

theorem report_some {r : FleetReport} (h : report? strands = some r) :
    r.results.map (·.1) = strands.map (·.cloud.name) ∧
      (∀ n res, (n, res) ∈ r.results ↔ ∃ x ∈ strands, x.cloud.name = n ∧ x.progress = .done res) ∧
      ∀ x ∈ strands, ∃ res, x.progress = .done res := by
  obtain ⟨results, hr, rfl⟩ := Option.map_eq_some_iff.1 h
  clear h
  induction strands generalizing results with
  | nil =>
    obtain rfl := Option.some.inj hr
    simp
  | cons x strands ih =>
    obtain ⟨c, p⟩ := x
    cases p with
    | wait p => simp at hr
    | done res =>
      simp only [List.mapM_cons, Option.pure_def, Option.bind_eq_bind, Option.bind_some,
        Option.bind_eq_some_iff, Option.some.injEq] at hr
      obtain ⟨results, hr, rfl⟩ := hr
      obtain ⟨hnames, hmem, hdone⟩ := ih results hr
      refine ⟨by simpa using hnames, fun n res' => ?_, ?_⟩
      · simp [hmem, eq_comm]
      · simpa using hdone

theorem report_none (h : report? strands = none) :
    ∃ x ∈ strands, ∃ p, SweepStrand.progress x = .wait p := by
  have hr := Option.map_eq_none_iff.1 h
  clear h
  induction strands with
  | nil => cases hr
  | cons x strands ih =>
    obtain ⟨c, p⟩ := x
    cases p with
    | wait p => exact ⟨_, List.mem_cons_self, p, rfl⟩
    | done res =>
      simp only [List.mapM_cons, Option.pure_def, Option.bind_eq_bind, Option.bind_some] at hr
      obtain ⟨x, hx, hp⟩ := ih (Option.eq_none_iff_forall_ne_some.2 (by simpa using hr))
      exact ⟨x, List.mem_cons_of_mem _ hx, hp⟩

/-- What has become of the runtimes, as the sweep of each cloud has come to the given place. -/
structure Underway (f : Fleet) (m : Moment) (g₀ g : Stage) (strands : List SweepStrand) : Prop where
  clouds : strands.map (·.cloud) = f.clouds
  registry : g.state.registry = g₀.state.registry
  each : ∀ x ∈ strands, CloudSweep.Sweeping f x.cloud g₀.state.registry m
    (g₀.sites x.cloud.endpoint.uri) ((g.sites x.cloud.endpoint.uri).owned f x.cloud) x.progress
  culled : ∀ uri, (g₀.sites uri).Culls
    (fun _ l => ∃ c ∈ f.clouds, c.endpoint.uri = uri ∧ f.owns c l = true) (g.sites uri)
  calls : ∃ new, g.calls = g₀.calls ++ new ∧ (∀ x ∈ new, x.2.livens = false) ∧
    ∀ uri id, CloudSweep.Struck new uri id ↔
      ∃ x ∈ strands, x.cloud.endpoint.uri = uri ∧ id ∈ CloudSweep.tried x.progress

theorem modify_at {α : Type} {l : List α} {k : Nat} {x : α} (h : l[k]? = some x) :
    ∃ pre post, l = pre ++ x :: post ∧ ∀ u, l.modify k u = pre ++ u x :: post := by
  obtain ⟨hk, rfl⟩ := List.getElem?_eq_some_iff.1 h
  refine ⟨l.take k, l.drop (k + 1), ?_, fun u => List.modify_eq_take_cons_drop hk⟩
  rw [List.getElem_cons_drop, List.take_append_drop]

theorem Underway.goOn (hf : (f.clouds.map (·.name)).Nodup) (hk : ∀ uri, (g₀.sites uri).Keyed)
    {pre post : List SweepStrand} {c : Cloud} {p : CloudSweep.Phase}
    {a : (CloudSweep.wait f c p).Answer}
    (h : Underway f m g₀ g (pre ++ ⟨c, .wait p⟩ :: post))
    (hs : g.serve m.wall (CloudSweep.wait f c p) = some (a, g₁)) :
    Underway f m g₀
      { g₁ with state := (CloudSweep.resume f c g₀.state.registry g₁.state m p a).state }
      (pre ++ ⟨c, (CloudSweep.resume f c g₀.state.registry g₁.state m p a).progress⟩ :: post) ∧
    CloudSweep.ahead ((g₀.sites c.endpoint.uri).owned f c).values.length
        (CloudSweep.resume f c g₀.state.registry g₁.state m p a).progress <
      CloudSweep.ahead ((g₀.sites c.endpoint.uri).owned f c).values.length (.wait p) := by
  have hx := h.each ⟨c, .wait p⟩ (by simp)
  obtain ⟨hstate, hcalls⟩ := Stage.serve_frame hs
  obtain ⟨hsweep, hahead⟩ := CloudSweep.step_sweeping (s := g₁.state) (hk c.endpoint.uri)
    (h.culled c.endpoint.uri).broken hx hs
  have hculls := CloudSweep.step_culls hx hs
  have hc : c ∈ f.clouds := by simp [← h.clouds]
  refine ⟨⟨?_, ?_, fun y hy => ?_, fun uri => ?_, ?_⟩, hahead⟩
  · simp [← h.clouds]
  · rw [CloudSweep.registry_resume, hstate, h.registry]
  · have hother : y ∈ pre ∨ y ∈ post → CloudSweep.Sweeping f y.cloud g₀.state.registry m
        (g₀.sites y.cloud.endpoint.uri) ((g₁.sites y.cloud.endpoint.uri).owned f y.cloud)
        y.progress := by
      intro hin
      have hne : y.cloud.name ≠ c.name := by
        rw [← h.clouds, List.map_map, List.map_append, List.map_cons] at hf
        obtain ⟨_, hpost, hpre⟩ := List.nodup_append.1 hf
        obtain hin | hin := hin
        · exact hpre _ (List.mem_map_of_mem hin) _ List.mem_cons_self
        · intro he
          exact (List.nodup_cons.1 hpost).1 (List.mem_map.2 ⟨y, hin, he⟩)
      have hown : (g₁.sites y.cloud.endpoint.uri).owned f y.cloud =
          (g.sites y.cloud.endpoint.uri).owned f y.cloud :=
        (hculls y.cloud.endpoint.uri).owned_eq fun _ l hl hl' => Fleet.not_owns hl hne hl'.2
      rw [hown]
      exact h.each y (by obtain hin | hin := hin <;> simp [hin])
    obtain hy | hy := List.mem_append.1 hy
    · exact hother (.inl hy)
    · obtain rfl | hy := List.mem_cons.1 hy
      · exact hsweep
      · exact hother (.inr hy)
  · exact (h.culled uri).trans ((hculls uri).imp fun _ l hl => ⟨c, hc, hl⟩)
  · obtain ⟨new, hnew, htame, hstruck⟩ := h.calls
    refine ⟨new ++ (CloudSweep.wait f c p).calls, ?_, ?_, fun uri id => ?_⟩
    · rw [hcalls, hnew, List.append_assoc]
    · intro x hx
      obtain hx | hx := List.mem_append.1 hx
      · exact htame x hx
      · exact Wait.livens_of_mem_calls (CloudSweep.wait_spares p) hx
    · rw [CloudSweep.struck_append, hstruck, CloudSweep.struck_wait]
      simp only [List.mem_append, List.mem_cons, or_and_right, exists_or, exists_eq_left,
        CloudSweep.mem_tried_resume, and_or_left]
      grind

inductive OnSweep (f : Fleet) (m : Moment) (g₀ : Stage) : Progress Job JobResult → Stage → Prop where
  | looking : OnSweep f m g₀ (.wait (.sweep .looking)) g₀
  | sweeping {g : Stage} {strands : List SweepStrand} (underway : Underway f m g₀ g strands)
      (waiting : report? strands = none) :
      OnSweep f m g₀ (.wait (.sweep (.sweeping g₀.state.registry strands))) g
  | ended {g : Stage} {strands : List SweepStrand} {r : FleetReport}
      (underway : Underway f m g₀ g strands) (reported : report? strands = some r) :
      OnSweep f m g₀ (.done (.swept r)) g

def aheadOf (f : Fleet) (g₀ : Stage) (x : SweepStrand) : Nat :=
  CloudSweep.ahead ((g₀.sites x.cloud.endpoint.uri).owned f x.cloud).values.length x.progress

def aheadOfAll (f : Fleet) (g₀ : Stage) : List SweepStrand → Nat
  | [] => 0
  | x :: strands => aheadOf f g₀ x + aheadOfAll f g₀ strands

theorem aheadOfAll_append (pre post : List SweepStrand) :
    aheadOfAll f g₀ (pre ++ post) = aheadOfAll f g₀ pre + aheadOfAll f g₀ post := by
  induction pre with
  | nil => simp [aheadOfAll]
  | cons x pre ih =>
    rw [List.cons_append, aheadOfAll, aheadOfAll, ih]
    omega

def ahead (f : Fleet) (g₀ : Stage) : Progress Job JobResult → Nat
  | .wait (.sweep .looking) =>
    aheadOfAll f g₀ (f.clouds.map fun c => ⟨c, .wait .starting⟩) + 1
  | .wait (.sweep (.sweeping _ strands)) => aheadOfAll f g₀ strands
  | _ => 0

theorem settle_onSweep (h : Underway f m g₀ g strands) :
    OnSweep f m g₀
        ((settle g.state g₀.state.registry strands).map Job.sweep JobResult.swept).progress g ∧
      ahead f g₀ ((settle g.state g₀.state.registry strands).map Job.sweep JobResult.swept).progress ≤
        aheadOfAll f g₀ strands := by
  unfold settle Turn.map
  cases hr : report? strands with
  | none => exact ⟨.sweeping h hr, Nat.le_refl _⟩
  | some r => exact ⟨.ended h hr, Nat.zero_le _⟩

theorem look_underway : Underway f m g₀ g₀ (f.clouds.map fun c => ⟨c, .wait .starting⟩) := by
  refine ⟨by simp [Function.comp_def], rfl, fun x hx => ?_, fun _ => .refl, ?_⟩
  · obtain ⟨c, _, rfl⟩ := List.mem_map.1 hx
    exact .starting
  · refine ⟨[], (List.append_nil _).symm, ?_, fun uri id => ?_⟩
    · intro x hx
      cases hx
    · simp [CloudSweep.Struck, CloudSweep.tried]

theorem mem_pending {nodes : Registry} {i : Nat} {x : Pending Job JobResult}
    (h : (i, x) ∈ (Job.sweep (.sweeping nodes strands)).pending f) :
    ∃ c p, strands[i]? = some ⟨c, .wait p⟩ ∧
      x = Pending.map .sweep .swept ⟨CloudSweep.wait f c p, fun s m a =>
        goOn nodes strands i (CloudSweep.resume f c nodes s m p a)⟩ := by
  obtain ⟨⟨k, y⟩, hy, heq⟩ := List.mem_map.1 h
  obtain ⟨⟨⟨c, q⟩, k'⟩, hk, hsome⟩ := List.mem_filterMap.1 hy
  cases q with
  | done r => cases hsome
  | wait p =>
    obtain ⟨rfl, rfl⟩ := Prod.ext_iff.1 (Option.some.inj hsome)
    obtain ⟨rfl, rfl⟩ := Prod.ext_iff.1 heq
    exact ⟨c, p, List.mem_zipIdx_iff_getElem?.1 hk, rfl⟩

theorem step_onSweep (hf : (f.clouds.map (·.name)).Nodup) (hk : ∀ uri, (g₀.sites uri).Keyed)
    {j : Job} {part : Nat} {p : Progress Job JobResult} {g' : Stage}
    (h : OnSweep f m g₀ (.wait j) g) (hs : g.step f m j part = some (p, g')) :
    OnSweep f m g₀ p g' ∧ ahead f g₀ p < ahead f g₀ (.wait j) := by
  obtain ⟨x, a, g₁, hx, hserve, rfl, rfl⟩ := Stage.step_eq_some hs
  cases h with
  | looking =>
    obtain ⟨rfl, rfl⟩ := Prod.ext_iff.1 (List.mem_singleton.1 hx)
    obtain ⟨_, rfl⟩ := Prod.ext_iff.1 (Option.some.inj hserve)
    have hlook : Underway f m g₀ g₀ (f.clouds.map fun c => ⟨c, .wait .starting⟩) := look_underway
    obtain ⟨hon, hahead⟩ := settle_onSweep hlook
    exact ⟨hon, Nat.lt_succ_of_le hahead⟩
  | @sweeping _ strands underway waiting =>
    obtain ⟨c, q, hk', rfl⟩ := mem_pending hx
    obtain ⟨pre, post, rfl, hmod⟩ := modify_at hk'
    obtain ⟨hunder, hlt⟩ := underway.goOn hf hk hserve
    obtain ⟨hon, hahead⟩ := settle_onSweep hunder
    simp only [Pending.map, goOn, hmod]
    refine ⟨hon, Nat.lt_of_le_of_lt hahead ?_⟩
    simp only [ahead, aheadOfAll_append, aheadOfAll, aheadOf]
    omega

/-- A sweep is never stuck. -/
theorem exists_step {j : Job} (h : OnSweep f m g₀ (.wait j) g) :
    ∃ part, (g.step f m j part).isSome = true := by
  cases h with
  | looking => exact ⟨0, rfl⟩
  | @sweeping _ strands underway waiting =>
    obtain ⟨⟨c, q⟩, hx, p, hp⟩ := report_none waiting
    obtain rfl : q = .wait p := hp
    obtain ⟨k, hk⟩ := List.mem_iff_getElem?.1 hx
    have hmem : (k, (⟨CloudSweep.wait f c p, fun s m a => goOn g₀.state.registry strands k
        (CloudSweep.resume f c g₀.state.registry s m p a)⟩ : Pending Phase FleetReport)) ∈
          pending f (.sweeping g₀.state.registry strands) :=
      List.mem_filterMap.2 ⟨(⟨c, .wait p⟩, k), List.mem_zipIdx_iff_getElem?.2 hk, rfl⟩
    have hlookup : ((Job.sweep (.sweeping g₀.state.registry strands)).pending f).lookup k ≠ none := by
      rw [ne_eq, List.lookup_eq_none_iff]
      intro hnone
      simpa using hnone _ (List.mem_map_of_mem hmem)
    obtain ⟨x, hx⟩ := Option.ne_none_iff_exists'.1 hlookup
    obtain ⟨d, q, _, rfl⟩ := mem_pending (Dict.mem_of_lookup hx)
    refine ⟨k, ?_⟩
    rw [Stage.step, hx]
    cases q <;> rfl

end ContainerFleet.Sweep
