import ContainerFleet.Proofs.Convergence
import ContainerFleet.Proofs.SweepCompany

namespace ContainerFleet

/-- What has become of the pool `p₀` at the moment `m`, from which sweeps have leased the clients of
`held`, and others those of `outer` before. -/
structure Pool.Serves (m : Moment) (outer : List ClientKey) (p₀ : Pool) (held : List ClientKey)
    (p : Pool) : Prop where
  lends : p.Lends (held ++ outer)
  idleFor : p.cache.idleFor = p₀.cache.idleFor
  /-- Where no client can be made, there is one just if there was one. -/
  live : ∀ key, m.refusal key ≠ none →
    (p.cache.live? m.ticks key).isSome = (p₀.cache.live? m.ticks key).isSome

namespace Pool.Serves

variable {m : Moment} {outer held : List ClientKey} {p₀ p : Pool} {key key' : ClientKey}

theorem refl (h : p.Lends outer) : p.Serves m outer [] p := ⟨h, rfl, fun _ _ => rfl⟩

theorem live_lease (h : p₀.Serves m outer held p) (hr : m.refusal key' ≠ none) :
    ((p.lease m.ticks key (m.refusal key)).2.cache.live? m.ticks key').isSome =
      (p₀.cache.live? m.ticks key').isSome := by
  rw [← h.live key' hr]
  by_cases hk : key' = key
  · subst hk
    obtain ⟨cause, hc⟩ := Option.ne_none_iff_exists'.1 hr
    rw [hc]
    exact Pool.isSome_live?_lease h.lends.distinct cause
  · rw [Pool.live?_lease_of_ne h.lends.distinct hk (Nat.le_refl _)]

theorem live_release (h₀ : p₀.Lends outer) (h : p₀.Serves m outer (key :: held) p)
    (hr : m.refusal key' ≠ none) :
    ((p.release m.ticks key).2.cache.live? m.ticks key').isSome =
      (p₀.cache.live? m.ticks key').isSome := by
  by_cases hk : key' = key
  · subst hk
    obtain ⟨v, hv⟩ := h.lends.get?_head
    have hlive : (p₀.cache.live? m.ticks key').isSome = true := by
      rw [← h.live key' hr, Cache.live?_of_active hv]
      rfl
    have hstays : key' ∈ held ++ outer ∨ 0 < p.cache.idleFor.nanos := by
      obtain ⟨e, he, hidle⟩ := Cache.isSome_live?.1 hlive
      cases e with
      | active v n => exact .inl (List.mem_append_right _ (h₀.mem_of_active he))
      | idle v s =>
        rw [h.idleFor]
        exact .inr (Nat.lt_of_le_of_lt (Nat.zero_le _) (hidle v s rfl))
    rw [hlive]
    exact h.lends.isSome_live?_release hstays
  · rw [Pool.live?_release_of_ne h.lends.distinct hk (Nat.le_refl _)]
    exact h.live key' hr

theorem perm {held' : List ClientKey} (h : p₀.Serves m outer held p) (hp : held.Perm held') :
    p₀.Serves m outer held' p := ⟨h.lends.perm (hp.append_right outer), h.idleFor, h.live⟩

theorem proceed {f : Fleet} {c : Cloud} {nodes : Registry} {g g' : Stage} {q : CloudSweep.Phase}
    {x : Progress CloudSweep.Phase CloudSweep.Result} (h₀ : p₀.Lends outer)
    (h : p₀.Serves m outer (q.leases c ++ held) g.state.pool)
    (hx : g.proceed f c nodes m q = some (x, g')) :
    p₀.Serves m outer (x.holds (CloudSweep.Phase.leases c) ++ held) g'.state.pool := by
  have hlends : g'.state.pool.Lends (x.holds (CloudSweep.Phase.leases c) ++ held ++ outer) := by
    obtain ⟨a, g₁, hs, rfl, rfl⟩ := Stage.proceed_eq_some hx
    have hbefore := h.lends
    rw [← (Stage.serve_frame hs).1, List.append_assoc] at hbefore
    rw [List.append_assoc]
    exact CloudSweep.resume_balances q a _ hbefore
  obtain ⟨-, hp⟩ | ⟨hq, -, hp | hp⟩ := Stage.proceed_pool hx
  · refine ⟨hlends, ?_, fun key hr => ?_⟩ <;> rw [hp]
    · exact Pool.idleFor_lease.trans h.idleFor
    · exact h.live_lease hr
  · refine ⟨hlends, ?_, fun key hr => ?_⟩ <;> rw [hp]
    · exact h.idleFor
    · exact h.live key hr
  · have hleases : q.leases c = [c.endpoint] := if_pos hq
    rw [hleases] at h
    refine ⟨hlends, ?_, fun key hr => ?_⟩ <;> rw [hp]
    · exact Pool.idleFor_release.trans h.idleFor
    · exact h.live_release h₀ hr

/-- Who can be leased a client has not changed. -/
theorem refused?_eq {s₀ s : State} {c : Cloud} (h : s₀.pool.Serves m outer held s.pool) :
    s.refused? m c = s₀.refused? m c := by
  unfold State.refused?
  cases hr : m.refusal c.endpoint with
  | none => simp
  | some cause => rw [h.live c.endpoint (by simp [hr])]

end Pool.Serves

namespace CloudSweep

def outcome (f : Fleet) (m : Moment) (g : Stage) (c : Cloud) : Result :=
  let before := g.sites c.endpoint.uri
  match g.state.refused? m c with
  | some e => .error (.client c.name e)
  | none =>
    if before.isBroken .list then .error (.list c.name (Memory.brokenError .list))
    else .ok (reportOn f c g.state.registry m before (doomed f c g.state.registry m before))

def Stands (s₀ : State) (m : Moment) (c : Cloud) (x : Progress Phase Result) : Prop :=
  x = .wait .starting ∨ (s₀.refused? m c = none ∧ Admitted x) ∨
    ∃ e, s₀.refused? m c = some e ∧ x = .done (.error (.client c.name e))

variable {f : Fleet} {c : Cloud} {m : Moment} {g g' : Stage} {s₀ : State} {own : Dict Container}
  {outer held : List ClientKey} {p : Phase} {x : Progress Phase Result} {res : Result}

theorem Stands.proceed {nodes : Registry} (h : Stands s₀ m c (.wait p))
    (hpool : s₀.pool.Serves m outer held g.state.pool) (hx : g.proceed f c nodes m p = some (x, g')) :
    Stands s₀ m c x := by
  obtain ⟨rfl, -⟩ | ⟨hp, hadmitted, -⟩ := Stage.proceed_pool hx
  · obtain ⟨hx, -⟩ := Prod.ext_iff.1 (Option.some.inj hx)
    have hx : (start c g.state m).progress = x := hx
    rw [start_progress hpool.lends.distinct, hpool.refused?_eq] at hx
    cases hr : s₀.refused? m c with
    | none =>
      rw [hr] at hx
      exact .inr (.inl ⟨hr, hx ▸ rfl⟩)
    | some e =>
      rw [hr] at hx
      exact .inr (.inr ⟨e, hr, hx.symm⟩)
  · obtain he | ⟨hr, -⟩ | ⟨e, -, he⟩ := h
    · obtain rfl := Progress.wait.inj he
      cases hp
    · exact .inr (.inl ⟨hr, hadmitted⟩)
    · cases he

theorem Stands.outcome_eq (h : Stands g.state m c (.done res))
    (hs : Sweeping f c g.state.registry m (g.sites c.endpoint.uri) own (.done res)) :
    res = outcome f m g c := by
  unfold outcome
  obtain he | ⟨hr, hadmitted⟩ | ⟨e, hr, he⟩ := h
  · cases he
  · rw [hr]
    cases hs with
    | unleased refused => cases hadmitted
    | unlisted broken => simp [broken]
    | swept works left => simp [works]
  · obtain rfl := Progress.done.inj he
    rw [hr]

end CloudSweep

namespace Sweep

/-- A sweep at one moment that began at `g₀`, with its clouds where they are at `g`. -/
structure Tidy (f : Fleet) (m : Moment) (outer : List ClientKey) (g₀ g : Stage)
    (strands : List SweepStrand) : Prop where
  underway : Underway f m g₀ g strands
  keyed : ∀ uri, (g.sites uri).Keyed
  pool : g₀.state.pool.Serves m outer (strands.flatMap (·.leases)) g.state.pool
  stands : ∀ x ∈ strands, CloudSweep.Stands g₀.state m x.cloud x.progress

variable {f : Fleet} {m : Moment} {outer : List ClientKey} {g₀ g g' : Stage}
  {strands : List SweepStrand} {c : Cloud} {r : FleetReport}

theorem look_tidy (hk : ∀ uri, (g.sites uri).Keyed) (h₀ : g.state.pool.Lends outer) :
    Tidy f m outer g g (f.clouds.map fun c => ⟨c, .wait .starting⟩) := by
  have hnone : (f.clouds.map fun c => (⟨c, .wait .starting⟩ : SweepStrand)).flatMap (·.leases) =
      [] := by
    refine List.flatMap_eq_nil_iff.2 fun x hx => ?_
    obtain ⟨c, -, rfl⟩ := List.mem_map.1 hx
    rfl
  refine ⟨look_underway, hk, hnone ▸ .refl h₀, fun x hx => ?_⟩
  obtain ⟨c, -, rfl⟩ := List.mem_map.1 hx
  exact .inl rfl

/-- What a cloud is reported with does not depend on when it had its turns. -/
theorem Tidy.results_eq {all : List SweepStrand} (h : Tidy f m outer g₀ g all) (hs : strands ⊆ all)
    (hr : report? strands = some r) :
    r.results = (strands.map (·.cloud)).map fun c => (c.name, CloudSweep.outcome f m g₀ c) := by
  refine Sweep.results_eq hr fun x hx res hres => ?_
  have hstands := h.stands x (hs hx)
  have hsweeping := h.underway.each x (hs hx)
  rw [hres] at hstands hsweeping
  exact hstands.outcome_eq hsweeping

/-- Where a sweep of `clouds` can be that begins at `g`, with the sweeps of the other clouds before and
after them. -/
inductive Among (f : Fleet) (m : Moment) (outer : List ClientKey) (g₀ g : Stage) (clouds : List Cloud)
    (pre post : List SweepStrand) : Progress Job JobResult → Stage → Prop where
  | looking (tidy : Tidy f m outer g₀ g (pre ++ (clouds.map fun c => ⟨c, .wait .starting⟩) ++ post)) :
      Among f m outer g₀ g clouds pre post (.wait (.sweep .looking)) g
  | came {q : Progress Job JobResult} {g₁ : Stage} {strands : List SweepStrand}
      (here : q = cameTo g₀.state.registry strands) (swept : strands.map (·.cloud) = clouds)
      (tidy : Tidy f m outer g₀ g₁ (pre ++ strands ++ post)) :
      Among f m outer g₀ g clouds pre post q g₁

section Run

variable (hf : (f.clouds.map (·.name)).Nodup) (hk : ∀ uri, (g₀.sites uri).Keyed)
  (h₀ : g₀.state.pool.Lends outer)

include hf hk h₀

theorem Tidy.goOn {pre post : List SweepStrand} {p : CloudSweep.Phase}
    {x : Progress CloudSweep.Phase CloudSweep.Result}
    (h : Tidy f m outer g₀ g (pre ++ ⟨c, .wait p⟩ :: post))
    (hx : g.proceed f c g₀.state.registry m p = some (x, g')) :
    Tidy f m outer g₀ g' (pre ++ ⟨c, x⟩ :: post) := by
  refine ⟨?_, Stage.proceed_keyed hx h.keyed, ?_, fun y hy => ?_⟩
  · obtain ⟨a, g₁, hs, rfl, rfl⟩ := Stage.proceed_eq_some hx
    exact (h.underway.goOn hf hk hs).1
  · have hpool := h.pool
    simp only [List.flatMap_append, List.flatMap_cons] at hpool ⊢
    exact ((hpool.perm (List.perm_append_comm_assoc ..)).proceed h₀ hx).perm
      (List.perm_append_comm_assoc ..)
  · obtain hy | hy := List.mem_append.1 hy
    · exact h.stands y (List.mem_append_left _ hy)
    · obtain rfl | hy := List.mem_cons.1 hy
      · exact (h.stands ⟨c, .wait p⟩ (by simp)).proceed h.pool hx
      · exact h.stands y (List.mem_append_right _ (List.mem_cons_of_mem _ hy))

theorem Among.step {pre post : List SweepStrand} {clouds : List Cloud} {j : Job} {part : Nat}
    {q : Progress Job JobResult} {g₁ g₂ : Stage}
    (h : Among f m outer g₀ g clouds pre post (.wait j) g₁)
    (hs : g₁.step { f with clouds } m j part = some (q, g₂)) :
    Among f m outer g₀ g clouds pre post q g₂ := by
  cases h with
  | looking tidy =>
    obtain ⟨rfl, rfl⟩ := step_looking hs
    exact .came (congrArg (cameTo · _) tidy.underway.registry) (by simp [Function.comp_def]) tidy
  | came here swept tidy =>
    obtain rfl := cameTo_eq_wait here.symm
    obtain ⟨c, p, x, hi, hx, rfl⟩ := step_sweeping hs
    rw [Stage.proceed_clouds] at hx
    obtain ⟨before, after, rfl, hmod⟩ := modify_at hi
    rw [hmod]
    refine .came rfl (by simpa using swept) ?_
    simp only [List.append_assoc, List.cons_append] at tidy ⊢
    rw [← List.append_assoc] at tidy ⊢
    exact tidy.goOn hf hk h₀ hx

theorem Tidy.sweep {pre post : List SweepStrand} {clouds : List Cloud} {parts : List Nat}
    (h : Tidy f m outer g₀ g (pre ++ (clouds.map fun c => ⟨c, .wait .starting⟩) ++ post))
    (hs : g.sweep? { f with clouds } m parts = some (r, g')) :
    ∃ strands, strands.map (·.cloud) = clouds ∧ report? strands = some r ∧
      Tidy f m outer g₀ g' (pre ++ strands ++ post) := by
  unfold Stage.sweep? at hs
  split at hs
  · rename_i hrun
    obtain ⟨rfl, rfl⟩ := Prod.ext_iff.1 (Option.some.inj hs)
    have hend := Stage.run_induction (P := Among f m outer g₀ g clouds pre post)
      (fun _ _ _ _ _ h hs => h.step hf hk h₀ hs) (.looking h) hrun
    cases hend with
    | came here swept tidy => exact ⟨_, swept, cameTo_eq_done here.symm, tidy⟩
  · cases hs

end Run

end Sweep

namespace Stage

def sweepInTurn? (f : Fleet) (m : Moment) (g : Stage) :
    List (Cloud × List Nat) → Option (List (CloudName × CloudSweep.Result) × Stage)
  | [] => some ([], g)
  | (c, parts) :: rest =>
    (g.sweep? { f with clouds := [c] } m parts).bind fun x =>
      (x.2.sweepInTurn? f m rest).map fun y => (x.1.results ++ y.1, y.2)

end Stage

namespace Sweep

structure InTurn (f : Fleet) (m : Moment) (outer : List ClientKey) (g₀ g : Stage)
    (clouds : List Cloud) : Prop where
  nodup : clouds.Nodup
  mem : ∀ c ∈ clouds, c ∈ f.clouds
  strands : ∃ strands, Tidy f m outer g₀ g strands ∧ ∀ x ∈ strands,
    (x.cloud ∈ clouds → x.progress = .wait .starting) ∧
      (x.cloud ∉ clouds → ∃ res, x.progress = .done res)

variable {f : Fleet} {m : Moment} {outer : List ClientKey} {g₀ g g' : Stage} {clouds : List Cloud}
  {c : Cloud} {r : FleetReport} {parts : List Nat} {xs : List (Cloud × List Nat)}
  {rs : List (CloudName × CloudSweep.Result)}

theorem cloud_ne_of_mem {pre post : List SweepStrand} {x y : SweepStrand}
    (h : ((pre ++ x :: post).map (·.cloud)).Nodup) (hy : y ∈ pre ++ post) : y.cloud ≠ x.cloud := by
  rw [List.map_append, List.map_cons, List.nodup_middle, ← List.map_append] at h
  intro he
  exact (List.nodup_cons.1 h).1 (List.mem_map.2 ⟨y, hy, he⟩)

section InTurn

variable (hf : (f.clouds.map (·.name)).Nodup) (hk : ∀ uri, (g₀.sites uri).Keyed)
  (h₀ : g₀.state.pool.Lends outer)

include hf hk h₀

theorem look_inTurn (ho : clouds.Perm f.clouds) : InTurn f m outer g₀ g₀ clouds := by
  refine ⟨ho.nodup_iff.2 hf.of_map, fun c hc => ho.subset hc, _, look_tidy hk h₀, fun x hx => ?_⟩
  obtain ⟨c, hc, rfl⟩ := List.mem_map.1 hx
  exact ⟨fun _ => rfl, fun hnot => absurd (ho.symm.subset hc) hnot⟩

theorem InTurn.next (h : InTurn f m outer g₀ g (c :: clouds))
    (hs : g.sweep? { f with clouds := [c] } m parts = some (r, g')) :
    r.results = [(c.name, CloudSweep.outcome f m g₀ c)] ∧ InTurn f m outer g₀ g' clouds := by
  obtain ⟨hnot, hnodup⟩ := List.nodup_cons.1 h.nodup
  obtain ⟨hc, hmem⟩ := List.forall_mem_cons.1 h.mem
  obtain ⟨strands, htidy, hplaces⟩ := h.strands
  rw [← htidy.underway.clouds] at hc
  obtain ⟨⟨c, p⟩, hx, rfl⟩ := List.mem_map.1 hc
  obtain rfl : p = .wait .starting := (hplaces _ hx).1 List.mem_cons_self
  obtain ⟨pre, post, rfl⟩ := List.append_of_mem hx
  have hbefore : Tidy f m outer g₀ g (pre ++ ([c].map fun c => ⟨c, .wait .starting⟩) ++ post) := by
    simpa using htidy
  obtain ⟨swept, hclouds, hr, hafter⟩ := hbefore.sweep hf hk h₀ hs
  have hsub : swept ⊆ pre ++ swept ++ post := fun y hy => by simp [hy]
  refine ⟨by rw [hafter.results_eq hsub hr, hclouds]; rfl, hnodup, hmem, _, hafter, fun y hy => ?_⟩
  have hplace : y ∈ pre ++ post → (y.cloud ∈ clouds → y.progress = .wait .starting) ∧
      (y.cloud ∉ clouds → ∃ res, y.progress = .done res) := by
    intro hin
    have hy' : y ∈ pre ++ (⟨c, .wait .starting⟩ : SweepStrand) :: post := by
      obtain hin | hin := List.mem_append.1 hin <;> simp [hin]
    refine ⟨fun hcl => (hplaces y hy').1 (List.mem_cons_of_mem _ hcl), fun hcl => ?_⟩
    refine (hplaces y hy').2 fun hcl' => ?_
    obtain he | hcl' := List.mem_cons.1 hcl'
    · exact cloud_ne_of_mem (htidy.underway.clouds.symm ▸ hf.of_map) hin he
    · exact hcl hcl'
  obtain hy | hy := List.mem_append.1 hy
  · obtain hy | hy := List.mem_append.1 hy
    · exact hplace (List.mem_append_left _ hy)
    · have hyc : y.cloud ∈ swept.map (·.cloud) := List.mem_map_of_mem hy
      rw [hclouds, List.mem_singleton] at hyc
      exact ⟨fun hcl => absurd (hyc ▸ hcl) hnot, fun _ => (report_some hr).2.2 y hy⟩
  · exact hplace (List.mem_append_right _ hy)

theorem InTurn.sweep (h : InTurn f m outer g₀ g (xs.map (·.1)))
    (hs : g.sweepInTurn? f m xs = some (rs, g')) :
    rs = (xs.map (·.1)).map (fun c => (c.name, CloudSweep.outcome f m g₀ c)) ∧
      InTurn f m outer g₀ g' [] := by
  induction xs generalizing g rs with
  | nil =>
    obtain ⟨rfl, rfl⟩ := Prod.ext_iff.1 (Option.some.inj hs)
    exact ⟨rfl, h⟩
  | cons x xs ih =>
    obtain ⟨⟨r, g₁⟩, hfirst, hs⟩ := Option.bind_eq_some_iff.1 hs
    obtain ⟨⟨rs₁, g₂⟩, hrest, hs⟩ := Option.map_eq_some_iff.1 hs
    obtain ⟨rfl, rfl⟩ := Prod.ext_iff.1 hs
    obtain ⟨hr, hnext⟩ := h.next hf hk h₀ hfirst
    obtain ⟨hrs, hend⟩ := ih hnext hrest
    refine ⟨?_, hend⟩
    simp only [hr, hrs]
    rfl

theorem InTurn.exists_sweep (h : InTurn f m outer g₀ g clouds) :
    ∃ xs rs g', xs.map (·.1) = clouds ∧ g.sweepInTurn? f m xs = some (rs, g') := by
  induction clouds generalizing g with
  | nil => exact ⟨[], [], g, rfl, rfl⟩
  | cons c clouds ih =>
    have hkeyed : ∀ uri, (g.sites uri).Keyed := h.strands.elim fun _ hs => hs.1.keyed
    have hends : g.Ends { f with clouds := [c] } m := Stage.ends (List.nodup_singleton c.name) hkeyed
    obtain ⟨parts, r, g₁, hfirst⟩ := hends [] _ _ rfl
    obtain ⟨xs, rs, g', hxs, hrest⟩ := ih (h.next hf hk h₀ hfirst).2
    refine ⟨(c, parts) :: xs, r.results ++ rs, g', by rw [List.map_cons, hxs], ?_⟩
    rw [List.nil_append] at hfirst
    rw [Stage.sweepInTurn?, hfirst, Option.bind_some, hrest]
    rfl

omit h₀ in
theorem InTurn.swept (h : InTurn f m outer g₀ g []) : ∃ r : FleetReport,
    r.results = f.clouds.map (fun c => (c.name, CloudSweep.outcome f m g₀ c)) ∧
      Swept f m (CloudSweep.graceSpan f.grace) g₀ g r := by
  obtain ⟨strands, htidy, hplaces⟩ := h.strands
  cases hr : report? strands with
  | none =>
    obtain ⟨x, hx, p, hp⟩ := report_none hr
    obtain ⟨res, hres⟩ := (hplaces x hx).2 List.not_mem_nil
    rw [hp] at hres
    cases hres
  | some r =>
    refine ⟨r, ?_, ended_swept hf hk htidy.underway hr⟩
    rw [htidy.results_eq (List.Subset.refl _) hr, htidy.underway.clouds]

end InTurn

end Sweep

/-- Two sweeps that come to the same report leave the same containers. -/
theorem Swept.containers_eq {f : Fleet} {m : Moment} {span : Int} {g g' g'' : Stage} {r : FleetReport}
    (h : Swept f m span g g' r) (h' : Swept f m span g g'' r) (uri : String) :
    (g''.sites uri).containers = (g'.sites uri).containers := by
  refine Dict.ext_get? fun id => ?_
  by_cases hc : g.Condemned f m span r uri id
  · exact (h'.condemned uri id hc).trans (h.condemned uri id hc).symm
  · exact (h'.others uri id hc).trans (h.others uri id hc).symm

/-- Sweeps of the clouds one after the other, in any order, come to what the sweep of all comes to. -/
theorem Stage.sweepInTurn?_eq {f : Fleet} {m : Moment} {outer : List ClientKey} {g g' g'' : Stage}
    {order : List Cloud} {parts : List Nat} {r : FleetReport} {xs : List (Cloud × List Nat)}
    {rs : List (CloudName × CloudSweep.Result)} (hf : (f.clouds.map (·.name)).Nodup)
    (hk : ∀ uri, (g.sites uri).Keyed) (h₀ : g.state.pool.Lends outer) (ho : order.Perm f.clouds)
    (hs : g.sweep? f m parts = some (r, g')) (hxs : xs.map (·.1) = order)
    (hin : g.sweepInTurn? f m xs = some (rs, g'')) :
    rs.Perm r.results ∧ ∀ uri, (g''.sites uri).containers = (g'.sites uri).containers := by
  subst hxs
  obtain ⟨rfl, hend⟩ := (Sweep.look_inTurn hf hk h₀ ho).sweep hf hk h₀ hin
  obtain ⟨r', hr', hswept'⟩ := hend.swept hf hk
  have hlook : Sweep.Tidy f m outer g g
      ([] ++ (f.clouds.map fun c => ⟨c, .wait .starting⟩) ++ []) := by
    simpa using Sweep.look_tidy hk h₀
  obtain ⟨strands, hclouds, hr, hafter⟩ := hlook.sweep hf hk h₀ hs
  have hresults := hafter.results_eq (fun x hx => by simp [hx]) hr
  rw [hclouds] at hresults
  have hswept : Swept f m (CloudSweep.graceSpan f.grace) g g' r := by
    rw [List.nil_append, List.append_nil] at hafter
    exact Sweep.ended_swept hf hk hafter.underway hr
  have hsame : r' = r := congrArg FleetReport.mk (hr'.trans hresults.symm)
  refine ⟨?_, fun uri => hswept.containers_eq (hsame ▸ hswept') uri⟩
  rw [hresults]
  exact ho.map _

theorem Cloud.secluded {f : Fleet} {i : Nat} {b : Cloud} (hf : (f.clouds.map (·.name)).Nodup)
    (hi : f.clouds[i]? = some b) (hb : ∀ c ∈ f.clouds, c.endpoint.uri = b.endpoint.uri → c = b) :
    b.Secluded f.clouds i := by
  refine ⟨hf, hi, fun j c hj hu => ?_⟩
  obtain rfl := hb c (List.mem_of_getElem? hj) hu
  have hlt : j < f.clouds.length := (List.getElem?_eq_some_iff.1 hj).1
  exact (List.getElem?_inj hlt hf.of_map).1 (hj.trans hi.symm)

/-- Clouds are swept independently. What a sweep reports of a cloud with an endpoint of its own, and
what it leaves there, depend on nothing at other endpoints, at whatever moments the clouds take their
turns. At one moment a sweep does what sweeps of the clouds one after the other do, also with clouds
that share endpoints and clients. -/
theorem sweeps_independent {f : Fleet} (hf : (f.clouds.map (·.name)).Nodup) :
    (∀ i b, f.clouds[i]? = some b → (∀ c ∈ f.clouds, c.endpoint.uri = b.endpoint.uri → c = b) →
      ∀ g h xs ys r r' g' h', b.SameLot i g h xs ys →
        g.sweepAt? f xs = some (r, g') → h.sweepAt? f ys = some (r', h') →
        (∃ res, ∀ res', ((b.name, res') ∈ r.results ↔ res' = res) ∧
          ((b.name, res') ∈ r'.results ↔ res' = res)) ∧
        g'.sites b.endpoint.uri = h'.sites b.endpoint.uri) ∧
    ∀ (m : Moment) (g : Stage) (outer : List ClientKey), (∀ uri, (g.sites uri).Keyed) →
      g.state.pool.Lends outer → g.Ends f m ∧ ∀ order : List Cloud, order.Perm f.clouds →
        (∃ (xs : List (Cloud × List Nat)) (rs : List (CloudName × CloudSweep.Result)) (g'' : Stage),
          xs.map (·.1) = order ∧ g.sweepInTurn? f m xs = some (rs, g'')) ∧
        ∀ parts r g' (xs : List (Cloud × List Nat)) rs g'', g.sweep? f m parts = some (r, g') →
          xs.map (·.1) = order → g.sweepInTurn? f m xs = some (rs, g'') →
          rs.Perm r.results ∧ ∀ uri, (g''.sites uri).containers = (g'.sites uri).containers := by
  refine ⟨fun i b hi hb g h xs ys r r' g' h' hl hg hh => ?_, fun m g outer hk h₀ => ?_⟩
  · exact Stage.sweepAt?_alike (Cloud.secluded hf hi hb) hl hg hh
  · refine ⟨Stage.ends hf hk, fun order ho => ⟨?_, ?_⟩⟩
    · exact (Sweep.look_inTurn hf hk h₀ ho).exists_sweep hf hk h₀
    · intro parts r g' xs rs g'' hs hxs hin
      exact Stage.sweepInTurn?_eq hf hk h₀ ho hs hxs hin

def Fleet.three : Fleet :=
  { Fleet.two with
    clouds := Fleet.two.clouds ++
      Definition.build ⟨[{ name := ⟨"c", by decide⟩, uri := "tcp://h:2" }]⟩ }

def Container.ofCloud (cloud id : String) : Container :=
  { Container.sample with id, labels := Container.sample.labels.insert Identity.cloudKey cloud }

def Stage.littered : Stage :=
  { state := .initial (.ofSecs 300) 8
    sites := fun uri => if uri = "tcp://h:2" then Memory.empty.insert (.ofCloud "c" "c1")
      else (Memory.empty.insert (.ofCloud "a" "c1")).insert (.ofCloud "b" "c2") }

def Instant.sample (part seconds : Nat) : Instant :=
  { part
    moment := { Moment.sample 1 with wall := .ofMillis 2000000000000000, ticks := .ofSecs seconds } }

/-- A turn for which the runtime that two of the clouds share cannot be reached, and lists nothing. -/
def Instant.cutOff (part seconds : Nat) : Instant :=
  { part
    moment := { (Instant.sample part seconds).moment with
      refusal := fun key => if key.uri = "tcp://h:1" then some (.unavailable "down") else none }
    outside := fun sites uri =>
      if uri = "tcp://h:1" then { Memory.empty with broken := [.list] } else sites uri }

theorem Instant.outside_cutOff {part seconds : Nat} {sites : String → Memory} {uri : String}
    (h : uri ≠ "tcp://h:1") : (cutOff part seconds).outside sites uri = sites uri := if_neg h

theorem Stage.keyed_littered (uri : String) : (littered.sites uri).Keyed := by
  unfold littered
  dsimp only
  split
  · exact Memory.keyed_empty.insert
  · exact Memory.keyed_empty.insert.insert

def Instant.quiet : List Instant :=
  List.replicate 6 (.sample 0 0) ++ List.replicate 5 (.sample 1 1) ++ List.replicate 5 (.sample 2 1)

def Instant.troubled : List Instant :=
  [.sample 0 0, .sample 2 1, .cutOff 1 1, .sample 2 1, .sample 0 1, .cutOff 2 1, .sample 2 1,
    .sample 0 1, .sample 2 1]

/-- The third cloud is swept all the same, after the others or while they fail. One after the other,
the last cloud first, all come to what they come to together. -/
theorem sweeps_independent_three :
    (∃ b r r' g' h', Fleet.three.clouds[2]? = some b ∧
      b.SameLot 2 Stage.littered Stage.littered Instant.quiet Instant.troubled ∧
      Stage.littered.sweepAt? .three Instant.quiet = some (r, g') ∧
      Stage.littered.sweepAt? .three Instant.troubled = some (r', h') ∧
      r.removed = 3 ∧ r'.failures.length = 2 ∧
      (∃ res, ∀ res', ((b.name, res') ∈ r.results ↔ res' = res) ∧
        ((b.name, res') ∈ r'.results ↔ res' = res)) ∧
      g'.sites b.endpoint.uri = h'.sites b.endpoint.uri) ∧
    ∃ (ps : List (Cloud × List Nat)) (rs : List (CloudName × CloudSweep.Result)) (r : FleetReport)
        (g' g'' : Stage), ps.map (·.1) = Fleet.three.clouds.reverse ∧
      Stage.littered.sweepInTurn? .three (Instant.sample 0 0).moment ps = some (rs, g'') ∧
      Stage.littered.sweep? .three (Instant.sample 0 0).moment
        (0 :: (List.replicate 5 [0, 1, 2]).flatten) = some (r, g') ∧
      r.removed = 3 ∧ rs.Perm r.results ∧
      ∀ uri, (g''.sites uri).containers = (g'.sites uri).containers := by
  have hf : (Fleet.three.clouds.map (·.name)).Nodup := by decide
  constructor
  · have hrun : (Stage.littered.sweepAt? .three Instant.quiet).map (·.1.removed) = some 3 := by decide
    have hrun' : (Stage.littered.sweepAt? .three Instant.troubled).map (·.1.failures.length) =
        some 2 := by decide
    obtain ⟨⟨r, g'⟩, hg, hremoved⟩ := Option.map_eq_some_iff.1 hrun
    obtain ⟨⟨r', h'⟩, hh, hfailures⟩ := Option.map_eq_some_iff.1 hrun'
    let b := Fleet.three.clouds.getLast (by decide)
    have hother : b.endpoint.uri ≠ "tcp://h:1" := by decide
    have hat (i n : Nat) (sites : String → Memory) :
        (Instant.sample i n).outside sites b.endpoint.uri = sites b.endpoint.uri := rfl
    have hcut (i n : Nat) (sites : String → Memory) :
        (Instant.cutOff i n).outside sites b.endpoint.uri = sites b.endpoint.uri :=
      Instant.outside_cutOff hother
    have hlot : b.SameLot 2 Stage.littered Stage.littered Instant.quiet Instant.troubled := by
      refine ⟨rfl, rfl, rfl, rfl, ⟨List.nodup_nil, List.nodup_nil⟩, ?_, ⟨?_, ?_⟩, ?_⟩
      · simp [Instant.quiet, Instant.troubled, hat, hcut, or_imp, forall_and]
      · decide
      · decide
      · decide
    have hown : ∀ c ∈ Fleet.three.clouds, c.endpoint.uri = b.endpoint.uri → c = b := by decide
    exact ⟨b, r, r', g', h', rfl, hlot, hg, hh, hremoved, hfailures,
      (sweeps_independent hf).1 2 b rfl hown _ _ _ _ r r' g' h' hlot hg hh⟩
  · have hrun : (Stage.littered.sweep? .three (Instant.sample 0 0).moment
        (0 :: (List.replicate 5 [0, 1, 2]).flatten)).map (·.1.removed) = some 3 := by decide
    obtain ⟨⟨r, g'⟩, hs, hremoved⟩ := Option.map_eq_some_iff.1 hrun
    obtain ⟨-, hturns⟩ := (sweeps_independent hf).2 (Instant.sample 0 0).moment _ []
      Stage.keyed_littered (Pool.Lends.ofIdle _)
    obtain ⟨⟨ps, rs, g'', hps, hin⟩, hsame⟩ := hturns _ (List.reverse_perm _)
    obtain ⟨hperm, hsites⟩ := hsame _ r g' ps rs g'' hs hps hin
    exact ⟨ps, rs, r, g', g'', hps, hin, hs, hremoved, hperm, hsites⟩

end ContainerFleet
