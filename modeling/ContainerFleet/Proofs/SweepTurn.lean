import ContainerFleet.Proofs.Leases

namespace ContainerFleet

namespace CloudSweep

variable {f : Fleet} {c : Cloud} {nodes : Registry} {s s' : State} {m m' : Moment} {p : Phase}

def Admitted : Progress Phase Result → Prop
  | .wait p => p.isUnderWay = true
  | .done (.error (.client _ _)) => False
  | .done _ => True

theorem start_progress (h : s.pool.cache.Distinct) : (start c s m).progress =
    match s.refused? m c with
    | none => .wait .listing
    | some e => .done (.error (.client c.name e)) := by
  unfold start
  obtain ⟨hr, client, hl⟩ | ⟨e, hr, hl⟩ := State.lease_answer (m := m) (c := c) h
  · rw [hr]
    split
    · rename_i he
      rw [he] at hl
      cases hl
    · rfl
  · rw [hr]
    split
    · rename_i he
      rw [he] at hl
      obtain rfl := Except.error.inj hl
      rfl
    · rename_i hok
      rw [hok] at hl
      cases hl

theorem start_pool : (start c s m).state.pool = (s.lease m c).2.pool := by
  unfold start
  split <;> rename_i hl <;> rw [hl]

/-- With a client, the sweep of a cloud reads nothing but answers and the wall clock. -/
theorem removeNext_progress (report : SweepReport) (rs : List Removal) :
    (removeNext c s m report rs).progress = (removeNext c s' m' report rs).progress := by
  cases rs <;> rfl

theorem inspectNext_progress (hm : m.wall = m'.wall) (found : Findings) (xs : List Summary) :
    (inspectNext f c nodes s m found xs).progress =
      (inspectNext f c nodes s' m' found xs).progress := by
  induction xs generalizing found with
  | nil =>
    rw [inspectNext, inspectNext, classify, classify, hm]
    exact removeNext_progress _ _
  | cons x xs ih =>
    simp only [inspectNext]
    split
    · rfl
    · exact ih _

theorem resume_progress (hp : p.isUnderWay = true) (hm : m.wall = m'.wall) (a : (wait f c p).Answer) :
    (resume f c nodes s m p a).progress = (resume f c nodes s' m' p a).progress := by
  cases p with
  | starting => cases hp
  | listing =>
    simp only [resume, listed]
    split
    · rfl
    · exact inspectNext_progress hm _ _
  | inspecting x status rest found => exact inspectNext_progress hm _ _
  | removing r p rest report =>
    simp only [resume, remove]
    split
    · rfl
    · exact removeNext_progress _ _
    · exact removeNext_progress _ _

theorem removeNext_underWay (report : SweepReport) (rs : List Removal) :
    Admitted (removeNext c s m report rs).progress ∧
      ((removeNext c s m report rs).state.pool = s.pool ∨
        (removeNext c s m report rs).state.pool = (s.giveBack m c).pool) := by
  cases rs with
  | nil => exact ⟨trivial, .inr rfl⟩
  | cons r rs => exact ⟨rfl, .inl rfl⟩

theorem inspectNext_underWay (found : Findings) (xs : List Summary) :
    Admitted (inspectNext f c nodes s m found xs).progress ∧
      ((inspectNext f c nodes s m found xs).state.pool = s.pool ∨
        (inspectNext f c nodes s m found xs).state.pool = (s.giveBack m c).pool) := by
  induction xs generalizing found with
  | nil => exact removeNext_underWay _ _
  | cons x xs ih =>
    simp only [inspectNext]
    split
    · exact ⟨rfl, .inl rfl⟩
    · exact ih _

theorem resume_underWay (hp : p.isUnderWay = true) (a : (wait f c p).Answer) :
    Admitted (resume f c nodes s m p a).progress ∧
      ((resume f c nodes s m p a).state.pool = s.pool ∨
        (resume f c nodes s m p a).state.pool = (s.giveBack m c).pool) := by
  cases p with
  | starting => cases hp
  | listing =>
    simp only [resume, listed]
    split
    · exact ⟨trivial, .inr rfl⟩
    · exact inspectNext_underWay _ _
  | inspecting x status rest found => exact inspectNext_underWay _ _
  | removing r p rest report =>
    simp only [resume, remove]
    split
    · exact ⟨rfl, .inl rfl⟩
    · exact removeNext_underWay _ _
    · exact removeNext_underWay _ _

theorem inspectNext_clouds (clouds : List Cloud) (found : Findings) (xs : List Summary) :
    inspectNext { f with clouds } c nodes s m found xs = inspectNext f c nodes s m found xs := by
  induction xs generalizing found with
  | nil => rfl
  | cons x xs ih =>
    simp only [inspectNext]
    split
    · rfl
    · exact ih _

theorem resume_clouds (clouds : List Cloud) (a : (wait f c p).Answer) :
    resume { f with clouds } c nodes s m p a = resume f c nodes s m p a := by
  cases p with
  | listing =>
    cases a with
    | error e => rfl
    | ok xs => exact inspectNext_clouds clouds _ _
  | inspecting x status rest found => exact inspectNext_clouds clouds _ _
  | starting | removing => rfl

end CloudSweep

namespace Stage

def proceed (f : Fleet) (c : Cloud) (nodes : Registry) (m : Moment) (g : Stage)
    (p : CloudSweep.Phase) : Option (Progress CloudSweep.Phase CloudSweep.Result × Stage) :=
  (g.serve m.wall (CloudSweep.wait f c p)).map fun x =>
    let t := CloudSweep.resume f c nodes x.2.state m p x.1
    (t.progress, { x.2 with state := t.state })

variable {f : Fleet} {c : Cloud} {nodes : Registry} {m m' : Moment} {g g' h : Stage}
  {p : CloudSweep.Phase} {x : Progress CloudSweep.Phase CloudSweep.Result}

theorem proceed_clouds (clouds : List Cloud) :
    g.proceed { f with clouds } c nodes m p = g.proceed f c nodes m p := by
  have hresume (x : (CloudSweep.wait f c p).Answer × Stage) :
      CloudSweep.resume { f with clouds } c nodes x.2.state m p x.1 =
        CloudSweep.resume f c nodes x.2.state m p x.1 := CloudSweep.resume_clouds clouds x.1
  refine congrArg (Option.map · (g.serve m.wall (CloudSweep.wait f c p))) (funext fun x => ?_)
  exact congrArg (fun t : Turn CloudSweep.Phase CloudSweep.Result =>
    (t.progress, { x.2 with state := t.state })) (hresume x)

theorem proceed_eq_some (hx : g.proceed f c nodes m p = some (x, g')) :
    ∃ a g₁, g.serve m.wall (CloudSweep.wait f c p) = some (a, g₁) ∧
      x = (CloudSweep.resume f c nodes g₁.state m p a).progress ∧
      g' = { g₁ with state := (CloudSweep.resume f c nodes g₁.state m p a).state } := by
  obtain ⟨⟨a, g₁⟩, hs, hx⟩ := Option.map_eq_some_iff.1 hx
  obtain ⟨rfl, rfl⟩ := Prod.ext_iff.1 hx
  exact ⟨a, g₁, hs, rfl, rfl⟩

theorem proceed_sites (hx : g.proceed f c nodes m p = some (x, g')) {uri : String}
    (hu : uri ≠ c.endpoint.uri) : g'.sites uri = g.sites uri := by
  obtain ⟨a, g₁, hs, -, rfl⟩ := proceed_eq_some hx
  cases p with
  | starting =>
    obtain ⟨-, rfl⟩ := Prod.ext_iff.1 (Option.some.inj hs)
    rfl
  | _ => exact (congrFun (serve_call hs).2 uri).trans (Function.update_of_ne hu _ _)

theorem proceed_keyed (hx : g.proceed f c nodes m p = some (x, g'))
    (hk : ∀ uri, (g.sites uri).Keyed) (uri : String) : (g'.sites uri).Keyed := by
  by_cases hu : uri = c.endpoint.uri
  · subst hu
    obtain ⟨a, g₁, hs, -, rfl⟩ := proceed_eq_some hx
    cases p with
    | starting =>
      obtain ⟨-, rfl⟩ := Prod.ext_iff.1 (Option.some.inj hs)
      exact hk _
    | _ =>
      have hsite := (congrFun (serve_call hs).2 c.endpoint.uri).trans (Function.update_self ..)
      exact hsite.symm ▸ (hk c.endpoint.uri).answer _
  · rw [proceed_sites hx hu]
    exact hk uri

theorem proceed_congr (hp : p.isUnderWay = true)
    (hsite : g.sites c.endpoint.uri = h.sites c.endpoint.uri) (hm : m.wall = m'.wall) :
    ∃ x g' h', g.proceed f c nodes m p = some (x, g') ∧ h.proceed f c nodes m' p = some (x, h') ∧
      g'.sites c.endpoint.uri = h'.sites c.endpoint.uri := by
  cases p with
  | starting => cases hp
  | _ =>
    refine ⟨_, _, _, rfl, Option.map_eq_some_iff.2 ⟨_, rfl, Prod.ext ?_ rfl⟩, ?_⟩
    · simp only [← hsite, ← hm]
      exact CloudSweep.resume_progress rfl hm.symm _
    · simp only [hsite, hm, Function.update_self]

theorem proceed_pool (hx : g.proceed f c nodes m p = some (x, g')) :
    (p = .starting ∧ g'.state.pool = (g.state.lease m c).2.pool) ∨
      p.isUnderWay = true ∧ CloudSweep.Admitted x ∧
        (g'.state.pool = g.state.pool ∨ g'.state.pool = (g.state.giveBack m c).pool) := by
  obtain ⟨a, g₁, hs, rfl, rfl⟩ := proceed_eq_some hx
  rw [← (serve_frame hs).1]
  cases p with
  | starting => exact .inl ⟨rfl, CloudSweep.start_pool⟩
  | _ => exact .inr ⟨rfl, CloudSweep.resume_underWay rfl a⟩

theorem proceed_live {key : ClientKey} {t : Duration} (hx : g.proceed f c nodes m p = some (x, g'))
    (hd : g.state.pool.cache.Distinct) (hk : key ≠ c.endpoint) (ht : m.ticks ≤ t) :
    g'.state.pool.cache.Distinct ∧
      g'.state.pool.cache.live? t key = g.state.pool.cache.live? t key := by
  obtain ⟨-, hp⟩ | ⟨-, -, hp | hp⟩ := proceed_pool hx <;> rw [hp]
  · exact ⟨Pool.distinct_lease hd, Pool.live?_lease_of_ne hd hk ht⟩
  · exact ⟨hd, rfl⟩
  · exact ⟨Pool.distinct_release hd, Pool.live?_release_of_ne hd hk ht⟩

end Stage

namespace Sweep

/-- What a sweep has come to with its clouds. -/
def cameTo (nodes : Registry) (strands : List SweepStrand) : Progress Job JobResult :=
  match report? strands with
  | some r => .done (.swept r)
  | none => .wait (.sweep (.sweeping nodes strands))

theorem settle_progress (s : State) (nodes : Registry) (strands : List SweepStrand) :
    ((settle s nodes strands).map Job.sweep JobResult.swept).progress = cameTo nodes strands := by
  unfold settle cameTo Turn.map
  cases report? strands <;> rfl

variable {f : Fleet} {m : Moment} {nodes : Registry} {g g' : Stage} {strands : List SweepStrand}
  {i : Nat} {q : Progress Job JobResult} {r : FleetReport}

theorem cameTo_eq_wait {j : Job} (h : cameTo nodes strands = .wait j) :
    j = .sweep (.sweeping nodes strands) := by
  unfold cameTo at h
  split at h
  · cases h
  · exact (Progress.wait.inj h).symm

theorem cameTo_eq_done (h : cameTo nodes strands = .done (.swept r)) :
    report? strands = some r := by
  unfold cameTo at h
  split at h
  · rename_i r' hr
    rw [hr, JobResult.swept.inj (Progress.done.inj h)]
  · cases h

theorem step_looking (h : g.step f m (.sweep .looking) i = some (q, g')) :
    g' = g ∧ q = cameTo g.state.registry (f.clouds.map fun c => ⟨c, .wait .starting⟩) := by
  obtain ⟨x, a, g₁, hx, hs, rfl, rfl⟩ := Stage.step_eq_some h
  obtain ⟨-, rfl⟩ := Prod.ext_iff.1 (List.mem_singleton.1 hx)
  obtain ⟨-, rfl⟩ := Prod.ext_iff.1 (Option.some.inj hs)
  exact ⟨rfl, settle_progress _ _ _⟩

theorem step_sweeping (h : g.step f m (.sweep (.sweeping nodes strands)) i = some (q, g')) :
    ∃ c p x, strands[i]? = some ⟨c, .wait p⟩ ∧ g.proceed f c nodes m p = some (x, g') ∧
      q = cameTo nodes (strands.modify i fun y => { y with progress := x }) := by
  obtain ⟨x, a, g₁, hx, hs, rfl, rfl⟩ := Stage.step_eq_some h
  obtain ⟨c, p, hi, rfl⟩ := mem_pending hx
  exact ⟨c, p, _, hi, Option.map_eq_some_iff.2 ⟨(a, g₁), hs, rfl⟩, settle_progress _ _ _⟩

theorem results_eq {out : Cloud → CloudSweep.Result} (h : report? strands = some r)
    (ho : ∀ x ∈ strands, ∀ res, x.progress = .done res → res = out x.cloud) :
    r.results = (strands.map (·.cloud)).map fun c => (c.name, out c) := by
  obtain ⟨results, hr, rfl⟩ := Option.map_eq_some_iff.1 h
  clear h
  induction strands generalizing results with
  | nil =>
    obtain rfl := Option.some.inj hr
    rfl
  | cons x strands ih =>
    obtain ⟨hx, hothers⟩ := List.forall_mem_cons.1 ho
    obtain ⟨c, p⟩ := x
    cases p with
    | wait p => simp at hr
    | done res =>
      simp only [List.mapM_cons, Option.pure_def, Option.bind_eq_bind, Option.bind_some,
        Option.bind_eq_some_iff, Option.some.injEq] at hr
      obtain ⟨results, hr, rfl⟩ := hr
      have hrest : results = (strands.map (·.cloud)).map fun c => (c.name, out c) :=
        ih hothers results hr
      rw [hrest, hx res rfl]
      rfl

end Sweep

end ContainerFleet
