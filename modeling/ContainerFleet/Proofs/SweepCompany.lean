import ContainerFleet.Proofs.SweepTurn

namespace ContainerFleet

/-- A turn of a part of an activity: when it is taken, and what others have made of the runtimes by
then. -/
structure Instant where
  part : Nat
  moment : Moment
  outside : (String → Memory) → String → Memory := id

def Instant.turnsOf (i : Nat) (xs : List Instant) : List Moment :=
  (xs.filter (·.part = i)).map (·.moment)

/-- What the sweep of a cloud can see of a moment. -/
def Cloud.sees (b : Cloud) (m : Moment) : Timestamp × Duration × Option RuntimeError :=
  (m.wall, m.ticks, m.refusal b.endpoint)

namespace Stage

variable (f : Fleet)

def stepAt (g : Stage) (j : Job) (x : Instant) : Option (Progress Job JobResult × Stage) :=
  { g with sites := x.outside g.sites }.step f x.moment j x.part

/-- A whole sweep that takes each turn at a moment of its own: its report and what it leaves. -/
def sweepAt? (g : Stage) (xs : List Instant) : Option (FleetReport × Stage) :=
  match Progress.walk (stepAt f) g (.sweep .looking) xs with
  | some (.done (.swept r), g') => some (r, g')
  | _ => none

def proceedAt (b : Cloud) (nodes : Registry) (g : Stage) (p : CloudSweep.Phase) (m : Moment) :
    Option (Progress CloudSweep.Phase CloudSweep.Result × Stage) :=
  g.proceed f b nodes m p

end Stage

namespace CloudSweep

/-- The sweep of the cloud, come to `x`, cannot tell the stages apart from the time `t` on. -/
structure Alike (b : Cloud) (t : Duration) (x : Progress Phase Result) (g h : Stage) : Prop where
  site : g.sites b.endpoint.uri = h.sites b.endpoint.uri
  client : x = .wait .starting → g.state.pool.cache.Distinct ∧ h.state.pool.cache.Distinct ∧
    ∀ t', t ≤ t' → (g.state.pool.cache.live? t' b.endpoint).isSome =
      (h.state.pool.cache.live? t' b.endpoint).isSome

variable {f : Fleet} {b c : Cloud} {nodes : Registry} {m m' : Moment} {g g' h h' : Stage} {p : Phase}
  {t : Duration} {x y : Progress Phase Result} {res res' : Result} {ms ms' : List Moment}

/-- Once the sweep of the cloud has tried to lease a client, only the runtime matters. -/
theorem Alike.of_ne (hx : x ≠ .wait .starting)
    (hsite : g.sites b.endpoint.uri = h.sites b.endpoint.uri) : Alike b t x g h :=
  ⟨hsite, fun he => absurd he hx⟩

theorem ne_starting_of_admitted (hx : Admitted x) : x ≠ .wait .starting := by
  rintro rfl
  cases hx

theorem start_ne_starting {s : State} (hd : s.pool.cache.Distinct) :
    (start c s m).progress ≠ .wait .starting := by
  rw [start_progress hd]
  cases s.refused? m c <;> intro h <;> cases h

theorem Alike.proceed (nodes : Registry) (ha : Alike b t (.wait p) g h) (ht : t ≤ m.ticks)
    (hm : b.sees m = b.sees m') :
    ∃ x g' h', g.proceed f b nodes m p = some (x, g') ∧ h.proceed f b nodes m' p = some (x, h') ∧
      ∀ t', Alike b t' x g' h' := by
  obtain ⟨hwall, hm⟩ := Prod.ext_iff.1 hm
  obtain ⟨hticks, hrefusal⟩ := Prod.ext_iff.1 hm
  by_cases hp : p.isUnderWay = true
  · obtain ⟨x, g', h', hg, hh, hsite⟩ := Stage.proceed_congr hp ha.site hwall
    refine ⟨x, g', h', hg, hh, fun t' => .of_ne ?_ hsite⟩
    obtain ⟨rfl, -⟩ | ⟨-, hx, -⟩ := Stage.proceed_pool hg
    · cases hp
    · exact ne_starting_of_admitted hx
  · obtain rfl : p = .starting := by
      cases p with
      | starting => rfl
      | _ => exact absurd rfl hp
    obtain ⟨hgd, hhd, hlive⟩ := ha.client rfl
    have hticks : m.ticks = m'.ticks := hticks
    have hrefusal : m.refusal b.endpoint = m'.refusal b.endpoint := hrefusal
    have hrefused : g.state.refused? m b = h.state.refused? m' b := by
      rw [State.refused?, State.refused?, hlive m.ticks ht, hticks, hrefusal]
    have hsame : (start b h.state m').progress = (start b g.state m).progress := by
      rw [start_progress hgd, start_progress hhd, hrefused]
    exact ⟨_, _, _, rfl, Option.map_eq_some_iff.2 ⟨_, rfl, Prod.ext hsame rfl⟩,
      fun t' => .of_ne (start_ne_starting hgd) ha.site⟩

theorem Alike.other (ha : Alike b t x g h) (ht : t ≤ m.ticks) {sites : String → Memory}
    (hs : sites b.endpoint.uri = g.sites b.endpoint.uri) (hc : c.endpoint.uri ≠ b.endpoint.uri)
    (hy : Stage.proceed f c nodes m { g with sites } p = some (y, g')) :
    Alike b m.ticks x g' h := by
  refine ⟨(Stage.proceed_sites hy hc.symm).trans (hs.trans ha.site), fun hx => ?_⟩
  obtain ⟨hgd, hhd, hlive⟩ := ha.client hx
  have hkey : b.endpoint ≠ c.endpoint := fun he => hc (congrArg ClientKey.uri he).symm
  refine ⟨(Stage.proceed_live hy hgd hkey (Nat.le_refl _)).1, hhd, fun t' ht' => ?_⟩
  rw [(Stage.proceed_live hy hgd hkey ht').2]
  exact hlive t' (Nat.le_trans ht ht')

theorem Alike.walkOn (ha : Alike b .zero x g h) (hm : ∀ e ∈ ms.zip ms', b.sees e.1 = b.sees e.2)
    (hg : Progress.walkOn (Stage.proceedAt f b nodes) g ms x = some (.done res, g'))
    (hh : Progress.walkOn (Stage.proceedAt f b nodes) h ms' x = some (.done res', h')) :
    res = res' ∧ g'.sites b.endpoint.uri = h'.sites b.endpoint.uri := by
  induction ms generalizing ms' x g h with
  | nil =>
    cases x with
    | wait p => cases hg
    | done r =>
      cases ms' with
      | nil =>
        obtain ⟨hr, rfl⟩ := Prod.ext_iff.1 (Option.some.inj hg)
        obtain ⟨hr', rfl⟩ := Prod.ext_iff.1 (Option.some.inj hh)
        exact ⟨(Progress.done.inj hr).symm.trans (Progress.done.inj hr'), ha.site⟩
      | cons m' ms' => cases hh
  | cons m ms ih =>
    cases x with
    | done r => cases hg
    | wait p =>
      cases ms' with
      | nil => cases hh
      | cons m' ms' =>
        rw [List.zip_cons_cons] at hm
        obtain ⟨hsees, hm⟩ := List.forall_mem_cons.1 hm
        obtain ⟨y, g₁, h₁, hgy, hhy, hnext⟩ := ha.proceed (f := f) nodes (Nat.zero_le _) hsees
        rw [Progress.walkOn_cons hgy] at hg
        rw [Progress.walkOn_cons hhy] at hh
        exact ih (hnext _) hm hg hh

end CloudSweep

structure Cloud.Secluded (clouds : List Cloud) (i : Nat) (b : Cloud) : Prop where
  names : (clouds.map (·.name)).Nodup
  here : clouds[i]? = some b
  alone : ∀ j c, clouds[j]? = some c → c.endpoint.uri = b.endpoint.uri → j = i

namespace Sweep

variable {f : Fleet} {b : Cloud} {nodes : Registry} {g g' h : Stage} {strands : List SweepStrand}
  {i : Nat} {r : FleetReport} {t : Duration} {x : Progress CloudSweep.Phase CloudSweep.Result}
  {res : CloudSweep.Result} {xs : List Instant}

theorem clouds_modify (y : Progress CloudSweep.Phase CloudSweep.Result) :
    (strands.modify i fun z => { z with progress := y }).map (·.cloud) = strands.map (·.cloud) := by
  refine List.ext_getElem? fun k => ?_
  rw [List.getElem?_map, List.getElem?_map, List.getElem?_modify]
  cases strands[k]? with
  | none => rfl
  | some z => by_cases hk : i = k <;> simp [hk]

theorem mem_results_iff (hn : ((strands.map (·.cloud)).map (·.name)).Nodup)
    (hi : strands[i]? = some ⟨b, .done res⟩) (hr : report? strands = some r)
    (res' : CloudSweep.Result) : (b.name, res') ∈ r.results ↔ res' = res := by
  rw [(report_some hr).2.1]
  constructor
  · rintro ⟨⟨d, q⟩, hd, hname, hq⟩
    obtain ⟨k, hk⟩ := List.mem_iff_getElem?.1 hd
    have hname : d.name = b.name := hname
    have hlt : i < ((strands.map (·.cloud)).map (·.name)).length := by
      simpa using (List.getElem?_eq_some_iff.1 hi).1
    have hik : i = k := (List.getElem?_inj hlt hn).1 (by simp [hi, hk, hname])
    subst hik
    rw [hi] at hk
    obtain ⟨-, rfl⟩ := SweepStrand.mk.inj (Option.some.inj hk)
    exact (Progress.done.inj hq).symm
  · rintro rfl
    exact ⟨_, List.mem_of_getElem? hi, rfl, rfl⟩

/-- In the company of others the sweep of the cloud does as it does alone. -/
theorem company (hb : b.Secluded (strands.map (·.cloud)) i) (hi : strands[i]? = some ⟨b, x⟩)
    (ha : CloudSweep.Alike b t x g h)
    (hcalm : ∀ e ∈ xs, ∀ sites, e.outside sites b.endpoint.uri = sites b.endpoint.uri)
    (hrise : (t :: xs.map (·.moment.ticks)).Pairwise (· ≤ ·))
    (hw : Progress.walkOn (Stage.stepAt f) g xs (cameTo nodes strands) = some (.done (.swept r), g')) :
    ∃ res h', Progress.walkOn (Stage.proceedAt f b nodes) h (Instant.turnsOf i xs) x =
        some (.done res, h') ∧
      (∀ res', (b.name, res') ∈ r.results ↔ res' = res) ∧
      g'.sites b.endpoint.uri = h'.sites b.endpoint.uri := by
  induction xs generalizing strands g h t x with
  | nil =>
    unfold cameTo at hw
    split at hw
    · rename_i r' hr
      obtain ⟨he, rfl⟩ := Prod.ext_iff.1 (Option.some.inj hw)
      obtain rfl := JobResult.swept.inj (Progress.done.inj he)
      obtain ⟨res, rfl⟩ := (report_some hr).2.2 _ (List.mem_of_getElem? hi)
      exact ⟨res, h, rfl, mem_results_iff hb.names hi hr, ha.site⟩
    · cases hw
  | cons e xs ih =>
    obtain ⟨hcalm₀, hcalm⟩ := List.forall_mem_cons.1 hcalm
    obtain ⟨hle, hrise⟩ := List.pairwise_cons.1 hrise
    have ht : t ≤ e.moment.ticks := hle _ List.mem_cons_self
    unfold cameTo at hw
    split at hw
    · cases hw
    · obtain ⟨q, g₁, hstep, hw⟩ := Progress.walk_cons_eq_some hw
      obtain ⟨c, p, y, hc, hy, rfl⟩ := step_sweeping hstep
      have hb' : b.Secluded ((strands.modify e.part fun z => { z with progress := y }).map (·.cloud))
          i := (clouds_modify y).symm ▸ hb
      by_cases hpart : e.part = i
      · rw [hpart, hi] at hc
        obtain ⟨rfl, rfl⟩ := SweepStrand.mk.inj (Option.some.inj hc)
        -- The others have left the runtime alone, so the cloud takes its turn as it would alone.
        have ha' : CloudSweep.Alike b t (.wait p) { g with sites := e.outside g.sites } h :=
          ⟨(hcalm₀ g.sites).trans ha.site, ha.client⟩
        obtain ⟨y', g₂, h₂, hg, hh, hnext⟩ := ha'.proceed (f := f) nodes ht rfl
        obtain ⟨rfl, rfl⟩ := Prod.ext_iff.1 (Option.some.inj (hy.symm.trans hg))
        have hturns : Instant.turnsOf i (e :: xs) = e.moment :: Instant.turnsOf i xs := by
          simp [Instant.turnsOf, hpart]
        rw [hturns, Progress.walkOn_cons hh]
        exact ih hb' (by simp [hpart, hi]) (hnext _) hcalm hrise hw
      · have hturns : Instant.turnsOf i (e :: xs) = Instant.turnsOf i xs := by
          simp [Instant.turnsOf, hpart]
        have huri : c.endpoint.uri ≠ b.endpoint.uri := fun hu =>
          hpart (hb.alone e.part c (by simp [hc]) hu)
        rw [hturns]
        refine ih hb' ?_ (ha.other ht (hcalm₀ g.sites) huri hy) hcalm hrise hw
        rw [List.getElem?_modify_ne _ _ hpart, hi]

end Sweep

/-- Two sweeps, of `g` and of `h`, that find the same for a cloud: its runtime, its client, and what it
sees when it takes its turns. The first turn of a sweep is the look at the nodes. -/
structure Cloud.SameLot (b : Cloud) (i : Nat) (g h : Stage) (xs ys : List Instant) : Prop where
  registry : g.state.registry = h.state.registry
  site : g.sites b.endpoint.uri = h.sites b.endpoint.uri
  idleFor : g.state.pool.cache.idleFor = h.state.pool.cache.idleFor
  client : g.state.pool.cache.get? b.endpoint = h.state.pool.cache.get? b.endpoint
  distinct : g.state.pool.cache.Distinct ∧ h.state.pool.cache.Distinct
  calm : ∀ e ∈ xs ++ ys, ∀ sites, e.outside sites b.endpoint.uri = sites b.endpoint.uri
  rising : (xs.map (·.moment.ticks)).Pairwise (· ≤ ·) ∧ (ys.map (·.moment.ticks)).Pairwise (· ≤ ·)
  turns : ∀ e ∈ (Instant.turnsOf i xs.tail).zip (Instant.turnsOf i ys.tail), b.sees e.1 = b.sees e.2

namespace Stage

variable {f : Fleet} {b : Cloud} {g g' h h' : Stage} {i : Nat} {r r' : FleetReport}
  {xs ys : List Instant}

theorem sweepAt?_alone (hb : b.Secluded f.clouds i) (hd : g.state.pool.cache.Distinct)
    (hcalm : ∀ e ∈ xs, ∀ sites, e.outside sites b.endpoint.uri = sites b.endpoint.uri)
    (hrise : (xs.map (·.moment.ticks)).Pairwise (· ≤ ·)) (h : g.sweepAt? f xs = some (r, g')) :
    ∃ res h', Progress.walkOn (proceedAt f b g.state.registry) g (Instant.turnsOf i xs.tail)
        (.wait .starting) = some (.done res, h') ∧
      (∀ res', (b.name, res') ∈ r.results ↔ res' = res) ∧
      g'.sites b.endpoint.uri = h'.sites b.endpoint.uri := by
  unfold sweepAt? at h
  split at h
  · rename_i hw
    obtain ⟨rfl, rfl⟩ := Prod.ext_iff.1 (Option.some.inj h)
    cases xs with
    | nil => cases hw
    | cons e xs =>
      obtain ⟨q, g₁, hstep, hw⟩ := Progress.walk_cons_eq_some hw
      obtain ⟨rfl, rfl⟩ := Sweep.step_looking hstep
      obtain ⟨hcalm₀, hcalm⟩ := List.forall_mem_cons.1 hcalm
      have hclouds : (f.clouds.map fun c => (⟨c, .wait .starting⟩ : SweepStrand)).map (·.cloud) =
          f.clouds := by simp [Function.comp_def]
      refine Sweep.company (g := { g with sites := e.outside g.sites }) (t := .zero)
        (hclouds.symm ▸ hb) (by simp [hb.here])
        ⟨hcalm₀ g.sites, fun _ => ⟨hd, hd, fun _ _ => rfl⟩⟩ hcalm ?_ hw
      exact List.pairwise_cons.2 ⟨fun _ _ => Nat.zero_le _, (List.pairwise_cons.1 hrise).2⟩
  · cases h

/-- What becomes of a cloud in a sweep is told by its own lot. -/
theorem sweepAt?_alike (hb : b.Secluded f.clouds i) (hl : b.SameLot i g h xs ys)
    (hg : g.sweepAt? f xs = some (r, g')) (hh : h.sweepAt? f ys = some (r', h')) :
    (∃ res, ∀ res', ((b.name, res') ∈ r.results ↔ res' = res) ∧
      ((b.name, res') ∈ r'.results ↔ res' = res)) ∧
    g'.sites b.endpoint.uri = h'.sites b.endpoint.uri := by
  obtain ⟨hcalm, hcalm'⟩ := List.forall_mem_append.1 hl.calm
  obtain ⟨res, g₁, hgw, hres, hsite⟩ := sweepAt?_alone hb hl.distinct.1 hcalm hl.rising.1 hg
  obtain ⟨res', h₁, hhw, hres', hsite'⟩ := sweepAt?_alone hb hl.distinct.2 hcalm' hl.rising.2 hh
  have ha : CloudSweep.Alike b .zero (.wait .starting) g h := by
    refine ⟨hl.site, fun _ => ⟨hl.distinct.1, hl.distinct.2, fun t _ => ?_⟩⟩
    rw [Cache.live?, Cache.live?, hl.client, hl.idleFor]
  rw [← hl.registry] at hhw
  obtain ⟨rfl, hsame⟩ := ha.walkOn hl.turns hgw hhw
  exact ⟨⟨res, fun res' => ⟨hres _, hres' _⟩⟩, hsite.trans (hsame.trans hsite'.symm)⟩

end Stage

end ContainerFleet
