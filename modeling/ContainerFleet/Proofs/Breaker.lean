import ContainerFleet.Proofs.Capacity
import ContainerFleet.Proofs.PlanningShape

namespace ContainerFleet

inductive State.TripsAtMost (f : Fleet) (m : Moment) (c : Cloud) (s s' : State) : Prop where
  | spares (clouds : s'.clouds = s.clouds) (templates : s'.templates = s.templates)
  | trips (reason cause : String) (clouds : s'.clouds = (s.trip f m c reason cause).clouds)
      (templates : s'.templates = s.templates)

/-- The cloud is out of use up to the instant `u` at least. -/
def State.Barred (c : Cloud) (u : Duration) (s : State) : Prop :=
  ∃ o, (s.cloudAvailability c).outage = some o ∧ u ≤ o.clears

namespace State

variable {f : Fleet} {m : Moment} {c d : Cloud} {s s' : State} {u : Duration}
  {reason cause : String}

theorem cloudAvailability_congr (h : s'.clouds = s.clouds) :
    s'.cloudAvailability c = s.cloudAvailability c := by
  rw [cloudAvailability, cloudAvailability, h]

theorem cloudAvailability_trip : (s.trip f m c reason cause).cloudAvailability d =
    if d.name = c.name then (s.cloudAvailability c).trip m.ticks reason f.outageFor (some cause)
    else s.cloudAvailability d := by
  simp only [trip, setCloud, cloudAvailability, Dict.get?_insert, ← Fleet.name_eq_iff]
  split <;> rfl

theorem Barred.isDisabled (h : s.Barred c u) (hm : m.ticks < u) :
    (s.cloudAvailability c).isDisabled m.ticks = true := by
  obtain ⟨o, ho, hu⟩ := h
  have hlt : m.ticks < o.clears := Nat.lt_of_lt_of_le hm hu
  simp [Availability.isDisabled, Availability.current?, Availability.refresh, ho, hlt]

theorem barred_trip (h : s'.clouds = (s.trip f m c reason cause).clouds) :
    s'.Barred c (m.ticks + f.outageFor) := by
  refine ⟨⟨reason, some cause, m.ticks, m.ticks + f.outageFor⟩, ?_, Nat.le_refl _⟩
  rw [cloudAvailability_congr h, cloudAvailability_trip, if_pos rfl]
  rfl

theorem Barred.keeps (h : s.Barred c u) (hu : u ≤ m.ticks + f.outageFor)
    (ht : s.TripsAtMost f m d s') : s'.Barred c u := by
  obtain ⟨o, ho, hle⟩ := h
  cases ht with
  | spares clouds templates => exact ⟨o, by rw [cloudAvailability_congr clouds, ho], hle⟩
  | trips reason cause clouds templates =>
    by_cases hc : c.name = d.name
    · refine ⟨⟨reason, some cause, m.ticks, m.ticks + f.outageFor⟩, ?_, hu⟩
      rw [cloudAvailability_congr clouds, cloudAvailability_trip, if_pos hc]
      rfl
    · exact ⟨o, by rw [cloudAvailability_congr clouds, cloudAvailability_trip, if_neg hc, ho], hle⟩

theorem TripsAtMost.byChoice (h : s.TripsAtMost f m c s') (hd : d = c ∨ d.name ≠ c.name) :
    (s'.cloudAvailability d).byChoice = (s.cloudAvailability d).byChoice := by
  cases h with
  | spares clouds templates => rw [cloudAvailability_congr clouds]
  | trips reason cause clouds templates =>
    rw [cloudAvailability_congr clouds, cloudAvailability_trip]
    obtain rfl | hne := hd
    · rw [if_pos rfl]
      rfl
    · rw [if_neg hne]

theorem TripsAtMost.templates_eq (h : s.TripsAtMost f m c s') : s'.templates = s.templates := by
  cases h with
  | spares clouds templates | trips reason cause clouds templates => exact templates

end State

namespace Planning

variable {f : Fleet} {s : State} {m : Moment}

def Phase.target : Phase → Target
  | .locking _ t | .counting _ t _ _ => t

inductive Faulty (s : State) (m : Moment) : (p : Phase) → (wait p).Answer → Prop where
  | unleased {r : Round} {t : Target} {e : PoolError} (fails : (s.lease m t.cloud).1 = .error e) :
      Faulty s m (.locking r t) ()
  | unlisted {r : Round} {t : Target} {onCloud ofTemplate : Nat} {e : RuntimeError} :
      Faulty s m (.counting r t onCloud ofTemplate) (.error e)

@[simp] theorem fault_state (r : Round) (c : Cloud) (e : ProvisionError) :
    (fault f s m r c e).state =
      s.trip f m c ("capacity check failed: " ++ e.message) e.message := advance_state _

theorem resume_trips (p : Phase) (a : (wait p).Answer) :
    s.TripsAtMost f m p.target.cloud (resume f s m p a).state := by
  cases p with
  | locking r t =>
    simp only [resume, lock]
    split
    · rename_i e s' hl
      obtain ⟨-, rfl⟩ := Prod.ext_iff.1 hl
      rw [fault_state]
      exact .trips _ _ rfl rfl
    · rename_i client s' hl
      obtain ⟨-, rfl⟩ := Prod.ext_iff.1 hl
      exact .spares rfl rfl
  | counting r t onCloud ofTemplate =>
    simp only [resume, count]
    split
    · rw [fault_state]
      exact .trips _ _ rfl rfl
    · split <;> rw [advance_state] <;> exact .spares rfl rfl

theorem barred_of_faulty {p : Phase} {a : (wait p).Answer} (h : Faulty s m p a) :
    (resume f s m p a).state.Barred p.target.cloud (m.ticks + f.outageFor) := by
  cases h with
  | @unleased r t e fails =>
    have hl : s.lease m t.cloud = (.error e, (s.lease m t.cloud).2) := Prod.ext fails rfl
    simp only [resume, lock]
    rw [hl]
    simp only [fault_state]
    exact State.barred_trip rfl
  | unlisted =>
    simp only [resume, count, fault_state]
    exact State.barred_trip rfl

end Planning

namespace Creation

variable {f : Fleet} {o : Order} {s : State} {m : Moment}

inductive Faulty (f : Fleet) (o : Order) (s : State) (m : Moment) :
    (p : Phase) → (wait f o p).Answer → Prop where
  | unleased {e : PoolError} (fails : (s.lease m o.cloud).1 = .error e) :
      Faulty f o s m .queued ()
  | uncreated {e : RuntimeError} : Faulty f o s m .creating (.error e)
  | unstarted {id : String} {e : RuntimeError} : Faulty f o s m (.starting id) (.error e)
  | unready {id : String} {a : Except RuntimeError Details} {e : RuntimeError}
      (fails : Connector.verify id a = .error e) : Faulty f o s m (.inspecting id) a

theorem resume_trips (p : Phase) (a : (wait f o p).Answer) :
    s.TripsAtMost f m o.cloud (resume f o s m p a).state := by
  cases p with
  | queued =>
    simp only [resume, begin]
    split
    · rename_i client s' hl
      obtain ⟨-, rfl⟩ := Prod.ext_iff.1 hl
      exact .spares rfl rfl
    · rename_i e s' hl
      obtain ⟨-, rfl⟩ := Prod.ext_iff.1 hl
      exact .trips _ _ rfl rfl
  | creating =>
    cases a with
    | ok id => exact .spares rfl rfl
    | error e => exact .trips _ _ rfl rfl
  | starting id =>
    cases a with
    | ok u =>
      simp only [resume, started]
      split <;> exact .spares rfl rfl
    | error e => exact .trips _ _ rfl rfl
  | inspecting id =>
    simp only [resume]
    cases Connector.verify id a with
    | ok u => exact .spares rfl rfl
    | error e => exact .trips _ _ rfl rfl
  | discarding id cause => exact .spares rfl rfl
  | registering n =>
    simp only [resume, register]
    split <;> exact .spares rfl rfl
  | unwinding id cause p =>
    simp only [resume, unwind]
    split <;> exact .spares rfl rfl

theorem barred_of_faulty {p : Phase} {a : (wait f o p).Answer} (h : Faulty f o s m p a) :
    (resume f o s m p a).state.Barred o.cloud (m.ticks + f.outageFor) := by
  cases h with
  | @unleased e fails =>
    have hl : s.lease m o.cloud = (.error e, (s.lease m o.cloud).2) := Prod.ext fails rfl
    simp only [resume, begin]
    rw [hl]
    exact State.barred_trip rfl
  | uncreated | unstarted => exact State.barred_trip rfl
  | unready fails =>
    simp only [resume]
    rw [fails]
    exact State.barred_trip rfl

end Creation

namespace Planning

variable {f : Fleet} {s : State} {m : Moment} {c : Cloud} {r : Round} {tr : Trail}

/-- What planning does when it goes on serves to decide on the target `t`: it waits for the right to do
so or for a listing, leases or gives back the client, and may reserve room for one node. -/
structure Serves (s : State) (m : Moment) (t : Target) (w : Wait) (u : Turn Phase Round) : Prop where
  wait : w = .lock t.cloud.name.text ∨ w = .call t.cloud.endpoint.uri (.list {})
  pool : u.state.pool = (s.lease m t.cloud).2.pool ∨ u.state.pool = (s.giveBack m t.cloud).pool
  capacity : u.ordered = [] ∧ u.state.capacity = s.capacity ∨
    u.ordered = [⟨m.freshId, t⟩] ∧ u.state.capacity = (s.reserve t).capacity

theorem resume_serves (p : Phase) (a : (wait p).Answer) :
    Serves s m p.target (wait p) (resume f s m p a) := by
  cases p with
  | locking r t =>
    refine ⟨.inl rfl, .inl ?_, .inl ?_⟩
    · simp only [resume, lock]
      split
      · rename_i e s' hl
        obtain ⟨-, rfl⟩ := Prod.ext_iff.1 hl
        rw [fault_state]
        rfl
      · rename_i client s' hl
        obtain ⟨-, rfl⟩ := Prod.ext_iff.1 hl
        rfl
    · simp only [resume, lock]
      split
      · rename_i e s' hl
        obtain ⟨-, rfl⟩ := Prod.ext_iff.1 hl
        exact ⟨advance_ordered _, by rw [fault_state]; rfl⟩
      · rename_i client s' hl
        obtain ⟨-, rfl⟩ := Prod.ext_iff.1 hl
        exact ⟨rfl, rfl⟩
  | counting r t onCloud ofTemplate =>
    refine ⟨.inr rfl, .inr ?_, ?_⟩
    · simp only [resume, count]
      split
      · rw [fault_state]
        rfl
      · split <;> rw [advance_state] <;> rfl
    · simp only [resume, count]
      split
      · exact .inl ⟨advance_ordered _, by rw [fault_state]; rfl⟩
      · split
        · exact .inl ⟨advance_ordered _, by rw [advance_state]; rfl⟩
        · exact .inr ⟨rfl, by rw [advance_state]; rfl⟩

structure Without (c : Cloud) (r : Round) : Prop where
  candidates : ∀ t ∈ r.candidates, t.cloud.name ≠ c.name
  plans : ∀ p ∈ r.plans, p.cloud ≠ c.name

inductive Apart (c : Cloud) : Progress Phase Round → Prop where
  | locking {r : Round} {t : Target} (round : Without c r) (target : t ∈ r.candidates) :
      Apart c (.wait (.locking r t))
  | counting {r : Round} {t : Target} {onCloud ofTemplate : Nat} (round : Without c r)
      (target : t ∈ r.candidates) : Apart c (.wait (.counting r t onCloud ofTemplate))
  | ended {r : Round} (round : Without c r) : Apart c (.done r)

theorem advance_apart (h : Without c r) : Apart c (advance s m r).progress := by
  have hfilter : Without c { r with candidates := r.candidates.filter (s.isOpen m) } :=
    ⟨fun t ht => h.candidates t (List.mem_of_mem_filter ht), h.plans⟩
  unfold advance
  split
  · exact .ended h
  · simp only
    split
    · exact .ended hfilter
    · rename_i t ts hc
      exact .locking hfilter (by rw [hc]; exact List.mem_cons_self)

theorem Without.plan (h : Without c r) {p : Plan} (hp : p.cloud ≠ c.name) {n : Nat}
    {cs : List Target} (hcs : ∀ t ∈ cs, t ∈ r.candidates) :
    Without c { r with remaining := n, candidates := cs, plans := r.plans ++ [p] } := by
  refine ⟨fun t ht => h.candidates t (hcs t ht), fun q hq => ?_⟩
  obtain hq | hq := List.mem_append.1 hq
  · exact h.plans q hq
  · rwa [List.mem_singleton.1 hq]

theorem fault_apart (h : Without c r) {d : Cloud} (hd : d.name ≠ c.name)
    (e : ProvisionError) : Apart c (fault f s m r d e).progress :=
  advance_apart (h.plan (p := .failed d.name e) hd fun _ ht => List.mem_of_mem_filter ht)

theorem resume_apart {p : Phase} (a : (wait p).Answer) (h : Apart c (.wait p)) :
    Apart c (resume f s m p a).progress := by
  cases h with
  | @locking r t round target =>
    simp only [resume, lock]
    split
    · exact fault_apart round (round.candidates t target) _
    · exact .counting round target
  | @counting r t onCloud ofTemplate round target =>
    simp only [resume, count]
    split
    · exact fault_apart round (round.candidates t target) _
    · split
      · exact advance_apart ⟨fun t ht => round.candidates t (List.mem_of_mem_tail ht), round.plans⟩
      · exact advance_apart (round.plan (p := .pending ⟨m.freshId, t⟩) (round.candidates t target)
          fun _ => id)

theorem Apart.target {p : Phase} (h : Apart c (.wait p)) : p.target.cloud.name ≠ c.name := by
  cases h with
  | locking round target | counting round target => exact round.candidates _ target

/-- A request has nothing to do with the cloud: no plan, no lease, no call and no reservation. -/
structure Avoids (f : Fleet) (c : Cloud) (q : Progress Phase Round) (tr : Trail) : Prop where
  steps : ∀ p e, (p, e) ∈ tr → p.target.cloud.name ≠ c.name ∧
    Serves e.state e.moment p.target (wait p) (resume f e.state e.moment p (e.answer p))
  counts : ∀ p e, (p, e) ∈ tr →
    (resume f e.state e.moment p (e.answer p)).state.capacity.ofCloud c.name.text =
      e.state.capacity.ofCloud c.name.text
  waits : ∀ p, q = .wait p → p.target.cloud.name ≠ c.name
  plans : ∀ r, q = .done r → ∀ p ∈ r.plans, p.cloud ≠ c.name

theorem Serves.ofCloud {w : Wait} {u : Turn Phase Round} {t : Target} (h : Serves s m t w u)
    (ht : t.cloud.name ≠ c.name) :
    u.state.capacity.ofCloud c.name.text = s.capacity.ofCloud c.name.text := by
  obtain ⟨-, hc⟩ | ⟨-, hc⟩ := h.capacity
  · rw [hc]
  · rw [hc, State.reserve, Capacity.ofCloud_reserve,
      if_neg fun he => ht (Fleet.name_eq_iff.2 he.symm)]

theorem tread_avoids {p : Phase} {e : Encounter} {q : Progress Phase Round} {tr' : Trail}
    (h : Apart c (.wait p) ∧ Avoids f c (.wait p) tr) (hs : tread f tr p e = some (q, tr')) :
    Apart c q ∧ Avoids f c q tr' := by
  obtain ⟨hapart, havoids⟩ := h
  obtain ⟨rfl, rfl⟩ := Prod.ext_iff.1 (Option.some.inj hs)
  have hnext : Apart c (resume f e.state e.moment p (e.answer p)).progress :=
    resume_apart (e.answer p) hapart
  have hserves := resume_serves (f := f) (s := e.state) (m := e.moment) p (e.answer p)
  refine ⟨hnext, fun p' e' hx => ?_, fun p' e' hx => ?_, fun p' hp' => ?_, fun r hr => ?_⟩
  · obtain hx | hx := List.mem_append.1 hx
    · exact havoids.steps p' e' hx
    · obtain ⟨rfl, rfl⟩ := Prod.ext_iff.1 (List.mem_singleton.1 hx)
      exact ⟨hapart.target, hserves⟩
  · obtain hx | hx := List.mem_append.1 hx
    · exact havoids.counts p' e' hx
    · obtain ⟨rfl, rfl⟩ := Prod.ext_iff.1 (List.mem_singleton.1 hx)
      exact hserves.ofCloud hapart.target
  · have hwaits : Apart c (.wait p') := by
      rw [← hp']
      exact hnext
    exact hwaits.target
  · have hended : Apart c (.done r) := by
      rw [← hr]
      exact hnext
    cases hended with
    | ended round => exact round.plans

/-- A request that starts while the cloud is disabled avoids it, whatever it meets. -/
theorem requestAmid_avoids (hf : (f.clouds.map (·.name)).Nodup) (hc : c ∈ f.clouds)
    (hd : (s.cloudAvailability c).isDisabled m.ticks = true) {label : Option LabelExpr}
    {executors : Nat} {es : List Encounter} {q : Progress Phase Round}
    (h : requestAmid f s m label executors es = some (q, tr)) : Avoids f c q tr := by
  have hstart : Apart c (start f s m label executors).progress := by
    refine advance_apart ⟨fun t ht hn => ?_, List.forall_mem_nil _⟩
    obtain ⟨ht, ho⟩ := List.mem_filter.1 ht
    obtain rfl : t.cloud = c :=
      Fleet.cloud_eq hf (Fleet.mem_targets.1 ht).1 hc (Fleet.name_eq_iff.1 hn)
    simp [State.isOpen, hd] at ho
  unfold requestAmid at h
  cases hp : (start f s m label executors).progress with
  | wait p =>
    rw [hp] at hstart h
    refine (Progress.walk_induction (P := fun q tr => Apart c q ∧ Avoids f c q tr)
      (fun _ _ _ _ _ h hs => tread_avoids h hs) ⟨hstart, ?_⟩ h).2
    refine ⟨fun p e hx => ?_, fun p e hx => ?_, fun p' hp' => ?_, fun r hr => ?_⟩
    · cases hx
    · cases hx
    · exact (hp' ▸ hstart).target
    · cases hr
  | done r =>
    rw [hp] at hstart h
    simp only at h
    split at h
    · obtain ⟨rfl, rfl⟩ := Prod.ext_iff.1 (Option.some.inj h)
      refine ⟨fun p e hx => ?_, fun p e hx => ?_, fun p hp => ?_, fun r hr => ?_⟩
      · cases hx
      · cases hx
      · cases hp
      · cases hr
        cases hstart with
        | ended round => exact round.plans
    · cases h

/-- Without an open template that serves the label, a request is answered at once, with no plan. -/
theorem requestAmid_idle {label : Option LabelExpr} {executors : Nat} {es : List Encounter}
    {q : Progress Phase Round} (hn : templateFor? f s m label = none)
    (h : requestAmid f s m label executors es = some (q, tr)) :
    es = [] ∧ tr = [] ∧ ∃ r, q = .done r ∧ r.plans = [] := by
  have hnone : candidates f s m label = [] := List.head?_eq_none_iff.1 hn
  have hstart : (start f s m label executors).progress =
      .done { remaining := executors, candidates := [] } := by
    rw [start, hnone]
    unfold advance
    split <;> rfl
  simp only [requestAmid, hstart] at h
  split at h
  · rename_i he
    obtain ⟨rfl, rfl⟩ := Prod.ext_iff.1 (Option.some.inj h)
    exact ⟨List.isEmpty_iff.1 he, rfl, _, rfl, rfl⟩
  · cases h

end Planning

def Role.subject? : Role → Option Target
  | .idle => none
  | .deciding t _ _ _ => some t
  | .creating o _ _ => some o.target

def Ledger.Declared (f : Fleet) (l : Ledger) : Prop :=
  ∀ r ∈ l.roles, ∀ t, r.subject? = some t → t ∈ f.targets

namespace Ledger

variable {f : Fleet} {may : String → Dict String → Bool} {l l' : Ledger} {pre post : List Role}
  {r r' : Role}

theorem Declared.replace {capacity : Capacity} {locked : Dict Unit} {sites : String → Memory}
    (h : l.Declared f) (hr : l.roles = pre ++ r :: post)
    (hs : ∀ t, r'.subject? = some t → r.subject? = some t ∨ t ∈ f.targets) :
    Declared f ⟨capacity, locked, sites, pre ++ r' :: post⟩ := by
  have hin : ∀ x ∈ pre ++ r :: post, ∀ t, x.subject? = some t → t ∈ f.targets :=
    fun x hx => h x (hr ▸ hx)
  intro x hx t ht
  obtain hx | hx := List.mem_append.1 hx
  · exact hin x (List.mem_append_left _ hx) t ht
  · obtain rfl | hx := List.mem_cons.1 hx
    · exact (hs t ht).elim (hin r (List.mem_append_right _ List.mem_cons_self) t) id
    · exact hin x (List.mem_append_right _ (List.mem_cons_of_mem _ hx)) t ht

theorem Declared.append {capacity : Capacity} {locked : Dict Unit} {sites : String → Memory}
    (h : l.Declared f) (hs : ∀ t, r.subject? = some t → t ∈ f.targets) :
    Declared f ⟨capacity, locked, sites, l.roles ++ [r]⟩ := by
  intro x hx t ht
  obtain hx | hx := List.mem_append.1 hx
  · exact h x hx t ht
  · exact hs t (List.mem_singleton.1 hx ▸ ht)

theorem Declared.step (h : l.Declared f) (hs : l.Step f may l') : l'.Declared f := by
  cases hs with
  | stays | others => exact h
  | enters => exact h.append fun t ht => by cases ht
  | locks hr target => exact h.replace hr fun t ht => .inr (Option.some.inj ht ▸ target)
  | lists hr | calls hr | proceeds hr => exact h.replace hr fun t ht => .inl ht
  | unlocks hr | releases hr => exact h.replace hr fun t ht => by cases ht
  | @reserves pre post o onCloud ofTemplate listings running hr =>
    have hidle : Declared f ⟨l.capacity, l.locked, l.sites, pre ++ .idle :: post⟩ :=
      h.replace hr fun t ht => by cases ht
    refine hidle.append fun t ht => ?_
    refine h (.deciding o.target onCloud ofTemplate listings) ?_ t ht
    rw [hr]
    exact List.mem_append_right _ List.mem_cons_self

end Ledger

def Move.moment? : Move → Option Moment
  | .request m _ _ | .goOn _ _ m _ | .die _ m => some m
  | _ => none

namespace Scene

variable {f : Fleet} {may : String → Dict String → Bool} {s s' : Scene} {k part : Nat} {m : Moment}
  {c : Cloud}

structure Declared (f : Fleet) (s : Scene) : Prop where
  strands : ∀ x ∈ s.strands, x.OfFleet f
  roles : s.ledger.Declared f

theorem Declared.play {moves : List Move} (h₀ : s.strands = []) (h : s.play f may moves = some s') :
    s'.Declared f := by
  have hs : ∀ x ∈ s.strands, x.OfFleet f := by
    rw [h₀]
    exact List.forall_mem_nil _
  have hr : s.ledger.Declared f := by
    rw [Ledger.Declared, ledger, h₀]
    exact List.forall_mem_nil _
  refine ⟨?_, play_induction (fun l l' hl => hl.step) hs hr h⟩
  clear h₀ hr
  induction moves generalizing s with
  | nil =>
    obtain rfl := Option.some.inj h
    exact hs
  | cons x moves ih =>
    obtain ⟨s₁, hx, h⟩ := Option.bind_eq_some_iff.1 h
    exact ih h (move_step hs hx).2

theorem goOn_trips (hs : s.Declared f) {admitted : Bool} (h : s.goOn f k part m admitted = some s') :
    (s'.state.clouds = s.state.clouds ∧ s'.state.templates = s.state.templates) ∨
      ∃ c ∈ f.clouds, s.state.TripsAtMost f m c s'.state := by
  unfold goOn at h
  split at h
  · rename_i j replies hk
    have hmem := List.mem_of_getElem? hk
    split at h
    · rename_i x hx
      obtain ⟨a, ha, rfl⟩ := Option.map_eq_some_iff.1 h
      have hmem' := Dict.mem_of_lookup hx
      cases j with
      | planning p =>
        obtain ⟨rfl, rfl⟩ := Prod.ext_iff.1 (List.mem_singleton.1 hmem')
        have hof := hs.strands _ hmem
        have ht : p.target ∈ f.targets := by cases p <;> exact hof.2
        exact .inr ⟨p.target.cloud, (Fleet.mem_targets.1 ht).1, Planning.resume_trips p a⟩
      | creation o p =>
        obtain ⟨rfl, rfl⟩ := Prod.ext_iff.1 (List.mem_singleton.1 hmem')
        have ht : o.target ∈ f.targets := hs.roles _ (List.mem_map_of_mem hmem) _ rfl
        exact .inr ⟨o.cloud, (Fleet.mem_targets.1 ht).1, Creation.resume_trips p a⟩
      | termination | sweep | reap =>
        obtain ⟨hq, -⟩ := (Job.pending_quiet rfl hmem').2 s.state m a
        exact .inl ⟨hq.steady.clouds, hq.steady.templates⟩
    · cases h
  · cases h

theorem die_availabilities (h : s.die k m = some s') :
    s'.state.clouds = s.state.clouds ∧ s'.state.templates = s.state.templates := by
  unfold die at h
  split at h
  · rename_i j replies hk
    obtain rfl := Option.some.inj h
    cases hq : j.isQuiet with
    | true =>
      have ha := Job.abandon_quiet hq s.state m
      exact ⟨ha.clouds, ha.templates⟩
    | false =>
      cases j with
      | planning p => cases p <;> exact ⟨rfl, rfl⟩
      | creation o p =>
        simp only [Job.abandon, Creation.abandon]
        split <;> exact ⟨rfl, rfl⟩
      | _ => cases hq
  · cases h

theorem react_state {now : Timestamp} {r : Reaction} (h : s.react f k part now r = some s') :
    s'.state = s.state := by
  unfold react at h
  split at h
  · split at h
    · split at h
      · cases h
      · obtain rfl := Option.some.inj h
        rfl
    · cases h
  · cases h

/-- A move of the fleet does nothing to the availabilities but to take a cloud out of use. -/
theorem move_trips (hs : s.Declared f) {x : Move} (hx : x.adjusts = false)
    (h : s.move f may x = some s') :
    (s'.state.clouds = s.state.clouds ∧ s'.state.templates = s.state.templates) ∨
      ∃ m c, x.moment? = some m ∧ c ∈ f.clouds ∧ s.state.TripsAtMost f m c s'.state := by
  cases x with
  | request m label executors =>
    obtain rfl := Option.some.inj h
    have hst : (Planning.start f s.state m label executors).state = s.state :=
      Planning.advance_state _
    exact .inl ⟨congrArg State.clouds hst, congrArg State.templates hst⟩
  | terminate | sweep | reap | breaks =>
    obtain rfl := Option.some.inj h
    exact .inl ⟨rfl, rfl⟩
  | react k part now r =>
    have hst := react_state h
    exact .inl ⟨congrArg State.clouds hst, congrArg State.templates hst⟩
  | goOn k part m admitted =>
    obtain hkept | ⟨c, hc, ht⟩ := goOn_trips hs h
    · exact .inl hkept
    · exact .inr ⟨m, c, rfl, hc, ht⟩
  | die k m => exact .inl (die_availabilities h)
  | outside uri now c =>
    simp only [move] at h
    split at h
    · obtain rfl := Option.some.inj h
      exact .inl ⟨rfl, rfl⟩
    · cases h
  | adjust => cases hx

theorem Declared.move (hs : s.Declared f) {x : Move} (h : s.move f may x = some s') :
    s'.Declared f :=
  have hstep := move_step hs.strands h
  ⟨hstep.2, hs.roles.step hstep.1⟩

theorem move_byChoice (hf : (f.clouds.map (·.name)).Nodup) (hs : s.Declared f) {x : Move}
    (hx : x.adjusts = false) (h : s.move f may x = some s') :
    (∀ c ∈ f.clouds, (s'.state.cloudAvailability c).byChoice =
      (s.state.cloudAvailability c).byChoice) ∧
    ∀ t, s'.state.templateAvailability t = s.state.templateAvailability t := by
  obtain ⟨hclouds, htemplates⟩ | ⟨m, d, -, hd, ht⟩ := move_trips hs hx h
  · refine ⟨fun c _ => ?_, fun t => ?_⟩
    · rw [State.cloudAvailability_congr hclouds]
    · rw [State.templateAvailability, State.templateAvailability, htemplates]
  · refine ⟨fun c hc => ht.byChoice ?_, fun t => ?_⟩
    · by_cases hn : c.name = d.name
      · exact .inl (Fleet.cloud_eq hf hc hd (Fleet.name_eq_iff.1 hn))
      · exact .inr hn
    · rw [State.templateAvailability, State.templateAvailability, ht.templates_eq]

inductive Fails (f : Fleet) (c : Cloud) (s : Scene) (k : Nat) (m : Moment) (admitted : Bool) :
    Prop where
  | check {p : Planning.Phase} {replies : List Reply} {a : (Planning.wait p).Answer}
      (strand : s.strands[k]? = some (.underWay (.planning p) replies))
      (told : grant? s.state admitted 0 replies (Planning.wait p) = some a)
      (cloud : p.target.cloud = c) (faulty : Planning.Faulty s.state m p a)
  | creation {o : Order} {p : Creation.Phase} {replies : List Reply}
      {a : (Creation.wait f o p).Answer}
      (strand : s.strands[k]? = some (.underWay (.creation o p) replies))
      (told : grant? s.state admitted 0 replies (Creation.wait f o p) = some a)
      (cloud : o.cloud = c) (faulty : Creation.Faulty f o s.state m p a)

theorem goOn_eq {j : Job} {replies : List Reply} {x : Pending Job JobResult} {admitted : Bool}
    {a : x.wait.Answer} (hk : s.strands[k]? = some (.underWay j replies))
    (hx : (j.pending f).lookup part = some x)
    (ha : grant? s.state admitted part replies x.wait = some a) :
    s.goOn f k part m admitted =
      some (s.take k (replies.filter (·.part ≠ part)) (x.resume s.state m a)) := by
  simp only [goOn, hk, hx, ha, Option.map_some]

theorem Fails.barred {admitted : Bool} (h : s.Fails f c k m admitted) :
    ∃ s', s.goOn f k 0 m admitted = some s' ∧ s'.state.Barred c (m.ticks + f.outageFor) := by
  cases h with
  | check strand told cloud faulty =>
    exact ⟨_, goOn_eq strand rfl told, cloud ▸ Planning.barred_of_faulty faulty⟩
  | creation strand told cloud faulty =>
    exact ⟨_, goOn_eq strand rfl told, cloud ▸ Creation.barred_of_faulty faulty⟩

/-- What comes after the scene `s`, where it was `t` o'clock. The clock does not go back, and from
outside an outage of the cloud is not cut short while it lasts. -/
inductive Later (f : Fleet) (may : String → Dict String → Bool) (c : Cloud) (t : Duration)
    (s : Scene) : Duration → Scene → Prop where
  | now : Later f may c t s t s
  | next {u v : Duration} {s₁ s₂ : Scene} {x : Move} (before : Later f may c t s u s₁)
      (clock : u ≤ v) (reads : ∀ m, x.moment? = some m → m.ticks = v)
      (move : s₁.move f may x = some s₂)
      (lasting : x.adjusts = true → ∀ o, (s₁.state.cloudAvailability c).outage = some o →
        v < o.clears → ∃ o', (s₂.state.cloudAvailability c).outage = some o' ∧ o.clears ≤ o'.clears) :
      Later f may c t s v s₂

theorem Later.le {t u : Duration} (h : Later f may c t s u s') : t ≤ u := by
  induction h with
  | now => exact Nat.le_refl _
  | next before clock reads move lasting ih => exact Nat.le_trans ih clock

theorem Later.barred {t u v : Duration} (hs : s.Declared f) (hv : v = t + f.outageFor)
    (hb : s.state.Barred c v) (h : Later f may c t s u s') (hu : u < v) :
    s'.Declared f ∧ s'.state.Barred c v := by
  induction h with
  | now => exact ⟨hs, hb⟩
  | @next u w s₁ s₂ x before clock reads move lasting ih =>
    obtain ⟨hs₁, hb₁⟩ := ih (Nat.lt_of_le_of_lt clock hu)
    refine ⟨hs₁.move move, ?_⟩
    cases hx : x.adjusts with
    | true =>
      obtain ⟨o, ho, hle⟩ := hb₁
      obtain ⟨o', ho', hle'⟩ := lasting hx o ho (Nat.lt_of_lt_of_le hu hle)
      exact ⟨o', ho', Nat.le_trans hle hle'⟩
    | false =>
      obtain ⟨hclouds, -⟩ | ⟨m, d, hm, -, ht⟩ := move_trips hs₁ hx move
      · obtain ⟨o, ho, hle⟩ := hb₁
        exact ⟨o, by rw [State.cloudAvailability_congr hclouds, ho], hle⟩
      · refine hb₁.keeps ?_ ht
        rw [hv, reads m hm]
        exact Nat.add_le_add_right (Nat.le_trans before.le clock) _

/-- After a fault, requests avoid the cloud for as long as an outage takes, and they avoid a cloud that
is disabled by choice, which only operators change. Where nothing open serves the label, a request is
answered at once. -/
theorem breaker_holds (hf : (f.clouds.map (·.name)).Nodup) {s₀ : Scene} {moves : List Move}
    (h₀ : s₀.strands = []) (h : s₀.play f may moves = some s) :
    (∀ c ∈ f.clouds, ∀ k m admitted s₁ now s₂ m', s.Fails f c k m admitted →
      s.move f may (.goOn k 0 m admitted) = some s₁ → Later f may c m.ticks s₁ now s₂ →
      now ≤ m'.ticks → m'.ticks < m.ticks + f.outageFor → ∀ label executors es q tr,
        Planning.requestAmid f s₂.state m' label executors es = some (q, tr) →
        Planning.Avoids f c q tr) ∧
    (∀ c ∈ f.clouds, (s.state.cloudAvailability c).byChoice = true → ∀ m label executors es q tr,
      Planning.requestAmid f s.state m label executors es = some (q, tr) →
      Planning.Avoids f c q tr) ∧
    (∀ m label executors es q tr, Planning.templateFor? f s.state m label = none →
      Planning.requestAmid f s.state m label executors es = some (q, tr) →
      es = [] ∧ tr = [] ∧ ∃ r, q = .done r ∧ r.plans = []) ∧
    ∀ x s', x.adjusts = false → s.move f may x = some s' →
      (∀ c ∈ f.clouds, (s'.state.cloudAvailability c).byChoice =
        (s.state.cloudAvailability c).byChoice) ∧
      ∀ t, s'.state.templateAvailability t = s.state.templateAvailability t := by
  have hs : s.Declared f := .play h₀ h
  refine ⟨?_, ?_, fun _ _ _ _ _ _ hn hr => Planning.requestAmid_idle hn hr,
    fun x s' hx hm => move_byChoice hf hs hx hm⟩
  · intro c hc k m admitted s₁ now s₂ m' hfails hmove hlater hnow hend label executors es q tr hr
    obtain ⟨s₁', hgo, hbarred⟩ := hfails.barred
    obtain rfl : s₁' = s₁ := Option.some.inj (hgo.symm.trans hmove)
    obtain ⟨-, hbarred'⟩ :=
      hlater.barred (hs.move hmove) rfl hbarred (Nat.lt_of_le_of_lt hnow hend)
    exact Planning.requestAmid_avoids hf hc (hbarred'.isDisabled hend) hr
  · intro c hc hchoice m label executors es q tr hr
    refine Planning.requestAmid_avoids hf hc ?_ hr
    rw [Availability.isDisabled, hchoice, Bool.true_or]

/-- The first cloud does not list its containers. Just before the end of its outage a request turns to the
second cloud. -/
theorem breaker_holds_unlisted : ∃ s s₁ p q tr,
    sample.play .two (fun _ _ => true) [.breaks "tcp://h:1" [.list], .request (.sample 1) none 1,
      .goOn 0 0 (.sample 1) true, .react 0 0 .epoch .obeys] = some s ∧
    s.Fails .two (Planning.Phase.target p).cloud 0 (.sample 1) true ∧
    s.move .two (fun _ _ => true) (.goOn 0 0 (.sample 1) true) = some s₁ ∧
    Planning.requestAmid .two s₁.state { Moment.sample 2 with ticks := .ofSecs 299 } none 1 [] =
      some (.wait q, tr) ∧
    p.target.cloud.name.text = "a" ∧ q.target.cloud.name.text = "b" ∧
    Planning.Avoids .two p.target.cloud (.wait q) tr := by
  let m : Moment := { Moment.sample 2 with ticks := .ofSecs 299 }
  obtain ⟨s, s₁, p, replies, a, q, tr, hplay, hstrand, htold, hfaulty, hmove, hrequest, hin, hp, hq⟩ :
      ∃ s s₁ p replies a q tr,
        sample.play .two (fun _ _ => true) [.breaks "tcp://h:1" [.list], .request (.sample 1) none 1,
          .goOn 0 0 (.sample 1) true, .react 0 0 .epoch .obeys] = some s ∧
        s.strands[0]? = some (.underWay (.planning p) replies) ∧
        grant? s.state true 0 replies (Planning.wait p) = some a ∧
        Planning.Faulty s.state (.sample 1) p a ∧
        s.move .two (fun _ _ => true) (.goOn 0 0 (.sample 1) true) = some s₁ ∧
        Planning.requestAmid .two s₁.state m none 1 [] = some (.wait q, tr) ∧
        p.target.cloud ∈ Fleet.two.clouds ∧
        p.target.cloud.name.text = "a" ∧ q.target.cloud.name.text = "b" :=
    ⟨_, _, _, _, _, _, _, rfl, rfl, rfl, .unlisted, rfl, rfl, .head _, rfl, rfl⟩
  have hfails : s.Fails .two p.target.cloud 0 (.sample 1) true := .check hstrand htold rfl hfaulty
  have havoids := (breaker_holds (f := .two) (by decide) rfl hplay).1 p.target.cloud hin 0 (.sample 1)
    true s₁ .zero s₁ m hfails hmove .now (by decide) (by decide) none 1 [] (.wait q) tr hrequest
  exact ⟨s, s₁, p, q, tr, hplay, hfails, hmove, hrequest, hp, hq, havoids⟩

end Scene

end ContainerFleet
