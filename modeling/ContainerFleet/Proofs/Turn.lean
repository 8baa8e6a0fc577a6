import ContainerFleet.Fleet.Job

namespace ContainerFleet

/-- Neither the counts of creations nor the locks differ. -/
structure State.Keeps (s s' : State) : Prop where
  capacity : s'.capacity = s.capacity
  locked : s'.locked = s.locked

structure State.Steady (s s' : State) : Prop where
  capacity : s'.capacity = s.capacity
  locked : s'.locked = s.locked
  clouds : s'.clouds = s.clouds
  templates : s'.templates = s.templates

namespace State

variable {s s' s'' : State}

theorem Keeps.refl : s.Keeps s := ⟨rfl, rfl⟩

theorem Keeps.trans (h : s.Keeps s') (h' : s'.Keeps s'') : s.Keeps s'' :=
  ⟨h'.capacity.trans h.capacity, h'.locked.trans h.locked⟩

theorem keeps_trip (f : Fleet) (m : Moment) (c : Cloud) (reason cause : String) :
    s.Keeps (s.trip f m c reason cause) := ⟨rfl, rfl⟩

theorem keeps_lease (m : Moment) (c : Cloud) : s.Keeps (s.lease m c).2 := ⟨rfl, rfl⟩

theorem Steady.refl : s.Steady s := ⟨rfl, rfl, rfl, rfl⟩

theorem Steady.trans (h : s.Steady s') (h' : s'.Steady s'') : s.Steady s'' :=
  ⟨h'.capacity.trans h.capacity, h'.locked.trans h.locked, h'.clouds.trans h.clouds,
    h'.templates.trans h.templates⟩

theorem steady_lease (m : Moment) (c : Cloud) : s.Steady (s.lease m c).2 := ⟨rfl, rfl, rfl, rfl⟩

theorem steady_giveBack (m : Moment) (c : Cloud) : s.Steady (s.giveBack m c) :=
  ⟨rfl, rfl, rfl, rfl⟩

end State

namespace Creation

variable {f : Fleet} {o : Order} {s : State} {m : Moment}

def Phase.container? : Phase → Option String
  | .queued | .creating => none
  | .starting container | .inspecting container | .discarding container _
  | .unwinding container _ _ => some container
  | .registering n => some n.containerId

def made? : (p : Phase) → (wait f o p).Answer → Option String
  | .creating, .ok container => some container
  | _, _ => none

/-- A creation that goes on keeps its reservation and learns of no container but the one it made. One
that ends gives the reservation back. -/
inductive Outcome (o : Order) (s : State) (known made : Option String)
    (t : Turn Phase Result) : Prop where
  | goesOn {p : Phase} (waits : t.progress = .wait p) (keeps : s.Keeps t.state)
      (ordered : t.ordered = [])
      (container : p.container? = known.or made)
  | ends {r : Result} (done : t.progress = .done r) (keeps : (s.unreserve o.target).Keeps t.state)
      (ordered : t.ordered = [])

theorem resume_outcome (p : Phase) (a : (wait f o p).Answer) :
    Outcome o s p.container? (made? p a) (resume f o s m p a) := by
  cases p with
  | queued =>
    have hk := State.keeps_lease (s := s) m o.cloud
    simp only [resume, begin]
    split
    · rename_i s' hl
      rw [hl] at hk
      exact .goesOn rfl ⟨hk.capacity, hk.locked⟩ rfl rfl
    · rename_i e s' hl
      rw [hl] at hk
      refine .ends rfl ⟨?_, hk.locked⟩ rfl
      exact congrArg (Capacity.release · o.target.cloud.name.text o.target.template.name.text)
        hk.capacity
  | creating =>
    cases a with
    | ok container => exact .goesOn rfl .refl rfl rfl
    | error e => exact .ends rfl ⟨rfl, rfl⟩ rfl
  | starting container =>
    cases a with
    | ok _ =>
      simp only [resume, started]
      split
      · exact .goesOn rfl .refl rfl rfl
      · exact .goesOn rfl .refl rfl rfl
    | error e => exact .goesOn rfl (State.keeps_trip ..) rfl rfl
  | inspecting container =>
    simp only [resume]
    cases Connector.verify container a with
    | ok _ => exact .goesOn rfl .refl rfl rfl
    | error e => exact .goesOn rfl (State.keeps_trip ..) rfl rfl
  | discarding container cause => exact .ends rfl ⟨rfl, rfl⟩ rfl
  | registering n =>
    simp only [resume, register]
    split
    · exact .ends rfl ⟨rfl, rfl⟩ rfl
    · exact .goesOn rfl .refl rfl rfl
  | unwinding container cause p =>
    simp only [resume, unwind]
    split
    · exact .goesOn rfl .refl rfl rfl
    · exact .ends rfl ⟨rfl, rfl⟩ rfl

theorem abandon_keeps (p : Phase) : (s.unreserve o.target).Keeps (abandon o s m p) := by
  unfold abandon
  split <;> exact ⟨rfl, rfl⟩

end Creation

namespace Planning

variable {f : Fleet} {s : State} {m : Moment}

inductive Rests (f : Fleet) : Progress Phase Round → Prop where
  | ended {r : Round} : Rests f (.done r)
  | locking {r : Round} {t : Target} (candidates : ∀ u ∈ r.candidates, u ∈ f.targets)
      (target : t ∈ f.targets) : Rests f (.wait (.locking r t))

theorem advance_rests {r : Round} (h : ∀ u ∈ r.candidates, u ∈ f.targets) :
    Rests f (advance s m r).progress := by
  unfold advance
  split
  · exact .ended
  · simp only
    split
    · exact .ended
    · rename_i t ts hr
      have hc : ∀ u ∈ r.candidates.filter (s.isOpen m), u ∈ f.targets :=
        fun u hu => h u (List.mem_filter.1 hu).1
      exact .locking hc (hc t (hr ▸ List.mem_cons_self))

@[simp] theorem advance_state (r : Round) : (advance s m r).state = s := by
  unfold advance
  split
  · rfl
  · simp only
    split <;> rfl

@[simp] theorem advance_ordered (r : Round) : (advance s m r).ordered = [] := by
  unfold advance
  split
  · rfl
  · simp only
    split <;> rfl

theorem start_rests (label : Option LabelExpr) (executors : Nat) :
    Rests f (start f s m label executors).progress :=
  advance_rests fun _ hu => (List.mem_filter.1 hu).1

theorem fault_rests {r : Round} {c : Cloud} {e : ProvisionError}
    (h : ∀ u ∈ r.candidates, u ∈ f.targets) :
    Rests f (fault f s m r c e).progress ∧ s.Keeps (fault f s m r c e).state ∧
      (fault f s m r c e).ordered = [] := by
  refine ⟨advance_rests fun u hu => h u (List.mem_filter.1 hu).1, ?_, advance_ordered _⟩
  rw [fault, advance_state]
  exact State.keeps_trip ..

/-- Planning that gets the right to decide on a cloud reads the counts of creations first. -/
inductive Locked (f : Fleet) (s : State) (r : Round) (t : Target) (u : Turn Phase Round) :
    Prop where
  | fails (rests : Rests f u.progress) (keeps : s.Keeps u.state) (ordered : u.ordered = [])
  | reads (waits : u.progress = .wait (.counting r t
        (s.capacity.inProgress t.cloud.name.text none)
        (s.capacity.inProgress t.cloud.name.text (some t.template.name.text))))
      (keeps : (s.lock t.cloud).Keeps u.state) (ordered : u.ordered = [])

theorem lock_outcome {r : Round} {t : Target} (h : ∀ u ∈ r.candidates, u ∈ f.targets) :
    Locked f s r t (lock f s m r t) := by
  have hk := State.keeps_lease (s := s) m t.cloud
  simp only [lock]
  split
  · rename_i e s' hl
    rw [hl] at hk
    obtain ⟨hr, hs, ho⟩ := fault_rests (f := f) (s := s') (m := m) (c := t.cloud)
      (e := .ofPool t.cloud.name e) h
    exact .fails hr (hk.trans hs) ho
  · rename_i s' hl
    rw [hl] at hk
    refine .reads ?_ ⟨hk.capacity, ?_⟩ rfl
    · rw [hk.capacity]
    · exact congrArg (Dict.insert · t.cloud.name.text ()) hk.locked

/-- Planning that has got a listing gives the right to decide back, and reserves only what the caps
leave room for. -/
inductive Counted (f : Fleet) (s : State) (t : Target) (onCloud ofTemplate : Nat)
    (a : Except RuntimeError (List Summary)) (u : Turn Phase Round) : Prop where
  | refuses (rests : Rests f u.progress) (keeps : (s.unlock t.cloud).Keeps u.state)
      (ordered : u.ordered = [])
  | reserves {running : List Summary} {id : NodeId} (listed : a = .ok running)
      (room : exceeded? f t running onCloud ofTemplate = none) (rests : Rests f u.progress)
      (keeps : ((s.unlock t.cloud).reserve t).Keeps u.state) (ordered : u.ordered = [⟨id, t⟩])

theorem count_outcome {r : Round} {t : Target} {onCloud ofTemplate : Nat}
    {a : Except RuntimeError (List Summary)} (h : ∀ u ∈ r.candidates, u ∈ f.targets) :
    Counted f s t onCloud ofTemplate a (count f s m r t onCloud ofTemplate a) := by
  have hk : (s.unlock t.cloud).Keeps ((s.giveBack m t.cloud).unlock t.cloud) := ⟨rfl, rfl⟩
  simp only [count]
  split
  · rename_i e
    obtain ⟨hr, hs, ho⟩ := fault_rests (f := f) (s := (s.giveBack m t.cloud).unlock t.cloud) (m := m)
      (c := t.cloud) (e := .remoteQuery t.cloud.name e) h
    exact .refuses hr (hk.trans hs) ho
  · split
    · refine .refuses (advance_rests fun u hu => h u (List.mem_of_mem_tail hu)) ?_ (advance_ordered _)
      rwa [advance_state]
    · rename_i hroom
      refine .reserves rfl hroom (advance_rests h) ?_ rfl
      rw [advance_state]
      exact ⟨congrArg (Capacity.reserve · t.cloud.name.text t.template.name.text) hk.capacity,
        hk.locked⟩

end Planning

def Call.livens : Call → Bool
  | create _ | start _ => true
  | _ => false

def Wait.spares : Wait → Bool
  | call _ c => !c.livens
  | _ => true

theorem Removal.call_livens (r : Removal) (p : Removal.Phase) : (r.call p).livens = false := by
  cases p <;> rfl

structure Turn.Quiet {σ α : Type} (s : State) (t : Turn σ α) : Prop where
  steady : s.Steady t.state
  ordered : t.ordered = []

section Quiet

variable {f : Fleet} {s s' : State} {m : Moment}

namespace Termination

variable {name : String}

theorem wait_spares (p : Phase) : (wait p).spares = true := by
  cases p with
  | removing c r p => simp [Wait.spares, Removal.call_livens]
  | _ => rfl

theorem mark_quiet (n : Node) (c : Cloud) : (mark name s m n c).Quiet s := by
  unfold mark
  split
  · exact ⟨.refl, rfl⟩
  · rename_i registry _
    have hk := State.steady_lease (s := { s with registry }) m c
    split <;> rename_i hl <;> rw [hl] at hk
    · exact ⟨⟨hk.capacity, hk.locked, hk.clouds, hk.templates⟩, rfl⟩
    · exact ⟨⟨hk.capacity, hk.locked, hk.clouds, hk.templates⟩, rfl⟩

theorem resume_quiet (p : Phase) (a : (wait p).Answer) : (resume f name s m p a).Quiet s := by
  cases p with
  | lookingUp =>
    simp only [resume, lookUp]
    split
    · exact ⟨.refl, rfl⟩
    · split <;> exact ⟨.refl, rfl⟩
  | marking n c => exact mark_quiet n c
  | removing c r p =>
    simp only [resume, remove]
    split
    · exact ⟨.refl, rfl⟩
    · exact ⟨State.steady_giveBack m c, rfl⟩
    · exact ⟨State.steady_giveBack m c, rfl⟩
  | markingGone =>
    simp only [resume, markGone]
    split <;> exact ⟨⟨rfl, rfl, rfl, rfl⟩, rfl⟩
  | unregistering =>
    simp only [resume, unregister]
    split <;> exact ⟨⟨rfl, rfl, rfl, rfl⟩, rfl⟩

theorem abandon_steady (p : Phase) : s.Steady (abandon s m p) := by
  unfold abandon
  split
  · exact State.steady_giveBack ..
  · exact .refl

end Termination

namespace Reap

theorem wait_spares (p : Phase) : (wait p).spares = true := by
  cases p with
  | looking now => rfl
  | terminating n p rest report => exact Termination.wait_spares p

theorem goOn_quiet (report : ReapReport) (due : List DueNode) (h : s.Steady s') :
    (goOn s' report due).Quiet s := by
  cases due <;> exact ⟨h, rfl⟩

theorem resume_quiet (p : Phase) (a : (wait p).Answer) : (resume f s m p a).Quiet s := by
  cases p with
  | looking now => exact goOn_quiet _ _ .refl
  | terminating n p rest report =>
    have h : s.Steady (Termination.resume f n.name s m p a).state :=
      (Termination.resume_quiet p a).steady
    simp only [resume, continueWith]
    split
    · exact ⟨h, rfl⟩
    · exact goOn_quiet _ _ h
    · exact goOn_quiet _ _ h

theorem abandon_steady (p : Phase) : s.Steady (abandon s m p) := by
  cases p with
  | looking now => exact .refl
  | terminating n p rest report => exact Termination.abandon_steady p

end Reap

namespace CloudSweep

variable {c : Cloud} {nodes : Registry}

theorem wait_spares (p : Phase) : (wait f c p).spares = true := by
  cases p with
  | removing r p rest report => simp [Wait.spares, Removal.call_livens]
  | _ => rfl

theorem removeNext_quiet (report : SweepReport) (rs : List Removal) :
    (removeNext c s m report rs).Quiet s := by
  cases rs <;> exact ⟨⟨rfl, rfl, rfl, rfl⟩, rfl⟩

theorem inspectNext_quiet (found : Findings) (xs : List Summary) :
    (inspectNext f c nodes s m found xs).Quiet s := by
  induction xs generalizing found with
  | nil => exact removeNext_quiet _ _
  | cons x xs ih =>
    simp only [inspectNext]
    split
    · exact ⟨.refl, rfl⟩
    · exact ih _

theorem resume_quiet (p : Phase) (a : (wait f c p).Answer) : (resume f c nodes s m p a).Quiet s := by
  cases p with
  | starting =>
    have hk := State.steady_lease (s := s) m c
    simp only [resume, start]
    split <;> rename_i hl <;> rw [hl] at hk <;> exact ⟨hk, rfl⟩
  | listing =>
    simp only [resume, listed]
    split
    · exact ⟨State.steady_giveBack m c, rfl⟩
    · exact inspectNext_quiet _ _
  | inspecting x status rest found => exact inspectNext_quiet _ _
  | removing r p rest report =>
    simp only [resume, remove]
    split
    · exact ⟨.refl, rfl⟩
    · exact removeNext_quiet _ _
    · exact removeNext_quiet _ _

theorem abandon_steady (p : Phase) : s.Steady (abandon c s m p) := by
  unfold abandon
  split
  · exact State.steady_giveBack ..
  · exact .refl

end CloudSweep

namespace Sweep

theorem pending_quiet {p : Phase} {i : Nat} {x : Pending Phase FleetReport}
    (h : (i, x) ∈ pending f p) :
    x.wait.spares = true ∧ ∀ s m a, (x.resume s m a).Quiet s := by
  cases p with
  | looking =>
    obtain ⟨rfl, rfl⟩ := Prod.ext_iff.1 (List.mem_singleton.1 h)
    exact ⟨rfl, fun _ _ _ => ⟨.refl, rfl⟩⟩
  | sweeping nodes strands =>
    simp only [pending, List.mem_filterMap] at h
    obtain ⟨⟨y, k⟩, hy, h⟩ := h
    split at h
    · cases h
    · rename_i q hq
      obtain ⟨rfl, rfl⟩ := Prod.ext_iff.1 (Option.some.inj h)
      exact ⟨CloudSweep.wait_spares q, fun _ _ a => ⟨(CloudSweep.resume_quiet q a).steady, rfl⟩⟩

theorem abandon_steady (p : Phase) : s.Steady (abandon s m p) := by
  cases p with
  | looking => exact .refl
  | sweeping nodes strands =>
    simp only [abandon]
    induction strands generalizing s with
    | nil => exact .refl
    | cons x strands ih =>
      rw [List.foldl_cons]
      refine State.Steady.trans ?_ ih
      cases x.progress with
      | wait p => exact CloudSweep.abandon_steady p
      | done r => exact .refl

end Sweep

end Quiet

end ContainerFleet
