import ContainerFleet.Proofs.Caps
import ContainerFleet.Proofs.Registry
import ContainerFleet.Proofs.Removal
import ContainerFleet.Proofs.SweepHistory

namespace ContainerFleet

namespace Memory

structure Holds (p : Container → Prop) (m : Memory) : Prop where
  keyed : m.Keyed
  each : ∀ id x, m.get? id = some x → p x
  names : ∀ id id' x x', m.get? id = some x → m.get? id' = some x' → x.name = x'.name → id = id'

variable {m : Memory} {p : Container → Prop} {id : String} {now : Timestamp}

theorem Holds.of_containers {m' : Memory} (h : m.Holds p) (hm : m'.containers = m.containers) :
    m'.Holds p := by
  obtain ⟨containers, issued, broken⟩ := m'
  obtain rfl : containers = m.containers := hm
  exact ⟨h.keyed, h.each, h.names⟩

theorem Holds.insert {x : Container} (h : m.Holds p) (hx : p x)
    (hn : ∀ id x', m.get? id = some x' → x.name = x'.name → x.id = id) : (m.insert x).Holds p := by
  have hget : ∀ id y, (m.insert x).get? id = some y → id = x.id ∧ y = x ∨ m.get? id = some y := by
    intro id y hy
    have hy' : (m.containers.insert x.id x).get? id = some y := hy
    rw [Dict.get?_insert] at hy'
    split at hy'
    · exact .inl ⟨‹_›, (Option.some.inj hy').symm⟩
    · exact .inr hy'
  refine ⟨h.keyed.insert, fun id y hy => ?_, fun id id' y y' hy hy' he => ?_⟩
  · obtain ⟨-, rfl⟩ | hy := hget id y hy
    · exact hx
    · exact h.each id y hy
  · obtain ⟨rfl, rfl⟩ | hold := hget id y hy <;> obtain ⟨rfl, rfl⟩ | hold' := hget id' y' hy'
    · rfl
    · exact hn id' y' hold' he
    · exact (hn id y hold he.symm).symm
    · exact h.names id id' y y' hold hold' he

theorem Holds.update {g : Container → Container} (h : m.Holds p) (hid : ∀ x, (g x).id = x.id)
    (hname : ∀ x, (g x).name = x.name) (hp : ∀ x, p x → p (g x)) : (m.update id g).2.Holds p := by
  unfold Memory.update
  split
  · exact h
  · rename_i x hx
    have hxid : (g x).id = id := (hid x).trans (h.keyed id x hx)
    have hi : (m.insert (g x)).Holds p := h.insert (hp x (h.each id x hx)) fun id' x' hx' he => by
      rw [hxid]
      exact h.names id id' x x' hx hx' ((hname x).symm.trans he)
    rw [Memory.insert, hxid] at hi
    exact hi

theorem Holds.erase (h : m.Holds p) :
    Holds p { m with containers := m.containers.erase id } := by
  have hget : ∀ k y, (m.containers.erase id).get? k = some y → m.get? k = some y := by
    intro k y hy
    rw [Dict.get?_erase] at hy
    split at hy
    · cases hy
    · exact hy
  exact ⟨Dict.KeyedBy.erase h.keyed, fun k y hy => h.each k y (hget k y hy),
    fun k k' y y' hy hy' => h.names k k' y y' (hget k y hy) (hget k' y' hy')⟩

/-- A name that is in use is not given to a second container. -/
theorem Holds.answer {c : Call} (h : m.Holds p) (hstart : ∀ x, p x → p x.started)
    (hstop : ∀ x, p x → p x.stopped)
    (hcreate : ∀ spec x, c = .create spec → x.name = spec.name → x.labels = spec.labels →
      x.status.isSome = true → p x) : (m.answer now c).2.Holds p := by
  unfold Memory.answer
  split
  · exact h
  · cases c with
    | list f => exact h
    | inspect id => exact h
    | create spec =>
      simp only [create]
      split
      · exact h
      · rename_i hfree
        let new : Container :=
          { id := idOf (m.issued + 1), name := spec.name, image := spec.image
            status := some "created", running := false, created := now, labels := spec.labels }
        have hnew : ∀ id x, m.get? id = some x → new.name = x.name → new.id = id := by
          intro id x hx he
          refine absurd (List.any_eq_true.2 ⟨x, Dict.mem_values_iff.2 ⟨id, hx⟩, ?_⟩) hfree
          exact decide_eq_true he.symm
        have hi : (m.insert new).Holds p := h.insert (hcreate spec new rfl rfl rfl rfl) hnew
        exact hi.of_containers rfl
    | start id => exact h.update (fun _ => rfl) (fun _ => rfl) hstart
    | stop id timeout => exact h.update (fun _ => rfl) (fun _ => rfl) hstop
    | remove id options =>
      simp only [remove]
      split
      · exact h
      · split
        · exact h
        · exact h.erase

end Memory

namespace Registry

def Within (r r' : Registry) : Prop :=
  ∀ k n', r'.get? k = some n' → ∃ n, r.get? k = some n ∧
    n'.name = n.name ∧ n'.cloud = n.cloud ∧ n'.containerId = n.containerId

variable {r r' : Registry} {name : String} {n n' : Node}

theorem within_of_eq (h : r' = r) : r.Within r' := fun _ n hn => ⟨n, h ▸ hn, rfl, rfl, rfl⟩

theorem Within.refl : r.Within r := within_of_eq rfl

theorem within_insert (h : r.get? name = some n) (hname : n'.name = n.name)
    (hcloud : n'.cloud = n.cloud) (hid : n'.containerId = n.containerId) :
    r.Within (r.insert name n') := by
  intro k x hx
  rw [Dict.get?_insert] at hx
  split at hx
  · rename_i hk
    obtain rfl := Option.some.inj hx
    exact ⟨n, hk ▸ h, hname, hcloud, hid⟩
  · exact ⟨x, hx, rfl, rfl, rfl⟩

theorem within_setState {s : NodeState} (h : r.setState name s = .ok r') : r.Within r' := by
  obtain ⟨n, hn, rfl⟩ := setState_ok h
  exact within_insert hn rfl rfl rfl

theorem within_remove (h : r.remove name = .ok (n, r')) : r.Within r' := by
  obtain ⟨-, rfl⟩ := remove_ok h
  intro k x hx
  rw [Dict.get?_erase] at hx
  split at hx
  · cases hx
  · exact ⟨x, hx, rfl, rfl, rfl⟩

theorem within_report
    (h : r.taskStarted name = .ok r' ∨ ∃ now, r.taskFinished name now = .ok r') : r.Within r' := by
  obtain h | ⟨now, h⟩ := h
  · obtain ⟨n, n', hn, hf, rfl⟩ := update_ok h
    rw [← Except.ok.inj hf]
    exact within_insert hn rfl rfl rfl
  · obtain ⟨n, n', hn, hf, rfl⟩ := update_ok h
    simp only at hf
    split at hf
    · cases hf
    · rw [← Except.ok.inj hf]
      exact within_insert hn rfl rfl rfl

end Registry

section

variable {f : Fleet} {s : State} {m : Moment}

theorem Termination.resume_within {name : String} (p : Phase) (a : (wait p).Answer) :
    s.registry.Within (resume f name s m p a).state.registry := by
  cases p with
  | lookingUp =>
    simp only [resume, lookUp]
    split
    · exact .refl
    · split <;> exact .refl
  | marking n c =>
    simp only [resume, mark]
    split
    · exact .refl
    · rename_i registry hr
      have hl : (State.lease { s with registry } m c).2.registry = registry := rfl
      split <;> rename_i hlease <;> rw [hlease] at hl <;> exact hl ▸ Registry.within_setState hr
  | removing c r p =>
    simp only [resume, remove]
    split <;> exact .refl
  | markingGone =>
    simp only [resume, markGone]
    split
    · exact .refl
    · exact Registry.within_setState ‹_›
  | unregistering =>
    simp only [resume, unregister]
    split
    · exact .refl
    · exact Registry.within_remove ‹_›

theorem Reap.resume_within (p : Phase) (a : (wait p).Answer) :
    s.registry.Within (resume f s m p a).state.registry := by
  cases p with
  | looking now =>
    simp only [resume, look]
    generalize List.filterMap _ _ = due
    cases due <;> exact .refl
  | terminating n p rest report =>
    have h : s.registry.Within (Termination.resume f n.name s m p a).state.registry :=
      Termination.resume_within p a
    simp only [resume, continueWith]
    split
    · exact h
    · cases rest <;> exact h
    · cases rest <;> exact h

theorem Planning.resume_registry (p : Phase) (a : (wait p).Answer) :
    (resume f s m p a).state.registry = s.registry := by
  cases p with
  | locking r t =>
    have hl : (s.lease m t.cloud).2.registry = s.registry := rfl
    simp only [resume, lock]
    split <;> rename_i hlease <;> rw [hlease] at hl
    · rw [fault, advance_state]
      exact hl
    · exact hl
  | counting r t onCloud ofTemplate =>
    simp only [resume, count]
    split
    · rw [fault, advance_state]
      rfl
    · split <;> rw [advance_state] <;> rfl

theorem Creation.resume_registry {o : Order} (p : Phase) (a : (wait f o p).Answer) :
    (resume f o s m p a).state.registry = s.registry ∨ ∃ n, p = .registering n ∧
      (resume f o s m p a).state.registry = Dict.insert s.registry n.name n := by
  cases p with
  | queued =>
    have hl : (s.lease m o.cloud).2.registry = s.registry := rfl
    simp only [resume, begin]
    split <;> rename_i hlease <;> rw [hlease] at hl <;> exact .inl hl
  | creating =>
    cases a <;> exact .inl rfl
  | starting id =>
    cases a with
    | ok u =>
      simp only [resume, started]
      split <;> exact .inl rfl
    | error e => exact .inl rfl
  | inspecting id =>
    simp only [resume]
    cases Connector.verify id a <;> exact .inl rfl
  | discarding id cause => exact .inl rfl
  | registering n =>
    simp only [resume, register]
    split
    · rename_i registry hr
      split at hr
      · obtain ⟨-, rfl⟩ := Registry.register_ok hr
        exact .inr ⟨n, rfl, rfl⟩
      · cases hr
    · exact .inl rfl
  | unwinding id cause p =>
    simp only [resume, unwind]
    split <;> exact .inl rfl

theorem Creation.resume_registering {o : Order} {n : Node} (p : Phase) (a : (wait f o p).Answer)
    (h : (resume f o s m p a).progress = .wait (.registering n)) :
    n.name = o.nodeName ∧ n.cloud = o.cloud.name := by
  cases p with
  | queued =>
    simp only [resume, begin] at h
    split at h <;> cases h
  | creating => cases a <;> cases h
  | starting id =>
    cases a with
    | ok u =>
      simp only [resume, started] at h
      split at h <;> cases h
      exact ⟨rfl, rfl⟩
    | error e => cases h
  | inspecting id =>
    simp only [resume] at h
    cases hv : Connector.verify id a with
    | ok u =>
      rw [hv] at h
      cases h
      exact ⟨rfl, rfl⟩
    | error e =>
      rw [hv] at h
      cases h
  | discarding id cause => cases h
  | registering n =>
    simp only [resume, register] at h
    split at h <;> cases h
  | unwinding id cause p =>
    simp only [resume, unwind] at h
    split at h <;> cases h

namespace Job

variable {part : Nat} {j : Job} {x : Pending Job JobResult}

theorem resume_registry (h : (part, x) ∈ j.pending f) (a : x.wait.Answer) :
    s.registry.Within (x.resume s m a).state.registry ∨ ∃ o n, j = .creation o (.registering n) ∧
      (x.resume s m a).state.registry = Dict.insert s.registry n.name n := by
  cases j with
  | planning p =>
    obtain ⟨rfl, rfl⟩ := Prod.ext_iff.1 (List.mem_singleton.1 h)
    have hr : (Planning.resume f s m p a).state.registry = s.registry :=
      Planning.resume_registry p a
    exact .inl (Registry.within_of_eq hr)
  | creation o p =>
    obtain ⟨rfl, rfl⟩ := Prod.ext_iff.1 (List.mem_singleton.1 h)
    obtain hr | ⟨n, rfl, hr⟩ := Creation.resume_registry (f := f) (o := o) (s := s) (m := m) p a
    · exact .inl (Registry.within_of_eq hr)
    · exact .inr ⟨o, n, rfl, hr⟩
  | termination name p =>
    obtain ⟨rfl, rfl⟩ := Prod.ext_iff.1 (List.mem_singleton.1 h)
    exact .inl (Termination.resume_within p a)
  | sweep p =>
    cases p with
    | looking =>
      obtain ⟨rfl, rfl⟩ := Prod.ext_iff.1 (List.mem_singleton.1 h)
      exact .inl .refl
    | sweeping nodes strands =>
      obtain ⟨c, q, -, rfl⟩ := Sweep.mem_pending h
      have hr : (CloudSweep.resume f c nodes s m q a).state.registry = s.registry :=
        CloudSweep.registry_resume q a
      exact .inl (Registry.within_of_eq hr)
  | reap p =>
    obtain ⟨rfl, rfl⟩ := Prod.ext_iff.1 (List.mem_singleton.1 h)
    exact .inl (Reap.resume_within p a)

theorem abandon_registry (j : Job) : (j.abandon s m).registry = s.registry := by
  cases j with
  | planning p => cases p <;> rfl
  | creation o p =>
    simp only [abandon, Creation.abandon]
    split <;> rfl
  | termination name p =>
    simp only [abandon, Termination.abandon]
    split <;> rfl
  | sweep p =>
    cases p with
    | looking => rfl
    | sweeping nodes strands =>
      simp only [abandon, Sweep.abandon]
      induction strands generalizing s with
      | nil => rfl
      | cons x strands ih =>
        rw [List.foldl_cons, ih]
        split
        · simp only [CloudSweep.abandon]
          split <;> rfl
        · rfl
  | reap p =>
    cases p with
    | looking now => rfl
    | terminating n p rest report =>
      simp only [abandon, Reap.abandon, Termination.abandon]
      split <;> rfl

theorem creation_of_create {uri : String} {spec : CreateSpec}
    (h : ((j.pending f).lookup part).map Pending.wait = some (.call uri (.create spec))) :
    ∃ o, j = .creation o .creating ∧ uri = o.cloud.endpoint.uri ∧
      spec = o.template.createSpec f.owner o.cloud.name o.nodeName := by
  obtain ⟨x, hx, hw⟩ := Option.map_eq_some_iff.1 h
  have hmem := Dict.mem_of_lookup hx
  cases j with
  | planning p =>
    obtain ⟨-, rfl⟩ := Prod.ext_iff.1 (List.mem_singleton.1 hmem)
    cases p <;> cases hw
  | creation o p =>
    obtain ⟨-, rfl⟩ := Prod.ext_iff.1 (List.mem_singleton.1 hmem)
    cases p with
    | creating =>
      obtain ⟨rfl, hc⟩ := Wait.call.inj hw
      exact ⟨o, rfl, rfl, (Call.create.inj hc).symm⟩
    | unwinding id cause q => cases q <;> cases hw
    | _ => cases hw
  | termination | sweep | reap =>
    have hsp := (pending_quiet rfl hmem).1
    rw [hw] at hsp
    cases hsp

end Job

end

namespace Order

variable {f : Fleet} {o : Order} {sites sites' : String → Memory}

structure Fits (o : Order) (f : Fleet) (uri : String) (x : Container) : Prop where
  target : o.target ∈ f.targets
  endpoint : o.cloud.endpoint.uri = uri
  labels : x.labels = o.labels f.owner
  name : x.name = o.nodeName
  status : x.status.isSome = true

structure Begot (o : Order) (f : Fleet) (sites : String → Memory) (n : Node) : Prop where
  target : o.target ∈ f.targets
  name : n.name = o.nodeName
  cloud : n.cloud = o.cloud.name
  made : o.Made f sites n.containerId

theorem Fits.started {uri : String} {x : Container} (h : o.Fits f uri x) : o.Fits f uri x.started :=
  ⟨h.target, h.endpoint, h.labels, h.name, rfl⟩

theorem Fits.stopped {uri : String} {x : Container} (h : o.Fits f uri x) : o.Fits f uri x.stopped :=
  ⟨h.target, h.endpoint, h.labels, h.name, rfl⟩

theorem Made.follows {id : String} {starts : String → Prop} {makes : Dict String → Prop}
    (h : o.Made f sites id)
    (hf : (sites o.cloud.endpoint.uri).Follows (sites' o.cloud.endpoint.uri) starts makes) :
    o.Made f sites' id := by
  have hu := h.update hf
  simpa only [Made, Function.update_self] using hu

theorem Begot.of_node {n n' : Node} (h : o.Begot f sites n) (hname : n'.name = n.name)
    (hcloud : n'.cloud = n.cloud) (hid : n'.containerId = n.containerId) : o.Begot f sites n' :=
  ⟨h.target, hname.trans h.name, hcloud.trans h.cloud, hid ▸ h.made⟩

end Order

def Job.Registers : Job → Prop
  | .creation o (.registering n) => n.name = o.nodeName ∧ n.cloud = o.cloud.name
  | _ => True

def Strand.Registers : Strand → Prop
  | .underWay j _ => j.Registers
  | _ => True

theorem Job.registers_of_quiet {j : Job} (h : j.isQuiet = true) : j.Registers := by
  cases j with
  | creation o p => cases h
  | _ => trivial

namespace Scene

variable {f : Fleet} {may : String → Dict String → Bool} {s s' : Scene} {x : Move}

inductive SiteStep (f : Fleet) (may : String → Dict String → Bool) (s : Scene) (uri : String) :
    Memory → Prop where
  | stays : SiteStep f may s uri (s.sites uri)
  | breaks {kinds : List CallKind} : SiteStep f may s uri { s.sites uri with broken := kinds }
  | calls {k part : Nat} {now : Timestamp} {r : Reaction} {c : Call}
      (waits : s.Waits f k part uri c) : SiteStep f may s uri ((s.sites uri).react now c r).2
  | others {now : Timestamp} {c : Call} (allowed : (s.sites uri).livensOnly (may uri) c = true) :
      SiteStep f may s uri ((s.sites uri).answer now c).2

theorem siteStep_update {uri uri' : String} {m : Memory} (h : SiteStep f may s uri m) :
    SiteStep f may s uri' (Function.update s.sites uri m uri') := by
  by_cases hu : uri' = uri
  · subst hu
    rwa [Function.update_self]
  · rw [Function.update_of_ne hu]
    exact .stays

theorem move_siteStep (h : s.move f may x = some s') (uri : String) :
    SiteStep f may s uri (s'.sites uri) := by
  cases x with
  | request m label executors =>
    obtain rfl := Option.some.inj h
    exact .stays
  | terminate | sweep | reap | adjust =>
    obtain rfl := Option.some.inj h
    exact .stays
  | react k part now r =>
    simp only [move, react] at h
    split at h
    · rename_i j replies hj
      split at h
      · rename_i uri' c hw
        split at h
        · cases h
        · obtain rfl := Option.some.inj h
          exact siteStep_update (.calls ⟨j, replies, hj, hw⟩)
      · cases h
    · cases h
  | goOn k part m admitted =>
    simp only [move, goOn] at h
    split at h
    · split at h
      · obtain ⟨a, -, rfl⟩ := Option.map_eq_some_iff.1 h
        exact .stays
      · cases h
    · cases h
  | die k m =>
    simp only [move, die] at h
    split at h
    · obtain rfl := Option.some.inj h
      exact .stays
    · cases h
  | outside uri' now c =>
    simp only [move] at h
    split at h
    · rename_i hc
      obtain rfl := Option.some.inj h
      exact siteStep_update (.others hc)
    · cases h
  | breaks uri' kinds =>
    obtain rfl := Option.some.inj h
    exact siteStep_update .breaks

theorem SiteStep.follows {uri : String} {m : Memory} (h : SiteStep f may s uri m) :
    (s.sites uri).Follows m (fun _ => True) (fun _ => True) := by
  cases h with
  | stays => exact .refl
  | breaks => exact ⟨Nat.le_refl _, fun _ c hc => .inl ⟨c, hc, rfl, .inl⟩⟩
  | @calls k part now r c waits =>
    exact (Memory.react_follows r now c).imp (fun _ _ => trivial) fun _ _ => trivial
  | @others now c allowed =>
    exact (Memory.answer_follows c).imp (fun _ _ => trivial) fun _ _ => trivial

/-- The move does not bring nodes into the registry from outside. -/
def Lawful (s : Scene) : Move → Prop
  | .adjust _ _ _ registry => s.state.registry.Within registry
  | _ => True

theorem move_registry (hx : s.Lawful x) (h : s.move f may x = some s') :
    s.state.registry.Within s'.state.registry ∨ ∃ o n replies,
      .underWay (.creation o (.registering n)) replies ∈ s.strands ∧
        s'.state.registry = Dict.insert s.state.registry n.name n := by
  cases x with
  | request m label executors =>
    obtain rfl := Option.some.inj h
    have hst : (Planning.start f s.state m label executors).state = s.state :=
      Planning.advance_state _
    exact .inl (Registry.within_of_eq (congrArg State.registry hst))
  | terminate | sweep | reap | breaks =>
    obtain rfl := Option.some.inj h
    exact .inl .refl
  | react k part now r =>
    simp only [move, react] at h
    split at h
    · split at h
      · split at h
        · cases h
        · obtain rfl := Option.some.inj h
          exact .inl .refl
      · cases h
    · cases h
  | goOn k part m admitted =>
    simp only [move, goOn] at h
    split at h
    · rename_i j replies hj
      split at h
      · rename_i p hp
        obtain ⟨a, -, rfl⟩ := Option.map_eq_some_iff.1 h
        obtain hw | ⟨o, n, rfl, hr⟩ :=
          Job.resume_registry (s := s.state) (m := m) (Dict.mem_of_lookup hp) a
        · exact .inl hw
        · exact .inr ⟨o, n, replies, List.mem_of_getElem? hj, hr⟩
      · cases h
    · cases h
  | die k m =>
    simp only [move, die] at h
    split at h
    · rename_i j replies hj
      obtain rfl := Option.some.inj h
      exact .inl (Registry.within_of_eq (Job.abandon_registry j))
    · cases h
  | outside uri now c =>
    simp only [move] at h
    split at h
    · obtain rfl := Option.some.inj h
      exact .inl .refl
    · cases h
  | adjust clouds templates pool registry =>
    obtain rfl := Option.some.inj h
    exact .inl hx

theorem StrandStep.registers {k : Nat} {y : Strand} (h : StrandStep f s k x y)
    (hs : ∀ y ∈ s.strands, y.Registers) : y.Registers := by
  cases h with
  | stays same => exact hs y (List.mem_of_getElem? same)
  | starts late starts =>
    cases starts with
    | plans =>
      exact ofProgress_map (P := Strand.Registers) (g := Job.planning) (h := JobResult.planned)
        (fun _ _ => trivial) fun _ => trivial
    | terminates | sweeps | reaps | creates => trivial
  | dies => trivial
  | @hears part now r j replies uri c was waits =>
    have hj : (Strand.underWay j replies).Registers := hs _ (List.mem_of_getElem? was)
    exact hj
  | @goesOn part m admitted j replies p a was waits granted =>
    cases j with
    | planning q =>
      obtain ⟨rfl, rfl⟩ := Prod.ext_iff.1 (List.mem_singleton.1 waits)
      exact ofProgress_map (P := Strand.Registers) (g := Job.planning) (h := JobResult.planned)
        (fun _ _ => trivial) fun _ => trivial
    | creation o q =>
      obtain ⟨rfl, rfl⟩ := Prod.ext_iff.1 (List.mem_singleton.1 waits)
      refine ofProgress_map (P := Strand.Registers) (g := Job.creation o) (h := JobResult.created)
        (fun q' hq' => ?_) fun _ => trivial
      cases q' with
      | registering n => exact Creation.resume_registering q a hq'
      | _ => trivial
    | termination | sweep | reap =>
      have hquiet := ((Job.pending_quiet rfl waits).2 s.state m a).2
      cases hp : (p.resume s.state m a).progress with
      | wait j' => exact Job.registers_of_quiet (hquiet j' hp)
      | done r => trivial

/-- All containers were made for orders of the fleet, and all nodes stand for such containers. -/
structure Sourced (f : Fleet) (s : Scene) : Prop where
  strands : ∀ x ∈ s.strands, x.OfFleet f
  ledger : s.ledger.Orderly f
  sites : ∀ uri, (s.sites uri).Holds fun x => ∃ o : Order, o.Fits f uri x
  nodes : ∀ k n, s.state.registry.get? k = some n → n.name = k ∧ ∃ o : Order, o.Begot f s.sites n
  registers : ∀ y ∈ s.strands, y.Registers

theorem Sourced.sound (h : s.Sourced f) {y : Strand} (hy : y ∈ s.strands) :
    y.role.Sound f s.sites :=
  h.ledger.roles _ (List.mem_map_of_mem hy)

theorem Sourced.site {uri : String} {m : Memory} (h : s.Sourced f)
    (hm : SiteStep f (fun _ _ => false) s uri m) :
    m.Holds fun x => ∃ o : Order, o.Fits f uri x := by
  have hs := h.sites uri
  have hstart : ∀ x : Container, (∃ o : Order, o.Fits f uri x) →
      ∃ o : Order, o.Fits f uri x.started := fun x ⟨o, ho⟩ => ⟨o, ho.started⟩
  have hstop : ∀ x : Container, (∃ o : Order, o.Fits f uri x) →
      ∃ o : Order, o.Fits f uri x.stopped := fun x ⟨o, ho⟩ => ⟨o, ho.stopped⟩
  cases hm with
  | stays => exact hs
  | breaks => exact hs.of_containers rfl
  | @calls k part now r c waits =>
    have ha : ((s.sites uri).answer now c).2.Holds fun x => ∃ o : Order, o.Fits f uri x := by
      refine hs.answer hstart hstop fun spec x hc hname hlabels hstatus => ?_
      subst hc
      obtain ⟨j, replies, hj, hw⟩ := waits
      obtain ⟨o, rfl, rfl, rfl⟩ := Job.creation_of_create hw
      have ho := h.sound (List.mem_of_getElem? hj)
      exact ⟨o, ho.1, rfl, hlabels, hname.trans (Template.createSpec_name ..), hstatus⟩
    cases r with
    | obeys | obeysUnheard e => exact ha
    | refuses e => exact hs
  | others allowed =>
    refine hs.answer hstart hstop fun spec x hc _ _ _ => ?_
    subst hc
    cases allowed

theorem Sourced.move (h : s.Sourced f) (hx : s.Lawful x)
    (hm : s.move f (fun _ _ => false) x = some s') : s'.Sourced f := by
  obtain ⟨hstep, hstrands⟩ := move_step h.strands hm
  have hbegot {o : Order} {n : Node} (hb : o.Begot f s.sites n) : o.Begot f s'.sites n :=
    ⟨hb.target, hb.name, hb.cloud, hb.made.follows (move_siteStep hm _).follows⟩
  refine ⟨hstrands, h.ledger.step hstep, fun uri => h.site (move_siteStep hm uri), fun k n hn => ?_,
    fun y hy => ?_⟩
  · obtain hw | ⟨o, n', replies, hy, hr⟩ := move_registry hx hm
    · obtain ⟨n₀, hn₀, hname, hcloud, hid⟩ := hw k n hn
      obtain ⟨hk, o, ho⟩ := h.nodes k n₀ hn₀
      exact ⟨hname.trans hk, o, hbegot (ho.of_node hname hcloud hid)⟩
    · rw [hr, Dict.get?_insert] at hn
      split at hn
      · rename_i hk
        obtain rfl := Option.some.inj hn
        obtain ⟨hname, hcloud⟩ := h.registers _ hy
        have ho := h.sound hy
        exact ⟨hk.symm, o, hbegot ⟨ho.1, hname, hcloud, ho.2 _ (.inl rfl)⟩⟩
      · obtain ⟨hk, o, ho⟩ := h.nodes k n hn
        exact ⟨hk, o, hbegot ho⟩
  · obtain ⟨k, hk⟩ := List.mem_iff_getElem?.1 hy
    exact (move_strandStep hm hk).registers h.registers

/-- What a fleet can come to that began without containers and nodes, if it alone creates containers and
registers nodes. -/
inductive Reached (f : Fleet) : Scene → Prop where
  | bare {s : Scene} (fresh : s.Fresh) (nodes : s.state.registry = .empty)
      (sites : ∀ uri, (s.sites uri).containers = .empty) : Reached f s
  | next {s s' : Scene} {x : Move} (before : Reached f s) (lawful : s.Lawful x)
      (move : s.move f (fun _ _ => false) x = some s') : Reached f s'

theorem Reached.sourced (h : s.Reached f) : s.Sourced f := by
  induction h with
  | @bare s fresh nodes sites =>
    have hs : ∀ x ∈ s.strands, False := by
      rw [fresh.strands]
      exact List.forall_mem_nil _
    have hnone : ∀ uri id x, (s.sites uri).get? id ≠ some x := by
      intro uri id x hx
      rw [Memory.get?, sites] at hx
      cases hx
    refine ⟨fun x hx => (hs x hx).elim, fresh.orderly, fun uri => ⟨?_, ?_, ?_⟩, fun k n hn => ?_,
      fun x hx => (hs x hx).elim⟩
    · exact fun id x hx => absurd hx (hnone uri id x)
    · exact fun id x hx => absurd hx (hnone uri id x)
    · exact fun id _ x _ hx _ => absurd hx (hnone uri id x)
    · rw [nodes] at hn
      cases hn
  | next before lawful move ih => exact ih.move lawful move

theorem Reached.play {moves : List Move} (h : s.Reached f) (hm : ∀ x ∈ moves, x.adjusts = false)
    (hp : s.play f (fun _ _ => false) moves = some s') : s'.Reached f := by
  induction moves generalizing s with
  | nil => exact Option.some.inj hp ▸ h
  | cons x moves ih =>
    obtain ⟨s₁, hx, hp⟩ := Option.bind_eq_some_iff.1 hp
    obtain ⟨hown, hm⟩ := List.forall_mem_cons.1 hm
    have hlawful : s.Lawful x := by
      cases x with
      | adjust => cases hown
      | _ => trivial
    exact ih (h.next hlawful hx) hm hp

end Scene

end ContainerFleet
