import ContainerFleet.Proofs.Alone
import ContainerFleet.Proofs.Pool
import ContainerFleet.Proofs.Registry

namespace ContainerFleet

/-- A removal by force has failed, and not because there was nothing to remove. -/
def Reply.isLost : Reply → Bool
  | ⟨_, .remove _ options, .error cause⟩ => options.force && !cause.isNotFound
  | _ => false

namespace Removal

variable {r : Removal} {p : Phase} {cause : RuntimeError}

theorem resume_error_ne_ok {d : Removed} (h : cause.isNotFound = false) :
    resume p (.error cause) ≠ .done (.ok d) := by
  cases p with
  | removing force => cases force <;> cases cause <;> simp [RuntimeError.isNotFound, resume] at h ⊢
  | _ => cases cause <;> simp [RuntimeError.isNotFound, resume] at h ⊢

theorem isLost_of_failed {a : (r.call p).Outcome} (h : resume p (r.reply p a) = .done (.error cause)) :
    Reply.isLost ⟨0, r.call p, a⟩ = true := by
  cases p with
  | stopping => cases a with
    | ok u => cases h
    | error c => cases c <;> cases h
  | removing force => cases a with
    | ok u => cases h
    | error c => cases force <;> cases c <;> cases h <;> rfl
  | retrying => cases a with
    | ok u => cases h
    | error c => cases c <;> cases h <;> rfl

end Removal

namespace Circumstance

variable {e : Circumstance} {m : Memory} {p : Removal.Phase} {d : Removed}

theorem gone_of_removed {id : String} {options : RemoveOptions}
    (hh : (Call.remove id options).honest m (e.answer m (.remove id options)) = true)
    (hd : Removal.resume p (e.answer m (.remove id options)).1 = .done (.ok d)) :
    (e.answer m (.remove id options)).2.get? id = none := by
  obtain hg | ⟨cause, hc, hn⟩ := gone_or_failed hh
  · exact hg
  · rw [hc] at hd
    exact absurd hd (Removal.resume_error_ne_ok hn)

/-- A removal that is said to have succeeded has left no container. -/
theorem gone_of_ended {r : Removal} (hh : (r.call p).honest m (e.answer m (r.call p)) = true)
    (hd : Removal.resume p (r.reply p (e.answer m (r.call p)).1) = .done (.ok d)) :
    (e.answer m (r.call p)).2.get? r.id = none := by
  cases p with
  | stopping =>
    -- Only a container that is gone already ends a removal at once.
    simp only [Removal.call] at hh hd ⊢
    generalize e.answer m _ = out at hh hd ⊢
    obtain ⟨a, m'⟩ := out
    cases a with
    | ok u => cases hd
    | error cause => cases cause with
      | notFound x => simpa [Call.honest] using hh
      | _ => cases hd
  | removing force => exact gone_of_removed hh hd
  | retrying => exact gone_of_removed hh hd

end Circumstance

namespace Termination

def ahead : Progress Phase Result → Nat
  | .wait .lookingUp => 7
  | .wait (.marking _ _) => 6
  | .wait (.removing _ _ p) => p.ahead + 2
  | .wait .markingGone => 2
  | .wait .unregistering => 1
  | .done _ => 0

structure About (f : Fleet) (name : String) (registry : Registry) (n : Node) (c : Cloud) : Prop where
  node : registry.get? name = some n
  cloud : f.cloud? n.cloud.text = some c

structure Along (f : Fleet) (name : String) (g₀ g : Solo) (n : Node) (c : Cloud) : Prop
    extends About f name g₀.state.registry n c where
  others : ∀ uri id, uri ≠ c.endpoint.uri ∨ id ≠ n.containerId →
    (g.sites uri).get? id = (g₀.sites uri).get? id

abbrev marked (n : Node) : Node := { n with state := .terminating }

/-- Why a termination that met `es` failed, and what it then leaves. -/
inductive Failed (f : Fleet) (name : String) (es : List Circumstance) (g₀ g : Solo) :
    ProvisionError → Prop where
  | unknownNode (absent : g₀.state.registry.get? name = none) (same : g = g₀) :
      Failed f name es g₀ g (.unknownNode name)
  | unknownCloud {n : Node} (node : g₀.state.registry.get? name = some n)
      (unknown : f.cloud? n.cloud.text = none) (same : g = g₀) :
      Failed f name es g₀ g (.unknownCloud n.cloud.text)
  | barred {n : Node} {c : Cloud} (about : About f name g₀.state.registry n c)
      (other : n.state ≠ .terminating) (bar : n.state.canBecome .terminating = false)
      (same : g = g₀) :
      Failed f name es g₀ g (.registration name (.invalidTransition name n.state .terminating))
  | unleased {n : Node} {c : Cloud} {cause : PoolError} (about : About f name g₀.state.registry n c)
      (refused : ∃ e ∈ es, e.moment.refusal c.endpoint ≠ none)
      (registry : g.state.registry = g₀.state.registry.insert name (marked n))
      (sites : g.sites = g₀.sites) : Failed f name es g₀ g (.ofPool c.name cause)
  | unremoved {n : Node} {c : Cloud} {cause : RuntimeError} (along : Along f name g₀ g n c)
      (registry : g.state.registry = g₀.state.registry.insert name (marked n))
      (lost : ∃ x ∈ g.heard, x.isLost = true) : Failed f name es g₀ g (.termination name cause)

def Gone (g : Solo) (n : Node) (c : Cloud) : Prop :=
  (g.sites c.endpoint.uri).get? n.containerId = none

/-- Where a termination that goes on alone and meets `es` can be. -/
inductive OnTermination (f : Fleet) (name : String) (es : List Circumstance) (g₀ : Solo) :
    Progress Phase Result → Solo → Prop where
  | lookingUp : OnTermination f name es g₀ (.wait .lookingUp) g₀
  | marking {n : Node} {c : Cloud} (about : About f name g₀.state.registry n c) :
      OnTermination f name es g₀ (.wait (.marking n c)) g₀
  | removing {g : Solo} {n : Node} {c : Cloud} {p : Removal.Phase} (along : Along f name g₀ g n c)
      (registry : g.state.registry = g₀.state.registry.insert name (marked n)) :
      OnTermination f name es g₀ (.wait (.removing c (removal n c) p)) g
  | markingGone {g : Solo} {n : Node} {c : Cloud} (along : Along f name g₀ g n c)
      (registry : g.state.registry = g₀.state.registry.insert name (marked n)) (gone : Gone g n c) :
      OnTermination f name es g₀ (.wait .markingGone) g
  | unregistering {g : Solo} {n : Node} {c : Cloud} (along : Along f name g₀ g n c)
      (registry : g.state.registry = g₀.state.registry.insert name { n with state := .gone })
      (gone : Gone g n c) : OnTermination f name es g₀ (.wait .unregistering) g
  | ended {g : Solo} {n : Node} {c : Cloud} (along : Along f name g₀ g n c)
      (registry : g.state.registry = g₀.state.registry.erase name) (gone : Gone g n c) :
      OnTermination f name es g₀ (.done (.ok ())) g
  | failed {g : Solo} {e : ProvisionError} (failed : Failed f name es g₀ g e) :
      OnTermination f name es g₀ (.done (.error e)) g

variable {f : Fleet} {name : String} {es : List Circumstance} {g₀ g : Solo} {e : Circumstance}
  {m : Moment} {n : Node} {c : Cloud}

theorem ahead_resume (s : State) (p : Phase) (a : (wait p).Answer) :
    ahead (resume f name s m p a).progress < ahead (.wait p) := by
  cases p with
  | lookingUp =>
    simp only [resume, lookUp]
    split
    · exact Nat.zero_lt_succ _
    · split <;> simp [stop, ahead]
  | marking n c =>
    simp only [resume, mark]
    split
    · exact Nat.zero_lt_succ _
    · split
      · exact Nat.zero_lt_succ _
      · exact Nat.lt_succ_self _
  | removing c r p =>
    simp only [resume, remove]
    split
    · rename_i p' hp
      exact Nat.add_lt_add_right (Removal.ahead_resume hp) 2
    · exact Nat.zero_lt_succ _
    · cases p <;> simp [ahead, Removal.Phase.ahead]
  | markingGone =>
    simp only [resume, markGone]
    split <;> simp [stop, ahead]
  | unregistering =>
    simp only [resume, unregister]
    split <;> exact Nat.zero_lt_one

theorem lookUp_onTermination :
    OnTermination f name es g₀ (lookUp f name g₀.state).progress
      { g₀ with state := (lookUp f name g₀.state).state } := by
  unfold lookUp
  split
  · rename_i hn
    exact .failed (.unknownNode hn rfl)
  · rename_i n hn
    split
    · rename_i hc
      exact .failed (.unknownCloud hn hc rfl)
    · rename_i c hc
      exact .marking ⟨hn, hc⟩

theorem mark_onTermination (h : About f name g₀.state.registry n c) (he : e ∈ es) :
    OnTermination f name es g₀ (mark name g₀.state e.moment n c).progress
      { g₀ with state := (mark name g₀.state e.moment n c).state } := by
  have hset := Registry.setState_eq h.node .terminating
  unfold mark
  by_cases hs : n.state = .terminating ∨ n.state.canBecome .terminating = true
  · rw [if_pos hs] at hset
    rw [hset]
    simp only
    split
    · rename_i cause s hl
      obtain ⟨hcause, rfl⟩ := Prod.ext_iff.1 hl
      refine .failed (.unleased h ⟨e, he, fun hnone => ?_⟩ rfl rfl)
      obtain ⟨client, hclient⟩ := State.lease_ok hnone
      cases hcause.symm.trans hclient
    · rename_i client s hl
      obtain ⟨-, rfl⟩ := Prod.ext_iff.1 hl
      exact .removing ⟨h, fun _ _ _ => rfl⟩ rfl
  · rw [if_neg hs] at hset
    rw [hset]
    rw [not_or, Bool.not_eq_true] at hs
    exact .failed (.barred h hs.1 hs.2 rfl)

def heardFrom (c : Cloud) (g : Solo) (e : Circumstance) (x : Call) (a : x.Outcome) : Solo :=
  { g with
    sites := Function.update g.sites c.endpoint.uri (e.answer (g.sites c.endpoint.uri) x).2
    heard := ⟨0, x, a⟩ :: g.heard }

theorem id_removal : (removal n c).id = n.containerId := by
  unfold removal
  split <;> rfl

theorem Along.call (h : Along f name g₀ g n c) (p : Removal.Phase)
    (a : ((removal n c).call p).Outcome) :
    Along f name g₀ (heardFrom c g e ((removal n c).call p) a) n c := by
  refine ⟨h.toAbout, fun uri id hk => ?_⟩
  rw [← h.others uri id hk]
  by_cases hu : uri = c.endpoint.uri
  · have hne : id ≠ n.containerId := by simpa [hu] using hk
    subst hu
    simp only [heardFrom, Function.update_self]
    refine Circumstance.get?_answer_of_ne (by cases p <;> simp [Removal.call, Call.kind]) fun hs => ?_
    have hs' : some (removal n c).id = some id := by
      rw [← hs]
      cases p <;> rfl
    exact hne ((Option.some.inj hs').symm.trans id_removal)
  · exact congrArg (Memory.get? · id) (Function.update_of_ne hu _ _)

theorem markGone_onTermination (h : Along f name g₀ g n c)
    (hr : g.state.registry = g₀.state.registry.insert name (marked n)) (hg : Gone g n c) :
    OnTermination f name es g₀ (markGone name g.state).progress
      { g with state := (markGone name g.state).state } := by
  have hn : g.state.registry.get? name = some (marked n) := by
    rw [hr, Dict.get?_insert, if_pos rfl]
  have hset := Registry.setState_eq hn .gone
  rw [if_pos (.inr rfl), hr, Dict.insert_insert] at hset
  rw [← hr] at hset
  unfold markGone
  rw [hset]
  exact .unregistering ⟨h.toAbout, h.others⟩ rfl hg

theorem unregister_onTermination (h : Along f name g₀ g n c)
    (hr : g.state.registry = g₀.state.registry.insert name { n with state := .gone })
    (hg : Gone g n c) :
    OnTermination f name es g₀ (unregister name g.state).progress
      { g with state := (unregister name g.state).state } := by
  have hn : g.state.registry.get? name = some { n with state := .gone } := by
    rw [hr, Dict.get?_insert, if_pos rfl]
  unfold unregister
  rw [Registry.remove_eq hn]
  refine .ended ⟨h.toAbout, h.others⟩ ?_ hg
  exact (congrArg (Dict.erase · name) hr).trans Dict.erase_insert_self

theorem step_onTermination {p : Phase} {q : Progress Phase Result} {g' : Solo} (he : e ∈ es)
    (h : OnTermination f name es g₀ (.wait p) g)
    (hs : Solo.step (pending f name) g p e = some (q, g')) :
    OnTermination f name es g₀ q g' := by
  obtain ⟨a, g₁, hserve, rfl, rfl⟩ := Solo.step_eq_some hs
  cases h with
  | lookingUp =>
    obtain ⟨rfl, rfl⟩ := Prod.ext_iff.1 (Option.some.inj hserve)
    exact lookUp_onTermination
  | marking about =>
    obtain ⟨rfl, rfl⟩ := Prod.ext_iff.1 (Option.some.inj hserve)
    exact mark_onTermination about he
  | @removing _ n c p along registry =>
    obtain ⟨hh, ha, rfl⟩ := Solo.serve_call hserve
    have hcall : Along f name g₀ (heardFrom c g e ((removal n c).call p) a) n c := along.call p a
    simp only [pending, resume, remove]
    split
    · exact .removing hcall registry
    · rename_i cause hd
      exact .failed (.unremoved ⟨hcall.toAbout, hcall.others⟩ registry
        ⟨_, List.mem_cons_self, Removal.isLost_of_failed hd⟩)
    · rename_i d hd
      refine .markingGone ⟨hcall.toAbout, hcall.others⟩ registry ?_
      rw [ha] at hd
      have hgone := Circumstance.gone_of_ended hh hd
      rw [id_removal] at hgone
      simp only [Gone, Function.update_self]
      exact hgone
  | markingGone along registry gone =>
    obtain ⟨rfl, rfl⟩ := Prod.ext_iff.1 (Option.some.inj hserve)
    exact markGone_onTermination along registry gone
  | unregistering along registry gone =>
    obtain ⟨rfl, rfl⟩ := Prod.ext_iff.1 (Option.some.inj hserve)
    exact unregister_onTermination along registry gone

theorem run_onTermination {q : Progress Phase Result}
    (h : Solo.run (pending f name) g₀ .lookingUp es = some (q, g)) : OnTermination f name es g₀ q g :=
  Progress.walk_induction_of (E := (· ∈ es)) (P := OnTermination f name es g₀)
    (fun _ _ _ _ _ he h hs => step_onTermination he h hs) (fun _ he => he) .lookingUp h

theorem ahead_step {p : Phase} {q : Progress Phase Result} {g' : Solo}
    (hs : Solo.step (pending f name) g p e = some (q, g')) : ahead q < ahead (.wait p) := by
  obtain ⟨a, g₁, -, rfl, -⟩ := Solo.step_eq_some hs
  exact ahead_resume ..

/-- A termination is never stuck: it goes on at any moment at which the runtime obeys. -/
theorem isSome_step (g : Solo) (p : Phase) (m : Moment) :
    (Solo.step (pending f name) g p { moment := m }).isSome = true := by
  rw [Solo.step, Option.isSome_map]
  cases p with
  | removing c r p => exact Solo.isSome_serve_call
  | _ => rfl

structure Working (c : Cloud) (g : Solo) : Prop where
  sound : (g.sites c.endpoint.uri).isBroken .remove = false
  kept : ∀ x ∈ g.heard, x.isLost = false

theorem isLost_of_obeys {mem : Memory} (h : mem.isBroken .remove = false) (now : Timestamp)
    (r : Removal) (p : Removal.Phase) :
    Reply.isLost ⟨0, r.call p, (mem.answer now (r.call p)).1⟩ = false := by
  have hremove : ∀ force volumes, Reply.isLost
      ⟨0, .remove r.id ⟨force, volumes⟩, (mem.answer now (.remove r.id ⟨force, volumes⟩)).1⟩ = false := by
    intro force volumes
    have ha : mem.answer now (.remove r.id ⟨force, volumes⟩) = mem.remove r.id force := by
      rw [Memory.answer, if_neg (by simpa [Call.kind] using h)]
    rw [ha]
    cases hx : mem.get? r.id with
    | none => simp [Memory.remove, hx, Reply.isLost, RuntimeError.isNotFound]
    | some x =>
      cases force with
      | false => cases hr : x.running <;> simp [Memory.remove, hx, hr, Reply.isLost]
      | true => simp [Memory.remove, hx, Reply.isLost]
  cases p with
  | stopping => rfl
  | removing force => exact hremove force r.volumes
  | retrying => exact hremove true r.volumes

theorem step_working {p : Phase} {q : Progress Phase Result} {g' : Solo} (he : e.reaction = .obeys)
    (hn : About f name g₀.state.registry n c) (h : OnTermination f name es g₀ (.wait p) g)
    (hw : Working c g) (hs : Solo.step (pending f name) g p e = some (q, g')) : Working c g' := by
  obtain ⟨a, g₁, hserve, -, rfl⟩ := Solo.step_eq_some hs
  cases h with
  | @removing _ n' c' p along registry =>
    obtain rfl : n' = n := Option.some.inj (along.node.symm.trans hn.node)
    obtain rfl : c' = c := Option.some.inj (along.cloud.symm.trans hn.cloud)
    obtain ⟨-, ha, rfl⟩ := Solo.serve_call hserve
    have hanswer : e.answer (g.sites c'.endpoint.uri) ((removal n' c').call p) =
        (g.sites c'.endpoint.uri).answer e.moment.wall ((removal n' c').call p) := by
      rw [Circumstance.answer_of_ne (by cases p <;> simp [Removal.call, Call.kind]), he]
      rfl
    rw [hanswer] at ha
    refine ⟨?_, fun x hx => ?_⟩
    · simp only [Function.update_self]
      rw [hanswer, Memory.isBroken_congr (Memory.broken_answer _)]
      exact hw.sound
    · obtain rfl | hx := List.mem_cons.1 hx
      · rw [ha]
        exact isLost_of_obeys hw.sound ..
      · exact hw.kept x hx
  | _ =>
    obtain ⟨-, rfl⟩ := Prod.ext_iff.1 (Option.some.inj hserve)
    exact ⟨hw.sound, hw.kept⟩

theorem run_working {q : Progress Phase Result} (he : ∀ e ∈ es, e.reaction = .obeys)
    (hn : About f name g₀.state.registry n c) (hw : Working c g₀)
    (h : Solo.run (pending f name) g₀ .lookingUp es = some (q, g)) : Working c g :=
  (Progress.walk_induction_of (E := (· ∈ es))
    (P := fun q g => OnTermination f name es g₀ q g ∧ Working c g)
    (fun _ _ e _ _ hmem hp hs =>
      ⟨step_onTermination hmem hp.1 hs, step_working (he e hmem) hn hp.1 hp.2 hs⟩)
    (fun _ he => he) ⟨.lookingUp, hw⟩ h).2

/-- A node that may be terminated goes if a client can be had and no removal by force fails. -/
theorem ok_of_kept {r : Result} (hn : About f name g₀.state.registry n c)
    (ht : n.state = .terminating ∨ n.state.canBecome .terminating = true)
    (hm : ∀ e ∈ es, e.moment.refusal c.endpoint = none)
    (h : Solo.run (pending f name) g₀ .lookingUp es = some (.done r, g))
    (hk : ∀ x ∈ g.heard, x.isLost = false) : r = .ok () := by
  cases run_onTermination h with
  | ended => rfl
  | failed failed =>
    exfalso
    cases failed with
    | unknownNode absent same => cases absent.symm.trans hn.node
    | unknownCloud node unknown same =>
      obtain rfl := Option.some.inj (node.symm.trans hn.node)
      cases unknown.symm.trans hn.cloud
    | barred about other bar same =>
      obtain rfl := Option.some.inj (about.node.symm.trans hn.node)
      obtain ht | ht := ht
      · exact other ht
      · cases bar.symm.trans ht
    | unleased about refused registry sites =>
      obtain rfl := Option.some.inj (about.node.symm.trans hn.node)
      obtain rfl := Option.some.inj (about.cloud.symm.trans hn.cloud)
      obtain ⟨e, he, hr⟩ := refused
      exact hr (hm e he)
    | unremoved along registry lost =>
      obtain ⟨x, hx, hl⟩ := lost
      cases (hk x hx).symm.trans hl

/-- What a later termination comes to. -/
structure Retried (f : Fleet) (name : String) (c : Cloud) (g₀ : Solo) : Prop where
  ok : ∀ es r g, (∀ e ∈ es, e.moment.refusal c.endpoint = none) →
    Solo.run (pending f name) g₀ .lookingUp es = some (.done r, g) →
    (∀ x ∈ g.heard, x.isLost = false) → r = .ok ()
  ends : ∀ m, m.refusal c.endpoint = none → (g₀.sites c.endpoint.uri).isBroken .remove = false →
    ∃ k g, Solo.run (pending f name) g₀ .lookingUp (.replicate k { moment := m }) =
      some (.done (.ok ()), g)

theorem retried (hn : About f name g₀.state.registry n c) (ht : n.state = .terminating)
    (h₀ : g₀.heard = []) : Retried f name c g₀ := by
  refine ⟨fun es r g hm h => ok_of_kept hn (.inl ht) hm h, fun m hm hb => ?_⟩
  let e : Circumstance := { moment := m }
  let P (q : Progress Phase Result) (g : Solo) : Prop :=
    OnTermination f name [e] g₀ q g ∧ Working c g
  have hstart : P (.wait .lookingUp) g₀ := ⟨.lookingUp, hb, fun x hx => by rw [h₀] at hx; cases hx⟩
  -- All steps meet the same, so only their number matters.
  let step (g : Solo) (p : Phase) (_ : Unit) : Option (Progress Phase Result × Solo) :=
    Solo.step (pending f name) g p e
  have hstep : ∀ g p u q g', P (.wait p) g → step g p u = some (q, g') →
      P q g' ∧ ahead q < ahead (.wait p) := by
    intro g p u q g' hp hs
    exact ⟨⟨step_onTermination (List.mem_singleton_self e) hp.1 hs, step_working rfl hn hp.1 hp.2 hs⟩,
      ahead_step hs⟩
  obtain ⟨us, r, g, hwalk⟩ := Progress.exists_walk hstep
    (fun g p _ => ⟨(), isSome_step g p m⟩) hstart
  have hend : P (.done r) g :=
    Progress.walk_induction (fun g p u q g' hp hs => (hstep g p u q g' hp hs).1) hstart hwalk
  have hrun : Solo.run (pending f name) g₀ .lookingUp (us.map fun _ => e) = some (.done r, g) :=
    (Progress.walk_map (fun _ => e) us).trans hwalk
  rw [List.map_const'] at hrun
  refine ⟨us.length, g, ?_⟩
  have hr : r = .ok () := by
    refine ok_of_kept hn (.inl ht) (fun e' he' => ?_) hrun hend.2.kept
    rw [List.eq_of_mem_replicate he']
    exact hm
  exact hr ▸ hrun

/-- The other nodes and containers are left alone, and the node goes only after its container. -/
structure Spared (f : Fleet) (name : String) (g₀ g : Solo) : Prop where
  nodes : ∀ k, k ≠ name → g.state.registry.get? k = g₀.state.registry.get? k
  containers : ∀ uri id, (∀ n c, About f name g₀.state.registry n c →
    uri ≠ c.endpoint.uri ∨ id ≠ n.containerId) → (g.sites uri).get? id = (g₀.sites uri).get? id
  unregistered : ∀ n, g₀.state.registry.get? name = some n → g.state.registry.get? name = none →
    ∃ c, f.cloud? n.cloud.text = some c ∧ Gone g n c

theorem spared_self : Spared f name g₀ g₀ :=
  ⟨fun _ _ => rfl, fun _ _ _ => rfl, fun n hn hnone => by cases hn.symm.trans hnone⟩

theorem Along.spared_insert (h : Along f name g₀ g n c) {n' : Node}
    (hr : g.state.registry = g₀.state.registry.insert name n') : Spared f name g₀ g := by
  refine ⟨fun k hk => ?_, fun uri id hf => h.others uri id (hf n c h.toAbout), fun _ _ hnone => ?_⟩
  · rw [hr, Dict.get?_insert, if_neg hk]
  · rw [hr, Dict.get?_insert, if_pos rfl] at hnone
    cases hnone

theorem OnTermination.spared {q : Progress Phase Result} (h : OnTermination f name es g₀ q g) :
    Spared f name g₀ g := by
  cases h with
  | lookingUp | marking about => exact spared_self
  | removing along registry | markingGone along registry gone | unregistering along registry gone =>
    exact along.spared_insert registry
  | ended along registry gone =>
    refine ⟨fun k hk => ?_, fun uri id hf => along.others uri id (hf _ _ along.toAbout),
      fun n' hn' _ => ?_⟩
    · rw [registry, Dict.get?_erase, if_neg hk]
    · obtain rfl := Option.some.inj (along.node.symm.trans hn')
      exact ⟨_, along.cloud, gone⟩
  | failed failed =>
    cases failed with
    | unknownNode absent same | unknownCloud node unknown same | barred about other bar same =>
      exact same ▸ spared_self
    | unleased about refused registry sites =>
      exact Along.spared_insert ⟨about, fun uri id _ => by rw [sites]⟩ registry
    | unremoved along registry lost => exact along.spared_insert registry

/-- A termination that goes on alone comes to its end. It takes the node out of the registry when the
container is gone, or changes nothing, or leaves the node for a termination that can succeed. -/
theorem terminated_or_retriable (f : Fleet) (name : String) (s : State) (sites : String → Memory) :
    (∀ es q g, Solo.run (pending f name) { state := s, sites } .lookingUp es = some (q, g) →
      es.length ≤ 7 ∧ Spared f name { state := s, sites } g ∧
      match q with
      | .wait _ => ∃ more r g', Solo.run (pending f name) { state := s, sites } .lookingUp
          (es ++ more) = some (.done r, g')
      | .done (.ok _) => ∃ n c, About f name s.registry n c ∧
          g.state.registry = s.registry.erase name ∧ Gone g n c
      | .done (.error e) => Failed f name es { state := s, sites } g e) ∧
    ∀ n c, About f name s.registry n c → ∀ (s' : State) (sites' : String → Memory),
      s'.registry.get? name = some (marked n) → Retried f name c { state := s', sites := sites' } := by
  have hstep : ∀ g p e q g', True → Solo.step (pending f name) g p e = some (q, g') →
      True ∧ ahead q < ahead (.wait p) := fun _ _ _ _ _ _ hs => ⟨trivial, ahead_step hs⟩
  refine ⟨fun es q g h => ?_, fun n c hn s' sites' hn' => retried ⟨hn', hn.cloud⟩ rfl rfl⟩
  have hon := run_onTermination h
  have hlen : es.length + ahead q ≤ 7 := Progress.length_le_ahead (P := fun _ _ => True) hstep trivial h
  refine ⟨Nat.le_trans (Nat.le_add_right ..) hlen, hon.spared, ?_⟩
  cases q with
  | wait p =>
    exact Progress.exists_walk_append (P := fun _ _ => True) hstep
      (fun g p _ => ⟨{ moment := .sample 0 }, isSome_step g p _⟩) trivial h
  | done r =>
    cases hon with
    | ended along registry gone => exact ⟨_, _, along.toAbout, registry, gone⟩
    | failed failed => exact failed

end Termination

def Solo.ofNode (broken : List CallKind) : Solo :=
  { state := { State.initial (.ofSecs 300) 8 with registry := Dict.empty.insert "n1" Node.sample }
    sites := Stage.sampleSites broken }

namespace Termination

/-- The container neither stops nor goes, and the node stays for the termination that follows when
removals work again. -/
theorem terminated_or_retriable_broken : ∃ es cause g k g',
    Solo.run (pending .one "n1") (.ofNode [.stop, .remove]) .lookingUp es =
      some (.done (.error (.termination "n1" cause)), g) ∧
    g.state.registry.get? "n1" = some (marked Node.sample) ∧
    Solo.run (pending .one "n1") { state := g.state, sites := Stage.sampleSites [.stop] } .lookingUp
      (.replicate k { moment := .sample 2 }) = some (.done (.ok ()), g') ∧
    g'.state.registry.get? "n1" = none ∧ (g'.sites "tcp://h:1").get? "c1" = none := by
  obtain ⟨cause, g, hrun, hnode⟩ : ∃ cause g,
      Solo.run (pending .one "n1") (.ofNode [.stop, .remove]) .lookingUp
        (.replicate 4 { moment := .sample 1 }) = some (.done (.error (.termination "n1" cause)), g) ∧
      g.state.registry.get? "n1" = some (marked Node.sample) := ⟨_, _, rfl, rfl⟩
  obtain ⟨c, hc, huri⟩ : ∃ c, Fleet.one.cloud? "a" = some c ∧ c.endpoint.uri = "tcp://h:1" :=
    ⟨_, rfl, rfl⟩
  have hlater := (terminated_or_retriable .one "n1" (Solo.ofNode [.stop, .remove]).state
    (Stage.sampleSites [.stop, .remove])).2 Node.sample c ⟨rfl, hc⟩ g.state
      (Stage.sampleSites [.stop]) hnode
  obtain ⟨k, g', hrun'⟩ := hlater.ends (.sample 2) rfl rfl
  obtain ⟨-, -, n, c', habout, hreg, hgone⟩ :=
    (terminated_or_retriable .one "n1" g.state (Stage.sampleSites [.stop])).1 _ _ _ hrun'
  obtain rfl := Option.some.inj (habout.node.symm.trans hnode)
  obtain rfl := Option.some.inj (habout.cloud.symm.trans hc)
  refine ⟨_, cause, g, k, g', hrun, hnode, hrun', ?_, ?_⟩
  · rw [hreg, Dict.get?_erase, if_pos rfl]
  · rw [← huri]
    exact hgone

end Termination

end ContainerFleet
