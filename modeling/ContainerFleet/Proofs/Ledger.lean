import ContainerFleet.Proofs.Memory
import ContainerFleet.Proofs.Ownership
import ContainerFleet.Proofs.Scene
import ContainerFleet.Proofs.Turn

namespace ContainerFleet

inductive Role where
  | idle
  /-- It decides on a target, has read the counts of creations, and may have got a listing. -/
  | deciding (t : Target) (onCloud ofTemplate : Nat) (listings : List (List Summary))
  /-- It creates a node, holds a container, and may have been told of one that it does not hold yet. -/
  | creating (o : Order) (held : Option String) (told : List String)

structure Ledger where
  capacity : Capacity
  locked : Dict Unit
  sites : String → Memory
  roles : List Role

namespace Reply

def listing? : Reply → Option (List Summary)
  | ⟨0, .list _, .ok running⟩ => some running
  | _ => none

def container? : Reply → Option String
  | ⟨_, .create _, .ok id⟩ => some id
  | _ => none

theorem outcome?_eq_some {part : Nat} {c : Call} {r : Reply} {a : c.Outcome}
    (h : r.outcome? part c = some a) : r = ⟨part, c, a⟩ := by
  unfold outcome? at h
  split at h
  · rename_i hr
    obtain ⟨rfl, rfl⟩ := hr
    obtain rfl := Option.some.inj h
    rfl
  · cases h

theorem listing?_taken (rs : List Reply) :
    (rs.filter (·.part ≠ 0)).filterMap (·.listing?) = [] := by
  rw [List.filterMap_eq_nil_iff]
  intro r hr
  obtain ⟨part, c, a⟩ := r
  have hp : part ≠ 0 := by simpa using (List.mem_filter.1 hr).2
  cases part with
  | zero => exact absurd rfl hp
  | succ n => rfl

theorem mem_of_findSome? {part : Nat} {c : Call} {rs : List Reply} {a : c.Outcome}
    (h : rs.findSome? (·.outcome? part c) = some a) : ⟨part, c, a⟩ ∈ rs := by
  obtain ⟨r, hr, ha⟩ := List.exists_of_findSome?_eq_some h
  rwa [outcome?_eq_some ha] at hr

end Reply

namespace Strand

def role : Strand → Role
  | .underWay (.planning (.counting _ t onCloud ofTemplate)) replies =>
    .deciding t onCloud ofTemplate (replies.filterMap (·.listing?))
  | .underWay (.creation o p) replies =>
    .creating o p.container? (replies.filterMap (·.container?))
  | _ => .idle

def OfFleet (f : Fleet) : Strand → Prop
  | .underWay (.planning (.locking r t)) _ | .underWay (.planning (.counting r t _ _)) _ =>
    (∀ u ∈ r.candidates, u ∈ f.targets) ∧ t ∈ f.targets
  | _ => True

end Strand

def Scene.ledger (s : Scene) : Ledger :=
  ⟨s.state.capacity, s.state.locked, s.sites, s.strands.map (·.role)⟩

namespace Ledger

/-- What one move changes. Of the containers at an endpoint, others create and start only those whose
labels `may` allows. -/
inductive Step (f : Fleet) (may : String → Dict String → Bool) (l : Ledger) : Ledger → Prop where
  | stays : Step f may l l
  | enters : Step f may l { l with roles := l.roles ++ [.idle] }
  | locks {pre post : List Role} {t : Target} (roles : l.roles = pre ++ .idle :: post)
      (target : t ∈ f.targets) (free : l.locked.contains t.cloud.name.text = false) :
      Step f may l { l with
        locked := l.locked.insert t.cloud.name.text ()
        roles := pre ++ .deciding t (l.capacity.inProgress t.cloud.name.text none)
          (l.capacity.inProgress t.cloud.name.text (some t.template.name.text)) [] :: post }
  | lists {pre post : List Role} {t : Target} {onCloud ofTemplate : Nat}
      {listings : List (List Summary)}
      (roles : l.roles = pre ++ .deciding t onCloud ofTemplate listings :: post) :
      Step f may l { l with
        roles := pre ++ .deciding t onCloud ofTemplate
          (((l.sites t.cloud.endpoint.uri).listed {}).map (·.summary) :: listings) :: post }
  | unlocks {pre post : List Role} {t : Target} {onCloud ofTemplate : Nat}
      {listings : List (List Summary)}
      (roles : l.roles = pre ++ .deciding t onCloud ofTemplate listings :: post) :
      Step f may l { l with
        locked := l.locked.erase t.cloud.name.text
        roles := pre ++ .idle :: post }
  | reserves {pre post : List Role} {o : Order} {onCloud ofTemplate : Nat}
      {listings : List (List Summary)} {running : List Summary}
      (roles : l.roles = pre ++ .deciding o.target onCloud ofTemplate listings :: post)
      (listed : running ∈ listings)
      (room : Planning.exceeded? f o.target running onCloud ofTemplate = none) :
      Step f may l { l with
        capacity := l.capacity.reserve o.cloud.name.text o.template.name.text
        locked := l.locked.erase o.cloud.name.text
        roles := pre ++ .idle :: post ++ [.creating o none []] }
  | calls {pre post : List Role} {o : Order} {held : Option String} {told told' : List String}
      {m : Memory} (roles : l.roles = pre ++ .creating o held told :: post)
      (follows : (l.sites o.cloud.endpoint.uri).Follows m (fun id => held = some id)
        (· = o.labels f.owner))
      (made : ∀ id ∈ told', id ∈ told ∨
        ∃ n, id = Memory.idOf n ∧ n ≤ m.issued ∧ ∃ c, m.get? id = some c ∧ c.labels = o.labels f.owner) :
      Step f may l { l with
        sites := Function.update l.sites o.cloud.endpoint.uri m
        roles := pre ++ .creating o held told' :: post }
  | proceeds {pre post : List Role} {o : Order} {held made : Option String} {told told' : List String}
      (roles : l.roles = pre ++ .creating o held told :: post)
      (known : ∀ id, made = some id → id ∈ told) (less : told' ⊆ told) :
      Step f may l { l with roles := pre ++ .creating o (held.or made) told' :: post }
  | releases {pre post : List Role} {o : Order} {held : Option String} {told : List String}
      (roles : l.roles = pre ++ .creating o held told :: post) :
      Step f may l { l with
        capacity := l.capacity.release o.cloud.name.text o.template.name.text
        roles := pre ++ .idle :: post }
  | others {uri : String} {m : Memory} {starts : String → Prop}
      (follows : (l.sites uri).Follows m starts (may uri · = true))
      (started : ∀ id c, starts id → (l.sites uri).get? id = some c → may uri c.labels = true) :
      Step f may l { l with sites := Function.update l.sites uri m }

end Ledger

theorem split_at {α : Type} {l : List α} {k : Nat} {x : α} (h : l[k]? = some x) :
    ∃ pre post, l = pre ++ x :: post ∧ ∀ y, l.set k y = pre ++ y :: post := by
  obtain ⟨hk, rfl⟩ := List.getElem?_eq_some_iff.1 h
  refine ⟨l.take k, l.drop (k + 1), ?_, fun y => List.set_eq_take_append_cons_drop.trans (if_pos hk)⟩
  rw [List.getElem_cons_drop, List.take_append_drop]

namespace Memory

variable {m : Memory} {now : Timestamp} (r : Reaction)

theorem react_follows (now : Timestamp) (c : Call) :
    m.Follows (m.react now c r).2 (fun id => c = .start id)
      (fun l => ∃ spec, c = .create spec ∧ l = spec.labels) := by
  cases r with
  | obeys => exact answer_follows c
  | obeysUnheard e => exact answer_follows c
  | refuses e => exact .refl

theorem react_create {spec : CreateSpec} {id : String}
    (h : (m.react now (.create spec) r).1 = .ok id) :
    ∃ n, id = idOf n ∧ n ≤ (m.react now (.create spec) r).2.issued ∧
      ∃ c, (m.react now (.create spec) r).2.get? id = some c ∧ c.labels = spec.labels := by
  cases r with
  | obeys => exact answer_create h
  | obeysUnheard e => cases h
  | refuses e => cases h

theorem react_list (now : Timestamp) (f : ListFilter) :
    (m.react now (.list f) r).2 = m ∧
      ∀ l, (m.react now (.list f) r).1 = .ok l → l = (m.listed f).map (·.summary) := by
  cases r with
  | obeys => exact answer_list now f
  | obeysUnheard e =>
    refine ⟨(answer_list now f).1, fun l hl => ?_⟩
    cases hl
  | refuses e =>
    refine ⟨rfl, fun l hl => ?_⟩
    cases hl

end Memory

namespace Job

variable {f : Fleet}

def isQuiet : Job → Bool
  | termination .. | sweep _ | reap _ => true
  | _ => false

theorem role_of_quiet {j : Job} (h : j.isQuiet = true) (replies : List Reply) :
    (Strand.underWay j replies).role = .idle := by
  cases j with
  | planning p => cases h
  | creation o p => cases h
  | _ => rfl

theorem ofFleet_of_quiet {j : Job} (h : j.isQuiet = true) (replies : List Reply) :
    (Strand.underWay j replies).OfFleet f := by
  cases j with
  | planning p => cases h
  | creation o p => cases h
  | _ => trivial

theorem pending_quiet {j : Job} (hj : j.isQuiet = true) {i : Nat} {x : Pending Job JobResult}
    (h : (i, x) ∈ j.pending f) :
    x.wait.spares = true ∧ ∀ s m a, (x.resume s m a).Quiet s ∧
      ∀ j', (x.resume s m a).progress = .wait j' → j'.isQuiet = true := by
  cases j with
  | planning p => cases hj
  | creation o p => cases hj
  | termination name p =>
    obtain ⟨rfl, rfl⟩ := Prod.ext_iff.1 (List.mem_singleton.1 h)
    refine ⟨Termination.wait_spares p, fun s m a => ?_⟩
    have hq : (Termination.resume f name s m p a).Quiet s := Termination.resume_quiet p a
    obtain ⟨hk, ho⟩ := hq
    refine ⟨⟨hk, ho⟩, fun j' hj' => ?_⟩
    simp only [Pending.map, Turn.map] at hj'
    split at hj' <;> cases hj'
    rfl
  | sweep p =>
    simp only [pending, List.mem_map] at h
    obtain ⟨⟨k, y⟩, hy, h⟩ := h
    obtain ⟨rfl, rfl⟩ := Prod.ext_iff.1 h
    obtain ⟨hw, hq⟩ := Sweep.pending_quiet hy
    refine ⟨hw, fun s m a => ⟨⟨(hq s m a).steady, (hq s m a).ordered⟩, fun j' hj' => ?_⟩⟩
    simp only [Pending.map, Turn.map] at hj'
    split at hj' <;> cases hj'
    rfl
  | reap p =>
    obtain ⟨rfl, rfl⟩ := Prod.ext_iff.1 (List.mem_singleton.1 h)
    refine ⟨Reap.wait_spares p, fun s m a => ?_⟩
    obtain ⟨hk, ho⟩ := Reap.resume_quiet (f := f) (s := s) (m := m) p a
    refine ⟨⟨hk, ho⟩, fun j' hj' => ?_⟩
    simp only [Pending.map, Turn.map] at hj'
    split at hj' <;> cases hj'
    rfl

theorem abandon_quiet {j : Job} (hj : j.isQuiet = true) (s : State) (m : Moment) :
    s.Steady (j.abandon s m) := by
  cases j with
  | planning p => cases hj
  | creation o p => cases hj
  | termination name p => exact Termination.abandon_steady p
  | sweep p => exact Sweep.abandon_steady p
  | reap p => exact Reap.abandon_steady p

end Job

namespace Turn

variable {σ τ α β : Type} {g : σ → τ} {h : α → β} {t : Turn σ α}

theorem map_wait {p : σ} (hw : t.progress = .wait p) : (t.map g h).progress = .wait (g p) := by
  rw [map, hw]

theorem map_done {r : α} (hd : t.progress = .done r) : (t.map g h).progress = .done (h r) := by
  rw [map, hd]

end Turn

namespace Planning

theorem role_of_rests {f : Fleet} {t : Turn Phase Round} (h : Rests f t.progress)
    (replies : List Reply) :
    (Strand.ofProgress replies (t.map Job.planning JobResult.planned).progress).role = .idle ∧
      (Strand.ofProgress replies (t.map Job.planning JobResult.planned).progress).OfFleet f := by
  generalize hp : t.progress = p at h
  cases h with
  | ended =>
    rw [Turn.map_done hp]
    exact ⟨rfl, trivial⟩
  | locking hc ht =>
    rw [Turn.map_wait hp]
    exact ⟨rfl, hc, ht⟩

end Planning

namespace Scene

variable {f : Fleet} {may : String → Dict String → Bool} {s s' : Scene} {k part : Nat} {m : Moment}

theorem ledger_take {pre post : List Strand} {replies : List Reply} {t : Turn Job JobResult}
    (hset : ∀ y, s.strands.set k y = pre ++ y :: post) :
    (s.take k replies t).ledger =
      ⟨t.state.capacity, t.state.locked, s.sites, pre.map (·.role) ++
        (Strand.ofProgress replies t.progress).role :: post.map (·.role) ++
          t.ordered.map fun o => .creating o none []⟩ := by
  simp only [take, ledger, hset, List.map_append, List.map_cons, List.map_map]
  rfl

theorem ledger_eq {x : Strand} {pre post : List Strand} (hl : s.strands = pre ++ x :: post) :
    s.ledger = ⟨s.state.capacity, s.state.locked, s.sites,
      pre.map (·.role) ++ x.role :: post.map (·.role)⟩ := by
  simp only [ledger, hl, List.map_append, List.map_cons]

theorem ofFleet_take {replies : List Reply} {t : Turn Job JobResult}
    (hs : ∀ x ∈ s.strands, x.OfFleet f) (ht : (Strand.ofProgress replies t.progress).OfFleet f) :
    ∀ x ∈ (s.take k replies t).strands, x.OfFleet f := by
  intro x hx
  obtain hx | hx := List.mem_append.1 hx
  · obtain hx | rfl := List.mem_or_eq_of_mem_set hx
    · exact hs x hx
    · exact ht
  · obtain ⟨o, _, rfl⟩ := List.mem_map.1 hx
    trivial

theorem take_quiet {j : Job} (hj : j.isQuiet = true) {replies : List Reply}
    {pre post : List Strand} (hl : s.strands = pre ++ .underWay j replies :: post)
    (hset : ∀ y, s.strands.set k y = pre ++ y :: post) {x : Pending Job JobResult}
    (hx : (part, x) ∈ j.pending f) (a : x.wait.Answer) (replies' : List Reply) :
    (s.take k replies' (x.resume s.state m a)).ledger = s.ledger ∧
      (Strand.ofProgress replies' (x.resume s.state m a).progress).OfFleet f := by
  obtain ⟨⟨hk, ho⟩, hq⟩ := (Job.pending_quiet hj hx).2 s.state m a
  have hr : (Strand.ofProgress replies' (x.resume s.state m a).progress).role = .idle ∧
      (Strand.ofProgress replies' (x.resume s.state m a).progress).OfFleet f := by
    cases hp : (x.resume s.state m a).progress with
    | wait j' => exact ⟨Job.role_of_quiet (hq j' hp) _, Job.ofFleet_of_quiet (hq j' hp) _⟩
    | done r => exact ⟨rfl, trivial⟩
  rw [ledger_take hset, ledger_eq hl, hr.1, hk.capacity, hk.locked, ho, Job.role_of_quiet hj]
  exact ⟨by simp, hr.2⟩

theorem take_locking {r : Round} {t : Target} {replies replies' : List Reply}
    (hnone : replies'.filterMap (·.listing?) = []) {pre post : List Strand}
    (hl : s.strands = pre ++ .underWay (.planning (.locking r t)) replies :: post)
    (hset : ∀ y, s.strands.set k y = pre ++ y :: post)
    (hs : (∀ u ∈ r.candidates, u ∈ f.targets) ∧ t ∈ f.targets)
    (hfree : s.state.locked.contains t.cloud.name.text = false) {x : Turn Planning.Phase Round}
    (hx : Planning.Locked f s.state r t x) :
    s.ledger.Step f may (s.take k replies' (x.map .planning .planned)).ledger ∧
      (Strand.ofProgress replies' (x.map Job.planning JobResult.planned).progress).OfFleet f := by
  rw [ledger_take hset, ledger_eq hl]
  cases hx with
  | fails hr hk ho =>
    obtain ⟨hi, hf⟩ := Planning.role_of_rests hr replies'
    refine ⟨?_, hf⟩
    rw [hi]
    simp only [Turn.map, hk.capacity, hk.locked, ho, List.map_nil, List.append_nil]
    exact .stays
  | reads hw hk ho =>
    rw [Turn.map_wait hw]
    refine ⟨?_, hs⟩
    simp only [Turn.map, hk.capacity, hk.locked, ho, List.map_nil, List.append_nil,
      Strand.ofProgress, Strand.role, hnone]
    exact .locks rfl hs.2 hfree

theorem take_counting {r : Round} {t : Target} {onCloud ofTemplate : Nat}
    {replies replies' : List Reply} {pre post : List Strand}
    (hl : s.strands = pre ++ .underWay (.planning (.counting r t onCloud ofTemplate)) replies :: post)
    (hset : ∀ y, s.strands.set k y = pre ++ y :: post) {a : Except RuntimeError (List Summary)}
    (ha : ⟨0, .list {}, a⟩ ∈ replies) {x : Turn Planning.Phase Round}
    (hx : Planning.Counted f s.state t onCloud ofTemplate a x) :
    s.ledger.Step f may (s.take k replies' (x.map .planning .planned)).ledger ∧
      (Strand.ofProgress replies' (x.map Job.planning JobResult.planned).progress).OfFleet f := by
  rw [ledger_take hset, ledger_eq hl]
  cases hx with
  | refuses hr hk ho =>
    obtain ⟨hi, hf⟩ := Planning.role_of_rests hr replies'
    refine ⟨?_, hf⟩
    rw [hi]
    simp only [Turn.map, hk.capacity, hk.locked, ho, List.map_nil, List.append_nil]
    exact .unlocks rfl
  | @reserves running id hlist room hr hk ho =>
    obtain ⟨hi, hf⟩ := Planning.role_of_rests hr replies'
    refine ⟨?_, hf⟩
    rw [hi]
    simp only [Turn.map, hk.capacity, hk.locked, ho, List.map_cons, List.map_nil]
    refine .reserves (o := ⟨id, t⟩) rfl ?_ room
    exact List.mem_filterMap.2 ⟨_, ha, by rw [hlist]; rfl⟩

theorem take_creation {o : Order} {p : Creation.Phase} {replies replies' : List Reply}
    {pre post : List Strand}
    (hl : s.strands = pre ++ .underWay (.creation o p) replies :: post)
    (hset : ∀ y, s.strands.set k y = pre ++ y :: post) (hless : replies' ⊆ replies)
    {made : Option String} (hmade : ∀ id, made = some id → id ∈ replies.filterMap (·.container?))
    {x : Turn Creation.Phase Creation.Result}
    (hx : Creation.Outcome o s.state p.container? made x) :
    s.ledger.Step f may (s.take k replies' (x.map (.creation o) .created)).ledger ∧
      (Strand.ofProgress replies' (x.map (Job.creation o) JobResult.created).progress).OfFleet f := by
  rw [ledger_take hset, ledger_eq hl]
  cases hx with
  | goesOn hw hk ho hc =>
    rw [Turn.map_wait hw]
    refine ⟨?_, trivial⟩
    simp only [Turn.map, hk.capacity, hk.locked, ho, List.map_nil, List.append_nil]
    simp only [Strand.ofProgress, Strand.role, hc]
    exact .proceeds rfl hmade (List.filterMap_subset _ hless)
  | ends hd hk ho =>
    rw [Turn.map_done hd]
    refine ⟨?_, trivial⟩
    simp only [Turn.map, hk.capacity, hk.locked, ho, List.map_nil, List.append_nil]
    exact .releases rfl

theorem goOn_step (hs : ∀ x ∈ s.strands, x.OfFleet f) {admitted : Bool}
    (h : s.goOn f k part m admitted = some s') :
    s.ledger.Step f may s'.ledger ∧ ∀ x ∈ s'.strands, x.OfFleet f := by
  unfold goOn at h
  split at h
  · rename_i j replies hk
    obtain ⟨pre, post, hl, hset⟩ := split_at hk
    have hj : (Strand.underWay j replies).OfFleet f := hs _ (List.mem_of_getElem? hk)
    split at h
    · rename_i x hx
      obtain ⟨a, ha, rfl⟩ := Option.map_eq_some_iff.1 h
      have hmem := Dict.mem_of_lookup hx
      suffices hstep : s.ledger.Step f may
          (s.take k (replies.filter (·.part ≠ part)) (x.resume s.state m a)).ledger ∧
          (Strand.ofProgress (replies.filter (·.part ≠ part))
            (x.resume s.state m a).progress).OfFleet f from
        ⟨hstep.1, ofFleet_take hs hstep.2⟩
      cases j with
      | planning p =>
        obtain ⟨rfl, rfl⟩ := Prod.ext_iff.1 (List.mem_singleton.1 hmem)
        cases p with
        | locking r t =>
          have hfree : s.state.locked.contains t.cloud.name.text = false := by
            change (if s.state.locked.contains t.cloud.name.text then none else some ()) = some a at ha
            split at ha
            · cases ha
            · rename_i hc
              exact Bool.eq_false_iff.2 hc
          exact take_locking (Reply.listing?_taken replies) hl hset hj hfree
            (Planning.lock_outcome hj.1)
        | counting r t onCloud ofTemplate =>
          exact take_counting hl hset (Reply.mem_of_findSome? ha) (Planning.count_outcome hj.1)
      | creation o p =>
        obtain ⟨rfl, rfl⟩ := Prod.ext_iff.1 (List.mem_singleton.1 hmem)
        refine take_creation hl hset (fun _ hr => (List.mem_filter.1 hr).1) ?_ (Creation.resume_outcome p a)
        intro id hid
        cases p with
        | creating =>
          cases a with
          | ok container =>
            exact List.mem_filterMap.2 ⟨_, Reply.mem_of_findSome? ha, hid⟩
          | error e => cases hid
        | _ => cases hid
      | termination | sweep | reap =>
        obtain ⟨hledger, hfleet⟩ := take_quiet (m := m) rfl hl hset hmem a
          (replies.filter (·.part ≠ part))
        exact ⟨hledger ▸ .stays, hfleet⟩
    · cases h
  · cases h

theorem ledger_deliver {pre post : List Strand} {j : Job} {replies : List Reply} {uri : String}
    {c : Call} {now : Timestamp} {r : Reaction} (hset : ∀ y, s.strands.set k y = pre ++ y :: post) :
    (s.deliver k part j replies uri c now r).ledger =
      ⟨s.state.capacity, s.state.locked,
        Function.update s.sites uri ((s.sites uri).react now c r).2, pre.map (·.role) ++
          (Strand.underWay j (⟨part, c, ((s.sites uri).react now c r).1⟩ :: replies)).role ::
            post.map (·.role)⟩ := by
  simp only [deliver, setSite, ledger, hset, List.map_append, List.map_cons]

variable {j : Job} {replies : List Reply} {pre post : List Strand} {uri : String} {c : Call}
  {now : Timestamp} {x : Reaction}

theorem deliver_quiet (hj : j.isQuiet = true) (hl : s.strands = pre ++ .underWay j replies :: post)
    (hset : ∀ y, s.strands.set k y = pre ++ y :: post) (hc : c.livens = false) :
    s.ledger.Step f may (s.deliver k part j replies uri c now x).ledger := by
  have hf := Memory.react_follows (m := s.sites uri) x now c
  rw [ledger_deliver hset, ledger_eq hl, Job.role_of_quiet hj, Job.role_of_quiet hj]
  have hnone : (s.sites uri).Follows ((s.sites uri).react now c x).2 (fun _ => False)
      (may uri · = true) := by
    refine hf.imp ?_ ?_
    · rintro id rfl
      cases hc
    · rintro l ⟨spec, rfl, _⟩
      cases hc
  exact .others hnone fun _ _ hid => hid.elim

theorem deliver_counting {r : Round} {t : Target} {onCloud ofTemplate : Nat}
    (hl : s.strands = pre ++ .underWay (.planning (.counting r t onCloud ofTemplate)) replies :: post)
    (hset : ∀ y, s.strands.set k y = pre ++ y :: post) :
    s.ledger.Step f may (s.deliver k 0 (.planning (.counting r t onCloud ofTemplate)) replies
      t.cloud.endpoint.uri (.list {}) now x).ledger := by
  obtain ⟨hm, ha⟩ := Memory.react_list (m := s.sites t.cloud.endpoint.uri) x now {}
  rw [ledger_deliver hset, ledger_eq hl, hm, Function.update_eq_self]
  cases ho : ((s.sites t.cloud.endpoint.uri).react now (.list {}) x).1 with
  | error e => exact .stays
  | ok l =>
    rw [ha l ho]
    exact .lists rfl

/-- The calls of a creation start no container but its own, and create none but with its labels. -/
theorem deliver_creation {o : Order} {p : Creation.Phase}
    (hl : s.strands = pre ++ .underWay (.creation o p) replies :: post)
    (hset : ∀ y, s.strands.set k y = pre ++ y :: post) (hc : Creation.wait f o p = .call uri c) :
    s.ledger.Step f may (s.deliver k part (.creation o p) replies uri c now x).ledger := by
  have huri : uri = o.cloud.endpoint.uri := by cases p <;> cases hc <;> rfl
  have hstart : ∀ id, c = .start id → p.container? = some id := by
    rintro id rfl
    cases p with
    | starting container => cases hc; rfl
    | unwinding container cause q => cases q <;> cases hc
    | _ => cases hc
  have hcreate : ∀ spec, c = .create spec → spec.labels = o.labels f.owner := by
    rintro spec rfl
    cases p with
    | creating => cases hc; rfl
    | unwinding container cause q => cases q <;> cases hc
    | _ => cases hc
  subst huri
  have hf := Memory.react_follows (m := s.sites o.cloud.endpoint.uri) x now c
  rw [ledger_deliver hset, ledger_eq hl]
  refine .calls rfl (hf.imp hstart ?_) ?_
  · rintro l ⟨spec, hspec, rfl⟩
    exact hcreate spec hspec
  · intro id hid
    rw [List.filterMap_cons] at hid
    split at hid
    · exact .inl hid
    · rename_i id' hid'
      obtain rfl | hid := List.mem_cons.1 hid
      · refine .inr ?_
        cases c with
        | create spec =>
          cases ho : ((s.sites o.cloud.endpoint.uri).react now (.create spec) x).1 with
          | error e => simp [Reply.container?, ho] at hid'
          | ok id' =>
            obtain rfl : id' = id := by simpa [Reply.container?, ho] using hid'
            rw [← hcreate spec rfl]
            exact Memory.react_create x ho
        | _ => cases hid'
      · exact .inl hid

theorem react_step (hs : ∀ x ∈ s.strands, x.OfFleet f) (h : s.react f k part now x = some s') :
    s.ledger.Step f may s'.ledger ∧ ∀ x ∈ s'.strands, x.OfFleet f := by
  unfold react at h
  split at h
  · rename_i j replies hk
    obtain ⟨pre, post, hl, hset⟩ := split_at hk
    have hj : (Strand.underWay j replies).OfFleet f := hs _ (List.mem_of_getElem? hk)
    split at h
    · rename_i uri c hw
      split at h
      · cases h
      · obtain rfl := Option.some.inj h
        obtain ⟨p, hp, hc⟩ := Option.map_eq_some_iff.1 hw
        have hmem := Dict.mem_of_lookup hp
        constructor
        · cases hq : j.isQuiet with
          | true =>
            have hsp := (Job.pending_quiet hq hmem).1
            rw [hc] at hsp
            exact deliver_quiet hq hl hset (by simpa [Wait.spares] using hsp)
          | false =>
            cases j with
            | planning q =>
              obtain ⟨rfl, rfl⟩ := Prod.ext_iff.1 (List.mem_singleton.1 hmem)
              cases q with
              | locking r t => cases hc
              | counting r t onCloud ofTemplate =>
                cases hc
                exact deliver_counting hl hset
            | creation o q =>
              obtain ⟨rfl, rfl⟩ := Prod.ext_iff.1 (List.mem_singleton.1 hmem)
              exact deliver_creation hl hset hc
            | _ => cases hq
        · intro y hy
          obtain hy | rfl := List.mem_or_eq_of_mem_set hy
          · exact hs y hy
          · cases j with
            | planning q => cases q <;> exact hj
            | _ => trivial
    · cases h
  · cases h

theorem die_step (hs : ∀ x ∈ s.strands, x.OfFleet f) (h : s.die k m = some s') :
    s.ledger.Step f may s'.ledger ∧ ∀ x ∈ s'.strands, x.OfFleet f := by
  unfold die at h
  split at h
  · rename_i j replies hk
    obtain ⟨pre, post, hl, hset⟩ := split_at hk
    obtain rfl := Option.some.inj h
    constructor
    · rw [ledger_eq hl]
      simp only [ledger, hset, List.map_append, List.map_cons]
      cases hq : j.isQuiet with
      | true =>
        have hk := Job.abandon_quiet hq s.state m
        rw [hk.capacity, hk.locked, Job.role_of_quiet hq]
        exact .stays
      | false =>
        cases j with
        | planning p =>
          cases p with
          | locking r t => exact .stays
          | counting r t onCloud ofTemplate => exact .unlocks rfl
        | creation o p =>
          have hk := Creation.abandon_keeps (o := o) (s := s.state) (m := m) p
          simp only [Job.abandon, hk.capacity, hk.locked]
          exact .releases rfl
        | _ => cases hq
    · intro y hy
      obtain hy | rfl := List.mem_or_eq_of_mem_set hy
      · exact hs y hy
      · trivial
  · cases h

theorem enter_step {y : Strand} (hs : ∀ x ∈ s.strands, x.OfFleet f) (hr : y.role = .idle)
    (hy : y.OfFleet f) :
    s.ledger.Step f may (s.enter y).ledger ∧ ∀ x ∈ (s.enter y).strands, x.OfFleet f := by
  constructor
  · simp only [enter, ledger, List.map_append, List.map_cons, List.map_nil, hr]
    exact .enters
  · intro x hx
    obtain hx | hx := List.mem_append.1 hx
    · exact hs x hx
    · rwa [List.mem_singleton.1 hx]

/-- Every move is a step of the ledger. -/
theorem move_step (hs : ∀ x ∈ s.strands, x.OfFleet f) {x : Move} (h : s.move f may x = some s') :
    s.ledger.Step f may s'.ledger ∧ ∀ x ∈ s'.strands, x.OfFleet f := by
  cases x with
  | request m label executors =>
    obtain rfl := Option.some.inj h
    have hst : (Planning.start f s.state m label executors).state = s.state :=
      Planning.advance_state _
    obtain ⟨hr, hf⟩ := Planning.role_of_rests (Planning.start_rests (s := s.state) (m := m) label
      executors) []
    rw [hst]
    exact enter_step hs hr hf
  | terminate name =>
    obtain rfl := Option.some.inj h
    exact enter_step hs rfl trivial
  | sweep =>
    obtain rfl := Option.some.inj h
    exact enter_step hs rfl trivial
  | reap now =>
    obtain rfl := Option.some.inj h
    exact enter_step hs rfl trivial
  | react k part now r => exact react_step hs h
  | goOn k part m admitted => exact goOn_step hs h
  | die k m => exact die_step hs h
  | outside uri now c =>
    simp only [move] at h
    split at h
    · rename_i hc
      obtain rfl := Option.some.inj h
      refine ⟨?_, hs⟩
      have hf : (s.sites uri).Follows ((s.sites uri).answer now c).2 (fun id => c = .start id)
          (may uri · = true) := by
        refine (Memory.answer_follows c).imp (fun _ => id) ?_
        rintro l ⟨spec, rfl, rfl⟩
        exact hc
      refine .others hf ?_
      · rintro id x rfl hx
        have hx' : (s.sites uri).get? id = some x := hx
        simpa [Memory.livensOnly, hx'] using hc
    · cases h
  | breaks uri kinds =>
    obtain rfl := Option.some.inj h
    have hf : (s.sites uri).Follows { s.sites uri with broken := kinds } (fun _ => False)
        (may uri · = true) := ⟨Nat.le_refl _, fun _ c hc => .inl ⟨c, hc, rfl, .inl⟩⟩
    exact ⟨.others hf fun _ _ hid => hid.elim, hs⟩
  | adjust clouds templates pool registry =>
    obtain rfl := Option.some.inj h
    exact ⟨.stays, hs⟩

/-- What steps of the ledger keep, whole runs keep. -/
theorem play_induction {P : Ledger → Prop} (hP : ∀ l l', P l → l.Step f may l' → P l')
    {moves : List Move} (hs : ∀ x ∈ s.strands, x.OfFleet f) (h₀ : P s.ledger)
    (h : s.play f may moves = some s') : P s'.ledger := by
  induction moves generalizing s with
  | nil =>
    obtain rfl := Option.some.inj h
    exact h₀
  | cons x moves ih =>
    obtain ⟨s₁, hx, h⟩ := Option.bind_eq_some_iff.1 h
    obtain ⟨hstep, hs₁⟩ := move_step hs hx
    exact ih hs₁ (hP _ _ h₀ hstep) h

end Scene

end ContainerFleet
