import ContainerFleet.Proofs.TerminationRun

namespace ContainerFleet

namespace Strand

def isWin : Strand → Bool
  | .ended (.terminated (.ok _)) => true
  | _ => false

def isEnded : Strand → Bool
  | .ended _ => true
  | _ => false

end Strand

def NodeState.stage : NodeState → Nat
  | gone => 2
  | terminating => 1
  | _ => 0

namespace Termination

variable (f : Fleet) (name : String) (c : Cloud) (id : String)

def stage (r : Registry) : Nat :=
  match r.get? name with
  | none => 3
  | some n => n.state.stage

/-- The node, as long as it is registered, is the one with the container. -/
def Entry (r : Registry) : Prop :=
  ∀ n, r.get? name = some n →
    f.cloud? n.cloud.text = some c ∧ n.containerId = id ∧ n.state ≠ .provisioning

def Leads (mem : Memory) : Progress Removal.Phase (Except RuntimeError Removed) → Prop
  | .wait _ => True
  | .done (.ok _) => mem.get? id = none
  | .done (.error _) => False

/-- One of several terminations of the node, when the node is at the stage `t`. -/
inductive Racing (t : Nat) (mem : Memory) : Strand → Prop where
  | lookingUp {replies : List Reply} :
      Racing t mem (.underWay (.termination name .lookingUp) replies)
  | marking {n : Node} {replies : List Reply} (container : n.containerId = id) :
      Racing t mem (.underWay (.termination name (.marking n c)) replies)
  | removing {r : Removal} {p : Removal.Phase} {replies : List Reply} (marked : 1 ≤ t)
      (container : r.id = id)
      (told : ∀ x ∈ replies, x.part = 0 →
        ∃ a, x = ⟨0, r.call p, a⟩ ∧ Leads id mem (Removal.resume p (r.reply p a))) :
      Racing t mem (.underWay (.termination name (.removing c r p)) replies)
  | markingGone {replies : List Reply} (marked : 1 ≤ t) (gone : mem.get? id = none) :
      Racing t mem (.underWay (.termination name .markingGone) replies)
  | unregistering {replies : List Reply} (out : 2 ≤ t) (gone : mem.get? id = none) :
      Racing t mem (.underWay (.termination name .unregistering) replies)
  | won (out : 3 ≤ t) (gone : mem.get? id = none) : Racing t mem (.ended (.terminated (.ok ())))
  | lost {e : ProvisionError} (out : 2 ≤ t) : Racing t mem (.ended (.terminated (.error e)))

variable {f name c id}

theorem Racing.mono {t t' : Nat} {mem mem' : Memory} {x : Strand} (h : Racing name c id t mem x)
    (ht : t ≤ t') (hm : mem.get? id = none → mem'.get? id = none) : Racing name c id t' mem' x := by
  cases h with
  | lookingUp => exact .lookingUp
  | marking container => exact .marking container
  | removing marked container told =>
    refine .removing (Nat.le_trans marked ht) container fun x hx hp => ?_
    obtain ⟨a, rfl, hl⟩ := told x hx hp
    refine ⟨a, rfl, ?_⟩
    unfold Leads at hl ⊢
    split
    · trivial
    · rename_i hr
      rw [hr] at hl
      exact hm hl
    · rename_i hr
      rw [hr] at hl
      exact hl
  | markingGone marked gone => exact .markingGone (Nat.le_trans marked ht) (hm gone)
  | unregistering out gone => exact .unregistering (Nat.le_trans out ht) (hm gone)
  | won out gone => exact .won (Nat.le_trans out ht) (hm gone)
  | lost out => exact .lost (Nat.le_trans out ht)

variable {r : Registry} {n : Node}

theorem stage_none (h : r.get? name = none) : stage name r = 3 := by
  rw [stage, h]

theorem stage_some (h : r.get? name = some n) : stage name r = n.state.stage := by
  rw [stage, h]

theorem stage_lt (h : r.get? name = some n) : stage name r < 3 := by
  rw [stage_some h]
  cases n.state <;> decide

theorem stage_insert (st : NodeState) :
    stage name (r.insert name { n with state := st }) = st.stage := by
  refine stage_some (n := { n with state := st }) ?_
  rw [Dict.get?_insert, if_pos rfl]

theorem stage_le : stage name r ≤ 3 := by
  cases h : r.get? name with
  | none => exact Nat.le_of_eq (stage_none h)
  | some n => exact Nat.le_of_lt (stage_lt h)

theorem get?_of_stage (h : 3 ≤ stage name r) : r.get? name = none := by
  cases hn : r.get? name with
  | none => rfl
  | some n => exact absurd (stage_lt hn) (Nat.not_lt_of_le h)

theorem Entry.insert (h : Entry f name c id r) (hn : r.get? name = some n) {st : NodeState}
    (hs : st ≠ .provisioning) : Entry f name c id (r.insert name { n with state := st }) := by
  intro n' hn'
  rw [Dict.get?_insert, if_pos rfl] at hn'
  obtain rfl := Option.some.inj hn'
  exact ⟨(h n hn).1, (h n hn).2.1, hs⟩

theorem Entry.erase : Entry f name c id (r.erase name) := by
  intro n hn
  rw [Dict.get?_erase, if_pos rfl] at hn
  cases hn

theorem Entry.mark (h : Entry f name c id r) :
    (stage name r ≤ 1 ∧ ∃ r', r.setState name .terminating = .ok r' ∧ stage name r' = 1 ∧
        Entry f name c id r') ∨
      2 ≤ stage name r ∧ ∃ e, r.setState name .terminating = .error e := by
  cases hn : r.get? name with
  | none =>
    refine .inr ⟨?_, .notFound name, ?_⟩
    · rw [stage_none hn]
      decide
    · rw [Registry.setState, Registry.update, hn]
  | some n =>
    have hset := Registry.setState_eq hn .terminating
    have hst := stage_some hn
    cases hs : n.state with
    | provisioning => exact absurd hs (h n hn).2.2
    | gone =>
      rw [hs] at hset hst
      exact .inr ⟨Nat.le_of_eq hst.symm, _, hset⟩
    | registered | running | terminating =>
      rw [hs] at hset hst
      exact .inl ⟨by rw [hst]; decide, _, hset, stage_insert _, h.insert hn (by decide)⟩

theorem Entry.markGone (h : Entry f name c id r) (hm : 1 ≤ stage name r) :
    (stage name r ≤ 2 ∧ ∃ r', r.setState name .gone = .ok r' ∧ stage name r' = 2 ∧
        Entry f name c id r') ∨
      stage name r = 3 ∧ ∃ e, r.setState name .gone = .error e := by
  cases hn : r.get? name with
  | none =>
    refine .inr ⟨stage_none hn, .notFound name, ?_⟩
    rw [Registry.setState, Registry.update, hn]
  | some n =>
    have hset := Registry.setState_eq hn .gone
    have hst := stage_some hn
    cases hs : n.state with
    | terminating | gone =>
      rw [hs] at hset hst
      exact .inl ⟨by rw [hst]; decide, _, hset, stage_insert _, h.insert hn (by decide)⟩
    | provisioning | registered | running =>
      rw [hs] at hst
      rw [hst] at hm
      exact absurd hm (by decide)

/-- A node that is gone leaves the registry once. -/
theorem unregister_cases (ho : 2 ≤ stage name r) :
    (stage name r = 2 ∧ ∃ n, r.remove name = .ok (n, r.erase name) ∧
        stage name (r.erase name) = 3) ∨
      stage name r = 3 ∧ ∃ e, r.remove name = .error e := by
  cases hn : r.get? name with
  | none =>
    refine .inr ⟨stage_none hn, .notFound name, ?_⟩
    rw [Registry.remove, hn]
  | some n =>
    refine .inl ⟨?_, n, Registry.remove_eq hn, ?_⟩
    · have hlt := stage_lt hn
      omega
    · refine stage_none ?_
      rw [Dict.get?_erase, if_pos rfl]

/-- What a termination does when it goes on from the phase `p`, at the stage `t`. -/
structure Outcome (f : Fleet) (name : String) (c : Cloud) (id : String) (t : Nat) (mem : Memory)
    (p : Phase) (x : Turn Phase Result) : Prop where
  entry : Entry f name c id x.state.registry
  later : t ≤ stage name x.state.registry
  racing : ∀ replies : List Reply, (∀ y ∈ replies, y.part ≠ 0) →
    Racing name c id (stage name x.state.registry) mem
      (.ofProgress replies (x.map (.termination name) .terminated).progress)
  leaving : stage name x.state.registry = 2 →
    t = 2 ∧ p ≠ .unregistering ∨ x.progress = .wait .unregistering
  wins : (stage name x.state.registry = 3 ∧ t ≠ 3) ↔ x.progress = .done (.ok ())

variable {s : State} {m : Moment} {mem : Memory}

/-- A termination fails only when the node is on its way out. -/
theorem stop_outcome (h : Entry f name c id s.registry) (ho : 2 ≤ stage name s.registry) {p : Phase}
    (hp : stage name s.registry = 2 → p ≠ .unregistering) (e : ProvisionError) :
    Outcome f name c id (stage name s.registry) mem p (stop s e) := by
  refine ⟨h, Nat.le_refl _, fun replies _ => .lost ho, fun ht => .inl ⟨ht, hp ht⟩, ?_⟩
  constructor
  · exact fun ht => absurd ht.1 ht.2
  · intro hd
    cases hd

theorem lookUp_outcome (h : Entry f name c id s.registry) :
    Outcome f name c id (stage name s.registry) mem .lookingUp (lookUp f name s) := by
  unfold lookUp
  cases hn : s.registry.get? name with
  | none =>
    refine stop_outcome h ?_ (fun _ hp => by cases hp) _
    rw [stage_none hn]
    decide
  | some n =>
    obtain ⟨hc, hid, -⟩ := h n hn
    simp only [hc]
    refine ⟨h, Nat.le_refl _, fun replies _ => .marking hid,
      fun ht => .inl ⟨ht, fun hp => (by cases hp)⟩,
      fun ht => absurd ht.1 ht.2, fun hd => (by cases hd)⟩

theorem mark_outcome (h : Entry f name c id s.registry) (hid : n.containerId = id)
    (hm : m.refusal c.endpoint = none) :
    Outcome f name c id (stage name s.registry) mem (.marking n c) (mark name s m n c) := by
  unfold mark
  obtain ⟨hle, r', hr', hst, he'⟩ | ⟨hle, e, hr'⟩ := h.mark
  · obtain ⟨client, hclient⟩ := State.lease_ok (s := { s with registry := r' }) hm
    have hlease : { s with registry := r' }.lease m c =
        (.ok client, ({ s with registry := r' }.lease m c).2) := Prod.ext hclient rfl
    have hreg : ({ s with registry := r' }.lease m c).2.registry = r' := rfl
    simp only [hr']
    rw [hlease]
    refine ⟨he', ?_, fun replies hnone => ?_, fun ht => ?_, ?_⟩
    · rw [hreg, hst]
      exact hle
    · rw [hreg, hst]
      exact .removing (Nat.le_refl 1) (id_removal.trans hid) fun x hx hp => absurd hp (hnone x hx)
    · rw [hreg, hst] at ht
      cases ht
    · rw [hreg, hst]
      exact ⟨fun ht => (by cases ht.1), fun hd => (by cases hd)⟩
  · simp only [hr']
    exact stop_outcome h hle (fun _ hp => by cases hp) _

theorem remove_outcome {v : Removal} {p : Removal.Phase} {a : Except RuntimeError Unit}
    (h : Entry f name c id s.registry) (hm : 1 ≤ stage name s.registry) (hid : v.id = id)
    (hl : Leads id mem (Removal.resume p a)) :
    Outcome f name c id (stage name s.registry) mem (.removing c v p) (remove name s m c v p a) := by
  unfold remove
  cases hp : Removal.resume p a with
  | wait p' =>
    exact ⟨h, Nat.le_refl _, fun replies hnone =>
      .removing hm hid fun x hx hp => absurd hp (hnone x hx),
      fun ht => .inl ⟨ht, fun hp => (by cases hp)⟩,
      fun ht => absurd ht.1 ht.2, fun hd => (by cases hd)⟩
  | done d =>
    rw [hp] at hl
    cases d with
    | ok d =>
      exact ⟨h, Nat.le_refl _, fun replies _ => .markingGone hm hl,
        fun ht => .inl ⟨ht, fun hp => (by cases hp)⟩,
        fun ht => absurd ht.1 ht.2, fun hd => (by cases hd)⟩
    | error e => exact hl.elim

theorem markGone_outcome (h : Entry f name c id s.registry) (hm : 1 ≤ stage name s.registry)
    (hg : mem.get? id = none) :
    Outcome f name c id (stage name s.registry) mem .markingGone (markGone name s) := by
  unfold markGone
  obtain ⟨hle, r', hr', hst, he'⟩ | ⟨heq, e, hr'⟩ := h.markGone hm
  · simp only [hr']
    refine ⟨he', ?_, fun replies _ => ?_, fun _ => .inr rfl, ?_⟩
    · rw [hst]
      exact hle
    · rw [hst]
      exact .unregistering (Nat.le_refl 2) hg
    · rw [hst]
      exact ⟨fun ht => (by cases ht.1), fun hd => (by cases hd)⟩
  · simp only [hr']
    exact stop_outcome h (by omega) (fun _ hp => by cases hp) _

theorem unregister_outcome (h : Entry f name c id s.registry) (ho : 2 ≤ stage name s.registry)
    (hg : mem.get? id = none) :
    Outcome f name c id (stage name s.registry) mem .unregistering (unregister name s) := by
  unfold unregister
  obtain ⟨heq, n, hr', hst⟩ | ⟨heq, e, hr'⟩ := unregister_cases ho
  · simp only [hr']
    refine ⟨.erase, ?_, fun replies _ => ?_, fun ht => ?_, ?_⟩
    · rw [hst]
      exact stage_le
    · rw [hst]
      exact .won (Nat.le_refl 3) hg
    · rw [hst] at ht
      cases ht
    · rw [hst, heq]
      exact ⟨fun _ => rfl, fun _ => ⟨rfl, by decide⟩⟩
  · simp only [hr']
    exact stop_outcome h ho (fun ht => by omega) _

/-- Each turn of a termination that races others, with the answer that it was told. -/
theorem resume_outcome {p : Phase} {replies : List Reply} {a : (wait p).Answer} {admitted : Bool}
    (h : Entry f name c id s.registry)
    (hr : Racing name c id (stage name s.registry) mem (.underWay (.termination name p) replies))
    (ha : Scene.grant? s admitted 0 replies (wait p) = some a) (hm : m.refusal c.endpoint = none) :
    Outcome f name c id (stage name s.registry) mem p (resume f name s m p a) := by
  cases hr with
  | lookingUp => exact lookUp_outcome h
  | marking container => exact mark_outcome h container hm
  | removing marked container told =>
    obtain ⟨b, hb, hl⟩ := told _ (Reply.mem_of_findSome? ha) rfl
    cases hb
    exact remove_outcome h marked container hl
  | markingGone marked gone => exact markGone_outcome h marked gone
  | unregistering out gone => exact unregister_outcome h out gone

end Termination

end ContainerFleet
