import ContainerFleet.Proofs.Registry
import Mathlib.Data.List.Induction
import Mathlib.Data.List.Infix

namespace ContainerFleet

def NodeState.rank (s : NodeState) : Nat := NodeState.all.idxOf s

theorem NodeState.rank_le_of_canBecome {s t : NodeState} (h : s.canBecome t = true) : s.rank ≤ t.rank := by
  cases s <;> cases t <;> first | decide | cases h

def Registry.set (r : Registry) (name : String) : Option Node → Registry
  | some n => r.insert name n
  | none => r.erase name

theorem Registry.get?_set {r : Registry} {name k : String} {m : Option Node} :
    (r.set name m).get? k = if k = name then m else r.get? k := by
  cases m with
  | none => exact Dict.get?_erase
  | some n => exact Dict.get?_insert

inductive RegistryOp where
  | register (n : Node)
  | setState (name : String) (s : NodeState)
  | remove (name : String)
  | taskStarted (name : String)
  | taskFinished (name : String) (now : Timestamp)

namespace RegistryOp

def name : RegistryOp → String
  | register n => n.name
  | setState name _ => name
  | remove name => name
  | taskStarted name => name
  | taskFinished name _ => name

def apply (r : Registry) : RegistryOp → Except RegistryError Registry
  | register n => r.register n
  | setState name s => r.setState name s
  | remove name => (r.remove name).map (·.2)
  | taskStarted name => r.taskStarted name
  | taskFinished name now => r.taskFinished name now

def Fresh : RegistryOp → Prop
  | register n => ∃ t, n.activity = .idle t
  | _ => True

def isRegister : RegistryOp → Bool
  | register _ => true
  | _ => false

def isStart : RegistryOp → Bool
  | taskStarted _ => true
  | _ => false

def finish? : RegistryOp → Option Timestamp
  | taskFinished _ now => some now
  | _ => none

/-- What an operation makes of the entry that it is about. -/
inductive Makes : RegistryOp → Option Node → Option Node → Prop
  | register {n : Node} : Makes (.register n) none (some n)
  | setState {n : Node} {name : String} {s : NodeState} (h : n.state = s ∨ n.state.canBecome s = true) :
      Makes (.setState name s) (some n) (some { n with state := s })
  | remove {n : Node} {name : String} : Makes (.remove name) (some n) none
  | taskStarted {n : Node} {name : String} :
      Makes (.taskStarted name) (some n) (some { n with
        state := if n.state = .registered then .running else n.state
        activity := { n.activity with busy := n.activity.busy + 1, idleSince := none } })
  | taskFinished {n : Node} {name : String} {now : Timestamp} (h : 0 < n.activity.busy) :
      Makes (.taskFinished name now) (some n) (some { n with
        activity :=
          { busy := n.activity.busy - 1
            completed := n.activity.completed + 1
            idleSince := if n.activity.busy = 1 then some now else n.activity.idleSince } })

variable {r r' : Registry} {op : RegistryOp} {m : Option Node}

theorem apply_of_makes (h : Makes op (r.get? op.name) m) : op.apply r = .ok (r.set op.name m) := by
  generalize he : r.get? op.name = entry at h
  cases h with
  | register =>
    rw [name] at he
    rw [apply, Registry.register, Dict.contains, he]
    rfl
  | setState hs =>
    rw [name] at he
    rw [apply, Registry.setState_eq he, if_pos hs]
    rfl
  | remove =>
    rw [name] at he
    rw [apply, Registry.remove_eq he]
    rfl
  | taskStarted =>
    rw [name] at he
    rw [apply, Registry.taskStarted, Registry.update, he]
    rfl
  | taskFinished hb =>
    rw [name] at he
    simp only [apply, Registry.taskFinished, Registry.update, he, if_neg (Nat.ne_of_gt hb)]
    rfl

theorem makes_of_apply (h : op.apply r = .ok r') : ∃ m, Makes op (r.get? op.name) m := by
  cases op with
  | register n =>
    obtain ⟨hc, -⟩ := Registry.register_ok h
    have he : r.get? n.name = none := by simpa [Dict.contains] using hc
    rw [name, he]
    exact ⟨_, .register⟩
  | setState name s =>
    obtain ⟨n, _, he, hf, -⟩ := Registry.update_ok h
    rw [RegistryOp.name, he]
    refine ⟨_, .setState (s := s) ?_⟩
    split_ifs at hf with hs hc
    · exact .inl hs
    · exact .inr hc
  | remove name =>
    cases hr : r.remove name with
    | error e => simp [apply, hr, Except.map] at h
    | ok x =>
      obtain ⟨he, -⟩ := Registry.remove_ok hr
      rw [RegistryOp.name, he]
      exact ⟨_, .remove⟩
  | taskStarted name =>
    obtain ⟨n, -, he, -⟩ := Registry.update_ok h
    rw [RegistryOp.name, he]
    exact ⟨_, .taskStarted⟩
  | taskFinished name now =>
    obtain ⟨n, _, he, hf, -⟩ := Registry.update_ok h
    rw [RegistryOp.name, he]
    refine ⟨_, .taskFinished (Nat.pos_of_ne_zero fun hb => ?_)⟩
    simp [hb] at hf

theorem apply_eq_ok_iff : op.apply r = .ok r' ↔ ∃ m, Makes op (r.get? op.name) m ∧ r' = r.set op.name m := by
  constructor
  · intro h
    obtain ⟨m, hm⟩ := makes_of_apply h
    exact ⟨m, hm, Except.ok.inj (h.symm.trans (apply_of_makes hm))⟩
  · rintro ⟨m, hm, rfl⟩
    exact apply_of_makes hm

/-- An operation is refused just if there is nothing that it could make of its entry. -/
theorem refused_iff : (∃ e, op.apply r = .error e) ↔ ∀ m, ¬ Makes op (r.get? op.name) m := by
  constructor
  · rintro ⟨e, he⟩ m hm
    rw [apply_of_makes hm] at he
    cases he
  · intro h
    cases happly : op.apply r with
    | error e => exact ⟨e, rfl⟩
    | ok r' =>
      obtain ⟨m, hm⟩ := makes_of_apply happly
      exact absurd hm (h m)

theorem Makes.rank_le {n n' : Node} (h : Makes op (some n) (some n')) : n.state.rank ≤ n'.state.rank := by
  cases h with
  | setState hs =>
    obtain hs | hs := hs
    · exact Nat.le_of_eq (congrArg NodeState.rank hs)
    · exact NodeState.rank_le_of_canBecome hs
  | taskStarted =>
    simp only
    split_ifs with hs
    · rw [hs]
      decide
    · exact Nat.le_refl _
  | taskFinished => exact Nat.le_refl _

end RegistryOp

/-- A registry and the operations that it has carried out, the last first. -/
structure RegistryRun where
  registry : Registry := .empty
  done : List RegistryOp := []

namespace RegistryRun

open RegistryOp

def step (x : RegistryRun) (op : RegistryOp) : RegistryRun :=
  match op.apply x.registry with
  | .error _ => x
  | .ok r => { registry := r, done := op :: x.done }

def run (ops : List RegistryOp) : RegistryRun := ops.foldl step {}

def about (x : RegistryRun) (k : String) : List RegistryOp := x.done.filter (·.name = k)

def since (x : RegistryRun) (k : String) : List RegistryOp := (x.about k).takeWhile (!·.isRegister)

/-- The node `n` says of the operations since it was registered, as `n₀`, what they were. -/
structure Tracks (since : List RegistryOp) (n₀ n : Node) : Prop where
  same : n = { n₀ with state := n.state, activity := n.activity }
  busy : n.activity.idleSince = none ↔ 0 < n.activity.busy
  started : n.activity.busy + n.activity.completed = since.countP (·.isStart)
  finished : n.activity.completed = (since.filterMap (·.finish?)).length
  idle : n.activity.busy = 0 →
    n.activity.idleSince = (since.filterMap (·.finish?)).head?.or n₀.activity.idleSince

variable {x : RegistryRun} {op : RegistryOp} {ops before after past : List RegistryOp} {k : String}
  {n₀ n n' : Node}

theorem run_append_singleton (ops : List RegistryOp) (op : RegistryOp) :
    run (ops ++ [op]) = (run ops).step op := by
  rw [run, List.foldl_append]
  rfl

theorem step_of_error {e : RegistryError} (h : op.apply x.registry = .error e) : x.step op = x := by
  rw [step, h]

theorem step_of_ok {r : Registry} (h : op.apply x.registry = .ok r) :
    x.step op = { registry := r, done := op :: x.done } := by
  rw [step, h]

theorem get?_step_of_ne (hk : k ≠ op.name) : (x.step op).registry.get? k = x.registry.get? k := by
  cases happly : op.apply x.registry with
  | error e => rw [step_of_error happly]
  | ok r =>
    obtain ⟨m, -, rfl⟩ := apply_eq_ok_iff.1 happly
    rw [step_of_ok happly, Registry.get?_set, if_neg hk]

theorem Tracks.register (h : (RegistryOp.register n).Fresh) : Tracks [] n n := by
  obtain ⟨t, ht⟩ := h
  exact ⟨rfl, by simp [ht, Activity.idle], by simp [ht, Activity.idle], by simp [ht, Activity.idle], by simp⟩

theorem Tracks.step (h : Tracks past n₀ n) (hm : Makes op (some n) (some n')) : Tracks (op :: past) n₀ n' := by
  have hbusy := h.busy
  have hstarted := h.started
  have hfinished := h.finished
  cases hm with
  | setState hs => exact ⟨by rw [h.same], hbusy, hstarted, hfinished, h.idle⟩
  | taskStarted =>
    refine ⟨by rw [h.same], by simp, ?_, hfinished, fun hz => absurd hz (Nat.succ_ne_zero _)⟩
    rw [List.countP_cons_of_pos rfl]
    simp only
    omega
  | taskFinished hb =>
    refine ⟨by rw [h.same], ?_, ?_, ?_, fun hz => ?_⟩
    · simp only
      split_ifs with h1
      · simp [h1]
      · rw [hbusy]
        omega
    · rw [List.countP_cons_of_neg Bool.false_ne_true]
      simp only
      omega
    · simp [finish?, hfinished]
    · simp only at hz
      have h1 : n.activity.busy = 1 := by omega
      simp [finish?, h1]

theorem about_step_of_ne {r : Registry} (hk : k ≠ op.name) :
    about { registry := r, done := op :: x.done } k = x.about k := by
  rw [about, List.filter_cons_of_neg (by simpa using hk.symm), about]

theorem about_step_self {r : Registry} :
    about { registry := r, done := op :: x.done } op.name = op :: x.about op.name := by
  rw [about, List.filter_cons_of_pos (by simp), about]

def Sound (x : RegistryRun) : Prop := ∀ k n, x.registry.get? k = some n →
  ∃ n₀ older, x.about k = x.since k ++ .register n₀ :: older ∧ Tracks (x.since k) n₀ n

theorem Sound.step (h : x.Sound) (hop : op.Fresh) : (x.step op).Sound := by
  cases happly : op.apply x.registry with
  | error e =>
    rw [step_of_error happly]
    exact h
  | ok r =>
    obtain ⟨m, hm, rfl⟩ := apply_eq_ok_iff.1 happly
    rw [step_of_ok happly]
    intro k n' hn'
    by_cases hk : k = op.name
    · rw [Registry.get?_set, if_pos hk] at hn'
      subst hk hn'
      rw [since, about_step_self]
      cases hn : x.registry.get? op.name with
      | none =>
        rw [hn] at hm
        cases hm
        exact ⟨n', x.about _, rfl, .register hop⟩
      | some n =>
        rw [hn] at hm
        have hlater : (!op.isRegister) = true := by
          cases hm <;> rfl
        have hsince : (op :: x.about op.name).takeWhile (!·.isRegister) = op :: x.since op.name :=
          List.takeWhile_cons_of_pos hlater
        obtain ⟨n₀, older, habout, htracks⟩ := h _ n hn
        refine ⟨n₀, older, ?_, ?_⟩
        · rw [hsince, List.cons_append, ← habout]
        · rw [hsince]
          exact htracks.step hm
    · rw [Registry.get?_set, if_neg hk] at hn'
      rw [since, about_step_of_ne hk]
      exact h k n' hn'

theorem sound_run (h : ∀ op ∈ ops, op.Fresh) : (run ops).Sound := by
  induction ops using List.reverseRecOn with
  | nil => exact fun _ _ hn => nomatch hn
  | append_singleton ops op ih =>
    obtain ⟨hops, hop⟩ := List.forall_mem_append.1 h
    rw [run_append_singleton]
    exact (ih hops).step (hop op List.mem_cons_self)

theorem rank_le_step (hn : x.registry.get? k = some n) (hn' : (x.step op).registry.get? k = some n') :
    n.state.rank ≤ n'.state.rank := by
  by_cases hk : k = op.name
  · cases happly : op.apply x.registry with
    | error e =>
      rw [step_of_error happly, hn] at hn'
      obtain rfl := Option.some.inj hn'
      exact Nat.le_refl _
    | ok r =>
      obtain ⟨m, hm, rfl⟩ := apply_eq_ok_iff.1 happly
      rw [step_of_ok happly, Registry.get?_set, if_pos hk] at hn'
      subst hk hn'
      rw [hn] at hm
      exact hm.rank_le
  · rw [get?_step_of_ne hk, hn] at hn'
    obtain rfl := Option.some.inj hn'
    exact Nat.le_refl _

/-- While a node stays registered its state never moves backwards. -/
theorem rank_le_run (hn : (run before).registry.get? k = some n)
    (hstays : ∀ p, p <+: after → (run (before ++ p)).registry.contains k = true)
    (hn' : (run (before ++ after)).registry.get? k = some n') : n.state.rank ≤ n'.state.rank := by
  induction after using List.reverseRecOn generalizing n' with
  | nil =>
    rw [List.append_nil] at hn'
    obtain rfl := Option.some.inj (hn.symm.trans hn')
    exact Nat.le_refl _
  | append_singleton after op ih =>
    have hmid := hstays after (List.prefix_append after [op])
    obtain ⟨n₁, hn₁⟩ := Option.isSome_iff_exists.1 hmid
    rw [← List.append_assoc, run_append_singleton] at hn'
    exact Nat.le_trans (ih (fun p hp => hstays p (hp.trans (List.prefix_append after [op]))) hn₁)
      (rank_le_step hn₁ hn')

/-- After any operations on an empty registry, each node says how many tasks it has run since it was
registered, and since when it is idle; its state has only moved forwards; and an operation that is refused
changes nothing, any other at most the entry that it is about. -/
theorem registry_sound (h : ∀ op ∈ ops, op.Fresh) :
    let x := run ops
    (∀ k n, x.registry.get? k = some n →
      (n.activity.idleSince = none ↔ 0 < n.activity.busy) ∧
      n.activity.busy + n.activity.completed = (x.since k).countP (·.isStart) ∧
      n.activity.completed = ((x.since k).filterMap (·.finish?)).length ∧
      (n.activity.busy = 0 → 0 < n.activity.completed →
        n.activity.idleSince = ((x.since k).filterMap (·.finish?)).head?) ∧
      ∃ n₀ older, x.about k = x.since k ++ .register n₀ :: older ∧
        n = { n₀ with state := n.state, activity := n.activity }) ∧
    (∀ before after k n n', before ++ after = ops → (run before).registry.get? k = some n →
      (∀ p, p <+: after → (run (before ++ p)).registry.contains k = true) →
      x.registry.get? k = some n' → n.state.rank ≤ n'.state.rank) ∧
    ∀ op,
      ((∃ e, op.apply x.registry = .error e) ↔ ∀ m, ¬ op.Makes (x.registry.get? op.name) m) ∧
      (∀ e, op.apply x.registry = .error e → (x.step op).registry = x.registry) ∧
      (∀ r, op.apply x.registry = .ok r → (x.step op).registry = r ∧
        op.Makes (x.registry.get? op.name) (r.get? op.name)) ∧
      ∀ k ≠ op.name, (x.step op).registry.get? k = x.registry.get? k := by
  intro x
  refine ⟨fun k n hn => ?_, fun before after k n n' he hn hstays hn' => ?_, fun op => ?_⟩
  · obtain ⟨n₀, older, habout, htracks⟩ := sound_run h k n hn
    refine ⟨htracks.busy, htracks.started, htracks.finished, fun hidle hworked => ?_, n₀, older, habout,
      htracks.same⟩
    rw [htracks.finished, List.length_pos_iff_exists_cons] at hworked
    obtain ⟨t, ts, hts⟩ := hworked
    rw [htracks.idle hidle, hts]
    rfl
  · subst he
    exact rank_le_run hn hstays hn'
  · refine ⟨refused_iff, fun e he => ?_, fun r hr => ?_, fun k hk => get?_step_of_ne hk⟩
    · rw [step_of_error he]
    · rw [step_of_ok hr]
      obtain ⟨m, hm, rfl⟩ := apply_eq_ok_iff.1 hr
      rw [Registry.get?_set, if_pos rfl]
      exact ⟨rfl, hm⟩

/-- A task is run, and ends while its node is given up. -/
theorem registry_sound_task :
    let t : Timestamp := .ofMillis 5000
    let n : Node :=
      { id := ⟨.ofNat 1⟩, name := "n1", cloud := ⟨"local", by decide⟩, template := ⟨"small", by decide⟩
        containerId := "c1", executors := 1, state := .registered, launcher := .attach "c1" none
        createdAt := .epoch, activity := .idle .epoch }
    let later : List RegistryOp :=
      [.taskStarted "n1", .setState "n1" .terminating, .register n, .taskFinished "n1" t]
    (∀ op ∈ .register n :: later, op.Fresh) ∧
    ∃ n', (run (.register n :: later)).registry.get? "n1" = some n' ∧ n'.state = .terminating ∧
      n.state.rank ≤ n'.state.rank ∧ n'.activity.idleSince = some t := by
  intro t n later
  let n' : Node :=
    { n with state := .terminating, activity := { busy := 0, completed := 1, idleSince := some t } }
  have hfresh : ∀ op ∈ .register n :: later, op.Fresh := by
    simp only [later, List.forall_mem_cons]
    exact ⟨⟨_, rfl⟩, trivial, trivial, ⟨_, rfl⟩, trivial, fun _ h => absurd h List.not_mem_nil⟩
  have hn : (run [.register n]).registry.get? "n1" = some n := by decide
  have hn' : (run (.register n :: later)).registry.get? "n1" = some n' := by decide
  have hstays : ∀ p ∈ later.inits, (run ([.register n] ++ p)).registry.contains "n1" = true := by decide
  obtain ⟨hnodes, hforward, -⟩ := registry_sound hfresh
  have hrank : n.state.rank ≤ n'.state.rank :=
    hforward [.register n] later "n1" n n' rfl hn (fun p hp => hstays p ((List.mem_inits _ _).2 hp)) hn'
  have hidle := (hnodes "n1" n' hn').2.2.2.1 rfl (by decide)
  exact ⟨hfresh, n', hn', rfl, hrank, hidle.trans (by decide)⟩

end RegistryRun

end ContainerFleet
