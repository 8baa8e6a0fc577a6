import ContainerFleet.Fleet.Status
import ContainerFleet.Rehearsal.Operation
import ContainerFleet.Proofs.Dict

namespace ContainerFleet

namespace Settings

variable {env : Dict String} {s : Settings} {key : String} {default m : Nat}

theorem lt_number_iff (h : default ≤ m) : m < number env key default ↔
    ∃ v n, env.get? key = some v ∧ Text.natural? (Text.trim v) = some n ∧ m < n ∧ n < Word.count 64 := by
  unfold number
  cases env.get? key with
  | none => simpa using h
  | some v =>
    cases hn : Text.natural? (Text.trim v) with
    | none => simpa [hn] using h
    | some n =>
      by_cases hfits : n < Word.count 64
      · simp [hn, hfits, Option.filter_some]
      · simpa [hn, hfits, Option.filter_some] using h

theorem read_of_ok (h : ofEnvironment env = .ok s) :
    s.sweepEvery = .ofSecs (max (number env sweepKey (Duration.ofSecs 300).secs) 1) ∧
    s.reapEvery = .ofSecs (max (number env reapKey (Duration.ofSecs 60).secs) 1) ∧
    s.workers = max (number env workersKey 8) 1 := by
  unfold ofEnvironment at h
  cases howner : ownerOf env with
  | error e =>
    rw [howner] at h
    cases h
  | ok owner =>
    rw [howner] at h
    cases h
    exact ⟨rfl, rfl, rfl⟩

theorem zero_lt_ofSecs_max (n : Nat) : Duration.zero < .ofSecs (max n 1) :=
  Nat.mul_pos (Nat.lt_of_lt_of_le Nat.zero_lt_one (Nat.le_max_right n 1)) (by decide)

theorem sweepEvery_pos (h : ofEnvironment env = .ok s) : .zero < s.sweepEvery := by
  rw [(read_of_ok h).1]
  exact zero_lt_ofSecs_max _

theorem reapEvery_pos (h : ofEnvironment env = .ok s) : .zero < s.reapEvery := by
  rw [(read_of_ok h).2.1]
  exact zero_lt_ofSecs_max _

theorem workers_pos (h : ofEnvironment env = .ok s) : 0 < s.workers := by
  rw [(read_of_ok h).2.2]
  exact Nat.lt_of_lt_of_le Nat.zero_lt_one (Nat.le_max_right _ _)

/-- The environment asks for more workers than can be let run at the same time. -/
def Overcrowded (env : Dict String) : Prop :=
  ∃ v n, env.get? workersKey = some v ∧ Text.natural? (Text.trim v) = some n ∧
    maxWorkers < n ∧ n < Word.count 64

theorem maxWorkers_lt_iff (h : ofEnvironment env = .ok s) : maxWorkers < s.workers ↔ Overcrowded env := by
  have hone : 1 ≤ maxWorkers := by decide
  rw [(read_of_ok h).2.2, Overcrowded, ← lt_number_iff (show 8 ≤ maxWorkers by decide)]
  omega

theorem canStart_iff (h : ofEnvironment env = .ok s) : s.canStart = true ↔ ¬ Overcrowded env := by
  have hsweep : 0 < s.sweepEvery.nanos := sweepEvery_pos h
  have hreap : 0 < s.reapEvery.nanos := reapEvery_pos h
  rw [← maxWorkers_lt_iff h, Nat.not_lt]
  simp [canStart, hsweep, hreap]

end Settings

namespace Pool

/-- However short clients are kept, half a second passes between two purges. -/
theorem purgePeriod_pos (p : Pool) : .zero < p.purgePeriod := by
  have hsecond : 1000000000 ≤ max p.cache.idleFor.nanos 1000000000 := Nat.le_max_right _ _
  change 0 < max p.cache.idleFor.nanos 1000000000 / 2
  omega

end Pool

namespace World

variable {w w' : World} {l : Loop} {n fuel : Nat} {kinds : List LoopKind} {ahead : Bool}

structure Beside (w w' : World) : Prop where
  tasks : w'.tasks = w.tasks
  ready : w'.ready = w.ready
  ended : w'.ended = w.ended
  ticks : w'.ticks = w.ticks
  checked : w'.checked = w.checked
  signals : w'.signals = w.signals
  period : w'.period = w.period

theorem period_pos (hsweep : .zero < w.sweepEvery) (hreap : .zero < w.reapEvery) (k : LoopKind) :
    .zero < w.period k := by
  cases k with
  | watchdog => exact hsweep
  | reaper => exact hreap
  | janitor => exact Pool.purgePeriod_pos _

theorem beside_purge : w.Beside w.purge.2 where
  tasks := rfl
  ready := rfl
  ended := rfl
  ticks := rfl
  checked := rfl
  signals := rfl
  period := by
    funext k
    cases k <;> rfl

theorem beside_setTimer {a : Actor} {due : Nat} : w.Beside (w.setTimer a due) := by
  unfold setTimer
  split <;> exact ⟨rfl, rfl, rfl, rfl, rfl, rfl, rfl⟩

theorem Beside.trans {w₂ : World} (h : w.Beside w') (h' : w'.Beside w₂) : w.Beside w₂ :=
  ⟨h'.tasks.trans h.tasks, h'.ready.trans h.ready, h'.ended.trans h.ended, h'.ticks.trans h.ticks,
    h'.checked.trans h.checked, h'.signals.trans h.signals, h'.period.trans h.period⟩

theorem dueAt_le (h : w.ticks = .ofMillis w.checked) : dueAt w.ticks ≤ w.checked := by
  rw [h]
  change (w.checked * 1000000 + 999999) / 1000000 ≤ w.checked
  omega

theorem lt_dueAt {d : Duration} (h : w.ticks = .ofMillis w.checked) (hd : .zero < d) :
    ¬ dueAt (w.ticks + d) ≤ w.checked := by
  have hpos : 0 < d.nanos := hd
  rw [h]
  change ¬ (w.checked * 1000000 + d.nanos + 999999) / 1000000 ≤ w.checked
  omega

theorem runLoop_fresh (n fuel : Nat) (hfresh : l.phase = .fresh) (hnoticed : l.noticed = w.signals)
    (hticks : w.ticks = .ofMillis w.checked) (hperiod : .zero < w.period l.kind) :
    ∃ w', runLoop n (fuel + 3) l w = (none, { l with phase := .ticking (w.ticks + w.period l.kind) }, w') ∧
      w.Beside w' := by
  have hperiod' : w.period l.kind ≠ .zero := by
    intro heq
    rw [heq] at hperiod
    exact Nat.lt_irrefl _ hperiod
  have hnow := dueAt_le hticks
  have hlater := lt_dueAt hticks hperiod
  cases hkind : l.kind with
  | watchdog | reaper =>
    rw [hkind] at hlater hperiod'
    refine ⟨w.setTimer (.task n) (dueAt (w.ticks + w.period l.kind)), ?_, beside_setTimer⟩
    simp [runLoop, hfresh, hkind, hperiod', hnow, hlater, hnoticed]
  | janitor =>
    rw [hkind] at hlater hperiod'
    refine ⟨w.purge.2.setTimer (.task n) (dueAt (w.ticks + w.period l.kind)), ?_,
      beside_purge.trans beside_setTimer⟩
    simp [runLoop, hfresh, hkind, hperiod', hnow, hlater, hnoticed, loopJob?, beside_purge.checked,
      beside_purge.signals]

def loopsFrom (noticed : Nat) (ahead : Bool) (phase : LoopKind → LoopPhase) (n : Nat)
    (kinds : List LoopKind) : List (Nat × Task) :=
  (kinds.zipIdx n).map fun (kind, i) => (i, .loop { kind, ahead, noticed, phase := phase kind })

theorem le_of_mem_loopsFrom {noticed : Nat} {phase : LoopKind → LoopPhase} {e : Nat × Task}
    (h : e ∈ loopsFrom noticed ahead phase n kinds) : n ≤ e.1 := by
  obtain ⟨⟨k, i⟩, hmem, rfl⟩ := List.mem_map.1 h
  exact List.le_snd_of_mem_zipIdx hmem

theorem startLoops_eq (w : World) (kinds : List LoopKind) (ahead : Bool) : w.startLoops kinds ahead =
    { w with
      handles := w.handles ++ List.range' w.nextTask kinds.length
      tasks := w.tasks ++ loopsFrom w.signals ahead (fun _ => .fresh) w.nextTask kinds
      ready := w.ready ++ List.range' w.nextTask kinds.length
      nextTask := w.nextTask + kinds.length } := by
  induction kinds generalizing w with
  | nil => simp [startLoops, loopsFrom]
  | cons k ks ih =>
    rw [show w.startLoops (k :: ks) ahead = (w.startLoop k ahead).startLoops ks ahead from rfl, ih]
    simp [startLoop, spawn, loopsFrom, List.range'_succ, Nat.add_assoc, Nat.add_comm 1]

theorem runTasks_idle (h : w.ready = []) : runTasks fuel w = w := by
  cases fuel with
  | zero => rfl
  | succ fuel => simp [runTasks, h]

theorem runTasks_ready {rest : List Nat} (h : w.ready = n :: rest) :
    runTasks (fuel + 1) w = runTasks fuel ({ w with ready := rest }.runTask n) := by
  rw [runTasks, h]

theorem tasks_setTask {before after : List (Nat × Task)} {t t' : Task}
    (h : w.tasks = before ++ (n, t) :: after) (hbefore : ∀ e ∈ before, e.1 ≠ n)
    (hafter : ∀ e ∈ after, e.1 ≠ n) : (w.setTask n t').tasks = before ++ (n, t') :: after := by
  have hkept {es : List (Nat × Task)} (hes : ∀ e ∈ es, e.1 ≠ n) :
      es.map (fun e => if e.1 = n then (n, t') else e) = es :=
    (List.map_congr_left fun e he => if_neg (hes e he)).trans (List.map_id' es)
  simp [setTask, h, hkept hbefore, hkept hafter]

theorem lookup_tasks {before after : List (Nat × Task)} {t : Task}
    (h : w.tasks = before ++ (n, t) :: after) (hbefore : ∀ e ∈ before, e.1 ≠ n) :
    w.tasks.lookup n = some t := by
  have hnone : before.lookup n = none :=
    List.lookup_eq_none_iff.2 fun e he => by simpa using (hbefore e he).symm
  rw [h, List.lookup_append, hnone, Option.none_or, List.lookup_cons_self]

theorem runTask_fresh (htask : w.tasks.lookup n = some (.loop l)) (hfresh : l.phase = .fresh)
    (hnoticed : l.noticed = w.signals) (hticks : w.ticks = .ofMillis w.checked)
    (hperiod : .zero < w.period l.kind) : ∃ w', w.Beside w' ∧
      w.runTask n = w'.setTask n (.loop { l with phase := .ticking (w.ticks + w.period l.kind) }) := by
  have hpatience : patience = 999997 + 3 := rfl
  obtain ⟨w', hrun, hbeside⟩ := runLoop_fresh n 999997 hfresh hnoticed hticks hperiod
  refine ⟨w', hbeside, ?_⟩
  simp only [runTask, htask, hpatience, hrun]

theorem runTasks_fresh (before : List (Nat × Task))
    (htasks : w.tasks = before ++ loopsFrom w.signals ahead (fun _ => .fresh) n kinds)
    (hbefore : ∀ e ∈ before, e.1 < n) (hready : w.ready = List.range' n kinds.length)
    (hticks : w.ticks = .ofMillis w.checked) (hperiod : ∀ k, .zero < w.period k) :
    (runTasks (kinds.length + fuel) w).tasks = before ++
      loopsFrom w.signals ahead (fun k => .ticking (w.ticks + w.period k)) n kinds ∧
    (runTasks (kinds.length + fuel) w).ready = [] ∧
    (runTasks (kinds.length + fuel) w).ended = w.ended := by
  induction kinds generalizing w n before with
  | nil =>
    rw [runTasks_idle hready]
    exact ⟨htasks, hready, rfl⟩
  | cons k ks ih =>
    -- The first loop runs and then waits with the tasks before it; the loops after it are as they were.
    let l : Loop := { kind := k, ahead, noticed := w.signals }
    let t : Task := .loop { l with phase := .ticking (w.ticks + w.period k) }
    let w₁ : World := { w with ready := List.range' (n + 1) ks.length }
    have hne : ∀ e ∈ before, e.1 ≠ n := fun e he => Nat.ne_of_lt (hbefore e he)
    have hlookup : w₁.tasks.lookup n = some (.loop l) := lookup_tasks htasks hne
    obtain ⟨w', hbeside, hrun⟩ := runTask_fresh hlookup rfl rfl hticks (hperiod k)
    have hstep : runTasks ((k :: ks).length + fuel) w = runTasks (ks.length + fuel) (w'.setTask n t) := by
      rw [List.length_cons, Nat.add_right_comm, runTasks_ready hready]
      exact congrArg (runTasks (ks.length + fuel)) hrun
    have htasks' : (w'.setTask n t).tasks = (before ++ [(n, t)]) ++
        loopsFrom w.signals ahead (fun _ => .fresh) (n + 1) ks := by
      rw [List.append_assoc]
      refine tasks_setTask (hbeside.tasks.trans htasks) hne fun e he => ?_
      exact Nat.ne_of_gt (le_of_mem_loopsFrom he)
    have hsignals : (w'.setTask n t).signals = w.signals := hbeside.signals
    have hclock : (w'.setTask n t).ticks = w.ticks := hbeside.ticks
    have hchecked : (w'.setTask n t).checked = w.checked := hbeside.checked
    have hperiods : (w'.setTask n t).period = w.period := hbeside.period
    have hbefore' : ∀ e ∈ before ++ [(n, t)], e.1 < n + 1 := by
      simp only [List.mem_append, List.mem_singleton]
      rintro e (he | rfl)
      · exact Nat.lt_succ_of_lt (hbefore e he)
      · exact Nat.lt_succ_self n
    have hrest := ih (w := w'.setTask n t) (before ++ [(n, t)]) (by rw [hsignals, htasks']) hbefore'
      hbeside.ready (by rw [hclock, hchecked, hticks]) (by rwa [hperiods])
    rw [hsignals, hclock, hperiods, List.append_assoc] at hrest
    rw [hstep]
    exact ⟨hrest.1, hrest.2.1, hrest.2.2.trans hbeside.ended⟩

/-- In any world whose clock has stopped at a whole millisecond, loops that start wait for their first tick. -/
theorem startLoops_wait (kinds : List LoopKind) (ahead : Bool) (fuel : Nat) (hready : w.ready = [])
    (htasks : ∀ e ∈ w.tasks, e.1 < w.nextTask) (hticks : w.ticks = .ofMillis w.checked)
    (hperiod : ∀ k, .zero < w.period k) (hfuel : kinds.length ≤ fuel) :
    let w' := runTasks fuel (w.startLoops kinds ahead)
    w'.tasks = w.tasks ++
      loopsFrom w.signals ahead (fun k => .ticking (w.ticks + w.period k)) w.nextTask kinds ∧
    w'.ready = [] ∧ w'.ended = w.ended := by
  obtain ⟨fuel, rfl⟩ := Nat.exists_eq_add_of_le hfuel
  rw [startLoops_eq, hready]
  exact runTasks_fresh w.tasks rfl htasks rfl hticks hperiod

end World

namespace Settings

variable {env : Dict String} {s : Settings}

def start? (s : Settings) (owner : FleetId) (d : Definition) (epoch : Timestamp) : Option World :=
  (World.start? (s.fleet owner d) s.clientIdle s.workers epoch).map fun w =>
    { w with sweepEvery := s.sweepEvery, reapEvery := s.reapEvery }

def started (s : Settings) (owner : FleetId) (d : Definition) (epoch : Timestamp) : World :=
  { World.start (s.fleet owner d) s.clientIdle s.workers epoch with
    sweepEvery := s.sweepEvery
    reapEvery := s.reapEvery }

theorem start?_eq_some_iff {owner : FleetId} {d : Definition} {epoch : Timestamp} {w : World} :
    s.start? owner d epoch = some w ↔ s.workers ≤ maxWorkers ∧ s.started owner d epoch = w := by
  simp [start?, World.start?, started]

/-- Whatever the variables of a process hold, the fleet of any definition starts with the settings read
from them, unless they ask for more workers than can be let run at the same time: all periods are
positive, there is a worker, and each loop waits until its period has passed. -/
theorem starts_unless_overcrowded (h : ofEnvironment env = .ok s) (owner : FleetId) (d : Definition)
    (epoch : Timestamp) (ahead : Bool) :
    .zero < s.sweepEvery ∧ .zero < s.reapEvery ∧ .zero < s.initialState.pool.purgePeriod ∧ 0 < s.workers ∧
    (s.canStart = true ↔ ¬ Overcrowded env) ∧ (s.start? owner d epoch = none ↔ Overcrowded env) ∧
    ∀ w, s.start? owner d epoch = some w →
      let w' := World.runTasks World.patience (w.startLoops LoopKind.all ahead)
      w'.ended = [] ∧ w'.ready = [] ∧ w'.tasks =
        [(0, .loop { kind := .watchdog, ahead, noticed := 0, phase := .ticking s.sweepEvery }),
          (1, .loop { kind := .reaper, ahead, noticed := 0, phase := .ticking s.reapEvery }),
          (2, .loop { kind := .janitor, ahead, noticed := 0
                      phase := .ticking s.initialState.pool.purgePeriod })] := by
  refine ⟨sweepEvery_pos h, reapEvery_pos h, Pool.purgePeriod_pos _, workers_pos h, canStart_iff h, ?_, ?_⟩
  · rw [← maxWorkers_lt_iff h]
    simp [start?, World.start?]
  · intro w hw
    obtain ⟨-, rfl⟩ := start?_eq_some_iff.1 hw
    have hclock : Duration.zero = .ofMillis 0 := by decide
    have hzero (p : Duration) : Duration.zero + p = p := congrArg Duration.mk (Nat.zero_add p.nanos)
    obtain ⟨htasks, hready, hended⟩ := World.startLoops_wait (w := s.started owner d epoch) LoopKind.all
      ahead World.patience rfl (fun _ => nofun) hclock
      (World.period_pos (sweepEvery_pos h) (reapEvery_pos h)) (by decide)
    have hphase : (fun k => LoopPhase.ticking ((s.started owner d epoch).ticks +
        (s.started owner d epoch).period k)) = fun k => .ticking ((s.started owner d epoch).period k) :=
      funext fun k => congrArg LoopPhase.ticking (hzero _)
    rw [hphase] at htasks
    exact ⟨hended, hready, htasks⟩

/-- The largest number of workers with which a fleet starts, and the next one. -/
theorem starts_unless_overcrowded_limit :
    let env (v : String) : Dict String := Dict.empty.insert workersKey v
    (∃ s w, ofEnvironment (env "2305843009213693951") = .ok s ∧ s.start? ⟨.ofNat 0⟩ {} .epoch = some w ∧
      (World.runTasks World.patience (w.startLoops LoopKind.all false)).ended = []) ∧
    ∃ s, ofEnvironment (env "2305843009213693952") = .ok s ∧ s.start? ⟨.ofNat 0⟩ {} .epoch = none := by
  intro env
  have hget (v : String) : (env v).get? workersKey = some v := Dict.get?_insert.trans (if_pos rfl)
  have hread (v : String) : ∃ s, ofEnvironment (env v) = .ok s := by
    have howner : ownerOf (env v) = .ok none := by
      rw [ownerOf, show (env v).get? ownerKey = none from Dict.get?_insert.trans (if_neg (by decide))]
    exact ⟨_, congrArg (Except.map _) howner⟩
  obtain ⟨s, hs⟩ := hread "2305843009213693951"
  obtain ⟨s', hs'⟩ := hread "2305843009213693952"
  have hmost : ¬ Overcrowded (env "2305843009213693951") := by
    rintro ⟨v, n, hv, hn, hlt, -⟩
    obtain rfl := Option.some.inj ((hget _).symm.trans hv)
    have hvalue : Text.natural? (Text.trim "2305843009213693951") = some maxWorkers := by decide +kernel
    exact Nat.ne_of_lt hlt (Option.some.inj (hvalue.symm.trans hn))
  have hmore : Overcrowded (env "2305843009213693952") :=
    ⟨_, maxWorkers + 1, hget _, by decide +kernel, Nat.lt_succ_self _, by decide⟩
  obtain ⟨-, -, -, -, -, hnone, hstart⟩ := starts_unless_overcrowded hs ⟨.ofNat 0⟩ {} .epoch false
  obtain ⟨-, -, -, -, -, hnone', -⟩ := starts_unless_overcrowded hs' ⟨.ofNat 0⟩ {} .epoch false
  refine ⟨?_, s', hs', hnone'.2 hmore⟩
  obtain ⟨w, hw⟩ := Option.ne_none_iff_exists'.1 (mt hnone.1 hmost)
  exact ⟨s, w, hs, hw, (hstart w hw).1⟩

end Settings

end ContainerFleet
