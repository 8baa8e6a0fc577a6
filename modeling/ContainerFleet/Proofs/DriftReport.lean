import ContainerFleet.Drift.Report
import ContainerFleet.Proofs.Age
import ContainerFleet.Proofs.Dict
import Mathlib.Data.List.Induction

namespace ContainerFleet

inductive CorrelationOp where
  | register (c : Mapped)
  | skip (id : String)
deriving DecidableEq

namespace Correlation

/-- A container that is refused leaves the map as it is. -/
def step (m : Correlation) : CorrelationOp → Correlation
  | .register c => (m.register c).toOption.getD m
  | .skip id => m.skip id

def run (ops : List CorrelationOp) : Correlation := ops.foldl step empty

/-- Each container is held under its id, and those that were left out are known. -/
structure Sound (m : Correlation) (ops : List CorrelationOp) : Prop where
  keyed : m.byContainer.KeyedBy (·.id)
  skipped : ∀ id, m.skipped.contains id = true ↔ .skip id ∈ ops

variable {m m' : Correlation} {ops : List CorrelationOp} {c : Mapped} {id : String}

theorem register_ok (h : m.register c = .ok m') :
    m'.byContainer = m.byContainer.insert c.id c ∧ m'.skipped = m.skipped := by
  unfold register at h
  split at h
  · cases h
  · split at h
    · cases h
    · cases h
      exact ⟨rfl, rfl⟩

theorem Sound.step (h : m.Sound ops) (op : CorrelationOp) : (m.step op).Sound (ops ++ [op]) := by
  cases op with
  | register c =>
    have hskip : ∀ id, .skip id ∈ ops ++ [.register c] ↔ .skip id ∈ ops := by simp
    cases hm : m.register c with
    | error e =>
      rw [Correlation.step, hm]
      exact ⟨h.keyed, fun id => (h.skipped id).trans (hskip id).symm⟩
    | ok m' =>
      obtain ⟨hcontainers, hskipped⟩ := register_ok hm
      rw [Correlation.step, hm]
      refine ⟨?_, fun id => ?_⟩
      · change m'.byContainer.KeyedBy (·.id)
        rw [hcontainers]
        exact h.keyed.insert rfl
      · change m'.skipped.contains id = true ↔ _
        rw [hskipped, h.skipped, hskip]
  | skip id =>
    refine ⟨h.keyed, fun k => ?_⟩
    simp only [Correlation.step, skip, Dict.contains_insert, Bool.or_eq_true, decide_eq_true_eq,
      h.skipped, List.mem_append, List.mem_singleton, CorrelationOp.skip.injEq]
    exact or_comm

theorem sound_run (ops : List CorrelationOp) : (run ops).Sound ops := by
  induction ops using List.reverseRecOn with
  | nil =>
    refine ⟨?_, fun id => ?_⟩
    · intro k v h
      cases h
    · simp only [List.not_mem_nil, iff_false]
      exact Bool.false_ne_true
  | append_singleton ops op ih =>
    rw [run, List.foldl_append]
    exact ih.step op

theorem Sound.sorted (h : m.Sound ops) : m.containers.Pairwise (·.id < ·.id) := h.keyed.sorted_values

theorem Sound.contains_iff (h : m.Sound ops) :
    m.contains id = true ↔ ∃ c ∈ m.containers, c.id = id := by
  rw [contains, Dict.contains, Option.isSome_iff_exists]
  constructor
  · rintro ⟨c, hc⟩
    exact ⟨c, Dict.mem_values_iff.2 ⟨id, hc⟩, h.keyed id c hc⟩
  · rintro ⟨c, hc, rfl⟩
    exact ⟨c, h.keyed.mem_values_iff.1 hc⟩

theorem Sound.wasSeen_iff (h : m.Sound ops) :
    m.wasSeen id = true ↔ (∃ c ∈ m.containers, c.id = id) ∨ .skip id ∈ ops := by
  rw [wasSeen, Bool.or_eq_true, h.contains_iff, h.skipped]

end Correlation

namespace Drift

variable {m : Correlation} {live : Dict String} {now : Timestamp} {grace : Int} {c : Mapped}

theorem mem_orphans : c ∈ (between m live now grace).orphans ↔
    c ∈ m.containers ∧ live.contains c.node = false ∧ grace < now.since c.created := by
  simp only [between, isPastGrace, List.mem_filter, decide_eq_true_eq, Bool.not_eq_true', and_assoc]

theorem mem_inGrace : c ∈ (between m live now grace).inGrace ↔
    c ∈ m.containers ∧ live.contains c.node = false ∧ now.since c.created ≤ grace := by
  simp only [between, isPastGrace, List.mem_filter, Bool.not_eq_true', decide_eq_false_iff_not,
    Int.not_lt, and_assoc]

theorem mem_stale {x : StaleNode} : x ∈ (between m live now grace).stale ↔
    live.get? x.node = some x.container ∧ m.wasSeen x.container = false := by
  simp only [between, Dict.toList, List.mem_filterMap]
  constructor
  · rintro ⟨e, he, hx⟩
    split at hx
    · cases hx
    · rename_i hseen
      obtain rfl := Option.some.inj hx
      exact ⟨Dict.get?_eq_some_iff.2 he, Bool.eq_false_iff.2 hseen⟩
  · rintro ⟨hlive, hseen⟩
    exact ⟨_, Dict.get?_eq_some_iff.1 hlive, by rw [hseen]; rfl⟩

theorem orphans_sublist : (between m live now grace).orphans.Sublist m.containers :=
  List.filter_sublist.trans List.filter_sublist

theorem inGrace_sublist : (between m live now grace).inGrace.Sublist m.containers :=
  List.filter_sublist.trans List.filter_sublist

theorem stale_sorted : (between m live now grace).stale.Pairwise (·.node < ·.node) := by
  refine live.sorted.filterMap _ ?_
  intro a b hab x hx y hy
  split at hx <;> cases hx
  split at hy <;> cases hy
  exact hab

theorem isConverged_iff : (between m live now grace).isConverged = true ↔
    (∀ c ∈ m.containers, live.contains c.node = true) ∧
    ∀ node id, live.get? node = some id → m.wasSeen id = true := by
  simp only [isConverged, Bool.and_eq_true, List.isEmpty_iff, List.eq_nil_iff_forall_not_mem,
    mem_orphans, mem_inGrace, mem_stale]
  constructor
  · rintro ⟨⟨horphans, hgrace⟩, hstale⟩
    refine ⟨fun c hc => ?_, fun node id hlive => ?_⟩
    · by_contra hloose
      have hloose : live.contains c.node = false := Bool.eq_false_iff.2 hloose
      obtain hold | hnew := Int.lt_or_le grace (now.since c.created)
      · exact horphans c ⟨hc, hloose, hold⟩
      · exact hgrace c ⟨hc, hloose, hnew⟩
    · by_contra hseen
      exact hstale ⟨node, id⟩ ⟨hlive, Bool.eq_false_iff.2 hseen⟩
  · rintro ⟨hlive, hseen⟩
    refine ⟨⟨?_, ?_⟩, ?_⟩
    · rintro c ⟨hc, hloose, -⟩
      rw [hlive c hc] at hloose
      cases hloose
    · rintro c ⟨hc, hloose, -⟩
      rw [hlive c hc] at hloose
      cases hloose
    · rintro x ⟨hx, hgone⟩
      rw [hseen _ _ hx] at hgone
      cases hgone

/-- Later on a container without a live node is an orphan or in grace again, and one that was an orphan is in
grace only if it is not as old any more. -/
theorem ages (m : Correlation) (live : Dict String) (now later : Timestamp) (grace : Int) :
    (∀ c, c ∈ (between m live now grace).orphans ∨ c ∈ (between m live now grace).inGrace ↔
      c ∈ (between m live later grace).orphans ∨ c ∈ (between m live later grace).inGrace) ∧
    ∀ c ∈ (between m live now grace).orphans, c ∈ (between m live later grace).inGrace ↔
      c.created.Rejuvenates now later ∧ later.since c.created ≤ grace := by
  simp only [mem_orphans, mem_inGrace]
  refine ⟨fun c => ?_, ?_⟩
  · have hnow := Int.lt_or_le grace (now.since c.created)
    have hlater := Int.lt_or_le grace (later.since c.created)
    tauto
  · rintro c ⟨hc, hloose, hold⟩
    rw [← Timestamp.since_lt_since_iff]
    constructor
    · rintro ⟨-, -, hnew⟩
      exact ⟨Int.lt_of_le_of_lt hnew hold, hnew⟩
    · rintro ⟨-, hnew⟩
      exact ⟨hc, hloose, hnew⟩

/-- Between the containers of a map and the live nodes, each container agrees with a live node, is an
orphan or is in grace; a node is stale if its container was not seen; and in time containers in grace turn
into orphans, and an orphan turns back just where an inserted second brings its age under the grace. Between
readings of a clock that shows no inserted seconds, that is one that was made in such a second, at midnight. -/
theorem between_run (ops : List CorrelationOp) (live : Dict String) (now : Timestamp) (grace : Int) :
    let m := Correlation.run ops
    let d := between m live now grace
    (∀ c ∈ m.containers,
      live.contains c.node = true ∧ c ∉ d.orphans ∧ c ∉ d.inGrace ∨
      live.contains c.node = false ∧ c ∈ d.orphans ∧ c ∉ d.inGrace ∨
      live.contains c.node = false ∧ c ∉ d.orphans ∧ c ∈ d.inGrace) ∧
    (∀ c, c ∈ d.orphans ↔
      c ∈ m.containers ∧ live.contains c.node = false ∧ grace < now.since c.created) ∧
    (∀ c, c ∈ d.inGrace ↔
      c ∈ m.containers ∧ live.contains c.node = false ∧ ¬ grace < now.since c.created) ∧
    (∀ node id, ⟨node, id⟩ ∈ d.stale ↔ live.get? node = some id ∧
      (∀ c ∈ m.containers, c.id ≠ id) ∧ .skip id ∉ ops) ∧
    d.orphans.Pairwise (·.id < ·.id) ∧ d.inGrace.Pairwise (·.id < ·.id) ∧
    d.stale.Pairwise (·.node < ·.node) ∧
    (d.isConverged = true ↔ (∀ c ∈ m.containers, live.contains c.node = true) ∧
      ∀ node id, live.get? node = some id → (∃ c ∈ m.containers, c.id = id) ∨ .skip id ∈ ops) ∧
    ∀ later, now ≤ later →
      let e := between m live later grace
      (∀ c, c ∈ d.orphans ∨ c ∈ d.inGrace ↔ c ∈ e.orphans ∨ c ∈ e.inGrace) ∧
      (∀ c ∈ d.orphans, c ∈ e.inGrace ↔
        c.created.Rejuvenates now later ∧ later.since c.created ≤ grace) ∧
      (now.leap = false → later.leap = false → ∀ c ∈ d.orphans, c ∈ e.inGrace →
        c.created.leap = true ∧ now.CrossesMidnight later) ∧
      e.stale = d.stale := by
  intro m d
  have hm : m.Sound ops := Correlation.sound_run ops
  refine ⟨fun c hc => ?_, fun c => mem_orphans, fun c => ?_, fun node id => ?_,
    hm.sorted.sublist orphans_sublist, hm.sorted.sublist inGrace_sublist, stale_sorted, ?_,
    fun later hle => ?_⟩
  · simp only [d, mem_orphans, mem_inGrace, hc, true_and]
    obtain hage | hage := Int.lt_or_le grace (now.since c.created)
    · have hage' : ¬ now.since c.created ≤ grace := Int.not_le.2 hage
      cases live.contains c.node <;> simp [hage, hage']
    · have hage' : ¬ grace < now.since c.created := Int.not_lt.2 hage
      cases live.contains c.node <;> simp [hage, hage']
  · rw [mem_inGrace, Int.not_lt]
  · rw [mem_stale, Bool.eq_false_iff, ne_eq, hm.wasSeen_iff, not_or]
    simp only [not_exists, not_and, ne_eq]
  · rw [isConverged_iff]
    simp only [hm.wasSeen_iff]
  · obtain ⟨hboth, hback⟩ := ages m live now later grace
    refine ⟨hboth, hback, fun hnow hlater c hc hnew => ?_, rfl⟩
    exact ((hback c hc).1 hnew).1.at_midnight hnow hlater hle

/-- A container made in the inserted second of the first minute is an orphan at half a second before midnight
and in grace at midnight; and so is one made at noon, at the first minute's end and in the second that is
inserted there. -/
theorem orphan_in_grace :
    let map (created : Timestamp) := Correlation.run [.register ⟨"c", "n", "running", created⟩]
    let minute : Timestamp := { nanos := 60000000000, leap := true }
    let evening : Timestamp := { nanos := 86399500000000 }
    let midnight : Timestamp := { nanos := 86400000000000 }
    let noon : Timestamp := { nanos := 43259700000000 }
    let before : Timestamp := { nanos := 86459800000000 }
    let inserted : Timestamp := { nanos := 86460500000000, leap := true }
    (evening ≤ midnight ∧
      (between (map minute) .empty evening 86340000000000).orphans = (map minute).containers ∧
      (between (map minute) .empty midnight 86340000000000).inGrace = (map minute).containers) ∧
    (before ≤ inserted ∧
      (between (map noon) .empty before 43200000000000).orphans = (map noon).containers ∧
      (between (map noon) .empty inserted 43200000000000).inGrace = (map noon).containers) ∧
    (map minute).containers.length = 1 ∧ (map noon).containers.length = 1 := by
  decide

end Drift

end ContainerFleet
