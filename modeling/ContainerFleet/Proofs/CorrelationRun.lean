import ContainerFleet.Proofs.DriftReport

namespace ContainerFleet.Correlation

variable {m m' : Correlation} {ops : List CorrelationOp} {op : CorrelationOp} {cs : List Mapped}
  {c : Mapped} {e : CorrelationError} {node id holder : String}

theorem register_eq_ok_iff : m.register c = .ok m' ↔
    m.contains c.id = false ∧ m.containerId? c.node = none ∧
      m' = { m with
        byContainer := m.byContainer.insert c.id c
        byNode := m.byNode.insert c.node c.id } := by
  simp only [register, contains, containerId?]
  cases m.byContainer.contains c.id with
  | true => simp
  | false => cases m.byNode.get? c.node <;> simp [eq_comm]

/-- A container that the map holds is refused, and only then a node that has another one counts. -/
theorem register_eq_error_iff : m.register c = .error e ↔
    (m.contains c.id = true ∧ e = .duplicateContainer c.id) ∨
      (m.contains c.id = false ∧
        ∃ holder, m.containerId? c.node = some holder ∧ e = .duplicateNode c.node holder c.id) := by
  simp only [register, contains, containerId?]
  cases m.byContainer.contains c.id with
  | true => simp [eq_comm]
  | false => cases m.byNode.get? c.node <;> simp [eq_comm]

def added? (m : Correlation) : CorrelationOp → Option Mapped
  | .register c => (m.register c).toOption.map fun _ => c
  | .skip _ => none

/-- The containers that operations add to the map, the earliest first. -/
def accepted (m : Correlation) : List CorrelationOp → List Mapped
  | [] => []
  | op :: ops => (m.added? op).toList ++ (m.step op).accepted ops

theorem accepted_concat :
    m.accepted (ops ++ [op]) = m.accepted ops ++ ((ops.foldl step m).added? op).toList := by
  induction ops generalizing m with
  | nil => simp [accepted]
  | cons o ops ih => simp [accepted, ih]

structure Holds (m : Correlation) (cs : List Mapped) : Prop where
  container : ∀ id c, m.byContainer.get? id = some c ↔ c ∈ cs ∧ c.id = id
  node : ∀ node id, m.containerId? node = some id ↔ ∃ c ∈ cs, c.node = node ∧ c.id = id
  nodup : cs.Nodup

namespace Holds

theorem nodeName?_iff (h : m.Holds cs) :
    m.nodeName? id = some node ↔ ∃ c ∈ cs, c.node = node ∧ c.id = id := by
  rw [nodeName?, Option.map_eq_some_iff]
  refine exists_congr fun c => ?_
  rw [h.container]
  tauto

theorem contains_iff (h : m.Holds cs) : m.contains id = true ↔ ∃ c ∈ cs, c.id = id := by
  rw [contains, Dict.contains, Option.isSome_iff_exists]
  exact exists_congr fun c => h.container id c

theorem fresh (h : m.Holds cs) (hid : m.contains id = false) : ∀ c ∈ cs, c.id ≠ id :=
  fun c hc he => Bool.eq_false_iff.1 hid (h.contains_iff.2 ⟨c, hc, he⟩)

theorem mem_containers (h : m.Holds cs) : c ∈ m.containers ↔ c ∈ cs := by
  rw [containers, Dict.mem_values_iff]
  simp only [h.container, exists_and_left, exists_eq', and_true]

theorem register (h : m.Holds cs) (hr : m.register c = .ok m') : m'.Holds (cs ++ [c]) := by
  obtain ⟨hid, hnode, rfl⟩ := register_eq_ok_iff.1 hr
  have hnone : m.byContainer.get? c.id = none :=
    Option.not_isSome_iff_eq_none.1 (Bool.eq_false_iff.1 hid)
  refine ⟨fun id x => ?_, fun node id => ?_, ?_⟩
  · rw [Dict.get?_insert_eq_some_iff hnone, h.container, List.mem_append, List.mem_singleton,
      or_and_right]
    exact or_congr_right ⟨fun ⟨hid, hx⟩ => ⟨hx, hx ▸ hid.symm⟩, fun ⟨hx, hid⟩ => ⟨hx ▸ hid.symm, hx⟩⟩
  · refine (Dict.get?_insert_eq_some_iff hnode).trans ((or_congr_left (h.node node id)).trans ?_)
    simp only [List.mem_append, List.mem_singleton, or_and_right, exists_or, exists_eq_left]
    exact or_congr_right (and_congr eq_comm eq_comm)
  · refine List.nodup_append.2 ⟨h.nodup, by simp, fun x hx y hy he => ?_⟩
    obtain rfl := List.mem_singleton.1 hy
    exact h.fresh hid x hx (congrArg _ he)

theorem step (h : m.Holds cs) (op : CorrelationOp) :
    (m.step op).Holds (cs ++ (m.added? op).toList) := by
  cases op with
  | register c =>
    cases hr : m.register c with
    | error e => simpa [Correlation.step, added?, hr, Except.toOption] using h
    | ok m' => simpa [Correlation.step, added?, hr, Except.toOption] using h.register hr
  | skip id => simpa [added?] using ⟨h.container, h.node, h.nodup⟩

end Holds

theorem holds_run (ops : List CorrelationOp) : (run ops).Holds (accepted empty ops) := by
  induction ops using List.reverseRecOn with
  | nil =>
    refine ⟨fun id c => ?_, fun node id => ?_, List.nodup_nil⟩
    · simp [run, empty, accepted, Dict.get?, Dict.empty]
    · simp [run, empty, accepted, containerId?, Dict.get?, Dict.empty]
  | append_singleton ops op ih =>
    rw [run, List.foldl_append, accepted_concat]
    exact ih.step op

/-- Whatever was registered and skipped before: the two directions of the map are inverse, it holds what it
took and nothing else, and it refuses a container that it holds, or else one whose node it holds; what is
refused or skipped changes nothing of that. -/
theorem run_inverse (ops : List CorrelationOp) :
    let m := run ops
    let cs := accepted empty ops
    (∀ node id, m.containerId? node = some id ↔ m.nodeName? id = some node) ∧
    m.containers.Perm cs ∧ m.size = cs.length ∧
    (∀ c, m.register c = .error (.duplicateContainer c.id) ↔ ∃ x ∈ cs, x.id = c.id) ∧
    (∀ c holder, m.register c = .error (.duplicateNode c.node holder c.id) ↔
      (∀ x ∈ cs, x.id ≠ c.id) ∧ m.containerId? c.node = some holder ∧
        ∃ x ∈ cs, x.node = c.node ∧ x.id = holder) ∧
    (∀ c e, m.register c = .error e → (e = .duplicateContainer c.id ∨
      ∃ holder, e = .duplicateNode c.node holder c.id) ∧ run (ops ++ [.register c]) = m) ∧
    (∀ id, let m' := run (ops ++ [.skip id])
      m'.containerId? = m.containerId? ∧ m'.nodeName? = m.nodeName? ∧ m'.contains = m.contains ∧
        m'.containers = m.containers ∧ m'.size = m.size) ∧
    ∀ id, m.wasSeen id = true ↔ (∃ x ∈ cs, x.id = id) ∨ .skip id ∈ ops := by
  intro m cs
  have hm : m.Holds cs := holds_run ops
  have hsound : m.Sound ops := sound_run ops
  have hperm : m.containers.Perm cs := by
    have hnodup : m.containers.Nodup := by
      refine hsound.sorted.imp fun hlt => ?_
      rintro rfl
      exact String.lt_irrefl _ hlt
    exact (List.perm_ext_iff_of_nodup hnodup hm.nodup).2 fun c => hm.mem_containers
  refine ⟨fun node id => (hm.node node id).trans hm.nodeName?_iff.symm, hperm, ?_, fun c => ?_,
    fun c holder => ?_, fun c e he => ⟨?_, ?_⟩, fun id => ?_, fun id => ?_⟩
  · rw [← hperm.length_eq, containers, Dict.values, List.length_map]
    rfl
  · rw [register_eq_error_iff, hm.contains_iff]
    simp
  · rw [register_eq_error_iff, ← hm.node]
    simp only [reduceCtorEq, and_false, false_or, CorrelationError.duplicateNode.injEq, true_and]
    constructor
    · rintro ⟨hid, _, hnode, rfl, -⟩
      exact ⟨hm.fresh hid, hnode, hnode⟩
    · rintro ⟨hid, hnode, -⟩
      refine ⟨Bool.eq_false_iff.2 fun hc => ?_, holder, hnode, rfl, trivial⟩
      obtain ⟨x, hx, hxid⟩ := hm.contains_iff.1 hc
      exact hid x hx hxid
  · obtain ⟨-, rfl⟩ | ⟨-, holder, -, rfl⟩ := register_eq_error_iff.1 he
    · exact .inl rfl
    · exact .inr ⟨holder, rfl⟩
  · have hstep : m.step (.register c) = m := by rw [step, he]; rfl
    rw [run, List.foldl_append]
    exact hstep
  · have hrun : run (ops ++ [.skip id]) = m.skip id := by rw [run, List.foldl_append]; rfl
    rw [hrun]
    exact ⟨rfl, rfl, rfl, rfl, rfl⟩
  · rw [hsound.wasSeen_iff]
    simp only [hm.mem_containers]

end ContainerFleet.Correlation
