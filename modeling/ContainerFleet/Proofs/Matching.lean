import ContainerFleet.Container.Memory
import ContainerFleet.Proofs.Ownership
import Mathlib.Data.List.Induction

namespace ContainerFleet

namespace Container

def node? (x : Container) : Option String := x.labels.get? Identity.nodeNameKey

/-- The container stands for a node that none of the containers before it stands for. -/
def standsAfter (before : List Container) (x : Container) : Bool :=
  x.status.isSome && x.node?.isSome && before.all (·.node? ≠ x.node?)

def mapped (x : Container) : Mapped :=
  { id := x.id, node := x.node?.getD "", status := x.status.getD "", created := x.created }

end Container

namespace CloudSweep

variable {f : Fleet} {c : Cloud} {nodes : Registry} {now : Timestamp} {span : Int}
  {xs : List Container} {x : Container}

/-- The containers of a listing that stand for a node. Of several for one node the first one does. -/
def eligible (xs : List Container) : List Container :=
  xs.foldl (fun before x => if x.standsAfter before then before ++ [x] else before) []

theorem eligible_concat : eligible (xs ++ [x]) =
    if x.standsAfter (eligible xs) then eligible xs ++ [x] else eligible xs := by
  rw [eligible, List.foldl_append]
  rfl

theorem eligible_sublist (xs : List Container) : (eligible xs).Sublist xs := by
  induction xs using List.reverseRecOn with
  | nil => exact .slnil
  | append_singleton xs x ih =>
    rw [eligible_concat]
    split
    · exact ih.append_right _
    · exact ih.trans (List.sublist_append_left _ _)

theorem mem_eligible : x ∈ eligible xs ↔
    ∃ pre post, xs = pre ++ x :: post ∧ x.standsAfter (eligible pre) = true := by
  induction xs using List.reverseRecOn with
  | nil => simp [eligible]
  | append_singleton xs y ih =>
    have hold : x ∈ eligible xs → ∃ pre post, xs ++ [y] = pre ++ x :: post ∧
        x.standsAfter (eligible pre) = true := by
      intro hx
      obtain ⟨pre, post, rfl, hs⟩ := ih.1 hx
      exact ⟨pre, post ++ [y], by simp, hs⟩
    rw [eligible_concat]
    constructor
    · intro hx
      split at hx
      · rename_i hy
        obtain hx | hx := List.mem_append.1 hx
        · exact hold hx
        · obtain rfl := List.mem_singleton.1 hx
          exact ⟨xs, [], rfl, hy⟩
      · exact hold hx
    · rintro ⟨pre, post, he, hs⟩
      obtain rfl | ⟨post, z, rfl⟩ := List.eq_nil_or_concat post
      · obtain ⟨rfl, h⟩ := List.append_inj' he rfl
        obtain rfl := List.singleton_inj.1 h
        rw [if_pos hs]
        exact List.mem_append_right _ List.mem_cons_self
      · have he : xs ++ [y] = (pre ++ x :: post) ++ [z] := by simpa using he
        have hx : x ∈ eligible xs := ih.2 ⟨pre, post, (List.append_inj' he rfl).1, hs⟩
        split
        · exact List.mem_append_left _ hx
        · exact hx

theorem node?_of_mem_eligible (h : x ∈ eligible xs) : x.node? = some x.mapped.node := by
  obtain ⟨_, _, _, hs⟩ := mem_eligible.1 h
  simp only [Container.standsAfter, Bool.and_eq_true, Option.isSome_iff_exists] at hs
  obtain ⟨node, hn⟩ := hs.1.2
  simp [Container.mapped, hn]

def note (found : Findings) (x : Container) : Findings :=
  match x.status with
  | some status => correlate found x.summary status (.ok x.details)
  | none =>
    { found with
      map := found.map.skip x.id
      skipped := found.skipped ++ [(x.id, .missingStatus)] }

def findings (xs : List Container) : Findings := xs.foldl note {}

theorem findings_concat : findings (xs ++ [x]) = note (findings xs) x := List.foldl_append

/-- The map holds the containers `ys`, by ascending id. -/
structure Matched (m : Correlation) (ys : List Container) : Prop where
  containers : m.byContainer.entries = ys.map fun y => (y.id, y.mapped)
  nodes : ∀ node, m.byNode.get? node = (ys.find? (·.node? = some node)).map (·.id)

/-- A container with an id above all others is refused just if it comes too late for its node. -/
theorem register_matched {m : Correlation} {ys : List Container} {node : String}
    (h : Matched m ys) (hx : ∀ y ∈ ys, y.id < x.id) (hn : x.node? = some node) :
    (∃ m', m.register x.mapped = .ok m' ∧ Matched m' (ys ++ [x]) ∧
      ys.all (·.node? ≠ x.node?) = true) ∨
    (∃ e, m.register x.mapped = .error e ∧ ys.all (·.node? ≠ x.node?) = false) := by
  have hnode : x.mapped.node = node := by simp [Container.mapped, hn]
  have hnew : m.byContainer.contains x.mapped.id = false := by
    have hnone : m.byContainer.get? x.id = none := by
      rw [Dict.get?_eq_none_iff, h.containers]
      intro v hv
      obtain ⟨y, hy, hyx⟩ := List.mem_map.1 hv
      have hid : y.id = x.id := (Prod.ext_iff.1 hyx).1
      exact String.lt_irrefl _ (hid ▸ hx y hy)
    simp [Dict.contains, Container.mapped, hnone]
  unfold Correlation.register
  rw [hnew, hnode, h.nodes]
  cases hf : ys.find? (·.node? = some node) with
  | some y =>
    have hy := List.find?_some hf
    refine .inr ⟨_, rfl, List.all_eq_false.2 ⟨y, List.mem_of_find?_eq_some hf, ?_⟩⟩
    simpa [hn] using hy
  | none =>
    refine .inl ⟨_, rfl, ⟨?_, fun k => ?_⟩, ?_⟩
    · have hlt : ∀ e ∈ ys.map fun y => (y.id, y.mapped), e.1 < x.mapped.id := by
        intro e he
        obtain ⟨y, hy, rfl⟩ := List.mem_map.1 he
        exact hx y hy
      simp only [Dict.insert, h.containers, Dict.put_of_lt hlt, List.map_append]
      rfl
    · simp only [Dict.get?_insert, List.find?_append, h.nodes]
      by_cases hk : k = node
      · subst hk
        simp [hf, hn, Container.mapped]
      · have hne : ¬ node = k := fun he => hk he.symm
        simp [hk, hne, hn]
    · rw [hn]
      exact List.all_eq_true.2 fun y hy => by simpa using List.find?_eq_none.1 hf y hy

theorem note_matched {found : Findings} {ys : List Container} (h : Matched found.map ys)
    (hx : ∀ y ∈ ys, y.id < x.id) :
    Matched (note found x).map (if x.standsAfter ys then ys ++ [x] else ys) := by
  unfold note
  split
  · rename_i status hs
    cases hn : x.node? with
    | none =>
      have hd : x.details.labels.get? Identity.nodeNameKey = none := hn
      rw [correlate, hd]
      simpa [Container.standsAfter, hn] using ⟨h.containers, h.nodes⟩
    | some node =>
      have hd : x.details.labels.get? Identity.nodeNameKey = some node := hn
      have hm : (⟨x.summary.id, node, status, x.summary.created⟩ : Mapped) = x.mapped := by
        simp [Container.mapped, Container.summary, hn, hs]
      simp only [correlate, hd, hm]
      obtain ⟨m', hr, hm', hall⟩ | ⟨e, hr, hall⟩ := register_matched h hx hn
      · have ha : x.standsAfter ys = true := by simp only [Container.standsAfter, hs, hn, ← hall]; simp
        rw [hr, if_pos ha]
        exact hm'
      · have ha : x.standsAfter ys = false := by simp only [Container.standsAfter, hall, Bool.and_false]
        rw [hr, ha]
        exact h
  · rename_i hs
    simpa [Container.standsAfter, hs] using ⟨h.containers, h.nodes⟩

theorem findings_matched (h : xs.Pairwise (·.id < ·.id)) :
    Matched (findings xs).map (eligible xs) := by
  induction xs using List.reverseRecOn with
  | nil => exact ⟨rfl, fun _ => rfl⟩
  | append_singleton xs x ih =>
    obtain ⟨hxs, _, hx⟩ := List.pairwise_append.1 h
    rw [findings_concat, eligible_concat]
    exact note_matched (ih hxs) fun y hy =>
      hx y ((eligible_sublist xs).subset hy) x List.mem_cons_self

def isLive (c : Cloud) (nodes : Registry) (name : String) : Bool :=
  (nodes.get? name).any fun n => n.cloud = c.name && (n.state = .registered || n.state = .running)

def loose (c : Cloud) (nodes : Registry) (xs : List Container) : List Container :=
  (eligible xs).filter fun x => !x.node?.any (isLive c nodes)

def overdue (c : Cloud) (nodes : Registry) (now : Timestamp) (span : Int) (xs : List Container) :
    List Container :=
  (loose c nodes xs).filter fun x => span < now.since x.created

theorem contains_live (name : String) : (live c nodes).contains name = isLive c nodes name := by
  have hs : ∀ s : NodeState, s.expectsContainer = (decide (s = .registered) || decide (s = .running)) :=
    fun s => by cases s <;> rfl
  rw [live, isLive, Dict.contains, Dict.get?_map, Option.isSome_map, Dict.get?_filter]
  cases nodes.get? name with
  | none => rfl
  | some n =>
    simp [Option.isSome_filter, hs]

theorem size_findings (h : xs.Pairwise (·.id < ·.id)) :
    (findings xs).map.size = (eligible xs).length := by
  rw [Correlation.size, Dict.size, (findings_matched h).containers, List.length_map]

theorem orphans_between (h : xs.Pairwise (·.id < ·.id)) :
    (Drift.between (findings xs).map (live c nodes) now span).orphans =
      (overdue c nodes now span xs).map (·.mapped) := by
  have hv : (findings xs).map.containers = (eligible xs).map (·.mapped) := by
    rw [Correlation.containers, Dict.values, (findings_matched h).containers, List.map_map]
    rfl
  simp only [Drift.between, hv, overdue, loose, List.filter_map]
  congr 2
  apply List.filter_congr
  intro x hx
  simp [contains_live, node?_of_mem_eligible hx]

theorem overdue_sublist : (overdue c nodes now span xs).Sublist xs :=
  List.filter_sublist.trans (List.filter_sublist.trans (eligible_sublist xs))

theorem graceSpan_le (d : Duration) : graceSpan d ≤ d.nanos := by
  have hw : Word.count 63 = 9223372036854775808 := rfl
  unfold graceSpan Duration.millis
  split <;> omega

end CloudSweep

end ContainerFleet
