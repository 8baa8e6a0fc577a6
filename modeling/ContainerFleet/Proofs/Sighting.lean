import ContainerFleet.Proofs.DriftReport
import ContainerFleet.Proofs.Matching

namespace ContainerFleet

/-- A container of a listing, and what its inspection answered if there was one. -/
structure Sighting where
  summary : Summary
  answer : Option (Except RuntimeError Details)

namespace Sighting

def id (y : Sighting) : String := y.summary.id

def node? (y : Sighting) : Option String :=
  match y.summary.status, y.answer with
  | some _, some (.ok d) => d.labels.get? Identity.nodeNameKey
  | _, _ => none

def vanished (y : Sighting) : Bool :=
  match y.summary.status, y.answer with
  | some _, some (.error e) => e.isNotFound
  | _, _ => false

def mapped (y : Sighting) : Mapped :=
  { id := y.id, node := y.node?.getD "", status := y.summary.status.getD ""
    created := y.summary.created }

def standsAfter (before : List Sighting) (y : Sighting) : Bool :=
  y.node?.isSome && before.all fun z => z.id ≠ y.id && z.node? ≠ y.node?

/-- The sightings that are matched with a node. The first one for a container and for a node counts. -/
def matched (ys : List Sighting) : List Sighting :=
  ys.foldl (fun before y => if y.standsAfter before then before ++ [y] else before) []

variable {ys : List Sighting} {x y z : Sighting}

theorem matched_concat : matched (ys ++ [y]) =
    if y.standsAfter (matched ys) then matched ys ++ [y] else matched ys := by
  rw [matched, List.foldl_append]
  rfl

theorem matched_subset (ys : List Sighting) : matched ys ⊆ ys := by
  induction ys using List.reverseRecOn with
  | nil => exact List.Subset.refl _
  | append_singleton ys y ih =>
    rw [matched_concat]
    split
    · exact List.append_subset.2 ⟨fun z hz => List.mem_append_left _ (ih hz),
        List.subset_append_right _ _⟩
    · exact fun z hz => List.mem_append_left _ (ih hz)

theorem matched_mono (ys : List Sighting) (y : Sighting) : matched ys ⊆ matched (ys ++ [y]) := by
  rw [matched_concat]
  split
  · exact List.subset_append_left _ _
  · exact List.Subset.refl _

theorem isSome_node? (h : y ∈ matched ys) : y.node?.isSome = true := by
  induction ys using List.reverseRecOn with
  | nil => cases h
  | append_singleton ys x ih =>
    rw [matched_concat] at h
    split at h
    · rename_i hx
      obtain h | h := List.mem_append.1 h
      · exact ih h
      · rw [List.mem_singleton.1 h]
        exact (Bool.and_eq_true_iff.1 hx).1
    · exact ih h

theorem vanished_of_node? (h : y.node?.isSome = true) : y.vanished = false := by
  unfold node? at h
  split at h
  · rename_i hs ha
    simp only [vanished, hs, ha]
  · cases h

theorem standsAfter_iff {before : List Sighting} : y.standsAfter before = true ↔
    y.node?.isSome = true ∧ ∀ z ∈ before, z.id ≠ y.id ∧ z.node? ≠ y.node? := by
  simp [standsAfter]

/-- No two matched containers stand for one node. -/
theorem id_eq_of_node? (hy : y ∈ matched ys) (hz : z ∈ matched ys) (h : y.node? = z.node?) :
    y.id = z.id := by
  induction ys using List.reverseRecOn with
  | nil => cases hy
  | append_singleton ys x ih =>
    rw [matched_concat] at hy hz
    by_cases hs : x.standsAfter (matched ys) = true
    · rw [if_pos hs, List.mem_append, List.mem_singleton] at hy hz
      have hx := (standsAfter_iff.1 hs).2
      rcases hy with hy | rfl <;> rcases hz with hz | rfl
      · exact ih hy hz
      · exact absurd h (hx y hy).2
      · exact absurd h.symm (hx z hz).2
      · rfl
    · rw [if_neg hs] at hy hz
      exact ih hy hz

theorem matched_or_taken (h : y ∈ ys) (hn : y.node?.isSome = true) :
    y ∈ matched ys ∨ ∃ z ∈ matched ys, z.id = y.id ∨ z.node? = y.node? := by
  induction ys using List.reverseRecOn with
  | nil => cases h
  | append_singleton ys x ih =>
    obtain h | h := List.mem_append.1 h
    · obtain h | ⟨z, hz, he⟩ := ih h
      · exact .inl (matched_mono ys x h)
      · exact .inr ⟨z, matched_mono ys x hz, he⟩
    · obtain rfl := List.mem_singleton.1 h
      by_cases hs : y.standsAfter (matched ys) = true
      · left
        rw [matched_concat, if_pos hs]
        exact List.mem_append_right _ List.mem_cons_self
      · right
        have hex : ¬ ∀ z ∈ matched ys, z.id ≠ y.id ∧ z.node? ≠ y.node? :=
          fun hall => hs (standsAfter_iff.2 ⟨hn, hall⟩)
        push Not at hex
        obtain ⟨z, hz, he⟩ := hex
        refine ⟨z, matched_mono ys y hz, ?_⟩
        by_cases hid : z.id = y.id
        · exact .inl hid
        · exact .inr (he hid)

end Sighting

namespace CloudSweep

def Findings.note (found : Findings) (y : Sighting) : Findings :=
  match y.summary.status, y.answer with
  | some status, some a => correlate found y.summary status a
  | _, _ =>
    { found with
      map := found.map.skip y.id
      skipped := found.skipped ++ [(y.id, .missingStatus)] }

def Findings.of (ys : List Sighting) : Findings := ys.foldl Findings.note {}

variable {ys : List Sighting} {y : Sighting} {m : Correlation}

theorem Findings.of_concat : Findings.of (ys ++ [y]) = (Findings.of ys).note y := List.foldl_append

structure Mirrors (m : Correlation) (ys : List Sighting) : Prop where
  byContainer : ∀ id, m.byContainer.get? id =
    ((Sighting.matched ys).find? (·.id = id)).map (·.mapped)
  byNode : ∀ node, m.byNode.get? node =
    ((Sighting.matched ys).find? (·.node? = some node)).map (·.id)
  skipped : ∀ id, m.skipped.contains id = true ↔
    ∃ y ∈ ys, y.id = id ∧ y.node? = none ∧ y.vanished = false

theorem matched_of_node?_none (h : y.node? = none) :
    Sighting.matched (ys ++ [y]) = Sighting.matched ys := by
  rw [Sighting.matched_concat, if_neg]
  simp [Sighting.standsAfter, h]

theorem Mirrors.skip (h : Mirrors m ys) (hn : y.node? = none) (hv : y.vanished = false) :
    Mirrors (m.skip y.id) (ys ++ [y]) := by
  refine ⟨fun id => ?_, fun node => ?_, fun id => ?_⟩
  · rw [matched_of_node?_none hn]
    exact h.byContainer id
  · rw [matched_of_node?_none hn]
    exact h.byNode node
  · have hs := h.skipped id
    simp only [Correlation.skip, Dict.contains_insert, Bool.or_eq_true, decide_eq_true_eq, hs,
      List.mem_append, List.mem_singleton]
    constructor
    · rintro (rfl | ⟨z, hz, hid⟩)
      · exact ⟨y, .inr rfl, rfl, hn, hv⟩
      · exact ⟨z, .inl hz, hid⟩
    · rintro ⟨z, hz | rfl, hid⟩
      · exact .inr ⟨z, hz, hid⟩
      · exact .inl hid.1.symm

theorem left_alone_concat {id : String} (hy : y.node? = none → y.vanished = true) :
    (∃ z ∈ ys ++ [y], z.id = id ∧ z.node? = none ∧ z.vanished = false) ↔
      ∃ z ∈ ys, z.id = id ∧ z.node? = none ∧ z.vanished = false := by
  constructor
  · rintro ⟨z, hz, hid, hn, hv⟩
    obtain hz | hz := List.mem_append.1 hz
    · exact ⟨z, hz, hid, hn, hv⟩
    · obtain rfl := List.mem_singleton.1 hz
      rw [hy hn] at hv
      cases hv
  · rintro ⟨z, hz, hid⟩
    exact ⟨z, List.mem_append_left _ hz, hid⟩

theorem Mirrors.ignore (h : Mirrors m ys) (hm : Sighting.matched (ys ++ [y]) = Sighting.matched ys)
    (hy : y.node? = none → y.vanished = true) : Mirrors m (ys ++ [y]) := by
  exact ⟨fun id => hm ▸ h.byContainer id, fun node => hm ▸ h.byNode node, fun id =>
    (h.skipped id).trans (left_alone_concat hy).symm⟩

theorem Mirrors.register (h : Mirrors m ys) {node : String} (hn : y.node? = some node) :
    (∃ m', m.register y.mapped = .ok m' ∧ Mirrors m' (ys ++ [y])) ∨
    ∃ e, m.register y.mapped = .error e ∧ Mirrors m (ys ++ [y]) := by
  have hnode : y.mapped.node = node := by simp [Sighting.mapped, hn]
  have hy : y.node? = none → y.vanished = true := fun hnone => by simp [hn] at hnone
  -- A container that is refused does not stand.
  have hrefused {z : Sighting} (hz : z ∈ Sighting.matched ys) (he : z.id = y.id ∨ z.node? = y.node?) :
      Mirrors m (ys ++ [y]) := by
    refine h.ignore ?_ hy
    rw [Sighting.matched_concat, if_neg]
    intro hs
    obtain ⟨hid, hnode⟩ := (Sighting.standsAfter_iff.1 hs).2 z hz
    exact he.elim hid hnode
  unfold Correlation.register
  rw [hnode, h.byNode, Dict.contains, h.byContainer]
  cases hc : (Sighting.matched ys).find? (·.id = y.mapped.id) with
  | some z =>
    have hz : z.id = y.mapped.id := by simpa using List.find?_some hc
    exact .inr ⟨_, rfl, hrefused (List.mem_of_find?_eq_some hc) (.inl hz)⟩
  | none =>
    cases hf : (Sighting.matched ys).find? (·.node? = some node) with
    | some z =>
      have hz : z.node? = some node := by simpa using List.find?_some hf
      exact .inr ⟨_, rfl, hrefused (List.mem_of_find?_eq_some hf) (.inr (hz.trans hn.symm))⟩
    | none =>
      have hids : ∀ z ∈ Sighting.matched ys, z.id ≠ y.id := fun z hz he =>
        List.find?_eq_none.1 hc z hz (decide_eq_true he)
      have hnodes : ∀ z ∈ Sighting.matched ys, z.node? ≠ y.node? := fun z hz he =>
        List.find?_eq_none.1 hf z hz (decide_eq_true (he.trans hn))
      have hs : y.standsAfter (Sighting.matched ys) = true :=
        Sighting.standsAfter_iff.2 ⟨by simp [hn], fun z hz => ⟨hids z hz, hnodes z hz⟩⟩
      have hm : Sighting.matched (ys ++ [y]) = Sighting.matched ys ++ [y] := by
        rw [Sighting.matched_concat, if_pos hs]
      refine .inl ⟨_, rfl, fun id => ?_, fun k => ?_, fun id =>
        (h.skipped id).trans (left_alone_concat hy).symm⟩
      · rw [hm, List.find?_append, Dict.get?_insert, h.byContainer]
        by_cases hid : id = y.id
        · rw [hid, show (Sighting.matched ys).find? (·.id = y.id) = none from hc]
          simp [Sighting.mapped]
        · have hne : ¬ y.id = id := fun he => hid he.symm
          simp [Sighting.mapped, hid, hne]
      · rw [hm, List.find?_append, Dict.get?_insert, h.byNode]
        by_cases hk : k = node
        · rw [hk, hf]
          simp [hn, Sighting.mapped]
        · have hne : ¬ node = k := fun he => hk he.symm
          simp [hn, hk, hne]

theorem note_mirrors {found : Findings} (h : Mirrors found.map ys) :
    Mirrors (found.note y).map (ys ++ [y]) := by
  unfold Findings.note
  split
  · rename_i status a hs ha
    cases a with
    | error e =>
      have hn : y.node? = none := by simp only [Sighting.node?, hs, ha]
      have hv : y.vanished = e.isNotFound := by simp only [Sighting.vanished, hs, ha]
      cases e with
      | notFound id => exact h.ignore (matched_of_node?_none hn) fun _ => hv
      | _ => exact h.skip hn hv
    | ok d =>
      have hn : y.node? = d.labels.get? Identity.nodeNameKey := by simp only [Sighting.node?, hs, ha]
      have hv : y.vanished = false := by simp only [Sighting.vanished, hs, ha]
      simp only [correlate]
      cases hd : d.labels.get? Identity.nodeNameKey with
      | none => exact h.skip (hn.trans hd) hv
      | some node =>
        have hm : (⟨y.summary.id, node, status, y.summary.created⟩ : Mapped) = y.mapped := by
          simp [Sighting.mapped, Sighting.id, hn, hd, hs]
        simp only [hm]
        obtain ⟨m', hr, hm'⟩ | ⟨e, hr, hm'⟩ := h.register (hn.trans hd)
        · rw [hr]
          exact hm'
        · rw [hr]
          exact hm'
  · rename_i hnone
    have hn : y.node? = none ∧ y.vanished = false := by
      unfold Sighting.node? Sighting.vanished
      cases hs : y.summary.status with
      | none => exact ⟨rfl, rfl⟩
      | some status =>
        cases ha : y.answer with
        | none => exact ⟨rfl, rfl⟩
        | some a => exact (hnone status a hs ha).elim
    exact h.skip hn.1 hn.2

/-- What the map of a whole listing holds. -/
theorem mirrors_of (ys : List Sighting) : Mirrors (Findings.of ys).map ys := by
  -- The map is filled from the beginning of the listing.
  induction ys using List.reverseRecOn with
  | nil => exact ⟨fun _ => rfl, fun _ => rfl, fun _ => by simp [Findings.of, Correlation.empty, Dict.contains]⟩
  | append_singleton ys y ih =>
    rw [Findings.of_concat]
    exact note_mirrors ih

/-- The container was sighted, but each time it had vanished or another one had been matched with its
node. -/
def Overlooked (ys : List Sighting) (id : String) : Prop :=
  ∀ y ∈ ys, y.id = id → y.vanished = true ∨
    ∃ z ∈ Sighting.matched ys, z.id ≠ id ∧ z.node? = y.node? ∧ y.node?.isSome = true

theorem wasSeen_eq_false_iff (h : Mirrors m ys) {id : String} :
    m.wasSeen id = false ↔ Overlooked ys id := by
  have hmap : m.contains id = true ↔ ∃ y ∈ Sighting.matched ys, y.id = id := by
    rw [Correlation.contains, Dict.contains, h.byContainer, Option.isSome_map, List.find?_isSome]
    simp
  have hseen : m.wasSeen id = true ↔ (∃ y ∈ Sighting.matched ys, y.id = id) ∨
      ∃ y ∈ ys, y.id = id ∧ y.node? = none ∧ y.vanished = false := by
    rw [Correlation.wasSeen, Bool.or_eq_true, hmap, h.skipped]
  rw [← Bool.not_eq_true, hseen]
  constructor
  · intro hunseen y hy hid
    push Not at hunseen
    obtain ⟨hmatched, hskipped⟩ := hunseen
    cases hn : y.node? with
    | none => exact .inl (by simpa using hskipped y hy hid hn)
    | some node =>
      have hsome : y.node?.isSome = true := by simp [hn]
      obtain hm | ⟨z, hz, he⟩ := Sighting.matched_or_taken hy hsome
      · exact absurd hid (hmatched y hm)
      · have hne : z.id ≠ y.id := fun hzy => hmatched z hz (hzy.trans hid)
        exact .inr ⟨z, hz, hid ▸ hne, (he.resolve_left hne).trans hn, rfl⟩
  · rintro hover (⟨y, hy, hid⟩ | ⟨y, hy, hid, hn, hv⟩)
    · have hsome := Sighting.isSome_node? hy
      obtain hv | ⟨z, hz, hne, he, _⟩ := hover y (Sighting.matched_subset ys hy) hid
      · rw [Sighting.vanished_of_node? hsome] at hv
        cases hv
      · exact hne ((Sighting.id_eq_of_node? hz hy he).trans hid)
    · obtain hv' | ⟨z, _, _, _, hsome⟩ := hover y hy hid
      · rw [hv] at hv'
        cases hv'
      · rw [hn] at hsome
        cases hsome

variable {f : Fleet} {c : Cloud} {nodes : Registry} {now : Timestamp} {span : Int}

theorem get?_live {name id : String} : (live c nodes).get? name = some id ↔
    ∃ n, nodes.get? name = some n ∧ n.cloud = c.name ∧
      (n.state = .registered ∨ n.state = .running) ∧ n.containerId = id := by
  have hs : ∀ s : NodeState, s.expectsContainer = true ↔ s = .registered ∨ s = .running :=
    fun s => by cases s <;> simp [NodeState.expectsContainer]
  simp [live, Option.map_eq_some_iff, Option.filter_eq_some_iff, hs, and_assoc]

theorem exists_of_mem_orphans (h : Mirrors m ys) {x : Mapped}
    (hx : x ∈ (Drift.between m (live c nodes) now span).orphans) :
    ∃ y ∈ Sighting.matched ys, ∃ name, x.id = y.id ∧ y.node? = some name ∧
      isLive c nodes name = false ∧ span < now.since y.summary.created := by
  obtain ⟨hx, hloose, hage⟩ := Drift.mem_orphans.1 hx
  obtain ⟨id, hid⟩ := Dict.mem_values_iff.1 hx
  rw [h.byContainer, Option.map_eq_some_iff] at hid
  obtain ⟨y, hy, rfl⟩ := hid
  have hy := List.mem_of_find?_eq_some hy
  obtain ⟨name, hn⟩ := Option.isSome_iff_exists.1 (Sighting.isSome_node? hy)
  refine ⟨y, hy, name, rfl, hn, ?_, hage⟩
  simpa [contains_live, Sighting.mapped, hn] using hloose

end CloudSweep

end ContainerFleet
