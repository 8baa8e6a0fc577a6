import ContainerFleet.Proofs.Capacity
import Mathlib.Algebra.BigOperators.Group.Finset.Basic

namespace ContainerFleet

namespace Capacity

def knows (c : Capacity) (cloud template : String) : Bool :=
  (c.counts.get? cloud).any (·.contains template)

/-- No count is zero, and no cloud is kept without a count. -/
structure Pruned (c : Capacity) : Prop where
  counts : ∀ n t k, (c.ofCloud n).get? t = some k → 0 < k
  clouds : ∀ n d, c.counts.get? n = some d → d.isEmpty = false

variable {c : Capacity} {cloud template : String}

theorem ofCloud_of_get? {n : String} {d : Dict Nat} (h : c.counts.get? n = some d) :
    c.ofCloud n = d := by
  rw [ofCloud, h, Option.getD_some]

theorem get?_ofCloud_iff {n t : String} {k : Nat} : (c.ofCloud n).get? t = some k ↔
    ∃ d, c.counts.get? n = some d ∧ d.get? t = some k := by
  constructor
  · intro h
    cases hd : c.counts.get? n with
    | none => simp [ofCloud, hd] at h
    | some d => exact ⟨d, rfl, by rwa [ofCloud_of_get? hd] at h⟩
  · rintro ⟨d, hd, h⟩
    rwa [ofCloud_of_get? hd]

theorem isEmpty_insert {d : Dict Nat} {k : String} {n : Nat} : (d.insert k n).isEmpty = false := by
  have h : (k, n) ∈ (d.insert k n).entries := Dict.get?_eq_some_iff.1 (by simp)
  exact List.isEmpty_eq_false_iff.2 (List.ne_nil_of_mem h)

namespace Pruned

theorem empty : Pruned .empty := by
  constructor <;> intros <;> contradiction

theorem reserve (h : c.Pruned) : (c.reserve cloud template).Pruned := by
  constructor
  · intro n t k hk
    rw [ofCloud_reserve] at hk
    split at hk
    · rw [Dict.get?_insert] at hk
      split at hk
      · rw [← Option.some.inj hk]
        exact Nat.succ_pos _
      · exact h.counts _ _ _ hk
    · exact h.counts _ _ _ hk
  · intro n d hd
    rw [Capacity.reserve, Dict.get?_insert] at hd
    split at hd
    · rw [← Option.some.inj hd]
      exact isEmpty_insert
    · exact h.clouds _ _ hd

theorem release (h : c.Pruned) : (c.release cloud template).Pruned := by
  constructor
  · intro n t k hk
    rw [ofCloud_release] at hk
    split at hk
    · split at hk
      · rw [Dict.get?_insert] at hk
        split at hk
        · have := Option.some.inj hk
          omega
        · exact h.counts _ _ _ hk
      · rw [Dict.get?_erase] at hk
        split at hk
        · cases hk
        · exact h.counts _ _ _ hk
    · exact h.counts _ _ _ hk
  · intro n d hd
    simp only [Capacity.release] at hd
    generalize (if 1 < c.ofTemplate cloud template then
      (c.ofCloud cloud).insert template (c.ofTemplate cloud template - 1)
      else (c.ofCloud cloud).erase template) = rest at hd
    split at hd
    · rw [Dict.get?_erase] at hd
      split at hd
      · cases hd
      · exact h.clouds _ _ hd
    · rename_i hr
      rw [Dict.get?_insert] at hd
      split at hd
      · rw [← Option.some.inj hd]
        exact Bool.eq_false_iff.2 hr
      · exact h.clouds _ _ hd

theorem get?_iff (h : c.Pruned) {n t : String} {k : Nat} :
    (c.ofCloud n).get? t = some k ↔ k = c.ofTemplate n t ∧ 0 < k := by
  constructor
  · exact fun hk => ⟨by rw [ofTemplate, hk, Option.getD_some], h.counts _ _ _ hk⟩
  · rintro ⟨rfl, hpos⟩
    rw [ofTemplate] at hpos ⊢
    cases hk : (c.ofCloud n).get? t with
    | none => simp [hk] at hpos
    | some k => rfl

theorem knows_iff (h : c.Pruned) : c.knows cloud template = true ↔
    0 < c.ofTemplate cloud template := by
  simp only [knows, Option.any_eq_true, Dict.contains, Option.isSome_iff_exists]
  constructor
  · rintro ⟨d, hd, k, hk⟩
    obtain ⟨rfl, hpos⟩ := h.get?_iff.1 (get?_ofCloud_iff.2 ⟨d, hd, hk⟩)
    exact hpos
  · intro hpos
    obtain ⟨d, hd, hk⟩ := get?_ofCloud_iff.1 (h.get?_iff.2 ⟨rfl, hpos⟩)
    exact ⟨d, hd, _, hk⟩

/-- Nothing is kept unless something is counted. -/
theorem isEmpty_iff (h : c.Pruned) : c.isEmpty = true ↔ ∀ n t, c.ofTemplate n t = 0 := by
  constructor
  · intro he n t
    have hnil : c.counts.entries = [] := List.isEmpty_iff.1 he
    have hnone : c.counts.get? n = none := by rw [Dict.get?, hnil, List.lookup_nil]
    rw [ofTemplate, ofCloud, hnone]
    rfl
  · intro hzero
    refine List.isEmpty_iff.2 (List.eq_nil_iff_forall_not_mem.2 fun x hx => ?_)
    have hd := Dict.get?_eq_some_iff.2 hx
    obtain ⟨⟨t, k⟩, hk⟩ := List.exists_mem_of_ne_nil _
      (List.isEmpty_eq_false_iff.1 (h.clouds _ _ hd))
    obtain ⟨rfl, hpos⟩ := h.get?_iff.1 (get?_ofCloud_iff.2 ⟨_, hd, Dict.get?_eq_some_iff.2 hk⟩)
    exact absurd (hzero _ t) (Nat.ne_of_gt hpos)

end Pruned

theorem sum_count {held : List (String × String)} {n : String} {ts : List String} (hts : ts.Nodup)
    (h : ∀ p ∈ held, p.1 = n → p.2 ∈ ts) :
    (ts.map fun t => held.count (n, t)).foldr (· + ·) 0 = held.countP (·.1 = n) := by
  let us : Multiset String := (held.filter (·.1 = n)).map (·.2)
  have hcount : ∀ t, held.count (n, t) = us.count t := by
    intro t
    rw [Multiset.coe_count, List.count, List.count, List.countP_map, List.countP_filter]
    exact List.countP_congr fun p _ => by
      simp [Prod.ext_iff, and_comm]
  have hus : ∀ t ∈ us, t ∈ ts.toFinset := by
    intro t ht
    obtain ⟨p, hp, rfl⟩ := List.mem_map.1 (Multiset.mem_coe.1 ht)
    obtain ⟨hp, hn⟩ := List.mem_filter.1 hp
    exact List.mem_toFinset.2 (h p hp (of_decide_eq_true hn))
  have hcard : Multiset.card us = held.countP (·.1 = n) := by
    rw [Multiset.coe_card, List.length_map, List.countP_eq_length_filter]
  have hsum : ∑ t ∈ ts.toFinset, us.count t = (ts.map us.count).foldr (· + ·) 0 :=
    List.sum_toFinset _ hts
  simp only [hcount]
  rw [← hsum, Multiset.sum_count_eq_card hus, hcard]

end Capacity

inductive CapacityOp where
  | reserve (cloud template : String)
  /-- Drops one of the reservations that are held. -/
  | drop (i : Nat)

structure CapacityRun where
  capacity : Capacity := .empty
  held : List (String × String) := []
  /-- What was released though it was not counted. -/
  strays : List (String × String) := []

namespace CapacityRun

def step (r : CapacityRun) : CapacityOp → CapacityRun
  | .reserve cloud template =>
    { r with
      capacity := r.capacity.reserve cloud template
      held := r.held ++ [(cloud, template)] }
  | .drop i =>
    match r.held[i]? with
    | none => r
    | some (cloud, template) =>
      { capacity := r.capacity.release cloud template
        held := r.held.eraseIdx i
        strays := if r.capacity.knows cloud template then r.strays
          else r.strays ++ [(cloud, template)] }

def run (ops : List CapacityOp) : CapacityRun := ops.foldl step {}

structure Sound (r : CapacityRun) : Prop where
  tally : r.capacity.Tally r.held
  pruned : r.capacity.Pruned
  strays : r.strays = []

variable {r : CapacityRun}

theorem Sound.step (h : r.Sound) (op : CapacityOp) : (r.step op).Sound := by
  cases op with
  | reserve cloud template => exact ⟨h.tally.reserve, h.pruned.reserve, h.strays⟩
  | drop i =>
    simp only [CapacityRun.step]
    split
    · exact h
    · rename_i cloud template hi
      obtain ⟨hlt, hget⟩ := List.getElem?_eq_some_iff.1 hi
      have hheld : r.held = r.held.take i ++ (cloud, template) :: r.held.drop (i + 1) := by
        rw [← hget, List.cons_getElem_drop_succ, List.take_append_drop]
      have hpos := h.tally.ofTemplate_pos.1 (List.mem_of_getElem? hi)
      refine ⟨?_, h.pruned.release, ?_⟩
      · rw [List.eraseIdx_eq_take_drop_succ]
        exact (hheld ▸ h.tally).release
      · rw [if_pos (h.pruned.knows_iff.2 hpos)]
        exact h.strays

theorem sound_run (ops : List CapacityOp) : (run ops).Sound := by
  induction ops using List.reverseRecOn with
  | nil => exact ⟨.empty, .empty, rfl⟩
  | append_singleton ops op ih =>
    rw [run, List.foldl_append]
    exact ih.step op

/-- However reservations are made and dropped, what is counted is what is held. -/
theorem counts_held (ops : List CapacityOp) :
    let r := run ops
    (∀ n t, r.capacity.inProgress n (some t) = r.held.count (n, t)) ∧
    (∀ n, r.capacity.inProgress n none = r.held.countP (·.1 = n)) ∧
    (∀ n (ts : List String), ts.Nodup → (∀ p ∈ r.held, p.1 = n → p.2 ∈ ts) →
      r.capacity.inProgress n none =
        (ts.map fun t => r.capacity.inProgress n (some t)).foldr (· + ·) 0) ∧
    (∀ n t k, (∃ d, r.capacity.counts.get? n = some d ∧ d.get? t = some k) ↔
      k = r.held.count (n, t) ∧ 0 < k) ∧
    (∀ n d, r.capacity.counts.get? n = some d → d.isEmpty = false) ∧
    (r.capacity.isEmpty = true ↔ r.held = []) ∧
    r.strays = [] ∧
    ∀ n t, r.capacity.inProgress n t ≤ r.held.length := by
  intro r
  obtain ⟨tally, pruned, strays⟩ : r.Sound := sound_run ops
  have templates : ∀ n t, r.capacity.ofTemplate n t = r.held.count (n, t) := tally.ofTemplate
  have sum : ∀ n (ts : List String), ts.Nodup → (∀ p ∈ r.held, p.1 = n → p.2 ∈ ts) →
      r.capacity.inProgress n none =
        (ts.map fun t => r.capacity.inProgress n (some t)).foldr (· + ·) 0 := by
    intro n ts hts hcover
    simp only [tally.ofTemplate]
    rw [tally.ofCloud, Capacity.sum_count hts hcover]
  have entries : ∀ n t k, (∃ d, r.capacity.counts.get? n = some d ∧ d.get? t = some k) ↔
      k = r.held.count (n, t) ∧ 0 < k := by
    intro n t k
    rw [← Capacity.get?_ofCloud_iff, pruned.get?_iff, templates]
  have isEmpty : r.capacity.isEmpty = true ↔ r.held = [] := by
    rw [pruned.isEmpty_iff, List.eq_nil_iff_forall_not_mem]
    simp only [templates, List.count_eq_zero, Prod.forall]
  have bound : ∀ n t, r.capacity.inProgress n t ≤ r.held.length := by
    intro n t
    cases t with
    | none => rw [tally.ofCloud]; exact List.countP_le_length
    | some t => rw [tally.ofTemplate]; exact List.count_le_length
  exact ⟨tally.ofTemplate, tally.ofCloud, sum, entries, pruned.clouds, isEmpty, strays, bound⟩

end CapacityRun

end ContainerFleet
