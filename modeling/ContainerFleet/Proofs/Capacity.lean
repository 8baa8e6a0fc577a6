import ContainerFleet.Fleet.State
import ContainerFleet.Proofs.Dict

namespace ContainerFleet.Capacity

variable {c : Capacity} {cloud template : String}

@[simp] theorem inProgress_cloud (n : String) : c.inProgress n none = (c.ofCloud n).total := rfl

@[simp] theorem inProgress_template (n t : String) :
    c.inProgress n (some t) = c.ofTemplate n t := rfl

theorem ofCloud_reserve (n : String) :
    (c.reserve cloud template).ofCloud n =
      if n = cloud then (c.ofCloud cloud).insert template (c.ofTemplate cloud template + 1)
      else c.ofCloud n := by
  by_cases h : n = cloud <;> simp [ofCloud, reserve, h]

theorem ofTemplate_reserve (n t : String) :
    (c.reserve cloud template).ofTemplate n t =
      c.ofTemplate n t + if n = cloud ∧ t = template then 1 else 0 := by
  rw [ofTemplate, ofCloud_reserve]
  by_cases hn : n = cloud <;> by_cases ht : t = template <;> simp [ofTemplate, hn, ht]

theorem total_reserve (n : String) :
    ((c.reserve cloud template).ofCloud n).total =
      (c.ofCloud n).total + if n = cloud then 1 else 0 := by
  rw [ofCloud_reserve]
  by_cases hn : n = cloud
  · have h := Dict.total_insert (d := c.ofCloud cloud) (k := template)
      (n := c.ofTemplate cloud template + 1)
    rw [← ofTemplate] at h
    simp only [hn, if_true]
    omega
  · simp [hn]

theorem ofCloud_release (n : String) :
    (c.release cloud template).ofCloud n =
      if n = cloud then
        if 1 < c.ofTemplate cloud template then
          (c.ofCloud cloud).insert template (c.ofTemplate cloud template - 1)
        else (c.ofCloud cloud).erase template
      else c.ofCloud n := by
  simp only [release]
  generalize hr : (if 1 < c.ofTemplate cloud template then
    (c.ofCloud cloud).insert template (c.ofTemplate cloud template - 1)
    else (c.ofCloud cloud).erase template) = rest
  split
  · rename_i he
    have hrest : rest = .empty := Dict.ext (List.isEmpty_iff.1 he)
    by_cases hn : n = cloud <;> simp [ofCloud, hn, hrest]
  · by_cases hn : n = cloud <;> simp [ofCloud, hn]

theorem ofTemplate_release (n t : String) :
    (c.release cloud template).ofTemplate n t =
      c.ofTemplate n t - if n = cloud ∧ t = template then 1 else 0 := by
  rw [ofTemplate, ofCloud_release]
  by_cases hn : n = cloud
  · by_cases ht : t = template
    · subst hn ht
      by_cases h : 1 < c.ofTemplate n t
      · simp [h]
      · simp only [if_true, if_neg h, Dict.get?_erase, and_self, Option.getD_none]
        omega
    · have h : ¬(n = cloud ∧ t = template) := fun h => ht h.2
      rw [if_pos hn, if_neg h, hn]
      split <;> simp [ofTemplate, ht]
  · simp [ofTemplate, hn]

theorem total_release (h : 0 < c.ofTemplate cloud template) (n : String) :
    ((c.release cloud template).ofCloud n).total =
      (c.ofCloud n).total - if n = cloud then 1 else 0 := by
  rw [ofCloud_release]
  by_cases hn : n = cloud
  · simp only [hn, if_true]
    by_cases h1 : 1 < c.ofTemplate cloud template
    · have ht := Dict.total_insert (d := c.ofCloud cloud) (k := template)
        (n := c.ofTemplate cloud template - 1)
      rw [← ofTemplate] at ht
      rw [if_pos h1]
      omega
    · have ht := Dict.total_erase (d := c.ofCloud cloud) (k := template)
      rw [← ofTemplate] at ht
      rw [if_neg h1]
      omega
  · simp [hn]

structure Tally (c : Capacity) (held : List (String × String)) : Prop where
  ofCloud : ∀ n, c.inProgress n none = held.countP (·.1 = n)
  ofTemplate : ∀ n t, c.inProgress n (some t) = held.count (n, t)

namespace Tally

variable {held pre post : List (String × String)}

theorem empty : Tally .empty [] := ⟨fun _ => rfl, fun _ _ => rfl⟩

theorem reserve (h : c.Tally held) :
    (c.reserve cloud template).Tally (held ++ [(cloud, template)]) := by
  constructor
  · intro n
    rw [inProgress_cloud, total_reserve, ← inProgress_cloud, h.ofCloud, List.countP_append,
      List.countP_singleton]
    simp only [decide_eq_true_eq, eq_comm (a := n)]
  · intro n t
    rw [inProgress_template, ofTemplate_reserve, ← inProgress_template, h.ofTemplate,
      List.count_append, List.count_singleton]
    simp only [beq_iff_eq, Prod.mk.injEq, eq_comm (a := n), eq_comm (a := t)]

theorem ofTemplate_pos (h : c.Tally held) : (cloud, template) ∈ held ↔
    0 < c.ofTemplate cloud template := by
  rw [← inProgress_template, h.ofTemplate, List.count_pos_iff]

theorem release (h : c.Tally (pre ++ (cloud, template) :: post)) :
    (c.release cloud template).Tally (pre ++ post) := by
  have hpos := h.ofTemplate_pos.1 (List.mem_append_right _ List.mem_cons_self)
  constructor
  · intro n
    have hn := h.ofCloud n
    rw [inProgress_cloud] at hn
    rw [inProgress_cloud, total_release hpos, hn]
    simp only [List.countP_append, List.countP_cons, decide_eq_true_eq, eq_comm (a := n)]
    omega
  · intro n t
    have hn := h.ofTemplate n t
    rw [inProgress_template] at hn
    rw [inProgress_template, ofTemplate_release, hn]
    simp only [List.count_append, List.count_cons, beq_iff_eq, Prod.mk.injEq, eq_comm (a := n),
      eq_comm (a := t)]
    omega

end Tally

structure Counts (c : Capacity) (ts : List Target) : Prop where
  ofCloud : ∀ n, c.inProgress n none = ts.countP (·.cloud.name.text = n)
  ofTemplate : ∀ n t, c.inProgress n (some t) =
    ts.countP fun x => x.cloud.name.text = n ∧ x.template.name.text = t

theorem counts_empty : Counts .empty [] := ⟨fun _ => rfl, fun _ _ => rfl⟩

/-- What is counted beyond `b` are the creations of `ts`. -/
structure Grown (b c : Capacity) (ts : List Target) : Prop where
  ofCloud : ∀ n, c.inProgress n none = b.inProgress n none + ts.countP (·.cloud.name.text = n)
  ofTemplate : ∀ n t, c.inProgress n (some t) = b.inProgress n (some t) +
    ts.countP fun x => x.cloud.name.text = n ∧ x.template.name.text = t

variable {b : Capacity} {t : Target} {ts us : List Target}

theorem Grown.refl : Grown c c [] := ⟨fun _ => rfl, fun _ _ => rfl⟩

theorem Grown.reserve (h : Grown b c ts) :
    Grown b (c.reserve t.cloud.name.text t.template.name.text) (ts ++ [t]) := by
  constructor
  · intro n
    rw [inProgress_cloud, total_reserve, ← inProgress_cloud, h.ofCloud, List.countP_append,
      List.countP_singleton]
    simp only [decide_eq_true_eq, eq_comm (a := n), Nat.add_assoc]
  · intro n m
    rw [inProgress_template, ofTemplate_reserve, ← inProgress_template, h.ofTemplate,
      List.countP_append, List.countP_singleton]
    simp only [decide_eq_true_eq, eq_comm (a := n), eq_comm (a := m), Nat.add_assoc]

theorem counts_iff_grown : c.Counts ts ↔ Grown .empty c ts := by
  have hcloud : ∀ n, empty.inProgress n none = 0 := fun _ => rfl
  have htemplate : ∀ n t, empty.inProgress n (some t) = 0 := fun _ _ => rfl
  constructor
  · exact fun h => ⟨fun n => by rw [h.ofCloud, hcloud, Nat.zero_add],
      fun n t => by rw [h.ofTemplate, htemplate, Nat.zero_add]⟩
  · exact fun h => ⟨fun n => by rw [h.ofCloud, hcloud, Nat.zero_add],
      fun n t => by rw [h.ofTemplate, htemplate, Nat.zero_add]⟩

theorem Counts.reserve (h : c.Counts ts) :
    (c.reserve t.cloud.name.text t.template.name.text).Counts (ts ++ [t]) :=
  counts_iff_grown.2 (counts_iff_grown.1 h).reserve

theorem counts_iff_tally : c.Counts ts ↔
    c.Tally (ts.map fun x => (x.cloud.name.text, x.template.name.text)) := by
  have hcloud : ∀ n, (ts.map fun x => (x.cloud.name.text, x.template.name.text)).countP (·.1 = n) =
      ts.countP (·.cloud.name.text = n) := fun n => List.countP_map
  have htemplate : ∀ n t, (ts.map fun x => (x.cloud.name.text, x.template.name.text)).count (n, t) =
      ts.countP fun x => x.cloud.name.text = n ∧ x.template.name.text = t := by
    intro n t
    rw [List.count, List.countP_map]
    exact List.countP_congr fun x _ => by simp
  constructor
  · exact fun h => ⟨fun n => by rw [h.ofCloud, hcloud], fun n t => by rw [h.ofTemplate, htemplate]⟩
  · exact fun h => ⟨fun n => by rw [h.ofCloud, hcloud], fun n t => by rw [h.ofTemplate, htemplate]⟩

theorem Counts.release (h : c.Counts (ts ++ t :: us)) :
    (c.release t.cloud.name.text t.template.name.text).Counts (ts ++ us) := by
  rw [counts_iff_tally, List.map_append] at h ⊢
  exact h.release

end ContainerFleet.Capacity
