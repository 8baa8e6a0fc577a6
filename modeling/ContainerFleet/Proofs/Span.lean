import Mathlib.Data.List.TakeWhile

namespace ContainerFleet.Span

variable {α : Type} {p : α → Bool} {a : α} {xs ys xs' ys' : List α}

theorem eq_nil_of_head? (hx : ∀ a ∈ xs, p a = false) (h : ∀ a ∈ xs.head?, p a = true) : xs = [] := by
  cases xs with
  | nil => rfl
  | cons a xs => cases (hx a List.mem_cons_self).symm.trans (h a rfl)

theorem eq_nil_of_getLast? (hx : ∀ a ∈ xs, p a = false) (h : ∀ a ∈ xs.getLast?, p a = true) : xs = [] := by
  cases hlast : xs.getLast? with
  | none => exact List.getLast?_eq_none_iff.1 hlast
  | some a => cases (hx a (List.mem_of_getLast? hlast)).symm.trans (h a hlast)

theorem head?_dropWhile : ∀ a ∈ (xs.dropWhile p).head?, p a = false := by
  intro a ha
  have h := List.head?_dropWhile_not p xs
  rwa [Option.mem_def.1 ha] at h

theorem drop_takeWhile (p : α → Bool) (xs : List α) :
    xs.drop (xs.takeWhile p).length = xs.dropWhile p := by
  have h : xs.takeWhile p ++ xs.drop (xs.takeWhile p).length = xs :=
    List.prefix_iff_eq_append.1 (List.takeWhile_prefix p)
  exact List.append_cancel_left (h.trans List.takeWhile_append_dropWhile.symm)

theorem takeWhile_append (hx : ∀ a ∈ xs, p a = true) (hy : ∀ a ∈ ys.head?, p a = false) :
    (xs ++ ys).takeWhile p = xs := by
  rw [List.takeWhile_append_of_pos hx]
  cases ys with
  | nil => rw [List.takeWhile_nil, List.append_nil]
  | cons a ys => rw [List.takeWhile_cons_of_neg (by simp [hy a rfl]), List.append_nil]

theorem dropWhile_append (hx : ∀ a ∈ xs, p a = true) (hy : ∀ a ∈ ys.head?, p a = false) :
    (xs ++ ys).dropWhile p = ys := by
  rw [← drop_takeWhile, takeWhile_append hx hy, List.drop_left]

theorem unique (hx : ∀ a ∈ xs, p a = true) (hx' : ∀ a ∈ xs', p a = true) (hy : ∀ a ∈ ys.head?, p a = false)
    (hy' : ∀ a ∈ ys'.head?, p a = false) (h : xs ++ ys = xs' ++ ys') : xs = xs' ∧ ys = ys' := by
  constructor
  · rw [← takeWhile_append hx hy, h, takeWhile_append hx' hy']
  · rw [← dropWhile_append hx hy, h, dropWhile_append hx' hy']

theorem unique_at [DecidableEq α] (hx : a ∉ xs) (hx' : a ∉ xs') (h : xs ++ a :: ys = xs' ++ a :: ys') :
    xs = xs' ∧ ys = ys' := by
  have hno {xs : List α} (hx : a ∉ xs) : ∀ b ∈ xs, decide (b ≠ a) = true := fun b hb =>
    decide_eq_true fun he => hx (he ▸ hb)
  obtain ⟨hfront, hbehind⟩ := unique (hno hx) (hno hx') (by simp) (by simp) h
  exact ⟨hfront, List.tail_eq_of_cons_eq hbehind⟩

end ContainerFleet.Span
