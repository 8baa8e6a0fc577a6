import ContainerFleet.Container.Removal
import Mathlib.Data.Nat.Init

namespace ContainerFleet.Progress

variable {σ α γ ε : Type} {step : γ → σ → ε → Option (Progress σ α × γ)} {g g' : γ} {p : σ}
  {es : List ε}

/-- The steps that an activity makes one after the other, each with what it meets. It ends with the
last one or not at all. -/
def walk (step : γ → σ → ε → Option (Progress σ α × γ)) (g : γ) (p : σ) :
    List ε → Option (Progress σ α × γ)
  | [] => some (.wait p, g)
  | e :: es => (step g p e).bind fun x => match x.1 with
    | .wait p => walk step x.2 p es
    | .done r => if es.isEmpty then some (.done r, x.2) else none

theorem walk_cons {e : ε} {q : Progress σ α} (h : walk step g p (e :: es) = some (q, g')) :
    (∃ p₁ g₁, step g p e = some (.wait p₁, g₁) ∧ walk step g₁ p₁ es = some (q, g')) ∨
      ∃ r, step g p e = some (.done r, g') ∧ es = [] ∧ q = .done r := by
  obtain ⟨⟨q₁, g₁⟩, hstep, h⟩ := Option.bind_eq_some_iff.1 h
  cases q₁ with
  | wait p₁ => exact .inl ⟨p₁, g₁, hstep, h⟩
  | done r =>
    simp only at h
    split at h
    · rename_i he
      obtain ⟨rfl, rfl⟩ := Prod.ext_iff.1 (Option.some.inj h)
      exact .inr ⟨r, hstep, List.isEmpty_iff.1 he, rfl⟩
    · cases h

def walkOn (step : γ → σ → ε → Option (Progress σ α × γ)) (g : γ) (es : List ε) :
    Progress σ α → Option (Progress σ α × γ)
  | .wait p => walk step g p es
  | .done r => if es.isEmpty then some (.done r, g) else none

theorem walk_cons_eq_some {e : ε} {y : Progress σ α × γ} (h : walk step g p (e :: es) = some y) :
    ∃ x g₁, step g p e = some (x, g₁) ∧ walkOn step g₁ es x = some y := by
  obtain ⟨⟨x, g₁⟩, hstep, h⟩ := Option.bind_eq_some_iff.1 h
  refine ⟨x, g₁, hstep, ?_⟩
  cases x <;> exact h

theorem walkOn_cons {e : ε} {x : Progress σ α} {g₁ : γ} (h : step g p e = some (x, g₁)) :
    walkOn step g (e :: es) (.wait p) = walkOn step g₁ es x := by
  rw [walkOn, walk, h]
  cases x <;> rfl

/-- What every step keeps, of what was met so far too, every walk keeps. -/
theorem walk_induction_past {P : List ε → Progress σ α → γ → Prop}
    (hs : ∀ es g p e q g', P es (.wait p) g → step g p e = some (q, g') → P (es ++ [e]) q g')
    {q : Progress σ α} (h₀ : P [] (.wait p) g) (h : walk step g p es = some (q, g')) : P es q g' := by
  suffices ∀ past, P past (.wait p) g → P (past ++ es) q g' from this [] h₀
  clear h₀
  intro past h₀
  induction es generalizing past g p with
  | nil =>
    obtain ⟨rfl, rfl⟩ := Prod.ext_iff.1 (Option.some.inj h)
    rwa [List.append_nil]
  | cons e es ih =>
    obtain ⟨p₁, g₁, hstep, h⟩ | ⟨r, hstep, rfl, rfl⟩ := walk_cons h
    · have hrest := ih h (past ++ [e]) (hs past g p e _ g₁ h₀ hstep)
      rwa [List.append_assoc] at hrest
    · exact hs past g p e _ g' h₀ hstep

theorem walk_induction {P : Progress σ α → γ → Prop}
    (hs : ∀ g p e q g', P (.wait p) g → step g p e = some (q, g') → P q g')
    {q : Progress σ α} (h₀ : P (.wait p) g) (h : walk step g p es = some (q, g')) : P q g' :=
  walk_induction_past (P := fun _ => P) (fun _ => hs) h₀ h

theorem walk_append {q : σ} (more : List ε) (h : walk step g p es = some (.wait q, g')) :
    walk step g p (es ++ more) = walk step g' q more := by
  induction es generalizing g p with
  | nil =>
    obtain ⟨hp, rfl⟩ := Prod.ext_iff.1 (Option.some.inj h)
    obtain rfl := Progress.wait.inj hp
    rfl
  | cons e es ih =>
    obtain ⟨p₁, g₁, hstep, h⟩ | ⟨r, _, _, hq⟩ := walk_cons h
    · rw [List.cons_append, walk, hstep]
      exact ih h
    · cases hq

theorem walk_map {ε' : Type} (f : ε' → ε) (xs : List ε') :
    walk step g p (xs.map f) = walk (fun g p x => step g p (f x)) g p xs := by
  induction xs generalizing g p with
  | nil => rfl
  | cons x xs ih =>
    rw [List.map_cons, walk, walk]
    refine Option.bind_congr fun y _ => ?_
    cases y.1 with
    | wait q => exact ih
    | done r => simp only [List.isEmpty_map]

theorem walk_induction_of {E : ε → Prop} {P : Progress σ α → γ → Prop}
    (hs : ∀ g p e q g', E e → P (.wait p) g → step g p e = some (q, g') → P q g')
    {q : Progress σ α} (he : ∀ e ∈ es, E e) (h₀ : P (.wait p) g)
    (h : walk step g p es = some (q, g')) : P q g' := by
  rw [← List.attachWith_map_subtype_val he, walk_map] at h
  exact walk_induction (fun g p (e : { e // E e }) q g' => hs g p e.1 q g' e.2) h₀ h

section Ending

variable {P : Progress σ α → γ → Prop} {ahead : Progress σ α → Nat}
  (hs : ∀ g p e q g', P (.wait p) g → step g p e = some (q, g') → P q g' ∧ ahead q < ahead (.wait p))

include hs

theorem length_le_ahead {q : Progress σ α} (h₀ : P (.wait p) g)
    (h : walk step g p es = some (q, g')) : es.length + ahead q ≤ ahead (.wait p) := by
  induction es generalizing g p with
  | nil =>
    obtain ⟨rfl, rfl⟩ := Prod.ext_iff.1 (Option.some.inj h)
    simp
  | cons e es ih =>
    obtain ⟨p₁, g₁, hstep, h⟩ | ⟨r, hstep, rfl, rfl⟩ := walk_cons h
    · obtain ⟨hp, hlt⟩ := hs g p e _ g₁ h₀ hstep
      have hle := ih hp h
      rw [List.length_cons]
      omega
    · have hlt := (hs g p e _ g' h₀ hstep).2
      simp only [List.length_cons, List.length_nil]
      omega

/-- An activity that is never stuck comes to its end. -/
theorem exists_walk (hgo : ∀ g p, P (.wait p) g → ∃ e, (step g p e).isSome = true)
    (h₀ : P (.wait p) g) : ∃ es r g', walk step g p es = some (.done r, g') := by
  -- A step may lower the count by more than one.
  induction hn : ahead (.wait p) using Nat.strongRecOn generalizing g p with
  | ind n ih =>
    obtain ⟨e, hstep⟩ := hgo g p h₀
    obtain ⟨⟨q, g₁⟩, hstep⟩ := Option.isSome_iff_exists.1 hstep
    obtain ⟨hp, hlt⟩ := hs g p e q g₁ h₀ hstep
    cases q with
    | wait p₁ =>
      obtain ⟨es, r, g', hwalk⟩ := ih _ (hn ▸ hlt) hp rfl
      refine ⟨e :: es, r, g', ?_⟩
      rw [walk, hstep]
      exact hwalk
    | done r =>
      refine ⟨[e], r, g₁, ?_⟩
      rw [walk, hstep]
      rfl

theorem exists_walk_append (hgo : ∀ g p, P (.wait p) g → ∃ e, (step g p e).isSome = true)
    {q : σ} (h₀ : P (.wait p) g) (h : walk step g p es = some (.wait q, g')) :
    ∃ more r g'', walk step g p (es ++ more) = some (.done r, g'') := by
  have hq : P (.wait q) g' :=
    walk_induction (fun g p e q g' hp hstep => (hs g p e q g' hp hstep).1) h₀ h
  obtain ⟨more, r, g'', hmore⟩ := exists_walk hs hgo hq
  exact ⟨more, r, g'', (walk_append more h).trans hmore⟩

end Ending

theorem exists_walk_of_stream {P : Progress σ α → γ → Prop} {ahead : Progress σ α → Nat}
    (hs : ∀ g p e, P (.wait p) g →
      ∃ q g', step g p e = some (q, g') ∧ P q g' ∧ ahead q < ahead (.wait p))
    (e : Nat → ε) (h₀ : P (.wait p) g) :
    ∃ n r g', walk step g p ((List.range n).map e) = some (.done r, g') ∧
      n ≤ ahead (.wait p) ∧ P (.done r) g' := by
  induction hn : ahead (.wait p) using Nat.strongRecOn generalizing g p e with
  | ind k ih =>
    obtain ⟨q, g₁, hstep, hp, hlt⟩ := hs g p (e 0) h₀
    cases q with
    | wait p₁ =>
      obtain ⟨n, r, g', hwalk, hle, hend⟩ := ih _ (hn ▸ hlt) (fun i => e (i + 1)) hp rfl
      refine ⟨n + 1, r, g', ?_, by omega, hend⟩
      rw [List.range_succ_eq_map, List.map_cons, List.map_map, walk, hstep]
      exact hwalk
    | done r =>
      refine ⟨1, r, g₁, ?_, by omega, hp⟩
      rw [List.range_one, List.map_singleton, walk, hstep]
      rfl

end ContainerFleet.Progress
