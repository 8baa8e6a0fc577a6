import ContainerFleet.Container.Memory
import ContainerFleet.Proofs.Dict
import ContainerFleet.Proofs.Turn
import ContainerFleet.Proofs.Walk
import Mathlib.Logic.Function.Basic

namespace ContainerFleet

/-- A fleet of which one activity goes on at a time, with runtimes that answer at once. -/
structure Stage where
  state : State
  sites : String → Memory
  calls : List (String × Call) := []

def Wait.calls : Wait → List (String × Call)
  | .call uri c => [(uri, c)]
  | _ => []

theorem Wait.livens_of_mem_calls {w : Wait} (h : w.spares = true) {x : String × Call}
    (hx : x ∈ w.calls) : x.2.livens = false := by
  cases w with
  | call uri c =>
    obtain rfl := List.mem_singleton.1 hx
    simpa [Wait.spares] using h
  | _ => cases hx

namespace Stage

def serve (g : Stage) (now : Timestamp) : (w : Wait) → Option (w.Answer × Stage)
  | .turn => some ((), g)
  | .lock cloud => if g.state.locked.contains cloud then none else some ((), g)
  | .permit => if g.state.permits = 0 then none else some ((), g)
  | .admission => some (true, g)
  | .call uri c =>
    let out := (g.sites uri).answer now c
    some (out.1,
      { g with sites := Function.update g.sites uri out.2, calls := g.calls ++ [(uri, c)] })

variable (f : Fleet) (m : Moment)

def step (g : Stage) (j : Job) (part : Nat) : Option (Progress Job JobResult × Stage) :=
  ((j.pending f).lookup part).bind fun p =>
    (g.serve m.wall p.wait).map fun x =>
      let t := p.resume x.2.state m x.1
      (t.progress, { x.2 with state := t.state })

def run (g : Stage) (j : Job) : List Nat → Option (Progress Job JobResult × Stage)
  | [] => some (.wait j, g)
  | part :: parts => (g.step f m j part).bind fun x => match x.1 with
    | .wait j => x.2.run j parts
    | .done r => if parts.isEmpty then some (.done r, x.2) else none

variable {f : Fleet} {m : Moment}

theorem serve_frame {g g' : Stage} {now : Timestamp} {w : Wait} {a : w.Answer}
    (h : g.serve now w = some (a, g')) : g'.state = g.state ∧ g'.calls = g.calls ++ w.calls := by
  cases w with
  | turn =>
    obtain ⟨_, rfl⟩ := Prod.ext_iff.1 (Option.some.inj h)
    exact ⟨rfl, (List.append_nil _).symm⟩
  | lock cloud =>
    simp only [serve] at h
    split at h
    · cases h
    · obtain ⟨_, rfl⟩ := Prod.ext_iff.1 (Option.some.inj h)
      exact ⟨rfl, (List.append_nil _).symm⟩
  | permit =>
    simp only [serve] at h
    split at h
    · cases h
    · obtain ⟨_, rfl⟩ := Prod.ext_iff.1 (Option.some.inj h)
      exact ⟨rfl, (List.append_nil _).symm⟩
  | admission =>
    obtain ⟨_, rfl⟩ := Prod.ext_iff.1 (Option.some.inj h)
    exact ⟨rfl, (List.append_nil _).symm⟩
  | call uri c =>
    obtain ⟨_, rfl⟩ := Prod.ext_iff.1 (Option.some.inj h)
    exact ⟨rfl, rfl⟩

theorem serve_call {g g' : Stage} {now : Timestamp} {uri : String} {c : Call} {a : c.Outcome}
    (h : g.serve now (.call uri c) = some (a, g')) :
    a = ((g.sites uri).answer now c).1 ∧
      g'.sites = Function.update g.sites uri ((g.sites uri).answer now c).2 := by
  obtain ⟨rfl, rfl⟩ := Prod.ext_iff.1 (Option.some.inj h)
  exact ⟨rfl, rfl⟩

theorem step_eq_some {g g' : Stage} {j : Job} {part : Nat} {p : Progress Job JobResult}
    (h : step f m g j part = some (p, g')) :
    ∃ x a g₁, (part, x) ∈ j.pending f ∧ g.serve m.wall x.wait = some (a, g₁) ∧
      p = (x.resume g₁.state m a).progress ∧
      g' = { g₁ with state := (x.resume g₁.state m a).state } := by
  obtain ⟨x, hx, h⟩ := Option.bind_eq_some_iff.1 h
  obtain ⟨⟨a, g₁⟩, hserve, h⟩ := Option.map_eq_some_iff.1 h
  obtain ⟨rfl, rfl⟩ := Prod.ext_iff.1 h
  exact ⟨x, a, g₁, Dict.mem_of_lookup hx, hserve, rfl, rfl⟩

theorem run_eq_walk {g : Stage} {j : Job} {parts : List Nat} :
    run f m g j parts = Progress.walk (step f m) g j parts := by
  induction parts generalizing g j with
  | nil => rfl
  | cons part parts ih =>
    rw [run, Progress.walk]
    congr 1
    funext x
    obtain ⟨p, g₁⟩ := x
    cases p with
    | wait j => exact ih
    | done r => rfl

/-- What every step keeps, every run keeps. -/
theorem run_induction {P : Progress Job JobResult → Stage → Prop}
    (hs : ∀ g j part p g', P (.wait j) g → step f m g j part = some (p, g') → P p g')
    {g g' : Stage} {j : Job} {parts : List Nat} {p : Progress Job JobResult} (h₀ : P (.wait j) g)
    (h : run f m g j parts = some (p, g')) : P p g' :=
  Progress.walk_induction hs h₀ (run_eq_walk.symm.trans h)

theorem run_append {g g' : Stage} {j j' : Job} {parts : List Nat} (more : List Nat)
    (h : run f m g j parts = some (.wait j', g')) :
    run f m g j (parts ++ more) = run f m g' j' more := by
  rw [run_eq_walk, run_eq_walk]
  exact Progress.walk_append more (run_eq_walk.symm.trans h)

section Ending

variable {P : Progress Job JobResult → Stage → Prop} {ahead : Progress Job JobResult → Nat}
  (hs : ∀ g j part p g', P (.wait j) g → step f m g j part = some (p, g') →
    P p g' ∧ ahead p < ahead (.wait j))

include hs

theorem length_le_ahead {g g' : Stage} {j : Job} {parts : List Nat} {p : Progress Job JobResult}
    (h₀ : P (.wait j) g) (h : run f m g j parts = some (p, g')) :
    parts.length + ahead p ≤ ahead (.wait j) :=
  Progress.length_le_ahead hs h₀ (run_eq_walk.symm.trans h)

/-- An activity that is never stuck comes to its end. -/
theorem exists_run (hgo : ∀ g j, P (.wait j) g → ∃ part, (step f m g j part).isSome = true)
    {g : Stage} {j : Job} (h₀ : P (.wait j) g) :
    ∃ parts r g', run f m g j parts = some (.done r, g') := by
  simp only [run_eq_walk]
  exact Progress.exists_walk hs hgo h₀

end Ending

end Stage

end ContainerFleet
