import ContainerFleet.Proofs.Ledger
import ContainerFleet.Proofs.Removal
import ContainerFleet.Proofs.Walk

namespace ContainerFleet

namespace Call

def subject? : Call → Option String
  | inspect id | start id | stop id _ | remove id _ => some id
  | _ => none

/-- A creation that is said to have failed made no container, and a container that is said not to be
there is not there. -/
def honest (before : Memory) : (c : Call) → c.Outcome × Memory → Bool
  | create _, (.error _, after) => after = before
  | stop id _, (.error (.notFound _), after) => (after.get? id).isNone
  | remove id _, (.error (.notFound _), after) => (after.get? id).isNone
  | _, _ => true

end Call

namespace Memory

variable {m : Memory} {id k : String} {now : Timestamp}

theorem get?_update_of_ne {g : Container → Container} (h : k ≠ id) :
    (m.update id g).2.get? k = m.get? k :=
  get?_update.trans (if_neg h)

theorem get?_remove_of_ne {force : Bool} (h : k ≠ id) : (m.remove id force).2.get? k = m.get? k := by
  cases hr : (m.remove id force).1 with
  | error e => rw [remove_failed hr]
  | ok u => exact (get?_remove hr).trans (if_neg h)

theorem get?_answer_of_ne {c : Call} (hc : c.kind ≠ .create) (hk : c.subject? ≠ some k) :
    (m.answer now c).2.get? k = m.get? k := by
  unfold answer
  split
  · rfl
  · cases c with
    | list filter => rfl
    | inspect id => rfl
    | create spec => exact absurd rfl hc
    | start id => exact get?_update_of_ne fun h => hk (congrArg some h.symm)
    | stop id timeout => exact get?_update_of_ne fun h => hk (congrArg some h.symm)
    | remove id options => exact get?_remove_of_ne fun h => hk (congrArg some h.symm)

theorem get?_answer_none {c : Call} (hc : c.kind ≠ .create) (h : m.get? k = none) :
    (m.answer now c).2.get? k = none := by
  by_cases hk : c.subject? = some k
  · unfold answer
    split
    · exact h
    · cases c with
      | create spec => exact absurd rfl hc
      | list filter => exact h
      | inspect id => exact h
      | start id | stop id timeout =>
        obtain rfl := Option.some.inj hk
        simp only [update, h]
      | remove id options =>
        obtain rfl := Option.some.inj hk
        simp only [remove, h]
  · rw [get?_answer_of_ne hc hk, h]

theorem get?_react_none {c : Call} {r : Reaction} (hc : c.kind ≠ .create) (h : m.get? k = none) :
    (m.react now c r).2.get? k = none := by
  cases r with
  | obeys | obeysUnheard e => exact get?_answer_none hc h
  | refuses e => exact h

theorem isBroken_react (c : Call) (r : Reaction) (kind : CallKind) :
    (m.react now c r).2.isBroken kind = m.isBroken kind := by
  cases r with
  | obeys | obeysUnheard e => exact isBroken_congr (broken_answer c) kind
  | refuses e => rfl

theorem answer_start_ok (h : (m.answer now (.start id)).1 = .ok ()) :
    ∃ x, m.get? id = some x ∧ (m.answer now (.start id)).2.get? id = some x.started := by
  have hcall : m.answer now (.start id) = m.update id (·.started) := gate_of_ok h
  rw [hcall] at h ⊢
  obtain ⟨x, hx⟩ := update_ok_iff.1 h
  exact ⟨x, hx, by rw [get?_update, if_pos rfl, hx, Option.map_some]⟩

theorem present_of_remove_ok {options : RemoveOptions}
    (h : (m.answer now (.remove id options)).1 = .ok ()) : m.get? id ≠ none := by
  rw [answer_remove_eq, gate_ok_iff, remove_ok_iff] at h
  obtain ⟨-, x, hx, -⟩ := h
  rw [hx]
  exact nofun

theorem answer_remove_ok {options : RemoveOptions}
    (h : (m.answer now (.remove id options)).1 = .ok ()) :
    (m.answer now (.remove id options)).2.get? id = none := by
  have hcall : m.answer now (.remove id options) = m.remove id options.force := gate_of_ok h
  rw [hcall] at h ⊢
  exact (get?_remove h).trans (if_pos rfl)

theorem react_remove_ok {options : RemoveOptions} {r : Reaction}
    (h : (m.react now (.remove id options) r).1 = .ok ()) :
    m.get? id ≠ none ∧ (m.react now (.remove id options) r).2.get? id = none := by
  cases r with
  | obeys =>
    have ha : (m.answer now (.remove id options)).1 = .ok () := h
    exact ⟨present_of_remove_ok ha, answer_remove_ok ha⟩
  | obeysUnheard e | refuses e => cases h

theorem honest_answer (c : Call) : c.honest m (m.answer now c) = true := by
  unfold answer
  split
  · cases c <;> simp [Call.honest, Call.fail, brokenError]
  · cases c with
    | list filter => rfl
    | inspect id => rfl
    | create spec =>
      simp only [create]
      split <;> simp [Call.honest]
    | start id => simp only [Call.honest]
    | stop id timeout =>
      cases hx : m.get? id with
      | none => simp [update, hx, Call.honest]
      | some x => simp [update_some hx, Call.honest]
    | remove id options =>
      cases hx : m.get? id with
      | none => simp [remove, hx, Call.honest]
      | some x =>
        simp only [remove, hx]
        split <;> simp [Call.honest]

end Memory

/-- What an activity that goes on alone meets with one step. -/
structure Circumstance where
  moment : Moment
  reaction : Reaction := .obeys
  /-- What an inspection shows, where it is not what the runtime holds. -/
  shown : Option Details := none
  /-- The scheduler takes one more node. -/
  admitted : Bool := true

namespace Circumstance

def answer (e : Circumstance) (m : Memory) : (c : Call) → c.Outcome × Memory
  | .inspect id =>
    match e.shown with
    | some d => (.ok d, m)
    | none => m.react e.moment.wall (.inspect id) e.reaction
  | c => m.react e.moment.wall c e.reaction

variable {e : Circumstance} {m : Memory} {c : Call}

theorem answer_of_ne (h : c.kind ≠ .inspect) : e.answer m c = m.react e.moment.wall c e.reaction := by
  cases c with
  | inspect id => exact absurd rfl h
  | _ => rfl

theorem answer_of_ok {a : c.Reply} (hc : c.kind ≠ .inspect) (h : (e.answer m c).1 = .ok a) :
    e.answer m c = m.answer e.moment.wall c := by
  rw [answer_of_ne hc] at h ⊢
  cases hr : e.reaction with
  | obeys => rfl
  | obeysUnheard cause =>
    rw [hr] at h
    cases h
  | refuses cause =>
    rw [hr] at h
    cases h

theorem answer_memory (e : Circumstance) (m : Memory) (c : Call) :
    (e.answer m c).2 = m ∨ (e.answer m c).2 = (m.answer e.moment.wall c).2 := by
  have hr : (m.react e.moment.wall c e.reaction).2 = m ∨
      (m.react e.moment.wall c e.reaction).2 = (m.answer e.moment.wall c).2 := by
    cases e.reaction with
    | obeys => exact .inr rfl
    | obeysUnheard cause => exact .inr rfl
    | refuses cause => exact .inl rfl
  cases c with
  | inspect id =>
    rw [answer]
    split
    · exact .inl rfl
    · exact hr
  | _ => exact hr

theorem get?_answer_of_ne {k : String} (hc : c.kind ≠ .create) (hk : c.subject? ≠ some k) :
    (e.answer m c).2.get? k = m.get? k := by
  obtain h | h := e.answer_memory m c
  · rw [h]
  · rw [h, Memory.get?_answer_of_ne hc hk]

theorem answer_inspect (id : String) : (e.answer m (.inspect id)).2 = m := by
  have ha : (m.answer e.moment.wall (.inspect id)).2 = m := rfl
  obtain h | h := e.answer_memory m (.inspect id)
  · exact h
  · rw [h, ha]

/-- After an honest answer to its removal a container is gone, or the removal failed. -/
theorem gone_or_failed {id : String} {options : RemoveOptions}
    (h : (Call.remove id options).honest m (e.answer m (.remove id options)) = true) :
    (e.answer m (.remove id options)).2.get? id = none ∨
      ∃ cause, (e.answer m (.remove id options)).1 = .error cause ∧ cause.isNotFound = false := by
  cases ha : (e.answer m (.remove id options)).1 with
  | ok u =>
    left
    have he := answer_of_ok (by simp [Call.kind]) ha
    rw [he] at ha ⊢
    exact Memory.answer_remove_ok ha
  | error cause =>
    cases hn : cause.isNotFound with
    | false => exact .inr ⟨cause, rfl, hn⟩
    | true =>
      left
      cases cause with
      | notFound x =>
        generalize e.answer m (.remove id options) = out at h ha ⊢
        obtain ⟨a, m'⟩ := out
        obtain rfl : a = .error (.notFound x) := ha
        simpa [Call.honest] using h
      | _ => cases hn

end Circumstance

/-- A fleet with one activity, and what that has heard from the runtimes, the latest first. -/
structure Solo where
  state : State
  sites : String → Memory
  heard : List Reply := []

namespace Solo

variable {σ α : Type}

def serve (g : Solo) (e : Circumstance) : (w : Wait) → Option (w.Answer × Solo)
  | .turn => some ((), g)
  | .lock cloud => if g.state.locked.contains cloud then none else some ((), g)
  | .permit => if g.state.permits = 0 then none else some ((), g)
  | .admission => some (e.admitted, g)
  | .call uri c =>
    let out := e.answer (g.sites uri) c
    if c.honest (g.sites uri) out then
      some (out.1,
        { g with
          sites := Function.update g.sites uri out.2
          heard := ⟨0, c, out.1⟩ :: g.heard })
    else none

variable (pending : σ → Pending σ α)

def step (g : Solo) (p : σ) (e : Circumstance) : Option (Progress σ α × Solo) :=
  (g.serve e (pending p).wait).map fun x =>
    let t := (pending p).resume x.2.state e.moment x.1
    (t.progress, { x.2 with state := t.state })

abbrev run (g : Solo) (p : σ) (es : List Circumstance) : Option (Progress σ α × Solo) :=
  Progress.walk (step pending) g p es

variable {pending} {g g' : Solo} {p : σ} {q : Progress σ α} {e : Circumstance}

theorem step_eq_some (h : step pending g p e = some (q, g')) :
    ∃ a g₁, g.serve e (pending p).wait = some (a, g₁) ∧
      q = ((pending p).resume g₁.state e.moment a).progress ∧
      g' = { g₁ with state := ((pending p).resume g₁.state e.moment a).state } := by
  obtain ⟨⟨a, g₁⟩, hserve, h⟩ := Option.map_eq_some_iff.1 h
  obtain ⟨rfl, rfl⟩ := Prod.ext_iff.1 h
  exact ⟨a, g₁, hserve, rfl, rfl⟩

theorem serve_call {uri : String} {c : Call} {a : c.Outcome}
    (h : g.serve e (.call uri c) = some (a, g')) :
    c.honest (g.sites uri) (e.answer (g.sites uri) c) = true ∧
      a = (e.answer (g.sites uri) c).1 ∧
      g' = { g with
        sites := Function.update g.sites uri (e.answer (g.sites uri) c).2
        heard := ⟨0, c, a⟩ :: g.heard } := by
  simp only [serve] at h
  split at h
  · rename_i hh
    obtain ⟨rfl, rfl⟩ := Prod.ext_iff.1 (Option.some.inj h)
    exact ⟨hh, rfl, rfl⟩
  · cases h

theorem isSome_serve_call {uri : String} {c : Call} {m : Moment} :
    (g.serve { moment := m } (.call uri c)).isSome = true := by
  have ha : ({ moment := m } : Circumstance).answer (g.sites uri) c =
      (g.sites uri).answer m.wall c := by
    cases c <;> rfl
  simp [serve, ha, Memory.honest_answer]

end Solo

end ContainerFleet
