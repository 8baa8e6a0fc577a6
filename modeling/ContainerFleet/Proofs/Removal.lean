import ContainerFleet.Container.Removal
import ContainerFleet.Proofs.Memory
import ContainerFleet.Proofs.Ownership
import ContainerFleet.Proofs.Turn

namespace ContainerFleet

def Call.victim? : Call → Option String
  | .stop id _ | .remove id _ => some id
  | _ => none

theorem Removal.victim?_call (r : Removal) (p : Removal.Phase) :
    (r.call p).victim? = some r.id := by
  cases p <;> rfl

namespace Memory

variable {m m' : Memory} {id : String} {x y : Container} {now : Timestamp}

abbrev Keyed (m : Memory) : Prop := m.containers.KeyedBy (·.id)

theorem keyed_empty : empty.Keyed := fun k x h => by cases h

theorem Keyed.insert (h : m.Keyed) : (m.insert x).Keyed := Dict.KeyedBy.insert h rfl

theorem Keyed.update (h : m.Keyed) {g : Container → Container} (hg : ∀ x, (g x).id = x.id) :
    (m.update id g).2.Keyed := by
  unfold Memory.update
  split
  · exact h
  · rename_i x hx
    exact Dict.KeyedBy.insert h ((hg x).trans (h id x hx))

theorem Keyed.remove (h : m.Keyed) {force : Bool} : (m.remove id force).2.Keyed := by
  unfold Memory.remove
  split
  · exact h
  · split
    · exact h
    · exact Dict.KeyedBy.erase h

theorem Keyed.answer (h : m.Keyed) (c : Call) : (m.answer now c).2.Keyed := by
  unfold Memory.answer
  split
  · exact h
  · cases c with
    | list f => exact h
    | inspect id => exact h
    | create spec =>
      simp only [create]
      split
      · exact h
      · exact h.insert (x := { id := idOf (m.issued + 1), .. })
    | start id => exact h.update fun _ => rfl
    | stop id timeout => exact h.update fun _ => rfl
    | remove id options => exact h.remove

def owned (m : Memory) (f : Fleet) (c : Cloud) : Dict Container :=
  m.containers.filter fun _ x => f.owns c x.labels

variable {f : Fleet} {c : Cloud}

theorem get?_owned :
    (m.owned f c).get? id = some x ↔ m.get? id = some x ∧ f.owns c x.labels = true := by
  rw [owned, Dict.get?_filter, Option.filter_eq_some_iff, Memory.get?]

theorem get?_owned_of (h : ∀ x, m.get? id = some x → f.owns c x.labels = true) :
    (m.owned f c).get? id = m.get? id := by
  apply Option.ext
  intro x
  rw [get?_owned]
  exact ⟨And.left, fun hx => ⟨hx, h x hx⟩⟩

theorem get?_owned_congr (h : m'.get? id = m.get? id) :
    (m'.owned f c).get? id = (m.owned f c).get? id := by
  rw [owned, owned, Dict.get?_filter, Dict.get?_filter]
  exact congrArg _ h

theorem listed_owned : m.listed (CloudSweep.ownFilter f c) = (m.owned f c).values := by
  have ha : (CloudSweep.ownFilter f c).all = true := rfl
  simp only [listed, owned, Dict.values, List.filter_map, ha, Bool.true_or, Bool.true_and,
    Fleet.admits_cloud]
  rfl

theorem Keyed.keyedBy_owned (h : m.Keyed) : (m.owned f c).KeyedBy (·.id) := fun k x hx =>
  h k x (get?_owned.1 hx).1

theorem Keyed.get?_of_mem (h : m.Keyed) (hx : x ∈ (m.owned f c).values) :
    (m.owned f c).get? x.id = some x := h.keyedBy_owned.mem_values_iff.1 hx

theorem Keyed.sorted_owned (h : m.Keyed) : (m.owned f c).values.Pairwise (·.id < ·.id) :=
  h.keyedBy_owned.sorted_values

theorem isBroken_congr (h : m'.broken = m.broken) (k : CallKind) : m'.isBroken k = m.isBroken k := by
  rw [isBroken, isBroken, h]

def halted (m : Memory) (x : Container) : Container := if m.isBroken .stop then x else x.stopped

def remains (m : Memory) (x : Container) : Option Container :=
  if m.isBroken .remove then some (m.halted x) else none

/-- `m'` is `m` after calls that stop or remove only containers whose id and labels satisfy `p`. -/
structure Culls (p : String → Dict String → Prop) (m m' : Memory) : Prop where
  broken : m'.broken = m.broken
  each : ∀ id, m'.get? id = m.get? id ∨ ∃ x, m.get? id = some x ∧ p id x.labels ∧
    ∀ y, m'.get? id = some y → y.labels = x.labels

variable {p : String → Dict String → Prop}

theorem Culls.refl : m.Culls p m := ⟨rfl, fun _ => .inl rfl⟩

theorem Culls.trans {m₁ : Memory} (h : m.Culls p m₁) (h' : m₁.Culls p m') : m.Culls p m' := by
  refine ⟨h'.broken.trans h.broken, fun id => ?_⟩
  obtain he' | ⟨x', hx', hp', hl'⟩ := h'.each id
  · rw [he']
    exact h.each id
  · obtain he | ⟨x, hx, hp, hl⟩ := h.each id
    · exact .inr ⟨x', he ▸ hx', hp', hl'⟩
    · exact .inr ⟨x, hx, hp, fun y hy => (hl' y hy).trans (hl x' hx')⟩

theorem Culls.imp {q : String → Dict String → Prop} (h : m.Culls p m')
    (hpq : ∀ id l, p id l → q id l) : m.Culls q m' := by
  refine ⟨h.broken, fun id => (h.each id).imp_right ?_⟩
  rintro ⟨x, hx, hp, hl⟩
  exact ⟨x, hx, hpq id _ hp, hl⟩

theorem culls_at {es : Dict Container} (hx : m.get? id = some x) (hp : p id x.labels)
    (hf : ∀ k, k ≠ id → es.get? k = m.get? k)
    (hl : ∀ y, es.get? id = some y → y.labels = x.labels) :
    m.Culls p { m with containers := es } := by
  refine ⟨rfl, fun k => ?_⟩
  by_cases hk : k = id
  · subst hk
    exact .inr ⟨x, hx, hp, hl⟩
  · exact .inl (hf k hk)

theorem answer_culls {c : Call} (hc : c.livens = false)
    (hv : ∀ id x, c.victim? = some id → m.get? id = some x → p id x.labels) :
    m.Culls p (m.answer now c).2 := by
  unfold answer
  split
  · exact .refl
  · cases c with
    | list f => exact .refl
    | inspect id => exact .refl
    | create spec => cases hc
    | start id => cases hc
    | stop id timeout =>
      simp only [update]
      split
      · exact .refl
      · rename_i x hx
        refine culls_at hx (hv id x rfl hx) (fun k hk => by simp [hk, Memory.get?]) fun y hy => ?_
        rw [Dict.get?_insert, if_pos rfl] at hy
        rw [← Option.some.inj hy]
        rfl
    | remove id options =>
      simp only [remove]
      split
      · exact .refl
      · rename_i x hx
        split
        · exact .refl
        · refine culls_at hx (hv id x rfl hx) (fun k hk => by simp [hk, Memory.get?]) fun y hy => ?_
          rw [Dict.get?_erase, if_pos rfl] at hy
          cases hy

theorem answer_inspect (hx : m.get? id = some x) :
    m.answer now (.inspect id) = (.ok x.details, m) := by
  have hb : m.isBroken .inspect = false := rfl
  simp [answer, Call.kind, hb, hx]

theorem update_some {g : Container → Container} (hx : m.get? id = some x) :
    m.update id g = (.ok (), { m with containers := m.containers.insert id (g x) }) := by
  rw [Memory.update, hx]

theorem remove_some {force : Bool} (hx : m.get? id = some x) (hf : (x.running && !force) = false) :
    m.remove id force = (.ok (), { m with containers := m.containers.erase id }) := by
  simp [Memory.remove, hx, hf]

theorem Culls.labels_eq (h : m.Culls p m') (hx : m.get? id = some x) (hy : m'.get? id = some y) :
    y.labels = x.labels := by
  obtain he | ⟨z, hz, _, hl⟩ := h.each id
  · obtain rfl := Option.some.inj (hy.symm.trans (he.trans hx))
    rfl
  · obtain rfl := Option.some.inj (hx.symm.trans hz)
    exact hl y hy

theorem Culls.get?_eq (h : m.Culls p m') (hp : ∀ x, m.get? id = some x → ¬ p id x.labels) :
    m'.get? id = m.get? id := by
  obtain he | ⟨x, hx, hpx, _⟩ := h.each id
  · exact he
  · exact absurd hpx (hp x hx)

theorem Culls.owned_eq (h : m.Culls p m') (hp : ∀ k l, f.owns c l = true → ¬ p k l) :
    m'.owned f c = m.owned f c := by
  apply Dict.ext_get?
  intro id
  simp only [owned, Dict.get?_filter]
  obtain he | ⟨x, hx, hpx, hl⟩ := h.each id
  · rw [show m'.containers.get? id = m.containers.get? id from he]
  · have hown : f.owns c x.labels = false := Bool.eq_false_iff.2 fun hown => hp id _ hown hpx
    rw [show m.containers.get? id = some x from hx]
    cases hy : m'.containers.get? id with
    | none => simp [Option.filter, hown]
    | some y => simp [Option.filter, hown, hl y hy]

end Memory

namespace Removal

theorem resume_ne_stopping {p : Phase} {a : Except RuntimeError Unit} :
    resume p a ≠ .wait .stopping := by
  unfold resume
  split <;> intro h <;> cases h

def Phase.ahead : Phase → Nat
  | stopping => 3
  | removing _ => 2
  | retrying => 1

theorem ahead_resume {p p' : Phase} {a : Except RuntimeError Unit} (h : resume p a = .wait p') :
    p'.ahead < p.ahead := by
  unfold resume at h
  split at h <;> cases h <;> exact Nat.lt_succ_self _

/-- What the removal of `x` from a memory like `m` has made of it. -/
inductive At (m : Memory) (x : Container) : Phase → Container → Prop where
  | stopping : At m x .stopping x
  | removing : At m x (.removing (m.isBroken .stop)) (m.halted x)
  | retrying (stop : m.isBroken .stop = false) (remove : m.isBroken .remove = true) :
      At m x .retrying (m.halted x)

variable {m m' : Memory} {x y : Container} {r : Removal} {p : Phase} {now : Timestamp}

theorem get?_answer_call (p : Phase) {id : String} (h : id ≠ r.id) :
    (m.answer now (r.call p)).2.get? id = m.get? id := by
  refine Memory.Culls.get?_eq (p := fun k _ => k = r.id) (Memory.answer_culls (call_livens r p) ?_)
    fun _ _ => h
  intro k _ hk _
  exact (Option.some.inj ((victim?_call r p).symm.trans hk)).symm

def attempt (r : Removal) (m : Memory) (now : Timestamp) (p : Phase) :
    Except RuntimeError Unit × Memory :=
  (r.reply p (m.answer now (r.call p)).1, (m.answer now (r.call p)).2)

theorem attempt_stopping : r.attempt m now .stopping =
    if m.isBroken .stop then (.error (Memory.brokenError .stop), m)
    else m.update r.id (·.stopped) := rfl

theorem attempt_removing {force : Bool} : r.attempt m now (.removing force) =
    if m.isBroken .remove then (.error (Memory.brokenError .remove), m)
    else m.remove r.id force := rfl

theorem attempt_retrying : r.attempt m now .retrying =
    if m.isBroken .remove then (.error (Memory.brokenError .remove), m)
    else m.remove r.id true := rfl

/-- A removal goes on with its next call, or has come to the end that it must come to. -/
theorem At.goes_on (now : Timestamp) (h : At m x p y) (hy : m'.get? r.id = some y) (hb : m'.broken = m.broken) :
    (∃ p' y', resume p (r.attempt m' now p).1 = .wait p' ∧ At m x p' y' ∧
      (r.attempt m' now p).2.get? r.id = some y' ∧ p'.ahead < p.ahead) ∨
    (m.isBroken .remove = false ∧ (∃ done, resume p (r.attempt m' now p).1 = .done (.ok done)) ∧
      (r.attempt m' now p).2.get? r.id = none) ∨
    (m.isBroken .remove = true ∧ (∃ e, resume p (r.attempt m' now p).1 = .done (.error e)) ∧
      (r.attempt m' now p).2.get? r.id = some (m.halted x)) := by
  have hbroken := Memory.isBroken_congr hb
  cases h with
  | stopping =>
    rw [attempt_stopping, hbroken]
    cases hs : m.isBroken .stop with
    | true =>
      have hat : At m x (.removing true) x := by
        have h := At.removing (m := m) (x := x)
        rwa [Memory.halted, hs, if_pos rfl] at h
      exact .inl ⟨_, x, rfl, hat, hy, by decide⟩
    | false =>
      have hat : At m x (.removing false) x.stopped := by
        have h := At.removing (m := m) (x := x)
        rwa [Memory.halted, hs, if_neg Bool.false_ne_true] at h
      rw [if_neg Bool.false_ne_true, Memory.update_some hy]
      exact .inl ⟨_, x.stopped, rfl, hat, by simp [Memory.get?], by decide⟩
  | removing =>
    rw [attempt_removing, hbroken]
    cases hr : m.isBroken .remove with
    | true =>
      cases hs : m.isBroken .stop with
      | true => exact .inr (.inr ⟨rfl, ⟨_, rfl⟩, hy⟩)
      | false => exact .inl ⟨_, _, rfl, .retrying hs hr, hy, by decide⟩
    | false =>
      have hstopped : ((m.halted x).running && !m.isBroken .stop) = false := by
        cases hs : m.isBroken .stop <;> simp [Memory.halted, hs, Container.stopped]
      rw [if_neg Bool.false_ne_true, Memory.remove_some hy hstopped]
      refine .inr (.inl ⟨rfl, ⟨_, rfl⟩, by simp [Memory.get?]⟩)
  | retrying _ remove =>
    rw [attempt_retrying, hbroken, remove, if_pos rfl]
    exact .inr (.inr ⟨rfl, ⟨_, rfl⟩, hy⟩)

end Removal

end ContainerFleet
