import ContainerFleet.Proofs.Removal
import ContainerFleet.Rehearsal.Site

namespace ContainerFleet

namespace Removal

abbrev Log : Type := List (Call × Except RuntimeError Unit)

abbrev Server (σ : Type) : Type := σ → (c : Call) → c.Outcome × σ

/-- The calls of a removal with their answers, its outcome, and the runtime's state at the end. -/
structure Course (σ : Type) where
  log : Log
  outcome : Except RuntimeError Removed
  state : σ

def answer {σ : Type} (serve : Server σ) (r : Removal) (s : σ) (p : Phase) :
    Except RuntimeError Unit :=
  r.reply p (serve s (r.call p)).1

def run {σ : Type} (serve : Server σ) (r : Removal) (s : σ) (p : Phase) : Course σ :=
  match _h : resume p (r.answer serve s p) with
  | .done x => ⟨[(r.call p, r.answer serve s p)], x, (serve s (r.call p)).2⟩
  | .wait q =>
    let rest := run serve r (serve s (r.call p)).2 q
    ⟨(r.call p, r.answer serve s p) :: rest.log, rest.outcome, rest.state⟩
termination_by p.ahead
decreasing_by exact ahead_resume _h

def IsAbsent (a : Except RuntimeError Unit) : Prop := ∃ id, a = .error (.notFound id)

/-- The ways that a removal can take, by the calls that it makes. -/
inductive Way (r : Removal) : Log → Except RuntimeError Removed → Prop where
  /-- The container is gone before it is stopped. -/
  | gone {a : Except RuntimeError Unit} (absent : IsAbsent a) :
      Way r [(r.call .stopping, a)] (.ok .alreadyGone)
  /-- One try is enough, or was by force already. -/
  | once {a b : Except RuntimeError Unit} (present : ¬ IsAbsent a)
      (enough : a = .ok () → b = .ok () ∨ IsAbsent b) :
      Way r [(r.call .stopping, a), (r.call (.removing !a.toBool), b)] (forced b)
  /-- The container was stopped but did not go, so that the next try is by force. -/
  | twice {b c : Except RuntimeError Unit} (failed : ¬ (b = .ok () ∨ IsAbsent b)) :
      Way r [(r.call .stopping, .ok ()), (r.call (.removing false), b), (r.call .retrying, c)]
        ((forced c).map fun _ => .removed)

variable {σ : Type} {serve : Server σ} {r : Removal} {s : σ} {p q : Phase}
  {a b c : Except RuntimeError Unit} {x : Except RuntimeError Removed}

theorem run_of_done (h : resume p (r.answer serve s p) = .done x) :
    r.run serve s p = ⟨[(r.call p, r.answer serve s p)], x, (serve s (r.call p)).2⟩ := by
  rw [run]
  split
  · rename_i y hy
    obtain rfl := Progress.done.inj (h.symm.trans hy)
    rfl
  · rename_i q hq
    cases h.symm.trans hq

theorem run_of_wait (h : resume p (r.answer serve s p) = .wait q) :
    r.run serve s p =
      let rest := r.run serve (serve s (r.call p)).2 q
      ⟨(r.call p, r.answer serve s p) :: rest.log, rest.outcome, rest.state⟩ := by
  rw [run]
  split
  · rename_i y hy
    cases h.symm.trans hy
  · rename_i q' hq
    obtain rfl := Progress.wait.inj (h.symm.trans hq)
    rfl

theorem resume_stopping_absent (h : IsAbsent a) : resume .stopping a = .done (.ok .alreadyGone) := by
  obtain ⟨id, rfl⟩ := h
  rfl

theorem resume_stopping (h : ¬ IsAbsent a) : resume .stopping a = .wait (.removing !a.toBool) := by
  cases a with
  | ok _ => rfl
  | error e => cases e with
    | notFound id => exact absurd ⟨id, rfl⟩ h
    | _ => rfl

theorem resume_forced : resume (.removing true) b = .done (forced b) := by
  cases b with
  | ok _ => rfl
  | error e => cases e <;> rfl

theorem resume_unforced (h : b = .ok () ∨ IsAbsent b) :
    resume (.removing false) b = .done (forced b) := by
  obtain rfl | ⟨id, rfl⟩ := h <;> rfl

theorem resume_unforced_failed (h : ¬ (b = .ok () ∨ IsAbsent b)) :
    resume (.removing false) b = .wait .retrying := by
  cases b with
  | ok _ => exact absurd (.inl rfl) h
  | error e => cases e with
    | notFound id => exact absurd (.inr ⟨id, rfl⟩) h
    | _ => rfl

theorem resume_retrying : resume .retrying c = .done ((forced c).map fun _ => .removed) := by
  cases c with
  | ok _ => rfl
  | error e => cases e <;> rfl

/-- Every removal takes one of the ways. -/
theorem way_run (serve : Server σ) (r : Removal) (s : σ) :
    Way r (r.run serve s .stopping).log (r.run serve s .stopping).outcome := by
  by_cases ha : IsAbsent (r.answer serve s .stopping)
  · rw [run_of_done (resume_stopping_absent ha)]
    exact .gone ha
  · rw [run_of_wait (resume_stopping ha)]
    generalize r.answer serve s .stopping = a at ha ⊢
    generalize (serve s (r.call .stopping)).2 = s
    cases a with
    | error e =>
      rw [Except.toBool, Bool.not_false, run_of_done resume_forced]
      exact .once ha nofun
    | ok u =>
      rw [Except.toBool, Bool.not_true]
      by_cases hb : r.answer serve s (.removing false) = .ok () ∨
          IsAbsent (r.answer serve s (.removing false))
      · rw [run_of_done (resume_unforced hb)]
        exact .once ha fun _ => hb
      · rw [run_of_wait (resume_unforced_failed hb), run_of_done resume_retrying]
        exact .twice hb

def Cleared (log : Log) : Prop := ∃ e ∈ log, e.1.kind = .remove ∧ e.2 = .ok ()

def EndsAbsent (log : Log) : Prop := ∃ c a, log.getLast? = some (c, a) ∧ IsAbsent a

/-- The container went between the two tries to remove it. -/
def Overtaken (log : Log) : Prop := log.length = 3 ∧ EndsAbsent log

theorem forced_eq_removed : forced b = .ok .removed ↔ b = .ok () := by
  cases b with
  | ok _ => simp [forced]
  | error e => cases e <;> simp [forced]

theorem forced_eq_alreadyGone : forced b = .ok .alreadyGone ↔ IsAbsent b := by
  cases b with
  | ok _ => simp [forced, IsAbsent]
  | error e => cases e <;> simp [forced, IsAbsent]

theorem forced_eq_error {e : RuntimeError} :
    forced b = .error e ↔ b = .error e ∧ ¬ IsAbsent b := by
  cases b with
  | ok _ => simp [forced]
  | error e' => cases e' <;> simp [forced, IsAbsent]

variable {log : Log}

theorem Way.removed_iff (h : Way r log x) : x = .ok .removed ↔ Cleared log ∨ Overtaken log := by
  cases h with
  | gone absent => simp [Cleared, Overtaken, call, Call.kind]
  | once present enough =>
    rw [forced_eq_removed]
    simp [Cleared, Overtaken, call, Call.kind]
  | @twice b c failed =>
    obtain ⟨hb, -⟩ := not_or.1 failed
    cases c with
    | ok u => simp [Cleared, forced, Except.map, call, Call.kind]
    | error e =>
      cases e <;>
        simp [Cleared, Overtaken, EndsAbsent, IsAbsent, forced, Except.map, call, Call.kind, hb]

theorem Way.alreadyGone_iff (h : Way r log x) :
    x = .ok .alreadyGone ↔ ¬ Cleared log ∧ EndsAbsent log ∧ ¬ Overtaken log := by
  cases h with
  | gone absent => simp [Cleared, Overtaken, EndsAbsent, call, Call.kind, absent]
  | @once a b present enough =>
    have hb : IsAbsent b → b ≠ .ok () := by
      rintro ⟨id, rfl⟩
      simp
    rw [forced_eq_alreadyGone]
    simpa [Cleared, Overtaken, EndsAbsent, call, Call.kind] using hb
  | @twice b c failed =>
    have h : ((forced c).map fun _ => Removed.removed) ≠ .ok .alreadyGone := by
      cases forced c <;> simp [Except.map]
    simp [Overtaken, h]

theorem Way.error_iff (h : Way r log x) (e : RuntimeError) :
    x = .error e ↔ (∃ c, log.getLast? = some (c, .error e)) ∧ ¬ EndsAbsent log := by
  cases h with
  | gone absent => simp [EndsAbsent, absent]
  | once present enough =>
    rw [forced_eq_error]
    simp [EndsAbsent]
  | @twice b c failed =>
    have h : ((forced c).map fun _ => Removed.removed) = .error e ↔ forced c = .error e := by
      cases forced c <;> simp [Except.map]
    rw [h, forced_eq_error]
    simp [EndsAbsent]

/-- The container is stopped once. Then it is removed in at most two tries, without force only if it was
stopped, and the second time always with force. -/
theorem Way.calls (h : Way r log x) : ∃ a removes, log = (.stop r.id r.timeout, a) :: removes ∧
    removes.length ≤ 2 ∧ (IsAbsent a → removes = []) ∧
    (∀ e ∈ removes, ∃ force, e.1 = .remove r.id ⟨force, r.volumes⟩ ∧ (force = false → a = .ok ())) ∧
    ∀ e, removes[1]? = some e → e.1 = .remove r.id ⟨true, r.volumes⟩ := by
  cases h with
  | gone absent => exact ⟨_, [], rfl, by simp, fun _ => rfl, by simp, by simp⟩
  | @once a b present enough =>
    have hforce : (!a.toBool) = false → a = .ok () := by
      cases a <;> simp [Except.toBool]
    refine ⟨_, [_], rfl, by simp, fun h => absurd h present, ?_, by simp⟩
    rintro e he
    obtain rfl := List.mem_singleton.1 he
    exact ⟨_, rfl, hforce⟩
  | twice failed =>
    refine ⟨_, [_, _], rfl, by simp, ?_, ?_, ?_⟩
    · rintro ⟨id, h⟩
      cases h
    · rintro e he
      obtain rfl | rfl : e = _ ∨ e = _ := by simpa using he
      · exact ⟨false, rfl, fun _ => rfl⟩
      · exact ⟨true, rfl, nofun⟩
    · rintro e he
      obtain rfl := Option.some.inj he
      rfl

/-- Whatever the runtime answers, the outcome is that the container was removed if one of the calls removed
it, that it was gone already if none did and the last one did not find it, and otherwise the failure of the
last call. But a container that goes between the two tries to remove it counts as removed. -/
theorem run_outcome (serve : Server σ) (r : Removal) (s : σ) :
    let x := r.run serve s .stopping
    (x.outcome = .ok .removed ↔ Cleared x.log ∨ Overtaken x.log) ∧
    (x.outcome = .ok .alreadyGone ↔ ¬ Cleared x.log ∧ EndsAbsent x.log ∧ ¬ Overtaken x.log) ∧
    (∀ e, x.outcome = .error e ↔
      (∃ c, x.log.getLast? = some (c, .error e)) ∧ ¬ EndsAbsent x.log) ∧
    ∃ a removes, x.log = (.stop r.id r.timeout, a) :: removes ∧ removes.length ≤ 2 ∧
      (IsAbsent a → removes = []) ∧
      (∀ e ∈ removes, ∃ force, e.1 = .remove r.id ⟨force, r.volumes⟩ ∧
        (force = false → a = .ok ())) ∧
      ∀ e, removes[1]? = some e → e.1 = .remove r.id ⟨true, r.volumes⟩ := by
  intro x
  have h : Way r x.log x.outcome := way_run serve r s
  exact ⟨h.removed_iff, h.alreadyGone_iff, h.error_iff, h.calls⟩

/-- The container goes between the two tries. -/
example :
    let serve : Server Nat := fun n c => (match n, c with
      | 0, .stop .. => .ok ()
      | 1, .remove .. => .error (.conflict "c1 is busy")
      | _, c => c.fail (.notFound "c1"), n + 1)
    let x := run serve ⟨"c1", .zero, false⟩ 0 .stopping
    x.outcome = .ok .removed ∧ x.log.map (·.2.toBool) = [true, false, false] := by
  intro serve x
  simp only [x]
  rw [run_of_wait (q := .removing false) rfl, run_of_wait (q := .retrying) rfl,
    run_of_done (x := .ok .removed) rfl]
  exact ⟨rfl, rfl⟩

end Removal

def Site.server (now : Timestamp) (uri : String) : Removal.Server Site := fun s c =>
  ((s.run now uri c).1.getD (c.fail (.http "")), (s.run now uri c).2)

theorem Site.carryOut_run {s s' : Site} {now : Timestamp} {uri : String} {r : Removal} {n : Nat}
    {p : Removal.Phase} {calls : List Call} {x : Except RuntimeError Removed}
    (h : s.carryOut now uri r n p = (calls, some x, s')) :
    let y := r.run (Site.server now uri) s p
    y.log.map (·.1) = calls ∧ y.outcome = x ∧ y.state = s' := by
  induction n generalizing s p calls with
  | zero => cases h
  | succ n ih =>
    rcases hrun : s.run now uri (r.call p) with ⟨o, s₁⟩
    rw [Site.carryOut, hrun] at h
    have hserve : Site.server now uri s (r.call p) = (o.getD ((r.call p).fail (.http "")), s₁) := by
      rw [Site.server, hrun]
    cases o with
    | none => cases h
    | some a =>
      have hanswer : r.answer (Site.server now uri) s p = r.reply p a := by
        rw [Removal.answer, hserve]
        rfl
      simp only at h
      split at h
      · rename_i y hy
        rw [Removal.run_of_done (hanswer ▸ hy), hserve]
        cases h
        exact ⟨rfl, rfl, rfl⟩
      · rename_i q hq
        rcases hrest : s₁.carryOut now uri r n q with ⟨rest, y, s₂⟩
        rw [hrest] at h
        cases h
        obtain ⟨hcalls, hy, hs⟩ := ih hrest
        rw [Removal.run_of_wait (hanswer ▸ hq), hserve]
        exact ⟨congrArg _ hcalls, hy, hs⟩

end ContainerFleet
