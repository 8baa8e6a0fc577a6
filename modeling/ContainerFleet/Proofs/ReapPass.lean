import ContainerFleet.Proofs.Registry
import ContainerFleet.Proofs.Stage

namespace ContainerFleet

namespace Termination

variable {f : Fleet} {name : String} {before : Registry} {s : State} {m : Moment}

def Knows (f : Fleet) (name : String) (before now : Registry) : Phase → Prop
  | .lookingUp => now.get? name = before.get? name
  | .marking n c => before.get? name = some n ∧ f.cloud? n.cloud.text = some c
  | .removing c r _ =>
    ∃ n, before.get? name = some n ∧ f.cloud? n.cloud.text = some c ∧ r = removal n c
  | .markingGone | .unregistering => True

/-- A termination changes the entry of its node only, and if it succeeds the entry is gone. -/
structure Confined (f : Fleet) (name : String) (before : Registry) (s : State)
    (t : Turn Phase Result) : Prop where
  frame : ∀ k, k ≠ name → t.state.registry.get? k = s.registry.get? k
  knows : ∀ p, t.progress = .wait p → Knows f name before t.state.registry p
  gone : t.progress = .done (.ok ()) → t.state.registry.get? name = none
  keyed : s.registry.Keyed → t.state.registry.Keyed

theorem confined_stop (e : ProvisionError) {s' : State}
    (h : ∀ k, k ≠ name → s'.registry.get? k = s.registry.get? k)
    (hk : s.registry.Keyed → s'.registry.Keyed) : Confined f name before s (stop s' e) := by
  refine ⟨h, fun p hp => ?_, fun hd => ?_, hk⟩
  · cases hp
  · cases hd

theorem registry_lease (c : Cloud) : (s.lease m c).2.registry = s.registry := rfl

theorem mark_confined {n : Node} {c : Cloud} (h : Knows f name before s.registry (.marking n c)) :
    Confined f name before s (mark name s m n c) := by
  unfold mark
  split
  · exact confined_stop _ (fun _ _ => rfl) id
  · rename_i registry hr
    obtain ⟨x, hx, rfl⟩ := Registry.setState_ok hr
    have hframe : ∀ k, k ≠ name →
        (Dict.insert s.registry name { x with state := .terminating }).get? k = s.registry.get? k :=
      fun k hk => by rw [Dict.get?_insert, if_neg hk]
    have hkeyed : s.registry.Keyed →
        Registry.Keyed (Dict.insert s.registry name { x with state := .terminating }) :=
      fun hk => hk.insert (hk name x hx)
    have hl := registry_lease (s := { s with
      registry := Dict.insert s.registry name { x with state := .terminating } }) (m := m) c
    split <;> rename_i hlease <;> rw [hlease] at hl
    · exact confined_stop _ (fun k hk => by rw [hl]; exact hframe k hk) (by rw [hl]; exact hkeyed)
    · refine ⟨fun k hk => by rw [hl]; exact hframe k hk, fun p hp => ?_, fun hd => ?_,
        by rw [hl]; exact hkeyed⟩
      · cases hp
        exact ⟨n, h.1, h.2, rfl⟩
      · cases hd

theorem resume_confined (p : Phase) (a : (wait p).Answer) (h : Knows f name before s.registry p) :
    Confined f name before s (resume f name s m p a) := by
  cases p with
  | lookingUp =>
    simp only [resume, lookUp]
    split
    · exact confined_stop _ (fun _ _ => rfl) id
    · rename_i n hn
      split
      · exact confined_stop _ (fun _ _ => rfl) id
      · rename_i c hc
        refine ⟨fun _ _ => rfl, fun p hp => ?_, fun hd => ?_, id⟩
        · cases hp
          exact ⟨h.symm.trans hn, hc⟩
        · cases hd
  | marking n c => exact mark_confined h
  | removing c r p =>
    simp only [resume, remove]
    split
    · refine ⟨fun _ _ => rfl, fun q hq => ?_, fun hd => ?_, id⟩
      · cases hq
        exact h
      · cases hd
    · exact confined_stop _ (fun _ _ => rfl) id
    · refine ⟨fun _ _ => rfl, fun q hq => ?_, fun hd => ?_, id⟩
      · cases hq
        trivial
      · cases hd
  | markingGone =>
    simp only [resume, markGone]
    split
    · exact confined_stop _ (fun _ _ => rfl) id
    · rename_i registry hr
      obtain ⟨x, hx, rfl⟩ := Registry.setState_ok hr
      refine ⟨fun k hk => ?_, fun q hq => ?_, fun hd => ?_, fun hk => hk.insert (hk name x hx)⟩
      · simp [hk]
      · cases hq
        trivial
      · cases hd
  | unregistering =>
    simp only [resume, unregister]
    split
    · exact confined_stop _ (fun _ _ => rfl) id
    · rename_i n registry hr
      obtain ⟨_, rfl⟩ := Registry.remove_ok hr
      refine ⟨fun k hk => ?_, fun p hp => ?_, fun _ => ?_, fun hk => hk.erase⟩
      · simp [hk]
      · cases hp
      · simp

end Termination

namespace Reap

variable {f : Fleet} {now : Timestamp} {r : Registry} {m : Moment} {g₀ g : Stage} {k : String}

def dueNodes (f : Fleet) (now : Timestamp) (r : Registry) : List DueNode :=
  r.values.filterMap fun n => (due f now n).map (⟨n.name, ·⟩)

theorem names_dueNodes (hr : r.Keyed) :
    (dueNodes f now r).map (·.name) =
      (r.entries.filter fun e => (due f now e.2).isSome).map (·.1) := by
  have hkey : ∀ e ∈ r.entries, e.2.name = e.1 := fun e he => hr e.1 e.2 (Dict.get?_eq_some_iff.2 he)
  rw [dueNodes, Dict.values]
  generalize r.entries = es at hkey
  induction es with
  | nil => rfl
  | cons e es ih =>
    have ih := ih fun x hx => hkey x (List.mem_cons_of_mem _ hx)
    cases hd : due f now e.2 with
    | none => simpa [hd] using ih
    | some reason => simpa [hd, hkey e List.mem_cons_self] using ih

theorem nodup_dueNodes (hr : r.Keyed) : ((dueNodes f now r).map (·.name)).Nodup := by
  rw [names_dueNodes hr]
  exact r.keys_nodup.sublist (List.filter_sublist.map _)

theorem mem_dueNodes (hr : r.Keyed) :
    k ∈ (dueNodes f now r).map (·.name) ↔ ∃ n, r.get? k = some n ∧ (due f now n).isSome = true := by
  simp only [names_dueNodes hr, List.mem_map, List.mem_filter, Dict.get?_eq_some_iff]
  constructor
  · rintro ⟨e, ⟨he, hd⟩, rfl⟩
    exact ⟨e.2, he, hd⟩
  · rintro ⟨n, he, hd⟩
    exact ⟨(k, n), ⟨he, hd⟩, rfl⟩

/-- A busy node is due only if its termination was begun before. -/
theorem due_of_busy {n : Node} (h : 0 < n.activity.busy) :
    (due f now n).isSome = true ↔ n.state = .terminating := by
  unfold due
  split
  · rename_i hs
    simp [hs]
  · rename_i hs
    split
    · simp [RetentionPolicy.verdict, h, hs]
    · simp [hs]

def Aims (f : Fleet) (now : Timestamp) (r : Registry) (x : String × Call) : Prop :=
  ∃ k n c p, r.get? k = some n ∧ (due f now n).isSome = true ∧ f.cloud? n.cloud.text = some c ∧
    x = (c.endpoint.uri, (Termination.removal n c).call p)

/-- What a pass has done, after it went for the nodes `done`, and touched no others than `touched`. -/
structure Progressed (f : Fleet) (now : Timestamp) (g₀ g : Stage) (done touched : List String)
    (report : ReapReport) : Prop where
  reported : ∀ k, k ∈ done ↔
    k ∈ report.terminated.map (·.name) ∨ report.failures.contains k = true
  frame : ∀ k, k ∉ touched → g.state.registry.get? k = g₀.state.registry.get? k
  gone : ∀ k ∈ done, g.state.registry.get? k = none ∨ report.failures.contains k = true
  keyed : g.state.registry.Keyed
  calls : ∃ new, g.calls = g₀.calls ++ new ∧ ∀ x ∈ new, Aims f now g₀.state.registry x

inductive OnPass (f : Fleet) (now : Timestamp) (g₀ : Stage) :
    Progress Job JobResult → Stage → Prop where
  | looking : OnPass f now g₀ (.wait (.reap (.looking now))) g₀
  | terminating {g : Stage} {done : List String} {n : DueNode} {p : Termination.Phase}
      {rest : List DueNode} {report : ReapReport}
      (due : (dueNodes f now g₀.state.registry).map (·.name) = done ++ n.name :: rest.map (·.name))
      (progressed : Progressed f now g₀ g done (n.name :: done) report)
      (knows : Termination.Knows f n.name g₀.state.registry g.state.registry p) :
      OnPass f now g₀ (.wait (.reap (.terminating n p rest report))) g
  | ended {g : Stage} {report : ReapReport}
      (progressed : Progressed f now g₀ g ((dueNodes f now g₀.state.registry).map (·.name))
        ((dueNodes f now g₀.state.registry).map (·.name)) report) :
      OnPass f now g₀ (.done (.reaped report)) g

theorem not_mem_done (hr : g₀.state.registry.Keyed) {done : List String} {n : DueNode}
    {rest : List DueNode}
    (hdue : (dueNodes f now g₀.state.registry).map (·.name) = done ++ n.name :: rest.map (·.name)) :
    n.name ∉ done := by
  have hnd : ((dueNodes f now g₀.state.registry).map (·.name)).Nodup := nodup_dueNodes hr
  rw [hdue] at hnd
  exact fun hin => (List.nodup_append.1 hnd).2.2 _ hin _ List.mem_cons_self rfl

theorem goOn_onPass (hr : g₀.state.registry.Keyed) {done : List String} {rest : List DueNode}
    {report : ReapReport}
    (hdue : (dueNodes f now g₀.state.registry).map (·.name) = done ++ rest.map (·.name))
    (h : Progressed f now g₀ g done done report) :
    OnPass f now g₀ ((goOn g.state report rest).map Job.reap JobResult.reaped).progress
      { g with state := (goOn g.state report rest).state } := by
  cases rest with
  | nil =>
    rw [List.map_nil, List.append_nil] at hdue
    exact .ended (hdue ▸ h)
  | cons n rest =>
    have hn := not_mem_done hr hdue
    refine .terminating hdue ⟨h.reported, fun k hk => ?_, h.gone, h.keyed, h.calls⟩ (h.frame _ hn)
    exact h.frame k fun hin => hk (List.mem_cons_of_mem _ hin)

theorem aims_of_knows {now₁ : Registry} {p : Termination.Phase}
    (hr : r.Keyed) (hk : k ∈ (dueNodes f now r).map (·.name))
    (h : Termination.Knows f k r now₁ p) : ∀ x ∈ (Termination.wait p).calls, Aims f now r x := by
  intro x hx
  cases p with
  | removing c rm q =>
    obtain ⟨n, hn, hc, rfl⟩ := h
    obtain ⟨n', hn', hd⟩ := (mem_dueNodes hr).1 hk
    obtain rfl : n' = n := Option.some.inj (hn'.symm.trans hn)
    exact ⟨k, n', c, q, hn, hd, hc, List.mem_singleton.1 hx⟩
  | _ => cases hx

theorem Progressed.finish {g' : Stage} {done : List String} {n : DueNode}
    {report report' : ReapReport} (h : Progressed f now g₀ g done (n.name :: done) report)
    (hframe : ∀ k, k ≠ n.name → g'.state.registry.get? k = g.state.registry.get? k)
    (hkeyed : g'.state.registry.Keyed)
    (hcalls : ∃ new, g'.calls = g₀.calls ++ new ∧ ∀ x ∈ new, Aims f now g₀.state.registry x)
    (hreported : ∀ k, k ∈ report'.terminated.map (·.name) ∨ report'.failures.contains k = true ↔
      k = n.name ∨ k ∈ report.terminated.map (·.name) ∨ report.failures.contains k = true)
    (hend : g'.state.registry.get? n.name = none ∨ report'.failures.contains n.name = true)
    (hmore : ∀ k, report.failures.contains k = true → report'.failures.contains k = true) :
    Progressed f now g₀ g' (done ++ [n.name]) (done ++ [n.name]) report' := by
  refine ⟨fun k => ?_, fun k hk => ?_, fun k hk => ?_, hkeyed, hcalls⟩
  · rw [hreported, ← h.reported, List.mem_append, List.mem_singleton, or_comm]
  · rw [List.mem_append, List.mem_singleton, not_or] at hk
    rw [hframe k hk.2]
    exact h.frame k fun hin => (List.mem_cons.1 hin).elim hk.2 hk.1
  · by_cases hn : k = n.name
    · exact hn ▸ hend
    · have hin : k ∈ done := by simpa [hn] using hk
      exact (h.gone k hin).imp (hframe k hn).trans (hmore k)

theorem step_onPass (hr : g₀.state.registry.Keyed) {j : Job} {part : Nat} {g' : Stage}
    {p : Progress Job JobResult} (h : OnPass f now g₀ (.wait j) g)
    (hs : g.step f m j part = some (p, g')) : OnPass f now g₀ p g' := by
  obtain ⟨x, a, g₁, hx, hserve, rfl, rfl⟩ := Stage.step_eq_some hs
  obtain ⟨hstate, hcalls⟩ := Stage.serve_frame hserve
  cases h with
  | looking =>
    obtain ⟨rfl, rfl⟩ := Prod.ext_iff.1 (List.mem_singleton.1 hx)
    obtain ⟨_, rfl⟩ := Prod.ext_iff.1 (Option.some.inj hserve)
    have hdue : (dueNodes f now g₀.state.registry).map (·.name) =
        [] ++ (dueNodes f now g₀.state.registry).map (·.name) := rfl
    refine goOn_onPass hr hdue ⟨fun k => ?_, fun _ _ => rfl, ?_, hr, ?_⟩
    · simp [Dict.contains]
    · intro k hk
      cases hk
    · refine ⟨[], (List.append_nil _).symm, fun x hx => ?_⟩
      cases hx
  | @terminating g done n q rest report hdue hprog hknows =>
    obtain ⟨rfl, rfl⟩ := Prod.ext_iff.1 (List.mem_singleton.1 hx)
    have hin : n.name ∈ (dueNodes f now g₀.state.registry).map (·.name) := by simp [hdue]
    have hnew : ∃ new, g₁.calls = g₀.calls ++ new ∧ ∀ x ∈ new, Aims f now g₀.state.registry x := by
      obtain ⟨new, hnew, haims⟩ := hprog.calls
      refine ⟨new ++ (Termination.wait q).calls, ?_, fun x hx => ?_⟩
      · rw [hcalls, hnew, List.append_assoc]
        rfl
      · obtain hx | hx := List.mem_append.1 hx
        · exact haims x hx
        · exact aims_of_knows hr hin hknows x hx
    have hc : Termination.Confined f n.name g₀.state.registry g₁.state
        (Termination.resume f n.name g₁.state m q a) :=
      Termination.resume_confined q a (hstate ▸ hknows)
    simp only [Pending.map, pending, resume, continueWith]
    generalize Termination.resume f n.name g₁.state m q a = t at hc
    have hframe : ∀ k, k ≠ n.name → t.state.registry.get? k = g.state.registry.get? k := by
      rw [← hstate]
      exact hc.frame
    have hkeyed : t.state.registry.Keyed := hc.keyed (hstate ▸ hprog.keyed)
    cases hp : t.progress with
    | wait q' =>
      refine .terminating hdue ⟨hprog.reported, fun k hk => ?_, fun k hk => ?_, hkeyed, hnew⟩
        (hc.knows q' hp)
      · exact (hframe k fun h => hk (h ▸ List.mem_cons_self)).trans (hprog.frame k hk)
      · have hne : k ≠ n.name := fun h => not_mem_done hr hdue (h ▸ hk)
        exact (hprog.gone k hk).imp_left (hframe k hne).trans
    | done res =>
      have hdue' : (dueNodes f now g₀.state.registry).map (·.name) =
          done ++ [n.name] ++ rest.map (·.name) := by simp [hdue]
      cases res with
      | ok u =>
        refine goOn_onPass (g := { g₁ with state := t.state }) hr hdue'
          (hprog.finish hframe hkeyed hnew (fun k => ?_) (.inl (hc.gone hp)) fun _ h => h)
        simp only [List.map_append, List.map_cons, List.map_nil, List.mem_append, List.mem_singleton]
        rw [or_assoc, or_left_comm]
      | error e =>
        refine goOn_onPass (g := { g₁ with state := t.state }) hr hdue'
          (hprog.finish hframe hkeyed hnew (fun k => ?_) (.inr ?_) fun k hk => ?_)
        · simp only [Dict.contains_insert, Bool.or_eq_true, decide_eq_true_eq]
          rw [or_left_comm]
        · simp
        · simp [hk]

end Reap

end ContainerFleet
