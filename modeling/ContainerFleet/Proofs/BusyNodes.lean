import ContainerFleet.Proofs.ReapPass
import ContainerFleet.Proofs.Scene

namespace ContainerFleet

def Stage.reap? (f : Fleet) (m : Moment) (g : Stage) (parts : List Nat) :
    Option (ReapReport × Stage) :=
  match g.run f m (.reap (.looking m.wall)) parts with
  | some (.done (.reaped r), g') => some (r, g')
  | _ => none

def Stage.withRegistry (g : Stage) (r : Registry) : Stage :=
  { g with state := { g.state with registry := r } }

/-- What registrations of idle nodes, reports on tasks and passes over the nodes lead to, while
anything may happen to the runtimes. The reports are those of the passes so far. -/
inductive Reaped (f : Fleet) : Stage → List ReapReport → Prop where
  | start {g : Stage} (idle : ∀ k n, g.state.registry.get? k = some n →
      n.name = k ∧ n.state = .registered ∧ n.activity.busy = 0) : Reaped f g []
  | register {g : Stage} {reports : List ReapReport} {n : Node} {r : Registry}
      (before : Reaped f g reports) (idle : n.state = .registered ∧ n.activity.busy = 0)
      (ok : g.state.registry.register n = .ok r) : Reaped f (g.withRegistry r) reports
  | taskStarted {g : Stage} {reports : List ReapReport} {name : String} {r : Registry}
      (before : Reaped f g reports) (ok : g.state.registry.taskStarted name = .ok r) :
      Reaped f (g.withRegistry r) reports
  | taskFinished {g : Stage} {reports : List ReapReport} {name : String} {now : Timestamp}
      {r : Registry} (before : Reaped f g reports)
      (ok : g.state.registry.taskFinished name now = .ok r) : Reaped f (g.withRegistry r) reports
  | runtimes {g : Stage} {reports : List ReapReport} {sites : String → Memory}
      (before : Reaped f g reports) : Reaped f { g with sites } reports
  | pass {g g' : Stage} {reports : List ReapReport} {m : Moment} {parts : List Nat} {r : ReapReport}
      (before : Reaped f g reports) (reap : g.reap? f m parts = some (r, g')) :
      Reaped f g' (reports ++ [r])

variable {f : Fleet} {g g' : Stage} {reports : List ReapReport} {m : Moment} {parts : List Nat}
  {r : ReapReport}

theorem Reap.pass_progressed (hr : g.state.registry.Keyed) (h : g.reap? f m parts = some (r, g')) :
    Reap.Progressed f m.wall g g' ((Reap.dueNodes f m.wall g.state.registry).map (·.name))
      ((Reap.dueNodes f m.wall g.state.registry).map (·.name)) r := by
  unfold Stage.reap? at h
  split at h
  · rename_i r₁ g₁ hrun
    obtain ⟨rfl, rfl⟩ := Prod.ext_iff.1 (Option.some.inj h)
    have hon := Stage.run_induction (P := Reap.OnPass f m.wall g)
      (fun _ _ _ _ _ hp hs => Reap.step_onPass hr hp hs) .looking hrun
    cases hon with
    | ended hprog => exact hprog
  · cases h

/-- Terminations that were begun and did not come to their end have failed in an earlier pass. -/
structure Reaped.Sound (reports : List ReapReport) (r : Registry) : Prop where
  keyed : r.Keyed
  failed : ∀ k n, r.get? k = some n → n.state = .terminating →
    ∃ report ∈ reports, report.failures.contains k = true

theorem Reaped.Sound.insert {r : Registry} (h : Sound reports r) {n : Node} {name : String}
    (hname : n.name = name)
    (hs : n.state = .terminating → ∃ x, r.get? name = some x ∧ x.state = .terminating) :
    Sound reports (Dict.insert r name n) := by
  refine ⟨h.keyed.insert hname, fun k x hx hst => ?_⟩
  rw [Dict.get?_insert] at hx
  split at hx
  · rename_i hk
    obtain rfl := Option.some.inj hx
    obtain ⟨y, hy, hyst⟩ := hs hst
    exact hk ▸ h.failed name y hy hyst
  · exact h.failed k x hx hst

theorem Reaped.sound (h : Reaped f g reports) : Sound reports g.state.registry := by
  induction h with
  | start idle =>
    refine ⟨fun k n hn => (idle k n hn).1, fun k n hn hs => ?_⟩
    rw [(idle k n hn).2.1] at hs
    cases hs
  | register _ idle ok ih =>
    obtain ⟨_, rfl⟩ := Registry.register_ok ok
    refine ih.insert rfl fun hs => ?_
    rw [idle.1] at hs
    cases hs
  | taskStarted _ ok ih =>
    obtain ⟨n, n', hn, rfl, hname, hs⟩ := Registry.taskStarted_ok ok
    exact ih.insert (hname.trans (ih.keyed _ n hn)) fun h => ⟨n, hn, hs h⟩
  | taskFinished _ ok ih =>
    obtain ⟨n, n', hn, rfl, hname, hs⟩ := Registry.taskFinished_ok ok
    exact ih.insert (hname.trans (ih.keyed _ n hn)) fun h => ⟨n, hn, hs h⟩
  | runtimes _ ih => exact ih
  | @pass g g' reports m parts r _ reap ih =>
    have hp := Reap.pass_progressed ih.keyed reap
    refine ⟨hp.keyed, fun k n hn hs => ?_⟩
    by_cases hk : k ∈ (Reap.dueNodes f m.wall g.state.registry).map (·.name)
    · obtain hnone | hfail := hp.gone k hk
      · rw [hnone] at hn
        cases hn
      · exact ⟨r, by simp, hfail⟩
    · rw [hp.frame k hk] at hn
      obtain ⟨report, hm, hfail⟩ := ih.failed k n hn hs
      exact ⟨report, List.mem_append_left _ hm, hfail⟩

/-- A pass goes for a node that is busy just if an earlier pass has failed on it and left it in the middle
of its termination. Otherwise it leaves the node alone. -/
theorem pass_over_busy_node (h : Reaped f g reports) (hp : g.reap? f m parts = some (r, g')) :
    (∀ k n, g.state.registry.get? k = some n → 0 < n.activity.busy →
      (k ∈ r.terminated.map (·.name) ∨ r.failures.contains k = true ↔ n.state = .terminating) ∧
      (n.state = .terminating → ∃ report ∈ reports, report.failures.contains k = true) ∧
      (n.state ≠ .terminating → g'.state.registry.get? k = some n)) ∧
    ∃ calls, g'.calls = g.calls ++ calls ∧ ∀ x ∈ calls, ∃ k n c p,
      g.state.registry.get? k = some n ∧ (n.activity.busy = 0 ∨ n.state = .terminating) ∧
      f.cloud? n.cloud.text = some c ∧ x = (c.endpoint.uri, (Termination.removal n c).call p) := by
  have hs := h.sound
  have hprog := Reap.pass_progressed hs.keyed hp
  constructor
  · intro k n hn hb
    have hdue : k ∈ (Reap.dueNodes f m.wall g.state.registry).map (·.name) ↔
        n.state = .terminating := by
      have hbusy : (Reap.due f m.wall n).isSome = true ↔ n.state = .terminating :=
        Reap.due_of_busy hb
      rw [Reap.mem_dueNodes hs.keyed, ← hbusy]
      constructor
      · rintro ⟨n', hn', hd⟩
        exact Option.some.inj (hn'.symm.trans hn) ▸ hd
      · exact fun hd => ⟨n, hn, hd⟩
    refine ⟨?_, hs.failed k n hn, fun hne => ?_⟩
    · rw [← hprog.reported, hdue]
    · rw [hprog.frame k fun hin => hne (hdue.1 hin), hn]
  · obtain ⟨calls, hcalls, haims⟩ := hprog.calls
    refine ⟨calls, hcalls, fun x hx => ?_⟩
    obtain ⟨k, n, c, p, hn, hd, hc, rfl⟩ := haims x hx
    refine ⟨k, n, c, p, hn, ?_, hc, rfl⟩
    by_cases hb : n.activity.busy = 0
    · exact .inl hb
    · exact .inr ((Reap.due_of_busy (Nat.pos_of_ne_zero hb)).1 hd)

def Stage.sample (broken : List CallKind) : Stage :=
  { sites := sampleSites broken
    state := { State.initial (.ofSecs 300) 8 with
      registry := Dict.empty.insert "n1" Node.sample } }

def Stage.history? (g : Stage) : Option (ReapReport × Registry × ReapReport × Stage) :=
  (g.reap? .one { Moment.sample 1 with wall := .ofSecs 900 } (List.replicate 6 0)).bind fun x =>
    (x.2.state.registry.taskStarted "n1").toOption.bind fun registry =>
      (({ x.2 with sites := sampleSites [] }.withRegistry registry).reap? .one
        { Moment.sample 1 with wall := .ofSecs 1200 } (List.replicate 7 0)).map fun y =>
          (x.1, registry, y)

/-- The removal of an idle node fails, the node gets a task, and the next pass removes it. -/
theorem pass_over_busy_node_sample :
    ∃ (g g' : Stage) (reports : List ReapReport) (r : ReapReport) (n : Node),
      Reaped .one g reports ∧
      g.reap? .one { Moment.sample 1 with wall := .ofSecs 1200 } (List.replicate 7 0) =
        some (r, g') ∧
      g.state.registry.get? "n1" = some n ∧ n.activity.busy = 1 ∧
      (∃ report ∈ reports, report.failures.contains "n1" = true) ∧
      g'.state.registry.get? "n1" = none := by
  have hrun : (Stage.sample [.remove]).history?.map
      (fun x => ((x.2.1.get? "n1").map (·.activity.busy), (x.2.1.get? "n1").map (·.state),
        x.2.2.2.state.registry.contains "n1")) = some (some 1, some .terminating, false) := by decide
  obtain ⟨⟨r₁, registry, r, g'⟩, hh, hfacts⟩ := Option.map_eq_some_iff.1 hrun
  obtain ⟨⟨r₁', g₁⟩, h₁, hh⟩ := Option.bind_eq_some_iff.1 hh
  obtain ⟨registry', hreg, hh⟩ := Option.bind_eq_some_iff.1 hh
  obtain ⟨⟨r', g₂⟩, h₂, hh⟩ := Option.map_eq_some_iff.1 hh
  simp only [Prod.mk.injEq] at hh hfacts
  obtain ⟨rfl, rfl, rfl, rfl⟩ := hh
  obtain ⟨hbusy, hstate, hgone⟩ := hfacts
  obtain ⟨n, hn, hb⟩ := Option.map_eq_some_iff.1 hbusy
  have hs : n.state = .terminating := by simpa [hn] using hstate
  have hok : g₁.state.registry.taskStarted "n1" = .ok registry' := by
    cases hr : g₁.state.registry.taskStarted "n1" with
    | ok x => rw [hr] at hreg; exact congrArg _ (Option.some.inj hreg)
    | error e => rw [hr] at hreg; cases hreg
  have hreaped : Reaped .one ({ g₁ with sites := Stage.sampleSites [] }.withRegistry registry')
      ([] ++ [r₁']) := by
    refine .taskStarted (.runtimes (.pass (.start fun k n hk => ?_) h₁)) hok
    obtain ⟨rfl, rfl⟩ : k = "n1" ∧ n = Node.sample := by
      have hk' : (Dict.empty.insert "n1" Node.sample).get? k = some n := hk
      rw [Dict.get?_insert] at hk'
      split at hk'
      · exact ⟨‹_›, (Option.some.inj hk').symm⟩
      · cases hk'
    exact ⟨rfl, rfl, rfl⟩
  obtain ⟨hall, _⟩ := pass_over_busy_node hreaped h₂
  obtain ⟨_, hearlier, _⟩ := hall "n1" n hn (by omega)
  refine ⟨_, _, _, _, n, hreaped, h₂, hn, hb, hearlier hs, ?_⟩
  simpa [Dict.contains] using hgone

end ContainerFleet
