import ContainerFleet.Proofs.SweepHistory

namespace ContainerFleet

theorem Memory.get?_react_of_victim? {m : Memory} {now : Timestamp} {c : Call} {r : Reaction} {id : String}
    (hc : c.livens = false) (hv : c.victim? ≠ some id) : (m.react now c r).2.get? id = m.get? id := by
  have hculls : m.Culls (fun k _ => c.victim? = some k) (m.answer now c).2 :=
    answer_culls hc fun _ _ hk _ => hk
  cases r with
  | refuses e => rfl
  | _ => exact hculls.get?_eq fun _ _ => hv

namespace CloudSweep

variable {f : Fleet} {c : Cloud} {nodes : Registry} {told : (call : Call) → call.Outcome → Prop}
  {went : Moment → Prop} {uri id : String} {call : Call}

/-- A sweep stops and removes only what was loose and older than the grace when it compared. -/
theorem doomed_of_victim? {p : Phase} (h : Course f c nodes told went (.wait p))
    (hw : wait f c p = .call uri call) (hv : call.victim? = some id) :
    ∃ ys m, Examined f c told ys [] ∧ went m ∧ Doomed f c nodes m.wall ys id := by
  cases h with
  | starting => cases hw
  | listing =>
    obtain ⟨-, rfl⟩ := Wait.call.inj hw
    cases hv
  | inspecting =>
    obtain ⟨-, rfl⟩ := Wait.call.inj hw
    cases hv
  | @removing ys m r q rest report examined compared due found =>
    obtain ⟨-, rfl⟩ := Wait.call.inj hw
    obtain rfl := Option.some.inj ((Removal.victim?_call r q).symm.trans hv)
    exact ⟨ys, m, examined, compared, due r List.mem_cons_self⟩

end CloudSweep

def Strand.coming? : Strand → Option Node
  | .underWay (.creation _ (.registering n)) _ => some n
  | _ => none

def Strand.sweep? : Strand → Option Sweep.Phase
  | .underWay (.sweep q) _ => some q
  | _ => none

theorem Strand.eq_of_sweep? {x : Strand} {q : Sweep.Phase} (h : x.sweep? = some q) :
    ∃ replies, x = .underWay (.sweep q) replies := by
  unfold sweep? at h
  split at h
  · obtain rfl := Option.some.inj h
    exact ⟨_, rfl⟩
  · cases h

namespace Scene

variable {f : Fleet} {may : String → Dict String → Bool} {s s₁ s' : Scene} {moves : List Move}
  {k part : Nat} {now : Timestamp} {r : Reaction} {q : Sweep.Phase} {replies : List Reply}
  {uri id : String}

theorem waits_of_react (h : s.react f k part now r = some s')
    (hlost : (s'.sites uri).get? id ≠ (s.sites uri).get? id) :
    ∃ call, s.Waits f k part uri call ∧
      ((s.sites uri).react now call r).2.get? id ≠ (s.sites uri).get? id := by
  simp only [react] at h
  split at h
  · rename_i j replies hj
    split at h
    · rename_i uri' call hw
      split at h
      · cases h
      · obtain rfl := Option.some.inj h
        by_cases hu : uri = uri'
        · subst hu
          exact ⟨call, ⟨j, replies, hj, hw⟩, by simpa [deliver, setSite] using hlost⟩
        · exact absurd (by simp [deliver, setSite, hu]) hlost
    · cases h
  · cases h

theorem course_of_waits {call : Call} (hk : s.strands.length ≤ k) (h : s.play f may moves = some s₁)
    (hsweep : s₁.strands[k]? = some (.underWay (.sweep q) replies)) (hw : s₁.Waits f k part uri call) :
    ∃ c nodes after p, f.clouds[part]? = some c ∧ c.endpoint.uri = uri ∧
      Looked f may s moves k nodes after ∧ CloudSweep.wait f c p = .call uri call ∧
      CloudSweep.Course f c nodes (Told f may s moves k part uri) (Went after k part) (.wait p) := by
  obtain ⟨j, replies', hj, hw⟩ := hw
  obtain ⟨rfl, rfl⟩ := Strand.underWay.inj (Option.some.inj (hsweep.symm.trans hj))
  cases q with
  | looking => exact absurd hw wait_looking_ne
  | sweeping nodes strands =>
    obtain ⟨c, p, hi, hwait, rfl⟩ := mem_pending_of_waits hw
    have hcourse : OnCourse f may s moves k nodes strands replies := play_history hk h hsweep
    obtain ⟨after, hlooked, hparts⟩ := hcourse.parts
    exact ⟨c, nodes, after, p, hcourse.getElem?_clouds hi, rfl, hlooked, hwait, hparts part _ hi⟩

/-- Whatever else goes on, a container that a sweep stops or removes was listed for its cloud, its node
was not live when the sweep began, and it was older than the grace when the sweep compared. -/
theorem sweep_removes_doomed (hk : s.strands.length ≤ k) (h : s.play f may moves = some s₁)
    (hsweep : s₁.strands[k]? = some (.underWay (.sweep q) replies))
    (hmove : s₁.move f may (.react k part now r) = some s')
    (hlost : (s'.sites uri).get? id ≠ (s₁.sites uri).get? id) :
    ∃ c nodes after ys m, f.clouds[part]? = some c ∧ c.endpoint.uri = uri ∧
      Looked f may s moves k nodes after ∧ Went after k part m ∧
      CloudSweep.Examined f c (Told f may s moves k part uri) ys [] ∧
      CloudSweep.Doomed f c nodes m.wall ys id := by
  obtain ⟨call, hw, hcall⟩ := waits_of_react hmove hlost
  obtain ⟨c, nodes, after, p, hc, hu, hlooked, hwait, hcourse⟩ := course_of_waits hk h hsweep hw
  have hspares := CloudSweep.wait_spares (f := f) (c := c) p
  rw [hwait] at hspares
  -- A sweep creates and starts nothing, so that the call stops or removes the container.
  have hv : call.victim? = some id := by
    by_contra hne
    exact hcall (Memory.get?_react_of_victim? (by simpa [Wait.spares] using hspares) hne)
  obtain ⟨ys, m, hexamined, hwent, hdoomed⟩ := CloudSweep.doomed_of_victim? hcourse hwait hv
  exact ⟨c, nodes, after, ys, m, hc, hu, hlooked, hwent, hexamined, hdoomed⟩

def late : Moment := { Moment.sample 2 with wall := .ofSecs 61, ticks := .ofSecs 61 }

/-- A sweep begins while a node is being created, lists its container and waits for the inspection until
the container is older than the grace. Then it stops the container. -/
def overtaken : List Move :=
  .request (.sample 1) none 1 :: Move.decideOnce 0 1 ++ .goOn 1 0 (.sample 1) true ::
    Move.callOnce 1 (.sample 1) ++ Move.callOnce 1 (.sample 1) ++
    [.sweep, .goOn 2 0 (.sample 1) true, .goOn 2 0 (.sample 1) true] ++
    Move.callOnce 2 (.sample 1) ++ Move.callOnce 2 late ++ Move.callOnce 2 late

def removal : Move := .react 2 0 late.wall .obeys

def newcomer : Node :=
  { id := ⟨.ofNat 1⟩
    name := "docker-00000000000000000000000001"
    cloud := CloudName.sample
    template := TemplateName.sample
    containerId := "000000000001"
    executors := 1
    state := .registered
    launcher := .attach "000000000001" none
    createdAt := .epoch
    activity := .idle .epoch }

theorem sweep_removes_doomed_overtaken : ∃ s s' nodes after ys m c,
    sample.play .one (fun _ _ => false) overtaken = some s ∧
    s.move .one (fun _ _ => false) removal = some s' ∧
    (s'.sites "tcp://h:1").get? newcomer.containerId ≠
      (s.sites "tcp://h:1").get? newcomer.containerId ∧
    Looked .one (fun _ _ => false) sample overtaken 2 nodes after ∧ Went after 2 0 m ∧
    CloudSweep.Doomed .one c nodes m.wall ys newcomer.containerId := by
  have hrun : (sample.play .one (fun _ _ => false) overtaken).bind (fun s =>
      (s.move .one (fun _ _ => false) removal).map fun s' =>
        ((s.strands[2]?.bind Strand.sweep?).isSome,
          ((s.sites "tcp://h:1").get? newcomer.containerId).isSome,
          (s'.sites "tcp://h:1").get? newcomer.containerId)) = some (true, true, none) := by
    decide +kernel
  obtain ⟨s, hs, hrun⟩ := Option.bind_eq_some_iff.1 hrun
  obtain ⟨s', hs', hfacts⟩ := Option.map_eq_some_iff.1 hrun
  simp only [Prod.mk.injEq] at hfacts
  obtain ⟨hsweep, hthere, hgone⟩ := hfacts
  obtain ⟨q, hq⟩ := Option.isSome_iff_exists.1 hsweep
  obtain ⟨x, hx, hq⟩ := Option.bind_eq_some_iff.1 hq
  obtain ⟨replies, rfl⟩ := Strand.eq_of_sweep? hq
  have hlost : (s'.sites "tcp://h:1").get? newcomer.containerId ≠
      (s.sites "tcp://h:1").get? newcomer.containerId := by
    rw [hgone]
    exact fun he => by simp [← he] at hthere
  obtain ⟨c, nodes, after, ys, m, _, _, hlooked, hwent, _, hdoomed⟩ :=
    sweep_removes_doomed (Nat.zero_le 2) hs hx hs' hlost
  exact ⟨s, s', nodes, after, ys, m, c, hs, hs', hlost, hlooked, hwent, hdoomed⟩

/-- The container of a node that is being created, and one whose node has just been registered, are
removed all the same. -/
theorem sweep_removes_used :
    (∃ s s', sample.play .one (fun _ _ => false) overtaken = some s ∧
      s.move .one (fun _ _ => false) removal = some s' ∧
      s.strands[1]?.bind Strand.coming? = some newcomer ∧
      s.state.capacity.inProgress "a" none = 1 ∧
      ((s.sites "tcp://h:1").get? newcomer.containerId).isSome = true ∧
      (s'.sites "tcp://h:1").get? newcomer.containerId = none) ∧
    ∃ s s', sample.play .one (fun _ _ => false) (overtaken ++ [.goOn 1 0 late true]) = some s ∧
      s.move .one (fun _ _ => false) removal = some s' ∧
      s.state.registry.get? newcomer.name = some newcomer ∧ newcomer.state = .registered ∧
      ((s.sites "tcp://h:1").get? newcomer.containerId).isSome = true ∧
      (s'.sites "tcp://h:1").get? newcomer.containerId = none := by
  have hcreation : (sample.play .one (fun _ _ => false) overtaken).bind (fun s =>
      (s.move .one (fun _ _ => false) removal).map fun s' =>
        (s.strands[1]?.bind Strand.coming?, s.state.capacity.inProgress "a" none,
          ((s.sites "tcp://h:1").get? newcomer.containerId).isSome,
          (s'.sites "tcp://h:1").get? newcomer.containerId)) =
      some (some newcomer, 1, true, none) := by decide +kernel
  have hnode : (sample.play .one (fun _ _ => false) (overtaken ++ [.goOn 1 0 late true])).bind (fun s =>
      (s.move .one (fun _ _ => false) removal).map fun s' =>
        (s.state.registry.get? newcomer.name,
          ((s.sites "tcp://h:1").get? newcomer.containerId).isSome,
          (s'.sites "tcp://h:1").get? newcomer.containerId)) =
      some (some newcomer, true, none) := by decide +kernel
  obtain ⟨s, hs, hcreation⟩ := Option.bind_eq_some_iff.1 hcreation
  obtain ⟨s', hs', hcreation⟩ := Option.map_eq_some_iff.1 hcreation
  obtain ⟨t, ht, hnode⟩ := Option.bind_eq_some_iff.1 hnode
  obtain ⟨t', ht', hnode⟩ := Option.map_eq_some_iff.1 hnode
  simp only [Prod.mk.injEq] at hcreation hnode
  exact ⟨⟨s, s', hs, hs', hcreation⟩, t, t', ht, ht', hnode.1, rfl, hnode.2⟩

end Scene

end ContainerFleet
