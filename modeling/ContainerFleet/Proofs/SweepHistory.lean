import ContainerFleet.Proofs.SweepCourse

namespace ContainerFleet

def Strand.Unswept : Strand → Prop
  | .underWay (.sweep .looking) replies => replies = []
  | .underWay (.sweep (.sweeping _ _)) _ | .ended (.swept _) => False
  | _ => True

namespace Scene

variable (f : Fleet) (may : String → Dict String → Bool) (s : Scene) (moves : List Move) (k : Nat)

def Told (part : Nat) (uri : String) (c : Call) (a : c.Outcome) : Prop :=
  ∃ before after now r s₁, moves = before ++ .react k part now r :: after ∧
    s.play f may before = some s₁ ∧ s₁.Waits f k part uri c ∧
    ((s₁.sites uri).react now c r).1 = a

/-- The activity `k` is a sweep that began with `nodes`, and after that came the moves `after`. -/
def Looked (nodes : Registry) (after : List Move) : Prop :=
  ∃ before m admitted s₁, moves = before ++ .goOn k 0 m admitted :: after ∧
    s.play f may before = some s₁ ∧ s₁.strands[k]? = some (.underWay (.sweep .looking) []) ∧
    nodes = s₁.state.registry

def Went (after : List Move) (k part : Nat) (m : Moment) : Prop :=
  ∃ admitted, .goOn k part m admitted ∈ after

/-- The parts of the sweep `k` are where their answers have brought them, and `replies` are answers
too. -/
structure OnCourse (nodes : Registry) (strands : List SweepStrand) (replies : List Reply) : Prop where
  clouds : strands.map (·.cloud) = f.clouds
  parts : ∃ after, Looked f may s moves k nodes after ∧ ∀ i x, strands[i]? = some x →
    CloudSweep.Course f x.cloud nodes (Told f may s moves k i x.cloud.endpoint.uri) (Went after k i)
      x.progress
  replies : ∀ r ∈ replies, ∀ x, strands[r.part]? = some x →
    Told f may s moves k r.part x.cloud.endpoint.uri r.call r.outcome

/-- What has come before, if the activity is a sweep. -/
def History : Strand → Prop
  | .underWay (.sweep .looking) replies => replies = []
  | .underWay (.sweep (.sweeping nodes strands)) replies =>
    OnCourse f may s moves k nodes strands replies
  | .ended (.swept r) => ∃ nodes strands, OnCourse f may s moves k nodes strands [] ∧
    Sweep.report? strands = some r
  | _ => True

variable {f may s moves k} {s' s₁ : Scene} {more : List Move} {nodes : Registry}
  {strands : List SweepStrand} {replies : List Reply} {x : Strand}

theorem play_append (xs ys : List Move) :
    s.play f may (xs ++ ys) = (s.play f may xs).bind fun s => s.play f may ys := by
  induction xs generalizing s with
  | nil => rfl
  | cons x xs ih =>
    rw [List.cons_append, play, play, Option.bind_assoc]
    congr 1
    funext s₁
    exact ih

theorem Told.append {part : Nat} {uri : String} {c : Call} {a : c.Outcome}
    (h : Told f may s moves k part uri c a) : Told f may s (moves ++ more) k part uri c a := by
  obtain ⟨before, after, now, r, s₁, rfl, ha⟩ := h
  exact ⟨before, after ++ more, now, r, s₁, by simp, ha⟩

theorem Looked.append {after : List Move} (h : Looked f may s moves k nodes after) :
    Looked f may s (moves ++ more) k nodes (after ++ more) := by
  obtain ⟨before, m, admitted, s₁, rfl, hs⟩ := h
  exact ⟨before, m, admitted, s₁, by simp, hs⟩

theorem Went.append {after : List Move} {part : Nat} {m : Moment} (h : Went after k part m) :
    Went (after ++ more) k part m := by
  obtain ⟨admitted, hm⟩ := h
  exact ⟨admitted, List.mem_append_left _ hm⟩

theorem OnCourse.append (h : OnCourse f may s moves k nodes strands replies) :
    OnCourse f may s (moves ++ more) k nodes strands replies := by
  obtain ⟨after, hlooked, hcourse⟩ := h.parts
  refine ⟨h.clouds, ⟨after ++ more, hlooked.append, fun i x hx => ?_⟩, fun r hr x hx => ?_⟩
  · exact (hcourse i x hx).mono (fun _ _ => Told.append) fun _ => Went.append
  · exact (h.replies r hr x hx).append

theorem OnCourse.sublist {fewer : List Reply} (h : OnCourse f may s moves k nodes strands replies)
    (hs : fewer ⊆ replies) : OnCourse f may s moves k nodes strands fewer :=
  ⟨h.clouds, h.parts, fun r hr => h.replies r (hs hr)⟩

theorem History.append (h : History f may s moves k x) : History f may s (moves ++ more) k x := by
  unfold History at h ⊢
  split
  · exact h
  · exact OnCourse.append h
  · obtain ⟨nodes, strands, hc, hr⟩ := h
    exact ⟨nodes, strands, hc.append, hr⟩
  · trivial

theorem history_of_unswept (h : x.Unswept) : History f may s moves k x := by
  unfold History
  unfold Strand.Unswept at h
  split <;> simp_all

inductive Starts (f : Fleet) (s : Scene) : Move → Strand → Prop where
  | plans {m : Moment} {label : Option LabelExpr} {executors : Nat} :
      Starts f s (.request m label executors) (.ofProgress []
        ((Planning.start f s.state m label executors).map Job.planning JobResult.planned).progress)
  | terminates {name : String} :
      Starts f s (.terminate name) (.underWay (.termination name .lookingUp) [])
  | sweeps : Starts f s .sweep (.underWay (.sweep .looking) [])
  | reaps {now : Timestamp} : Starts f s (.reap now) (.underWay (.reap (.looking now)) [])
  | creates {k part : Nat} {m : Moment} {admitted : Bool} {o : Order} :
      Starts f s (.goOn k part m admitted) (.ofOrder o)

inductive StrandStep (f : Fleet) (s : Scene) (k : Nat) : Move → Strand → Prop where
  | stays {x : Move} {y : Strand} (same : s.strands[k]? = some y) : StrandStep f s k x y
  | starts {x : Move} {y : Strand} (late : s.strands.length ≤ k) (starts : Starts f s x y) :
      StrandStep f s k x y
  | dies {m : Moment} : StrandStep f s k (.die k m) .died
  | hears {part : Nat} {now : Timestamp} {r : Reaction} {j : Job} {replies : List Reply}
      {uri : String} {c : Call} (was : s.strands[k]? = some (.underWay j replies))
      (waits : ((j.pending f).lookup part).map Pending.wait = some (.call uri c)) :
      StrandStep f s k (.react k part now r)
        (.underWay j (⟨part, c, ((s.sites uri).react now c r).1⟩ :: replies))
  | goesOn {part : Nat} {m : Moment} {admitted : Bool} {j : Job} {replies : List Reply}
      {p : Pending Job JobResult} {a : p.wait.Answer}
      (was : s.strands[k]? = some (.underWay j replies)) (waits : (part, p) ∈ j.pending f)
      (granted : grant? s.state admitted part replies p.wait = some a) :
      StrandStep f s k (.goOn k part m admitted)
        (.ofProgress (replies.filter (·.part ≠ part)) (p.resume s.state m a).progress)

theorem ofProgress_map {σ α : Type} {g : σ → Job} {h : α → JobResult} {P : Strand → Prop}
    {t : Turn σ α} {replies : List Reply}
    (hg : ∀ p, t.progress = .wait p → P (.underWay (g p) replies))
    (hh : ∀ r, P (.ended (h r))) : P (.ofProgress replies (t.map g h).progress) := by
  cases hp : t.progress with
  | wait p =>
    rw [Turn.map_wait hp]
    exact hg p hp
  | done r =>
    rw [Turn.map_done hp]
    exact hh r

theorem Starts.unswept {z : Move} (h : Starts f s z x) : x.Unswept := by
  cases h with
  | plans =>
    exact ofProgress_map (P := Strand.Unswept) (g := Job.planning) (h := JobResult.planned)
      (fun _ _ => trivial) fun _ => trivial
  | sweeps => rfl
  | terminates | reaps | creates => trivial

theorem enter_strandStep {y : Strand} {z : Move} (hy : Starts f s z y)
    (hx : (s.strands ++ [y])[k]? = some x) : StrandStep f s k z x := by
  rw [List.getElem?_append] at hx
  split at hx
  · exact .stays hx
  · rename_i hk
    obtain rfl := List.mem_singleton.1 (List.mem_of_getElem? hx)
    exact .starts (Nat.le_of_not_lt hk) hy

theorem getElem?_set_cases {α : Type} {l : List α} {i j : Nat} {a b : α}
    (h : (l.set i a)[j]? = some b) : i = j ∧ b = a ∨ l[j]? = some b := by
  rw [List.getElem?_set] at h
  split at h
  · rename_i hij
    split at h
    · exact .inl ⟨hij, (Option.some.inj h).symm⟩
    · cases h
  · exact .inr h

theorem move_strandStep {z : Move} (h : s.move f may z = some s') (hx : s'.strands[k]? = some x) :
    StrandStep f s k z x := by
  cases z with
  | request m label executors =>
    obtain rfl := Option.some.inj h
    exact enter_strandStep .plans hx
  | terminate name =>
    obtain rfl := Option.some.inj h
    exact enter_strandStep .terminates hx
  | sweep =>
    obtain rfl := Option.some.inj h
    exact enter_strandStep .sweeps hx
  | reap now =>
    obtain rfl := Option.some.inj h
    exact enter_strandStep .reaps hx
  | react i part now r =>
    simp only [move, react] at h
    split at h
    · rename_i j replies hj
      split at h
      · rename_i uri c hw
        split at h
        · cases h
        · obtain rfl := Option.some.inj h
          obtain ⟨rfl, rfl⟩ | hx := getElem?_set_cases hx
          · exact .hears hj hw
          · exact .stays hx
      · cases h
    · cases h
  | goOn i part m admitted =>
    simp only [move, goOn] at h
    split at h
    · rename_i j replies hj
      split at h
      · rename_i p hp
        obtain ⟨a, ha, rfl⟩ := Option.map_eq_some_iff.1 h
        simp only [take, List.getElem?_append] at hx
        split at hx
        · obtain ⟨rfl, rfl⟩ | hx := getElem?_set_cases hx
          · exact .goesOn hj (Dict.mem_of_lookup hp) ha
          · exact .stays hx
        · rename_i hlen
          rw [List.length_set] at hlen
          obtain ⟨o, _, rfl⟩ := List.mem_map.1 (List.mem_of_getElem? hx)
          exact .starts (Nat.le_of_not_lt hlen) .creates
      · cases h
    · cases h
  | die i m =>
    simp only [move, die] at h
    split at h
    · obtain rfl := Option.some.inj h
      obtain ⟨rfl, rfl⟩ | hx := getElem?_set_cases hx
      · exact .dies
      · exact .stays hx
    · cases h
  | outside uri now c =>
    simp only [move] at h
    split at h
    · obtain rfl := Option.some.inj h
      exact .stays hx
    · cases h
  | breaks uri kinds =>
    obtain rfl := Option.some.inj h
    exact .stays hx
  | adjust clouds templates pool registry =>
    obtain rfl := Option.some.inj h
    exact .stays hx

theorem move_length {z : Move} (h : s.move f may z = some s') :
    s.strands.length ≤ s'.strands.length := by
  cases z with
  | request | terminate | sweep | reap =>
    obtain rfl := Option.some.inj h
    simp [enter]
  | react k part now r =>
    simp only [move, react] at h
    split at h
    · split at h
      · split at h
        · cases h
        · obtain rfl := Option.some.inj h
          simp [deliver, setSite]
      · cases h
    · cases h
  | goOn k part m admitted =>
    simp only [move, goOn] at h
    split at h
    · split at h
      · obtain ⟨a, -, rfl⟩ := Option.map_eq_some_iff.1 h
        simp [take]
      · cases h
    · cases h
  | die k m =>
    simp only [move, die] at h
    split at h
    · obtain rfl := Option.some.inj h
      simp
    · cases h
  | outside uri now c =>
    simp only [move] at h
    split at h
    · obtain rfl := Option.some.inj h
      exact Nat.le_refl _
    · cases h
  | breaks | adjust =>
    obtain rfl := Option.some.inj h
    exact Nat.le_refl _

theorem settle_history (h : OnCourse f may s moves k nodes strands replies) (t : State) :
    History f may s moves k (.ofProgress replies
      ((Sweep.settle t nodes strands).map Job.sweep JobResult.swept).progress) := by
  unfold Sweep.settle
  cases hr : Sweep.report? strands with
  | none => exact h
  | some r => exact ⟨nodes, strands, h.sublist (List.nil_subset _), hr⟩

theorem look_history {m : Moment} {admitted : Bool} (hplay : s.play f may moves = some s₁)
    (hk : s₁.strands[k]? = some (.underWay (.sweep .looking) [])) :
    OnCourse f may s (moves ++ [.goOn k 0 m admitted]) k s₁.state.registry
      (f.clouds.map fun c => ⟨c, .wait .starting⟩) [] := by
  refine ⟨by simp [Function.comp_def], ⟨[], ⟨moves, m, admitted, s₁, rfl, hplay, hk, rfl⟩,
    fun i x hx => ?_⟩, by simp⟩
  obtain ⟨c, _, rfl⟩ := List.mem_map.1 (List.mem_of_getElem? hx)
  exact .starting

theorem wait_looking_ne {part : Nat} {uri : String} {c : Call} :
    (((Job.sweep .looking).pending f).lookup part).map Pending.wait ≠ some (.call uri c) := by
  intro h
  obtain ⟨x, hx, hw⟩ := Option.map_eq_some_iff.1 h
  obtain ⟨rfl, rfl⟩ := Prod.ext_iff.1 (List.mem_singleton.1 (Dict.mem_of_lookup hx))
  cases hw

theorem OnCourse.getElem?_clouds {i : Nat} {y : SweepStrand}
    (h : OnCourse f may s moves k nodes strands replies) (hi : strands[i]? = some y) :
    f.clouds[i]? = some y.cloud := by
  rw [← h.clouds, List.getElem?_map, hi]
  rfl

theorem mem_pending_of_waits {nodes : Registry} {part : Nat} {uri : String} {call : Call}
    (h : (((Job.sweep (.sweeping nodes strands)).pending f).lookup part).map Pending.wait =
      some (.call uri call)) :
    ∃ c p, strands[part]? = some ⟨c, .wait p⟩ ∧ CloudSweep.wait f c p = .call uri call ∧
      c.endpoint.uri = uri := by
  obtain ⟨x, hx, hw⟩ := Option.map_eq_some_iff.1 h
  obtain ⟨c, p, hi, rfl⟩ := Sweep.mem_pending (Dict.mem_of_lookup hx)
  refine ⟨c, p, hi, hw, ?_⟩
  cases p with
  | starting => cases hw
  | _ => exact (Wait.call.inj hw).1

theorem OnCourse.hear {part : Nat} {now : Timestamp} {r : Reaction} {uri : String} {call : Call}
    (h : OnCourse f may s moves k nodes strands replies) (hplay : s.play f may moves = some s₁)
    (hk : s₁.strands[k]? = some (.underWay (.sweep (.sweeping nodes strands)) replies))
    (hw : (((Job.sweep (.sweeping nodes strands)).pending f).lookup part).map Pending.wait =
      some (.call uri call)) :
    OnCourse f may s (moves ++ [.react k part now r]) k nodes strands
      (⟨part, call, ((s₁.sites uri).react now call r).1⟩ :: replies) := by
  have hold : OnCourse f may s (moves ++ [.react k part now r]) k nodes strands replies := h.append
  refine ⟨hold.clouds, hold.parts, fun y hy x hx => ?_⟩
  obtain rfl | hy := List.mem_cons.1 hy
  · obtain ⟨c, p, hi, -, rfl⟩ := mem_pending_of_waits hw
    obtain rfl := Option.some.inj (hi.symm.trans hx)
    exact ⟨moves, [], now, r, s₁, rfl, hplay, ⟨_, replies, hk, hw⟩, rfl⟩
  · exact hold.replies y hy x hx

theorem heard_of_grant? {st : State} {admitted : Bool} {part : Nat} {w : Wait} {a : w.Answer}
    (h : grant? st admitted part replies w = some a) :
    w.Heard (fun c b => ⟨part, c, b⟩ ∈ replies) a := by
  cases w with
  | call uri c => exact Reply.mem_of_findSome? h
  | _ => trivial

theorem OnCourse.goOn {i : Nat} {c : Cloud} {p : CloudSweep.Phase} {m : Moment} {admitted : Bool}
    {st st' : State} {a : (CloudSweep.wait f c p).Answer}
    (h : OnCourse f may s moves k nodes strands replies) (hi : strands[i]? = some ⟨c, .wait p⟩)
    (ha : grant? st admitted i replies (CloudSweep.wait f c p) = some a) :
    OnCourse f may s (moves ++ [.goOn k i m admitted]) k nodes
      (strands.modify i fun x => { x with
        progress := (CloudSweep.resume f c nodes st' m p a).progress })
      (replies.filter (·.part ≠ i)) := by
  obtain ⟨after, hlooked, hcourse⟩ := h.parts
  have htold : (CloudSweep.wait f c p).Heard
      (Told f may s (moves ++ [.goOn k i m admitted]) k i c.endpoint.uri) a :=
    (heard_of_grant? ha).mono fun call b hb => (h.replies _ hb _ hi).append
  refine ⟨?_, ⟨after ++ [.goOn k i m admitted], hlooked.append, fun i' x hx => ?_⟩, fun r hr x hx => ?_⟩
  · obtain ⟨pre, post, rfl, hmod⟩ := Sweep.modify_at hi
    rw [hmod, ← h.clouds]
    simp
  · rw [List.getElem?_modify] at hx
    obtain ⟨y, hy, rfl⟩ := Option.map_eq_some_iff.1 hx
    have hold : CloudSweep.Course f y.cloud nodes
        (Told f may s (moves ++ [.goOn k i m admitted]) k i' y.cloud.endpoint.uri)
        (Went (after ++ [.goOn k i m admitted]) k i') y.progress :=
      (hcourse i' y hy).mono (fun _ _ => Told.append) fun _ => Went.append
    by_cases he : i = i'
    · subst he
      obtain rfl := Option.some.inj (hi.symm.trans hy)
      simp only [if_true]
      exact CloudSweep.resume_course hold htold ⟨admitted, by simp⟩
    · -- The sweeps of the other clouds have not moved.
      simp only [if_neg he]
      exact hold
  · rw [List.getElem?_modify] at hx
    obtain ⟨y, hy, rfl⟩ := Option.map_eq_some_iff.1 hx
    have hcloud : (if i = r.part then { y with
        progress := (CloudSweep.resume f c nodes st' m p a).progress } else y).cloud = y.cloud := by
      split <;> rfl
    rw [hcloud]
    exact (h.replies r (List.mem_of_mem_filter hr) y hy).append

theorem step_history {z : Move} (hplay : s.play f may moves = some s₁)
    (hx : ∀ y, s₁.strands[k]? = some y → History f may s moves k y)
    (hs : StrandStep f s₁ k z x) : History f may s (moves ++ [z]) k x := by
  cases hs with
  | stays same => exact (hx x same).append
  | starts late starts => exact history_of_unswept starts.unswept
  | dies => trivial
  | @hears part now r j replies uri c was waits =>
    cases j with
    | sweep q =>
      cases q with
      | looking =>
        exact absurd waits wait_looking_ne
      | sweeping nodes strands => exact OnCourse.hear (hx _ was) hplay was waits
    | _ => trivial
  | @goesOn part m admitted j replies p a was waits granted =>
    have hj := hx _ was
    cases j with
    | sweep q =>
      cases q with
      | looking =>
        obtain ⟨rfl, rfl⟩ := Prod.ext_iff.1 (List.mem_singleton.1 waits)
        obtain rfl : replies = [] := hj
        exact settle_history (look_history hplay was) _
      | sweeping nodes strands =>
        obtain ⟨c, q, hi, rfl⟩ := Sweep.mem_pending waits
        exact settle_history (OnCourse.goOn hj hi granted) _
    | planning q =>
      obtain ⟨rfl, rfl⟩ := Prod.ext_iff.1 (List.mem_singleton.1 waits)
      exact history_of_unswept (ofProgress_map (P := Strand.Unswept) (g := Job.planning)
        (h := JobResult.planned) (fun _ _ => trivial) fun _ => trivial)
    | creation o q =>
      obtain ⟨rfl, rfl⟩ := Prod.ext_iff.1 (List.mem_singleton.1 waits)
      exact history_of_unswept (ofProgress_map (P := Strand.Unswept) (g := Job.creation o)
        (h := JobResult.created) (fun _ _ => trivial) fun _ => trivial)
    | termination name q =>
      obtain ⟨rfl, rfl⟩ := Prod.ext_iff.1 (List.mem_singleton.1 waits)
      exact history_of_unswept (ofProgress_map (P := Strand.Unswept) (g := Job.termination name)
        (h := JobResult.terminated) (fun _ _ => trivial) fun _ => trivial)
    | reap q =>
      obtain ⟨rfl, rfl⟩ := Prod.ext_iff.1 (List.mem_singleton.1 waits)
      exact history_of_unswept (ofProgress_map (P := Strand.Unswept) (g := Job.reap)
        (h := JobResult.reaped) (fun _ _ => trivial) fun _ => trivial)

/-- What every play brings an activity to that began in it. -/
theorem play_history (hk : s.strands.length ≤ k) (h : s.play f may moves = some s')
    (hx : s'.strands[k]? = some x) : History f may s moves k x := by
  -- Each move adds to the history of the moves before it.
  induction moves using List.reverseRecOn generalizing s' x with
  | nil =>
    obtain rfl := Option.some.inj h
    rw [List.getElem?_eq_none hk] at hx
    cases hx
  | append_singleton moves z ih =>
    rw [play_append] at h
    obtain ⟨s₁, hplay, h⟩ := Option.bind_eq_some_iff.1 h
    obtain ⟨s₂, hz, h⟩ := Option.bind_eq_some_iff.1 h
    obtain rfl := Option.some.inj h
    exact step_history hplay (fun y hy => ih hplay hy) (move_strandStep hz hx)

end Scene

end ContainerFleet
