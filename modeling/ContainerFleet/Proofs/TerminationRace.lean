import ContainerFleet.Proofs.TerminationTurn

namespace ContainerFleet

/-- How many more moves a termination makes at most: for each call the runtime takes it first. -/
def Strand.load : Strand → Nat
  | .underWay (.termination _ p) replies =>
    2 * Termination.ahead (.wait p) + if replies.any (·.part = 0) then 0 else 1
  | _ => 0

namespace Move

def isTurn : Move → Bool
  | react .. | goOn .. => true
  | _ => false

def isCall : Move → Bool
  | terminate _ => true
  | _ => false

end Move

def Scene.ofNode (broken : List CallKind) : Scene :=
  { state := (Solo.ofNode broken).state, sites := Stage.sampleSites broken }

theorem Scene.Waits.unique {f : Fleet} {s : Scene} {k part : Nat} {uri uri' : String} {x y : Call}
    (h : s.Waits f k part uri x) (h' : s.Waits f k part uri' y) : uri = uri' ∧ x = y := by
  obtain ⟨j, replies, hj, hw⟩ := h
  obtain ⟨j', replies', hj', hw'⟩ := h'
  obtain ⟨rfl, rfl⟩ := Strand.underWay.inj (Option.some.inj (hj.symm.trans hj'))
  exact Wait.call.inj (Option.some.inj (hw.symm.trans hw'))

namespace Termination

section Definitions

variable (f : Fleet) (name : String) (c : Cloud) (id : String)

def Removes (s : Scene) : Move → Prop
  | .react k part now r => ∃ options, s.Waits f k part c.endpoint.uri (.remove id options) ∧
      ((s.sites c.endpoint.uri).react now (.remove id options) r).1 = .ok ()
  | _ => False

/-- The node stays in the registry with its container, or stays out of it. It may take up work. -/
structure Kept (r r' : Registry) : Prop where
  absent : r.get? name = none → r'.get? name = none
  node : ∀ n, r.get? name = some n → ∃ n', r'.get? name = some n' ∧ n'.cloud = n.cloud ∧
    n'.containerId = n.containerId ∧
    (n'.state = n.state ∨ n.state = .registered ∧ n'.state = .running)

/-- A move of several terminations of the node, or of the world around them. A client can be had, no
removal by force fails, a container that is said to be missing is missing, and neither the node nor its
container comes back. -/
def Fair (s : Scene) : Move → Prop
  | .terminate name' => name' = name
  | .react k part now r => ∀ uri call, s.Waits f k part uri call →
      call.honest (s.sites uri) ((s.sites uri).react now call r) = true ∧
        Reply.isLost ⟨part, call, ((s.sites uri).react now call r).1⟩ = false
  | .goOn _ _ m _ => m.refusal c.endpoint = none
  | .outside uri now call => uri = c.endpoint.uri → (s.sites uri).get? id = none →
      ((s.sites uri).answer now call).2.get? id = none
  | .breaks uri kinds => uri = c.endpoint.uri → .remove ∉ kinds
  | .adjust _ _ _ registry => Kept name s.state.registry registry
  | _ => False

/-- What fair moves come to, and how often the container was removed. -/
inductive Race (s₀ : Scene) : List Move → Nat → Scene → Prop where
  | start : Race s₀ [] 0 s₀
  | removes {moves : List Move} {k : Nat} {s s' : Scene} {x : Move} (past : Race s₀ moves k s)
      (fair : Fair f name c id s x) (move : s.move f (fun _ _ => true) x = some s')
      (removes : Removes f c id s x) : Race s₀ (moves ++ [x]) (k + 1) s'
  | moves {moves : List Move} {k : Nat} {s s' : Scene} {x : Move} (past : Race s₀ moves k s)
      (fair : Fair f name c id s x) (move : s.move f (fun _ _ => true) x = some s')
      (other : ¬ Removes f c id s x) : Race s₀ (moves ++ [x]) k s'

structure Sound (s : Scene) (k : Nat) : Prop where
  removable : (s.sites c.endpoint.uri).isBroken .remove = false
  entry : Entry f name c id s.state.registry
  racing : ∀ x ∈ s.strands,
    Racing name c id (stage name s.state.registry) (s.sites c.endpoint.uri) x
  leaving : stage name s.state.registry = 2 →
    ∃ replies, .underWay (.termination name .unregistering) replies ∈ s.strands
  wins : s.strands.countP (·.isWin) = if stage name s.state.registry = 3 then 1 else 0
  removed : k = 0 ∨ k = 1 ∧ (s.sites c.endpoint.uri).get? id = none

end Definitions

variable {f : Fleet} {name : String} {c : Cloud} {id : String} {s s' : Scene} {k k' i part : Nat}

theorem Kept.refl {r : Registry} : Kept name r r :=
  ⟨fun h => h, fun n hn => ⟨n, hn, rfl, rfl, .inl rfl⟩⟩

theorem Kept.stage {r r' : Registry} (h : Kept name r r') : stage name r' = stage name r := by
  cases hn : r.get? name with
  | none => rw [stage_none hn, stage_none (h.absent hn)]
  | some n =>
    obtain ⟨n', hn', -, -, hs | ⟨hs, hs'⟩⟩ := h.node n hn
    · rw [stage_some hn, stage_some hn', hs]
    · rw [stage_some hn, stage_some hn', hs, hs']
      rfl

theorem Kept.entry {r r' : Registry} (h : Kept name r r') (he : Entry f name c id r) :
    Entry f name c id r' := by
  intro n' hn'
  cases hn : r.get? name with
  | none => cases hn'.symm.trans (h.absent hn)
  | some n =>
    obtain ⟨hc, hid, hp⟩ := he n hn
    obtain ⟨n'', hn'', hcloud, hcontainer, hs⟩ := h.node n hn
    obtain rfl := Option.some.inj (hn''.symm.trans hn')
    refine ⟨hcloud ▸ hc, hcontainer.trans hid, ?_⟩
    obtain hs | ⟨-, hs⟩ := hs
    · exact hs ▸ hp
    · rw [hs]
      decide

inductive Step (f : Fleet) (name : String) (c : Cloud) (id : String) (s : Scene) :
    Move → Scene → Prop where
  | enters : Step f name c id s (.terminate name)
      (s.enter (.underWay (.termination name .lookingUp) []))
  | answers {s' : Scene} {i part : Nat} {now : Timestamp} {r : Reaction}
      (fair : Fair f name c id s (.react i part now r)) (react : s.react f i part now r = some s') :
      Step f name c id s (.react i part now r) s'
  | goesOn {s' : Scene} {i part : Nat} {m : Moment} {admitted : Bool}
      (leasable : m.refusal c.endpoint = none) (goOn : s.goOn f i part m admitted = some s') :
      Step f name c id s (.goOn i part m admitted) s'
  | around {s' : Scene} {x : Move} (turn : x.isTurn = false) (call : x.isCall = false)
      (strands : s'.strands = s.strands) (registry : Kept name s.state.registry s'.state.registry)
      (removable : (s.sites c.endpoint.uri).isBroken .remove = false →
        (s'.sites c.endpoint.uri).isBroken .remove = false)
      (gone : (s.sites c.endpoint.uri).get? id = none → (s'.sites c.endpoint.uri).get? id = none) :
      Step f name c id s x s'

theorem step_site {x : Move} {uri : String} {mem : Memory} (ht : x.isTurn = false)
    (hc : x.isCall = false)
    (hb : uri = c.endpoint.uri → (s.sites uri).isBroken .remove = false →
      mem.isBroken .remove = false)
    (hm : uri = c.endpoint.uri → (s.sites uri).get? id = none → mem.get? id = none) :
    Step f name c id s x (s.setSite uri mem) := by
  by_cases hu : uri = c.endpoint.uri
  · have hsite : (s.setSite uri mem).sites c.endpoint.uri = mem := by
      rw [← hu]
      exact Function.update_self ..
    refine .around ht hc rfl .refl ?_ ?_
    · rw [hsite, ← hu]
      exact hb hu
    · rw [hsite, ← hu]
      exact hm hu
  · have hsite : (s.setSite uri mem).sites c.endpoint.uri = s.sites c.endpoint.uri :=
      Function.update_of_ne (fun he => hu he.symm) ..
    refine .around ht hc rfl .refl ?_ ?_
    · rw [hsite]
      exact fun hb => hb
    · rw [hsite]
      exact fun hg => hg

theorem Fair.step {x : Move} (hf : Fair f name c id s x)
    (hs : s.move f (fun _ _ => true) x = some s') : Step f name c id s x s' := by
  cases x with
  | terminate name' =>
    obtain rfl : name' = name := hf
    obtain rfl := Option.some.inj hs
    exact .enters
  | react i part now r => exact .answers hf hs
  | goOn i part m admitted => exact .goesOn hf hs
  | outside uri now call =>
    simp only [Scene.move] at hs
    split at hs
    · obtain rfl := Option.some.inj hs
      refine step_site rfl rfl (fun _ hb => ?_) hf
      rwa [Memory.isBroken_congr (Memory.broken_answer call)]
    · cases hs
  | breaks uri kinds =>
    obtain rfl := Option.some.inj hs
    refine step_site rfl rfl (fun hu _ => ?_) fun _ hg => hg
    have hk : .remove ∉ kinds := hf hu
    simp [Memory.isBroken, hk]
  | adjust clouds templates pool registry =>
    obtain rfl := Option.some.inj hs
    exact .around rfl rfl rfl hf (fun hb => hb) fun hg => hg
  | request m label executors => exact hf.elim
  | sweep => exact hf.elim
  | reap now => exact hf.elim
  | die i m => exact hf.elim

theorem isTurn_of_removes {x : Move} (h : Removes f c id s x) : x.isTurn = true := by
  cases x with
  | react i part now r => rfl
  | _ => exact h.elim

theorem Sound.around (h : Sound f name c id s k) (hs : s'.strands = s.strands)
    (hr : Kept name s.state.registry s'.state.registry)
    (hb : (s'.sites c.endpoint.uri).isBroken .remove = false)
    (hm : (s.sites c.endpoint.uri).get? id = none → (s'.sites c.endpoint.uri).get? id = none) :
    Sound f name c id s' k := by
  refine ⟨hb, hr.entry h.entry, fun x hx => ?_, fun h2 => ?_, ?_,
    h.removed.imp_right fun hk => ⟨hk.1, hm hk.2⟩⟩
  · rw [hs] at hx
    exact (h.racing x hx).mono (Nat.le_of_eq hr.stage.symm) hm
  · rw [hs]
    exact h.leaving (hr.stage ▸ h2)
  · rw [hs, hr.stage]
    exact h.wins

theorem Sound.enter (h : Sound f name c id s k) :
    Sound f name c id (s.enter (.underWay (.termination name .lookingUp) [])) k := by
  refine ⟨h.removable, h.entry, fun x hx => ?_, fun h2 => ?_, ?_, h.removed⟩
  · obtain hx | hx := List.mem_append.1 hx
    · exact h.racing x hx
    · obtain rfl := List.mem_singleton.1 hx
      exact .lookingUp
  · obtain ⟨replies, hr⟩ := h.leaving h2
    exact ⟨replies, List.mem_append_left _ hr⟩
  · simp only [Scene.enter, List.countP_append]
    exact h.wins

theorem Sound.replace {pre post : List Strand} {x y : Strand} (h : Sound f name c id s k)
    (hl : s.strands = pre ++ x :: post) (hs : s'.strands = pre ++ y :: post)
    (hb : (s'.sites c.endpoint.uri).isBroken .remove = false)
    (he : Entry f name c id s'.state.registry)
    (ht : stage name s.state.registry ≤ stage name s'.state.registry)
    (hm : (s.sites c.endpoint.uri).get? id = none → (s'.sites c.endpoint.uri).get? id = none)
    (hx : x.isWin = false)
    (hy : Racing name c id (stage name s'.state.registry) (s'.sites c.endpoint.uri) y)
    (hleaving : stage name s'.state.registry = 2 →
      (stage name s.state.registry = 2 ∧
        ∀ replies, x ≠ .underWay (.termination name .unregistering) replies) ∨
      ∃ replies, y = .underWay (.termination name .unregistering) replies)
    (hwin : stage name s'.state.registry = 3 ∧ stage name s.state.registry ≠ 3 ↔ y.isWin = true)
    (hk : k' = 0 ∨ k' = 1 ∧ (s'.sites c.endpoint.uri).get? id = none) :
    Sound f name c id s' k' := by
  refine ⟨hb, he, fun z hz => ?_, fun h2 => ?_, ?_, hk⟩
  · rw [hs, List.mem_append, List.mem_cons] at hz
    have hmem : z ∈ pre ∨ z ∈ post → z ∈ s.strands := by
      rw [hl, List.mem_append, List.mem_cons]
      exact fun hz => hz.imp_right .inr
    obtain hz | rfl | hz := hz
    · exact (h.racing z (hmem (.inl hz))).mono ht hm
    · exact hy
    · exact (h.racing z (hmem (.inr hz))).mono ht hm
  · rw [hs]
    obtain ⟨hsame, hne⟩ | ⟨replies, rfl⟩ := hleaving h2
    · obtain ⟨replies, hr⟩ := h.leaving hsame
      rw [hl, List.mem_append, List.mem_cons] at hr
      refine ⟨replies, ?_⟩
      rw [List.mem_append, List.mem_cons]
      obtain hr | hr | hr := hr
      · exact .inl hr
      · exact absurd hr.symm (hne replies)
      · exact .inr (.inr hr)
    · exact ⟨replies, List.mem_append_right _ List.mem_cons_self⟩
  · have hw := h.wins
    rw [hl, List.countP_append, List.countP_cons, hx, if_neg Bool.false_ne_true] at hw
    rw [hs, List.countP_append, List.countP_cons]
    have hle : stage name s'.state.registry ≤ 3 := stage_le
    by_cases hwy : y.isWin = true
    · obtain ⟨h3, hn3⟩ := hwin.2 hwy
      rw [if_neg hn3] at hw
      rw [if_pos hwy, if_pos h3]
      omega
    · rw [if_neg hwy]
      by_cases h3 : stage name s.state.registry = 3
      · rw [if_pos h3] at hw
        rw [if_pos (by omega)]
        omega
      · have hn3 : stage name s'.state.registry ≠ 3 := fun h3' => hwy (hwin.1 ⟨h3', h3⟩)
        rw [if_neg h3] at hw
        rw [if_neg hn3]
        omega

theorem lookup_pending {p : Phase} {x : Pending Job JobResult}
    (h : ((Job.termination name p).pending f).lookup part = some x) :
    part = 0 ∧ x = (pending f name p).map (.termination name) .terminated :=
  Prod.ext_iff.1 (List.mem_singleton.1 (Dict.mem_of_lookup h))

theorem isWin_ofProgress {replies : List Reply} {x : Turn Phase Result} :
    (Strand.ofProgress replies (x.map (Job.termination name) JobResult.terminated).progress).isWin =
      true ↔ x.progress = .done (.ok ()) := by
  cases hp : x.progress with
  | wait p =>
    rw [Turn.map_wait hp]
    exact ⟨fun h => (by cases h), fun h => (by cases h)⟩
  | done r =>
    rw [Turn.map_done hp]
    cases r with
    | ok u => exact ⟨fun _ => rfl, fun _ => rfl⟩
    | error e => exact ⟨fun h => (by cases h), fun h => (by cases h)⟩

theorem Sound.split_goOn {m : Moment} {admitted : Bool} (h : Sound f name c id s k)
    (hs : s.goOn f i part m admitted = some s') : ∃ p replies a pre post,
      s.strands = pre ++ .underWay (.termination name p) replies :: post ∧
      Scene.grant? s.state admitted 0 replies (wait p) = some a ∧
      s'.strands = pre ++ .ofProgress (replies.filter (·.part ≠ 0))
        ((resume f name s.state m p a).map (Job.termination name) JobResult.terminated).progress ::
          post ∧
      s'.state = (resume f name s.state m p a).state ∧ s'.sites = s.sites := by
  unfold Scene.goOn at hs
  split at hs
  · rename_i j replies hi
    obtain ⟨pre, post, hl, hset⟩ := split_at hi
    split at hs
    · rename_i x hx
      obtain ⟨a, ha, rfl⟩ := Option.map_eq_some_iff.1 hs
      obtain ⟨p, rfl⟩ : ∃ p, j = .termination name p := by
        cases h.racing _ (List.mem_of_getElem? hi) <;> exact ⟨_, rfl⟩
      obtain ⟨rfl, rfl⟩ := lookup_pending hx
      have hquiet : (resume f name s.state m p a).Quiet s.state := resume_quiet p a
      have hnone : ((resume f name s.state m p a).map (Job.termination name)
          JobResult.terminated).ordered = [] := hquiet.ordered
      refine ⟨p, replies, a, pre, post, hl, ha, ?_, rfl, rfl⟩
      simp only [Scene.take, pending, Pending.map, hnone, List.map_nil, List.append_nil]
      exact hset _
    · cases hs
  · cases hs

theorem Sound.goOn {m : Moment} {admitted : Bool} (h : Sound f name c id s k)
    (hm : m.refusal c.endpoint = none) (hs : s.goOn f i part m admitted = some s') :
    Sound f name c id s' k := by
  obtain ⟨p, replies, a, pre, post, hl, ha, hl', hstate, hsites⟩ := h.split_goOn hs
  have hr := h.racing (.underWay (.termination name p) replies)
    (hl ▸ List.mem_append_right _ List.mem_cons_self)
  have hout := resume_outcome h.entry hr ha hm
  have hreg : s'.state.registry = (resume f name s.state m p a).state.registry :=
    congrArg State.registry hstate
  refine h.replace hl hl' ?_ (hreg ▸ hout.entry) (hreg ▸ hout.later) ?_ rfl ?_ (fun h2 => ?_) ?_ ?_
  · rw [hsites]
    exact h.removable
  · rw [hsites]
    exact fun hg => hg
  · rw [hsites, hreg]
    exact hout.racing _ fun y hy => by simpa using (List.mem_filter.1 hy).2
  · rw [hreg] at h2
    refine (hout.leaving h2).imp (fun hsame => ⟨hsame.1, fun replies' hx => ?_⟩) fun hw => ?_
    · cases hx
      exact hsame.2 rfl
    · refine ⟨replies.filter (·.part ≠ 0), ?_⟩
      rw [Turn.map_wait hw]
      rfl
  · rw [hreg]
    exact hout.wins.trans isWin_ofProgress.symm
  · rw [hsites]
    exact h.removed

theorem Sound.split_react {now : Timestamp} {r : Reaction} (h : Sound f name c id s k)
    (hs : s.react f i part now r = some s') : ∃ v p replies pre post,
      s.strands = pre ++ .underWay (.termination name (.removing c v p)) replies :: post ∧
      s.Waits f i part c.endpoint.uri (v.call p) ∧ part = 0 ∧ (∀ y ∈ replies, y.part ≠ 0) ∧
      s'.strands = pre ++ .underWay (.termination name (.removing c v p))
        (⟨0, v.call p, ((s.sites c.endpoint.uri).react now (v.call p) r).1⟩ :: replies) :: post ∧
      s'.state = s.state ∧ s'.sites = Function.update s.sites c.endpoint.uri
        ((s.sites c.endpoint.uri).react now (v.call p) r).2 := by
  unfold Scene.react at hs
  split at hs
  · rename_i j replies hi
    obtain ⟨pre, post, hl, hset⟩ := split_at hi
    split at hs
    · rename_i uri call hw
      split at hs
      · cases hs
      · rename_i hany
        obtain rfl := Option.some.inj hs
        obtain ⟨x, hx, hcall⟩ := Option.map_eq_some_iff.1 hw
        cases h.racing _ (List.mem_of_getElem? hi) with
        | removing marked container told =>
          rename_i v p
          obtain ⟨rfl, rfl⟩ := lookup_pending hx
          cases hcall
          refine ⟨v, p, replies, pre, post, hl, ⟨_, replies, hi, hw⟩, rfl, fun y hy he => ?_,
            hset _, rfl, rfl⟩
          exact hany (List.any_eq_true.2 ⟨y, hy, decide_eq_true he⟩)
        | _ =>
          obtain ⟨-, rfl⟩ := lookup_pending hx
          cases hcall
    · cases hs
  · cases hs

/-- What a removal is told tells it how its container is. -/
theorem leads_of_react {mem : Memory} {now : Timestamp} {r : Reaction} {v : Removal}
    {p : Removal.Phase} (hh : (v.call p).honest mem (mem.react now (v.call p) r) = true)
    (hl : Reply.isLost ⟨0, v.call p, (mem.react now (v.call p) r).1⟩ = false) :
    Leads v.id (mem.react now (v.call p) r).2
      (Removal.resume p (v.reply p (mem.react now (v.call p) r).1)) := by
  let e : Circumstance := { moment := { Moment.sample 0 with wall := now }, reaction := r }
  have he : e.answer mem (v.call p) = mem.react now (v.call p) r :=
    Circumstance.answer_of_ne (by cases p <;> simp [Removal.call, Call.kind])
  cases hp : Removal.resume p (v.reply p (mem.react now (v.call p) r).1) with
  | wait p' => trivial
  | done d =>
    cases d with
    | ok d =>
      rw [← he] at hh hp ⊢
      exact Circumstance.gone_of_ended hh hp
    | error cause => cases (Removal.isLost_of_failed hp).symm.trans hl

theorem Sound.react {now : Timestamp} {r : Reaction} (h : Sound f name c id s k)
    (hf : Fair f name c id s (.react i part now r)) (hs : s.react f i part now r = some s')
    (hk : k' = k ∨ k' = k + 1 ∧ Removes f c id s (.react i part now r)) :
    Sound f name c id s' k' := by
  obtain ⟨v, p, replies, pre, post, hl, hw, rfl, hnone, hl', hstate, hsites⟩ := h.split_react hs
  obtain ⟨hh, hlost⟩ := hf _ _ hw
  have hleads := leads_of_react hh hlost
  have hr := h.racing (.underWay (.termination name (.removing c v p)) replies)
    (hl ▸ List.mem_append_right _ List.mem_cons_self)
  have hsite : s'.sites c.endpoint.uri = ((s.sites c.endpoint.uri).react now (v.call p) r).2 := by
    rw [hsites, Function.update_self]
  have hgone : (s.sites c.endpoint.uri).get? id = none →
      (s'.sites c.endpoint.uri).get? id = none := by
    rw [hsite]
    exact Memory.get?_react_none (by cases p <;> simp [Removal.call, Call.kind])
  cases hr with
  | removing marked container told =>
    refine h.replace hl hl' ?_ (hstate ▸ h.entry) (Nat.le_of_eq (by rw [hstate])) hgone rfl ?_
      (fun h2 => .inl ⟨hstate ▸ h2, fun replies' hx => ?_⟩) ?_ ?_
    · rw [hsite, Memory.isBroken_react]
      exact h.removable
    · rw [hstate, hsite]
      refine .removing marked container fun x hx hp => ?_
      obtain rfl | hx := List.mem_cons.1 hx
      · exact ⟨_, rfl, container ▸ hleads⟩
      · exact absurd hp (hnone x hx)
    · cases hx
    · rw [hstate]
      exact ⟨fun ht => absurd ht.1 ht.2, fun hwin => (by cases hwin)⟩
    · obtain rfl | ⟨rfl, options, hw', hok⟩ := hk
      · exact h.removed.imp_right fun hk => ⟨hk.1, hgone hk.2⟩
      · -- The container was there, so that it had not been removed before.
        obtain ⟨hthere, hafter⟩ := Memory.react_remove_ok hok
        obtain rfl | ⟨-, hg⟩ := h.removed
        · refine .inr ⟨rfl, ?_⟩
          rw [hsite, (hw.unique hw').2]
          exact hafter
        · exact absurd hg hthere

theorem Sound.step {x : Move} (h : Sound f name c id s k) (hs : Step f name c id s x s')
    (hk : k' = k ∨ k' = k + 1 ∧ Removes f c id s x) : Sound f name c id s' k' := by
  cases hs with
  | enters =>
    obtain rfl : k' = k := hk.resolve_right fun hr => hr.2
    exact h.enter
  | answers fair react => exact h.react fair react hk
  | goesOn leasable goOn =>
    obtain rfl : k' = k := hk.resolve_right fun hr => hr.2
    exact h.goOn leasable goOn
  | around turn call strands registry removable gone =>
    have hnot : ¬ Removes f c id s x := fun hr => by cases turn.symm.trans (isTurn_of_removes hr)
    obtain rfl : k' = k := hk.resolve_right fun hr => hnot hr.2
    exact h.around strands registry (removable h.removable) gone

variable {s₀ : Scene} {moves : List Move} {n : Node}

structure Standing (f : Fleet) (name : String) (n : Node) (c : Cloud) (s : Scene) : Prop
    extends About f name s.state.registry n c where
  live : n.state = .registered ∨ n.state = .running ∨ n.state = .terminating
  removable : (s.sites c.endpoint.uri).isBroken .remove = false
  alone : s.strands = []

theorem Standing.sound (h : Standing f name n c s) : Sound f name c n.containerId s 0 := by
  have hstage : stage name s.state.registry ≤ 1 := by
    rw [stage_some h.node]
    obtain hs | hs | hs := h.live <;> rw [hs] <;> decide
  refine ⟨h.removable, fun n' hn' => ?_, fun x hx => ?_, fun h2 => ?_, ?_, .inl rfl⟩
  · obtain rfl := Option.some.inj (h.node.symm.trans hn')
    refine ⟨h.cloud, rfl, ?_⟩
    obtain hs | hs | hs := h.live <;> rw [hs] <;> decide
  · rw [h.alone] at hx
    cases hx
  · omega
  · rw [h.alone, if_neg (by omega)]
    rfl

theorem Race.sound (h₀ : Sound f name c id s₀ 0) (h : Race f name c id s₀ moves k s) :
    Sound f name c id s k := by
  induction h with
  | start => exact h₀
  | removes past fair move removes ih => exact ih.step (fair.step move) (.inr ⟨rfl, removes⟩)
  | moves past fair move other ih => exact ih.step (fair.step move) (.inl rfl)

theorem Sound.wins_le (h : Sound f name c id s k) : s.strands.countP (·.isWin) ≤ 1 := by
  rw [h.wins]
  split <;> omega

/-- Where all terminations have ended, one of them has taken the node out. -/
theorem Sound.won (h : Sound f name c id s k) (hne : s.strands ≠ [])
    (hend : ∀ x ∈ s.strands, x.isEnded = true) :
    s.strands.countP (·.isWin) = 1 ∧ s.state.registry.get? name = none ∧
      (s.sites c.endpoint.uri).get? id = none := by
  obtain ⟨x, hx⟩ := List.exists_mem_of_ne_nil _ hne
  have hout : 2 ≤ stage name s.state.registry := by
    have hended := hend x hx
    cases h.racing x hx with
    | won out gone => omega
    | lost out => exact out
    | _ => cases hended
  have hthree : stage name s.state.registry = 3 := by
    have hle : stage name s.state.registry ≤ 3 := stage_le
    have hne2 : stage name s.state.registry ≠ 2 := fun h2 => by
      obtain ⟨replies, hr⟩ := h.leaving h2
      cases hend _ hr
    omega
  have hwins : s.strands.countP (·.isWin) = 1 := by
    rw [h.wins, if_pos hthree]
  refine ⟨hwins, get?_of_stage (Nat.le_of_eq hthree.symm), ?_⟩
  obtain ⟨y, hy, hwin⟩ := List.countP_pos_iff.1 (Nat.lt_of_lt_of_eq Nat.zero_lt_one hwins.symm)
  cases h.racing y hy with
  | won out gone => exact gone
  | _ => cases hwin

def loadOf : List Strand → Nat
  | [] => 0
  | x :: xs => x.load + loadOf xs

abbrev load (s : Scene) : Nat := loadOf s.strands

theorem loadOf_append (xs ys : List Strand) : loadOf (xs ++ ys) = loadOf xs + loadOf ys := by
  induction xs with
  | nil => exact (Nat.zero_add _).symm
  | cons x xs ih => rw [List.cons_append, loadOf, loadOf, ih, Nat.add_assoc]

theorem load_split {pre post : List Strand} {x : Strand} (h : s.strands = pre ++ x :: post) :
    load s = loadOf pre + (x.load + loadOf post) := by
  rw [load, h, loadOf_append, loadOf]

theorem Sound.load_goOn {m : Moment} {admitted : Bool} (h : Sound f name c id s k)
    (hs : s.goOn f i part m admitted = some s') : load s' < load s := by
  obtain ⟨p, replies, a, pre, post, hl, ha, hl', -, -⟩ := h.split_goOn hs
  have hlt : ahead (resume f name s.state m p a).progress < ahead (.wait p) := ahead_resume ..
  have hold : 2 * ahead (.wait p) ≤ (Strand.underWay (.termination name p) replies).load :=
    Nat.le_add_right ..
  have hnew : (Strand.ofProgress (replies.filter (·.part ≠ 0)) ((resume f name s.state m p a).map
      (Job.termination name) JobResult.terminated).progress).load ≤
        2 * ahead (resume f name s.state m p a).progress + 1 := by
    cases hp : (resume f name s.state m p a).progress with
    | wait p' =>
      rw [Turn.map_wait hp]
      simp only [Strand.ofProgress, Strand.load]
      split <;> omega
    | done r =>
      rw [Turn.map_done hp]
      exact Nat.zero_le _
  rw [load_split hl, load_split hl']
  omega

theorem Sound.load_react {now : Timestamp} {r : Reaction} (h : Sound f name c id s k)
    (hs : s.react f i part now r = some s') : load s' < load s := by
  obtain ⟨v, p, replies, pre, post, hl, -, -, hnone, hl', -, -⟩ := h.split_react hs
  have hany : replies.any (·.part = 0) = false :=
    List.any_eq_false.2 fun y hy he => hnone y hy (of_decide_eq_true he)
  rw [load_split hl, load_split hl']
  simp only [Strand.load, List.any_cons, hany]
  simp

/-- A termination that begins has at most fifteen moves before it, and each move is one less. -/
theorem Sound.load_step {x : Move} (h : Sound f name c id s k) (hs : Step f name c id s x s') :
    (if x.isTurn then 1 else 0) + load s' ≤ load s + if x.isCall then 15 else 0 := by
  cases hs with
  | enters =>
    have hnew : (Strand.underWay (.termination name .lookingUp) []).load = 15 := rfl
    simp [load, Scene.enter, loadOf_append, loadOf, hnew, Move.isTurn, Move.isCall]
  | answers fair react =>
    have hlt := h.load_react react
    simp only [Move.isTurn, Move.isCall, if_true]
    omega
  | goesOn leasable goOn =>
    have hlt := h.load_goOn goOn
    simp only [Move.isTurn, Move.isCall, if_true]
    omega
  | around turn call strands registry removable gone => simp [turn, call, load, strands]

theorem Sound.turns_step {x : Move} (h : Sound f name c id s k) (hs : Step f name c id s x s')
    (hle : moves.countP (·.isTurn) + load s ≤ 15 * moves.countP (·.isCall)) :
    (moves ++ [x]).countP (·.isTurn) + load s' ≤ 15 * (moves ++ [x]).countP (·.isCall) := by
  have hstep := h.load_step hs
  have hcall : 15 * (if x.isCall then 1 else 0) = if x.isCall then 15 else 0 := by
    split <;> rfl
  rw [List.countP_append, List.countP_append, List.countP_singleton, List.countP_singleton,
    Nat.mul_add, hcall]
  omega

theorem Race.turns_le (h₀ : Sound f name c id s₀ 0) (hl : s₀.strands = [])
    (h : Race f name c id s₀ moves k s) :
    moves.countP (·.isTurn) + load s ≤ 15 * moves.countP (·.isCall) := by
  induction h with
  | start => simp [load, loadOf, hl]
  | removes past fair move removes ih => exact (past.sound h₀).turns_step (fair.step move) ih
  | moves past fair move other ih => exact (past.sound h₀).turns_step (fair.step move) ih

theorem Sound.length_step {x : Move} (h : Sound f name c id s k) (hs : Step f name c id s x s') :
    s'.strands.length = s.strands.length + if x.isCall then 1 else 0 := by
  cases hs with
  | enters => exact List.length_append
  | answers fair react =>
    obtain ⟨v, p, replies, pre, post, hl, -, -, -, hl', -, -⟩ := h.split_react react
    simp [hl, hl', Move.isCall]
  | goesOn leasable goOn =>
    obtain ⟨p, replies, a, pre, post, hl, -, hl', -, -⟩ := h.split_goOn goOn
    simp [hl, hl', Move.isCall]
  | around turn call strands registry removable gone => simp [call, strands]

theorem Race.length_strands (h₀ : Sound f name c id s₀ 0) (hl : s₀.strands = [])
    (h : Race f name c id s₀ moves k s) : s.strands.length = moves.countP (·.isCall) := by
  induction h with
  | start => rw [hl]; rfl
  | removes past fair move removes ih | moves past fair move other ih =>
    rw [(past.sound h₀).length_step (fair.step move), ih, List.countP_append, List.countP_singleton]

theorem isSome_goOn {p : Phase} {replies : List Reply} {m : Moment}
    (hi : s.strands[i]? = some (.underWay (.termination name p) replies))
    (hg : (Scene.grant? s.state true 0 replies (wait p)).isSome = true) :
    (s.goOn f i 0 m true).isSome = true := by
  have hx : ((Job.termination name p).pending f).lookup 0 =
      some ((pending f name p).map (.termination name) .terminated) := rfl
  simp only [Scene.goOn, hi, hx, Option.isSome_map]
  exact hg

theorem isSome_react {v : Removal} {p : Removal.Phase} {replies : List Reply} {now : Timestamp}
    {r : Reaction}
    (hi : s.strands[i]? = some (.underWay (.termination name (.removing c v p)) replies))
    (hnone : replies.any (·.part = 0) = false) : (s.react f i 0 now r).isSome = true := by
  have hx : ((Job.termination name (.removing c v p)).pending f).lookup 0 =
      some ((pending f name (.removing c v p)).map (.termination name) .terminated) := rfl
  simp only [Scene.react, hi, hx, Option.map_some, Pending.map, pending, hnone]
  rfl

/-- As long as a termination is under way, there is a fair move that it or its runtime can make. -/
theorem Sound.exists_turn {x : Strand} (h : Sound f name c id s k) (hx : x ∈ s.strands)
    (hne : x.isEnded = false) :
    ∃ y, Fair f name c id s y ∧ (s.move f (fun _ _ => true) y).isSome = true ∧ y.isTurn = true := by
  obtain ⟨i, hi⟩ := List.getElem?_of_mem hx
  cases h.racing x hx with
  | @removing v p replies marked container told =>
    cases hany : replies.any (·.part = 0) with
    | true =>
      -- The answer has come.
      obtain ⟨y, hy, hpart⟩ := List.any_eq_true.1 hany
      obtain ⟨a, rfl, -⟩ := told y hy (of_decide_eq_true hpart)
      refine ⟨.goOn i 0 (.sample 0) true, rfl, isSome_goOn hi ?_, rfl⟩
      rw [Scene.grant?, List.findSome?_isSome_iff]
      exact ⟨_, hy, by simp [Reply.outcome?]⟩
    | false =>
      refine ⟨.react i 0 .epoch .obeys, fun uri call hw => ?_, isSome_react hi hany, rfl⟩
      have hwaits : s.Waits f i 0 c.endpoint.uri (v.call p) := ⟨_, replies, hi, rfl⟩
      obtain ⟨rfl, rfl⟩ := hwaits.unique hw
      exact ⟨Memory.honest_answer _, isLost_of_obeys h.removable ..⟩
  | won out gone => cases hne
  | lost out => cases hne
  | _ => exact ⟨.goOn i 0 (.sample 0) true, rfl, isSome_goOn hi rfl, rfl⟩

theorem Race.exists_end (h₀ : Sound f name c id s₀ 0) (h : Race f name c id s₀ moves k s) :
    ∃ more k' s', Race f name c id s₀ (moves ++ more) k' s' ∧
      ∀ x ∈ s'.strands, x.isEnded = true := by
  induction hn : load s using Nat.strongRecOn generalizing moves k s with
  | ind l ih =>
    by_cases hend : ∀ x ∈ s.strands, x.isEnded = true
    · exact ⟨[], k, s, by simpa using h, hend⟩
    · obtain ⟨x, hx, hne⟩ : ∃ x ∈ s.strands, x.isEnded = false := by
        simpa using hend
      have hs := h.sound h₀
      obtain ⟨y, hf, hm, hturn⟩ := hs.exists_turn hx hne
      obtain ⟨s', hm⟩ := Option.isSome_iff_exists.1 hm
      have hlt : load s' < l := by
        cases hf.step hm with
        | answers fair react => exact hn ▸ hs.load_react react
        | goesOn leasable goOn => exact hn ▸ hs.load_goOn goOn
        | enters => cases hturn
        | around turn call strands registry removable gone => cases turn.symm.trans hturn
      obtain ⟨k', hrace⟩ : ∃ k', Race f name c id s₀ (moves ++ [y]) k' s' := by
        by_cases hr : Removes f c id s y
        · exact ⟨_, h.removes hf hm hr⟩
        · exact ⟨_, h.moves hf hm hr⟩
      obtain ⟨more, k'', s'', hmore, hended⟩ := ih _ hlt hrace rfl
      exact ⟨y :: more, k'', s'', by simpa using hmore, hended⟩

/-- Of several terminations of one node, whenever they begin and in whatever order they and the world
around them move, one takes the node out of the registry, after its container has gone. They all end, and
the container is removed once at most. -/
theorem one_wins (h₀ : Standing f name n c s₀) (h : Race f name c n.containerId s₀ moves k s) :
    k ≤ 1 ∧ s.strands.length = moves.countP (·.isCall) ∧ s.strands.countP (·.isWin) ≤ 1 ∧
    (s.strands ≠ [] → (∀ x ∈ s.strands, x.isEnded = true) →
      s.strands.countP (·.isWin) = 1 ∧ s.state.registry.get? name = none ∧
        (s.sites c.endpoint.uri).get? n.containerId = none) ∧
    moves.countP (·.isTurn) ≤ 15 * moves.countP (·.isCall) ∧
    ∃ more k' s', Race f name c n.containerId s₀ (moves ++ more) k' s' ∧
      ∀ x ∈ s'.strands, x.isEnded = true := by
  have hs := h.sound h₀.sound
  refine ⟨?_, h.length_strands h₀.sound h₀.alone, hs.wins_le, hs.won, ?_, h.exists_end h₀.sound⟩
  · obtain rfl | ⟨rfl, -⟩ := hs.removed
    · exact Nat.zero_le 1
    · exact Nat.le_refl 1
  · exact Nat.le_trans (Nat.le_add_right ..) (h.turns_le h₀.sound h₀.alone)

/-- Two terminations of a node whose container runs begin before either goes on. -/
theorem one_wins_twice : ∃ c more k s, Fleet.one.cloud? "a" = some c ∧
    Race .one "n1" c "c1" (.ofNode []) (.terminate "n1" :: .terminate "n1" :: more) k s ∧
    (∀ x ∈ s.strands, x.isEnded = true) ∧ 2 ≤ s.strands.length ∧
    s.strands.countP (·.isWin) = 1 ∧ s.state.registry.get? "n1" = none ∧
    (s.sites c.endpoint.uri).get? "c1" = none := by
  obtain ⟨c, hc⟩ : ∃ c, Fleet.one.cloud? "a" = some c := ⟨_, rfl⟩
  have h₀ : Standing .one "n1" Node.sample c (.ofNode []) := ⟨⟨rfl, hc⟩, .inl rfl, rfl, rfl⟩
  have hbegin : ∀ {moves s}, Race .one "n1" c "c1" (.ofNode []) moves 0 s →
      Race .one "n1" c "c1" (.ofNode []) (moves ++ [.terminate "n1"]) 0
        (s.enter (.underWay (.termination "n1" .lookingUp) [])) :=
    fun h => .moves h rfl rfl fun hr => hr
  have htwo := hbegin (hbegin .start)
  obtain ⟨more, k, s, hrace, hended⟩ := (one_wins h₀ htwo).2.2.2.2.2
  obtain ⟨-, hlength, -, hwon, -, -⟩ := one_wins h₀ hrace
  have hcalls : 2 ≤ s.strands.length := by
    rw [hlength, List.countP_append]
    exact Nat.le_add_right ..
  have hne : s.strands ≠ [] := fun he => by
    rw [he] at hcalls
    cases hcalls
  exact ⟨c, more, k, s, hc, hrace, hended, hcalls, hwon hne hended⟩

end Termination

end ContainerFleet
