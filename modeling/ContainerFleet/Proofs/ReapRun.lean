import ContainerFleet.Proofs.ReapPass
import ContainerFleet.Proofs.TerminationRun
import Mathlib.Data.List.Induction

namespace ContainerFleet

namespace Solo

variable {σ α : Type} {pending : σ → Pending σ α} {g g' : Solo} {p : σ} {q : Progress σ α}
  {e : Circumstance}

theorem isBroken_serve {w : Wait} {a : w.Answer} (h : g.serve e w = some (a, g')) (uri : String)
    (kind : CallKind) : (g'.sites uri).isBroken kind = (g.sites uri).isBroken kind := by
  cases w with
  | turn | admission =>
    obtain ⟨-, rfl⟩ := Prod.ext_iff.1 (Option.some.inj h)
    rfl
  | lock cloud | permit =>
    simp only [serve] at h
    split at h
    · cases h
    · obtain ⟨-, rfl⟩ := Prod.ext_iff.1 (Option.some.inj h)
      rfl
  | call uri' c =>
    obtain ⟨-, -, rfl⟩ := serve_call h
    by_cases hu : uri = uri'
    · subst hu
      simp only [Function.update_self]
      obtain hm | hm := e.answer_memory (g.sites uri) c <;> rw [hm]
      exact Memory.isBroken_congr (Memory.broken_answer c) kind
    · simp only [Function.update_of_ne hu]

theorem isBroken_step (h : step pending g p e = some (q, g')) (uri : String) (kind : CallKind) :
    (g'.sites uri).isBroken kind = (g.sites uri).isBroken kind := by
  obtain ⟨a, g₁, hserve, -, rfl⟩ := step_eq_some h
  exact isBroken_serve hserve uri kind

end Solo

namespace Reap

variable {f : Fleet} {now : Timestamp} {r : Registry} {es : List Circumstance} {g₀ g : Solo}
  {k : String} {n : Node} {reason : RetentionReason}

inductive Outstays (f : Fleet) (now : Timestamp) (n : Node) : RetentionReason → Prop where
  | begun (terminating : n.state = .terminating) : Outstays f now n .idle
  | kept {reason : RetentionReason} {c : Cloud} {t : Template}
      (live : n.state = .registered ∨ n.state = .running) (cloud : f.cloud? n.cloud.text = some c)
      (template : c.template? n.template.text = some t)
      (verdict : t.retention.verdict n.activity now = some reason) : Outstays f now n reason
  | unplaced {reason : RetentionReason} (live : n.state = .registered ∨ n.state = .running)
      (nowhere : ∀ c, f.cloud? n.cloud.text = some c → c.template? n.template.text = none)
      (verdict : RetentionPolicy.standard.verdict n.activity now = some reason) :
      Outstays f now n reason

theorem expectsContainer_iff :
    n.state.expectsContainer = true ↔ n.state = .registered ∨ n.state = .running := by
  cases n.state <;> simp [NodeState.expectsContainer]

theorem policy_eq {c : Cloud} {t : Template} (hc : f.cloud? n.cloud.text = some c)
    (ht : c.template? n.template.text = some t) : policy f n = t.retention := by
  simp [policy, hc, ht]

theorem policy_unplaced
    (h : ∀ c, f.cloud? n.cloud.text = some c → c.template? n.template.text = none) :
    policy f n = .standard := by
  cases hc : f.cloud? n.cloud.text with
  | none => simp [policy, hc]
  | some c => simp [policy, hc, h c hc]

theorem due_eq_some : due f now n = some reason ↔ Outstays f now n reason := by
  constructor
  · intro h
    unfold due at h
    split at h
    · rename_i ht
      obtain rfl := Option.some.inj h
      exact .begun ht
    · split at h
      · rename_i hlive
        rw [expectsContainer_iff] at hlive
        cases hc : f.cloud? n.cloud.text with
        | none =>
          have hnone : ∀ c, f.cloud? n.cloud.text = some c → c.template? n.template.text = none :=
            fun c hc' => by cases hc.symm.trans hc'
          exact .unplaced hlive hnone (policy_unplaced hnone ▸ h)
        | some c =>
          cases ht : c.template? n.template.text with
          | none =>
            have hnone : ∀ c, f.cloud? n.cloud.text = some c → c.template? n.template.text = none :=
              fun c' hc' => Option.some.inj (hc.symm.trans hc') ▸ ht
            exact .unplaced hlive hnone (policy_unplaced hnone ▸ h)
          | some t => exact .kept hlive hc ht (policy_eq hc ht ▸ h)
      · cases h
  · have hdue : n.state = .registered ∨ n.state = .running →
        due f now n = (policy f n).verdict n.activity now := by
      intro hlive
      have hne : n.state ≠ .terminating := by
        obtain hs | hs := hlive <;> simp [hs]
      rw [due, if_neg hne, if_pos (expectsContainer_iff.2 hlive)]
    intro h
    cases h with
    | begun ht => rw [due, if_pos ht]
    | kept live cloud template verdict => rw [hdue live, policy_eq cloud template, verdict]
    | unplaced live nowhere verdict => rw [hdue live, policy_unplaced nowhere, verdict]

theorem Outstays.state (h : Outstays f now n reason) :
    n.state = .terminating ∨ n.state.canBecome .terminating = true := by
  cases h with
  | begun ht => exact .inl ht
  | kept live | unplaced live => obtain hs | hs := live <;> simp [hs, NodeState.canBecome]

theorem mem_dueNodes_iff (hr : r.Keyed) :
    ⟨k, reason⟩ ∈ dueNodes f now r ↔ ∃ n, r.get? k = some n ∧ Outstays f now n reason := by
  simp only [dueNodes, List.mem_filterMap, Option.map_eq_some_iff, due_eq_some,
    Dict.KeyedBy.mem_values_iff hr, DueNode.mk.injEq]
  constructor
  · rintro ⟨n, hn, reason', hd, rfl, rfl⟩
    exact ⟨n, hn, hd⟩
  · rintro ⟨n, hn, hd⟩
    obtain rfl := hr k n hn
    exact ⟨n, hn, reason, hd, rfl, rfl⟩

theorem sorted_dueNodes (hr : r.Keyed) : (dueNodes f now r).Pairwise (·.name < ·.name) := by
  have hs : ((dueNodes f now r).map (·.name)).Pairwise (· < ·) := by
    rw [names_dueNodes hr, List.pairwise_map]
    exact r.sorted.filter _
  exact List.pairwise_map.1 hs

/-- The nodes for which a pass went, each with what its termination came to. -/
abbrev Ends := List (DueNode × Termination.Result)

inductive Terminations (f : Fleet) (es : List Circumstance) (g₀ : Solo) : Ends → Solo → Prop where
  | start : Terminations f es g₀ [] g₀
  | next {ends : Ends} {own : List Circumstance} {n : DueNode} {r : Termination.Result} {g g' : Solo}
      (before : Terminations f es g₀ ends g) (met : ∀ e ∈ own, e ∈ es)
      (alone : Solo.run (Termination.pending f n.name) g .lookingUp own = some (.done r, g')) :
      Terminations f es g₀ (ends ++ [(n, r)]) g'

def note (report : ReapReport) (x : DueNode × Termination.Result) : ReapReport :=
  match x.2 with
  | .ok () => { report with terminated := report.terminated ++ [x.1] }
  | .error e => { report with failures := report.failures.insert x.1.name e }

def reportOn (ends : Ends) : ReapReport := ends.foldl note {}

theorem reportOn_concat (ends : Ends) (x : DueNode × Termination.Result) :
    reportOn (ends ++ [x]) = note (reportOn ends) x := List.foldl_concat ..

theorem terminated_reportOn (ends : Ends) :
    (reportOn ends).terminated = (ends.filter (·.2.isOk)).map (·.1) := by
  induction ends using List.reverseRecOn with
  | nil => rfl
  | append_singleton ends x ih =>
    rw [reportOn_concat, List.filter_append, List.map_append, ← ih]
    obtain ⟨n, r⟩ := x
    cases r with
    | ok u => rfl
    | error e => exact (List.append_nil _).symm

theorem failures_reportOn {ends : Ends} {e : ProvisionError}
    (hnd : (ends.map (·.1.name)).Nodup) :
    (reportOn ends).failures.get? k = some e ↔ ∃ reason, (⟨k, reason⟩, .error e) ∈ ends := by
  induction ends using List.reverseRecOn with
  | nil => simp [reportOn]
  | append_singleton ends x ih =>
    rw [List.map_append, List.nodup_append] at hnd
    have ih := ih hnd.1
    obtain ⟨⟨name, why⟩, r⟩ := x
    rw [reportOn_concat]
    cases r with
    | ok u => simpa [note] using ih
    | error cause =>
      simp only [note, Dict.get?_insert]
      by_cases hk : k = name
      · subst hk
        have hnot : ∀ reason, (⟨k, reason⟩, .error e) ∉ ends := fun reason hin =>
          hnd.2.2 k (List.mem_map.2 ⟨_, hin, rfl⟩) k List.mem_cons_self rfl
        simp [hnot, eq_comm]
      · simp [hk, ih]

/-- Where a pass that began at `g₀` and met `es` can be. -/
inductive Course (f : Fleet) (now : Timestamp) (es : List Circumstance) (g₀ : Solo) :
    Progress Phase ReapReport → Solo → Prop where
  | looking : Course f now es g₀ (.wait (.looking now)) g₀
  | terminating {ends : Ends} {own : List Circumstance} {n : DueNode} {p : Termination.Phase}
      {rest : List DueNode} {g₁ g : Solo}
      (due : dueNodes f now g₀.state.registry = ends.map (·.1) ++ n :: rest)
      (before : Terminations f es g₀ ends g₁) (met : ∀ e ∈ own, e ∈ es)
      (alone : Solo.run (Termination.pending f n.name) g₁ .lookingUp own = some (.wait p, g)) :
      Course f now es g₀ (.wait (.terminating n p rest (reportOn ends))) g
  | ended {ends : Ends} {g : Solo} (due : dueNodes f now g₀.state.registry = ends.map (·.1))
      (all : Terminations f es g₀ ends g) : Course f now es g₀ (.done (reportOn ends)) g

theorem goOn_course {ends : Ends} {rest : List DueNode}
    (hdue : dueNodes f now g₀.state.registry = ends.map (·.1) ++ rest)
    (h : Terminations f es g₀ ends g) :
    Course f now es g₀ (goOn g.state (reportOn ends) rest).progress g := by
  cases rest with
  | nil => exact .ended (hdue.trans (List.append_nil _)) h
  | cons n rest => exact .terminating hdue h (List.forall_mem_nil _) rfl

theorem state_goOn {s : State} {report : ReapReport} {rest : List DueNode} :
    (goOn s report rest).state = s := by
  cases rest <;> rfl

theorem continueWith_done {n : DueNode} {rest : List DueNode} {report : ReapReport}
    {t : Turn Termination.Phase Termination.Result} {res : Termination.Result}
    (h : t.progress = .done res) :
    continueWith n rest report t = goOn t.state (note report (n, res)) rest := by
  rw [continueWith, h]
  cases res <;> rfl

theorem step_course {p : Phase} {q : Progress Phase ReapReport} {g' : Solo} {e : Circumstance}
    (he : e ∈ es) (h : Course f now es g₀ (.wait p) g)
    (hs : Solo.step (pending f) g p e = some (q, g')) : Course f now es g₀ q g' := by
  obtain ⟨a, g₁, hserve, rfl, rfl⟩ := Solo.step_eq_some hs
  cases h with
  | looking =>
    obtain ⟨rfl, rfl⟩ := Prod.ext_iff.1 (Option.some.inj hserve)
    have hstate : ((pending f (.looking now)).resume g₀.state e.moment ()).state = g₀.state :=
      state_goOn
    rw [hstate]
    have hdue : dueNodes f now g₀.state.registry = ([] : Ends).map (·.1) ++
        dueNodes f now g₀.state.registry := rfl
    exact goOn_course hdue .start
  | @terminating ends own n p rest g₂ _ due before met alone =>
    let t := Termination.resume f n.name g₁.state e.moment p a
    have ht : Solo.step (Termination.pending f n.name) g p e =
        some (t.progress, { g₁ with state := t.state }) := by
      rw [Solo.step]
      exact congrArg (Option.map _) hserve
    have hmet : ∀ x ∈ own ++ [e], x ∈ es := fun x hx =>
      (List.mem_append.1 hx).elim (met x) fun hx => List.mem_singleton.1 hx ▸ he
    have hrun := Progress.walk_append [e] alone
    rw [Progress.walk, ht] at hrun
    have hresume : (pending f (.terminating n p rest (reportOn ends))).resume g₁.state e.moment a =
        continueWith n rest (reportOn ends) t := rfl
    rw [hresume]
    cases hp : t.progress with
    | wait p' =>
      rw [hp] at hrun
      rw [continueWith, hp]
      exact .terminating due before hmet hrun
    | done r =>
      rw [hp] at hrun
      rw [continueWith_done hp, state_goOn, ← reportOn_concat]
      refine goOn_course (g := { g₁ with state := t.state }) ?_ (before.next hmet hrun)
      simp [due]

theorem run_course {q : Progress Phase ReapReport}
    (h : Solo.run (pending f) g₀ (.looking now) es = some (q, g)) : Course f now es g₀ q g :=
  Progress.walk_induction_of (E := (· ∈ es)) (P := Course f now es g₀)
    (fun _ _ _ _ _ he h hs => step_course he h hs) (fun _ he => he) .looking h

def ahead (count : Nat) : Progress Phase ReapReport → Nat
  | .wait (.looking _) => 7 * count + 1
  | .wait (.terminating _ p rest _) => Termination.ahead (.wait p) + 7 * rest.length
  | .done _ => 0

theorem ahead_goOn {s : State} {report : ReapReport} {rest : List DueNode} {count : Nat} :
    ahead count (goOn s report rest).progress = 7 * rest.length := by
  cases rest with
  | nil => rfl
  | cons n rest =>
    simp only [goOn, ahead, Termination.ahead, List.length_cons]
    omega

theorem goOn_ne_looking {s : State} {report : ReapReport} {rest : List DueNode} {t : Timestamp} :
    (goOn s report rest).progress ≠ .wait (.looking t) := by
  cases rest <;> exact fun h => by cases h

def Counted (f : Fleet) (count : Nat) (q : Progress Phase ReapReport) (g : Solo) : Prop :=
  ∀ t, q = .wait (.looking t) → (dueNodes f t g.state.registry).length = count

theorem step_counted {count : Nat} {p : Phase} {q : Progress Phase ReapReport} {g' : Solo}
    {e : Circumstance} (h : Counted f count (.wait p) g)
    (hs : Solo.step (pending f) g p e = some (q, g')) :
    Counted f count q g' ∧ ahead count q < ahead count (.wait p) := by
  obtain ⟨a, g₁, hserve, rfl, -⟩ := Solo.step_eq_some hs
  cases p with
  | looking t =>
    obtain ⟨rfl, rfl⟩ := Prod.ext_iff.1 (Option.some.inj hserve)
    refine ⟨fun t ht => absurd ht goOn_ne_looking, ?_⟩
    rw [← h t rfl]
    exact Nat.lt_succ_of_le (Nat.le_of_eq ahead_goOn)
  | terminating n p rest report =>
    have hlt : Termination.ahead (Termination.resume f n.name g₁.state e.moment p a).progress <
        Termination.ahead (.wait p) := Termination.ahead_resume g₁.state p a
    simp only [pending, resume]
    generalize Termination.resume f n.name g₁.state e.moment p a = t at hlt
    cases hp : t.progress with
    | wait p' =>
      rw [hp] at hlt
      rw [continueWith, hp]
      refine ⟨fun t ht => ?_, Nat.add_lt_add_right hlt _⟩
      cases ht
    | done r =>
      rw [hp] at hlt
      rw [continueWith_done hp, ahead_goOn]
      exact ⟨fun t ht => absurd ht goOn_ne_looking, Nat.lt_add_of_pos_left hlt⟩

theorem isSome_step (g : Solo) (p : Phase) (m : Moment) :
    (Solo.step (pending f) g p { moment := m }).isSome = true := by
  rw [Solo.step, Option.isSome_map]
  cases p with
  | looking t => rfl
  | terminating n p rest report =>
    cases p with
    | removing c r p => exact Solo.isSome_serve_call
    | _ => rfl

inductive Left : Option Node → Option Node → Termination.Result → Prop where
  | gone {n : Option Node} : Left n none (.ok ())
  | same {n : Option Node} {e : ProvisionError} : Left n n (.error e)
  | marked {n : Node} {e : ProvisionError} : Left (some n) (some (Termination.marked n)) (.error e)

theorem Left.absent {before after : Option Node} (h : Left before after (.ok ())) : after = none := by
  cases h
  rfl

theorem Left.present {before after : Option Node} {e : ProvisionError}
    (h : Left before after (.error e)) (hn : before = some n) :
    after = some n ∨ after = some (Termination.marked n) := by
  cases h with
  | same => exact .inl hn
  | marked => exact .inr (Option.some.inj hn ▸ rfl)

theorem left_of_run {name : String} {res : Termination.Result}
    (h : Solo.run (Termination.pending f name) g₀ .lookingUp es = some (.done res, g)) :
    Left (g₀.state.registry.get? name) (g.state.registry.get? name) res := by
  have hmarked : ∀ n e, g₀.state.registry.get? name = some n →
      g.state.registry = g₀.state.registry.insert name (Termination.marked n) →
      Left (g₀.state.registry.get? name) (g.state.registry.get? name) (.error e) := by
    intro n e hn hr
    rw [hn, hr, Dict.get?_insert, if_pos rfl]
    exact .marked
  cases Termination.run_onTermination h with
  | ended along registry gone =>
    rw [registry, Dict.get?_erase, if_pos rfl]
    exact .gone
  | failed failed =>
    cases failed with
    | unknownNode absent same | unknownCloud node unknown same | barred about other bar same =>
      exact same ▸ .same
    | unleased about refused registry sites => exact hmarked _ _ about.node registry
    | unremoved along registry lost => exact hmarked _ _ along.node registry

theorem Terminations.frame {ends : Ends} (h : Terminations f es g₀ ends g)
    (hk : k ∉ ends.map (·.1.name)) : g.state.registry.get? k = g₀.state.registry.get? k := by
  induction h with
  | start => rfl
  | next before met alone ih =>
    rw [List.map_append, List.mem_append, not_or, List.map_singleton, List.mem_singleton] at hk
    rw [(Termination.run_onTermination alone).spared.nodes k hk.2, ih hk.1]

theorem Terminations.left {ends : Ends} (h : Terminations f es g₀ ends g)
    (hnd : (ends.map (·.1.name)).Nodup) {x : DueNode × Termination.Result} (hx : x ∈ ends) :
    Left (g₀.state.registry.get? x.1.name) (g.state.registry.get? x.1.name) x.2 := by
  induction h with
  | start => cases hx
  | next before met alone ih =>
    rw [List.map_append, List.nodup_append] at hnd
    obtain hx | hx := List.mem_append.1 hx
    · have hne := hnd.2.2 x.1.name (List.mem_map_of_mem hx) _ List.mem_cons_self
      rw [(Termination.run_onTermination alone).spared.nodes _ hne]
      exact ih hnd.1 hx
    · obtain rfl := List.mem_singleton.1 hx
      rw [← before.frame fun hin => hnd.2.2 _ hin _ List.mem_cons_self rfl]
      exact left_of_run alone

/-- What a pass reports and leaves after the terminations `ends`. -/
structure Exact (f : Fleet) (now : Timestamp) (es : List Circumstance) (g₀ : Solo)
    (report : ReapReport) (g : Solo) (ends : Ends) : Prop where
  ran : Terminations f es g₀ ends g
  sorted : ends.Pairwise (·.1.name < ·.1.name)
  due : ∀ k reason, ⟨k, reason⟩ ∈ ends.map (·.1) ↔
    ∃ n, g₀.state.registry.get? k = some n ∧ Outstays f now n reason
  terminated : report.terminated = (ends.filter (·.2.isOk)).map (·.1)
  failures : ∀ k e, report.failures.get? k = some e ↔ ∃ reason, (⟨k, reason⟩, .error e) ∈ ends
  spared : ∀ k, (∀ n reason, g₀.state.registry.get? k = some n → ¬ Outstays f now n reason) →
    g.state.registry.get? k = g₀.state.registry.get? k ∧
      (∀ x ∈ report.terminated, x.name ≠ k) ∧ report.failures.get? k = none
  gone : ∀ x ∈ report.terminated, g.state.registry.get? x.name = none
  left : ∀ k e, report.failures.get? k = some e → ∃ n, g₀.state.registry.get? k = some n ∧
    (g.state.registry.get? k = some n ∨ g.state.registry.get? k = some (Termination.marked n))

theorem mem_terminated {ends : Ends} {x : DueNode} :
    x ∈ (reportOn ends).terminated ↔ (x, .ok ()) ∈ ends := by
  rw [terminated_reportOn, List.mem_map]
  constructor
  · rintro ⟨⟨x, r⟩, hx, rfl⟩
    obtain ⟨hx, hr⟩ := List.mem_filter.1 hx
    cases r with
    | ok u => exact hx
    | error e => cases hr
  · exact fun hx => ⟨_, List.mem_filter.2 ⟨hx, rfl⟩, rfl⟩

theorem exact_of_terminations (hr : g₀.state.registry.Keyed) {ends : Ends}
    (hdue : dueNodes f now g₀.state.registry = ends.map (·.1)) (h : Terminations f es g₀ ends g) :
    Exact f now es g₀ (reportOn ends) g ends := by
  have hnd : (ends.map (·.1.name)).Nodup := by
    have hnames : ((dueNodes f now g₀.state.registry).map (·.name)).Nodup := nodup_dueNodes hr
    rwa [hdue, List.map_map] at hnames
  have hsorted : (dueNodes f now g₀.state.registry).Pairwise (·.name < ·.name) := sorted_dueNodes hr
  have hmem : ∀ k reason, ⟨k, reason⟩ ∈ ends.map (·.1) ↔
      ∃ n, g₀.state.registry.get? k = some n ∧ Outstays f now n reason := by
    intro k reason
    rw [← hdue, mem_dueNodes_iff hr]
  rw [hdue, List.pairwise_map] at hsorted
  refine ⟨h, hsorted, hmem, terminated_reportOn ends,
    fun k e => failures_reportOn hnd, fun k hk => ?_, fun x hx => ?_, fun k e he => ?_⟩
  · have hnot : ∀ x ∈ ends, x.1.name ≠ k := by
      rintro ⟨⟨k', reason⟩, r⟩ hx rfl
      obtain ⟨n, hn, ho⟩ := (hmem k' reason).1 (List.mem_map_of_mem hx)
      exact hk n reason hn ho
    refine ⟨h.frame fun hin => ?_, fun x hx => hnot _ (mem_terminated.1 hx), ?_⟩
    · obtain ⟨x, hx, hxk⟩ := List.mem_map.1 hin
      exact hnot x hx hxk
    · refine Option.eq_none_iff_forall_ne_some.2 fun e he => ?_
      obtain ⟨reason, hx⟩ := (failures_reportOn hnd).1 he
      exact hnot _ hx rfl
  · exact (h.left hnd (mem_terminated.1 hx)).absent
  · obtain ⟨reason, hx⟩ := (failures_reportOn hnd).1 he
    obtain ⟨n, hn, -⟩ := (hmem k reason).1 (List.mem_map_of_mem hx)
    exact ⟨n, hn, (h.left hnd hx).present hn⟩

/-- The runtimes obey, and for each node that has to go the cloud is known, a client can be had and
removals work. -/
structure Unhindered (f : Fleet) (now : Timestamp) (es : List Circumstance) (g₀ : Solo) : Prop where
  obeyed : ∀ e ∈ es, e.reaction = .obeys
  reachable : ∀ k n reason, g₀.state.registry.get? k = some n → Outstays f now n reason →
    ∃ c, f.cloud? n.cloud.text = some c ∧ (∀ e ∈ es, e.moment.refusal c.endpoint = none) ∧
      (g₀.sites c.endpoint.uri).isBroken .remove = false

theorem Terminations.isBroken {ends : Ends} (h : Terminations f es g₀ ends g) (uri : String)
    (kind : CallKind) : (g.sites uri).isBroken kind = (g₀.sites uri).isBroken kind := by
  induction h with
  | start => rfl
  | @next _ _ _ _ g _ before met alone ih =>
    refine (Progress.walk_induction (P := fun _ g' => (g'.sites uri).isBroken kind =
      (g.sites uri).isBroken kind) (fun _ _ _ _ _ hp hs => ?_) rfl alone).trans ih
    exact (Solo.isBroken_step hs uri kind).trans hp

theorem Terminations.all_ok {ends : Ends} (hu : Unhindered f now es g₀) (hheard : g₀.heard = [])
    (h : Terminations f es g₀ ends g) (hnd : (ends.map (·.1.name)).Nodup)
    (hdue : ∀ x ∈ ends, ∃ n, g₀.state.registry.get? x.1.name = some n ∧
      Outstays f now n x.1.reason) :
    (∀ x ∈ ends, x.2 = .ok ()) ∧ ∀ x ∈ g.heard, x.isLost = false := by
  induction h with
  | start =>
    refine ⟨List.forall_mem_nil _, ?_⟩
    rw [hheard]
    exact List.forall_mem_nil _
  | @next ends own x r g g' before met alone ih =>
    rw [List.map_append, List.nodup_append] at hnd
    obtain ⟨hok, hkept⟩ := ih hnd.1 fun x hx => hdue x (List.mem_append_left _ hx)
    obtain ⟨n, hn, ho⟩ := hdue (x, r) (List.mem_append_right _ List.mem_cons_self)
    obtain ⟨c, hc, hm, hb⟩ := hu.reachable _ n _ hn ho
    have habout : Termination.About f x.name g.state.registry n c := by
      refine ⟨?_, hc⟩
      rw [before.frame fun hin => hnd.2.2 _ hin _ List.mem_cons_self rfl]
      exact hn
    have hworking := Termination.run_working (fun e he => hu.obeyed e (met e he)) habout
      ⟨(before.isBroken _ _).trans hb, hkept⟩ alone
    have hr : r = .ok () := Termination.ok_of_kept habout ho.state (fun e he => hm e (met e he)) alone
      hworking.kept
    refine ⟨fun y hy => ?_, hworking.kept⟩
    obtain hy | hy := List.mem_append.1 hy
    · exact hok y hy
    · rw [List.mem_singleton.1 hy]
      exact hr

theorem dueNodes_eq_nil
    (h : ∀ k n reason, r.get? k = some n → ¬ Outstays f now n reason) : dueNodes f now r = [] := by
  refine List.filterMap_eq_nil_iff.2 fun n hn => ?_
  obtain ⟨k, hk⟩ := Dict.mem_values_iff.1 hn
  rw [Option.map_eq_none_iff]
  exact Option.eq_none_iff_forall_ne_some.2 fun reason hd => h k n reason hk (due_eq_some.1 hd)

theorem run_idle (e : Circumstance) (h : dueNodes f now g.state.registry = []) :
    Solo.run (pending f) g (.looking now) [e] = some (.done {}, g) := by
  have hlook : look f g.state now = { state := g.state, progress := .done {} } :=
    congrArg (goOn g.state {}) h
  rw [Solo.run, Progress.walk, Solo.step]
  simp only [pending, resume, wait, Solo.serve, Option.map_some, hlook, Option.bind_some,
    List.isEmpty_nil, if_true]

theorem Exact.unhindered {report : ReapReport} {ends : Ends} (h : Exact f now es g₀ report g ends)
    (hu : Unhindered f now es g₀) (hheard : g₀.heard = []) :
    report.failures = .empty ∧ dueNodes f now g.state.registry = [] := by
  have hnd : (ends.map (·.1.name)).Nodup :=
    List.pairwise_map.2 (h.sorted.imp fun hlt he => String.ne_of_lt hlt he)
  have hok := (h.ran.all_ok hu hheard hnd fun x hx =>
    (h.due x.1.name x.1.reason).1 (List.mem_map_of_mem hx)).1
  refine ⟨Dict.ext_get? fun k => Option.eq_none_iff_forall_ne_some.2 fun e he => ?_,
    dueNodes_eq_nil fun k n reason hn ho => ?_⟩
  · obtain ⟨reason, hx⟩ := (h.failures k e).1 he
    cases hok _ hx
  · by_cases hk : k ∈ ends.map (·.1.name)
    · obtain ⟨x, hx, rfl⟩ := List.mem_map.1 hk
      have hleft := h.ran.left hnd hx
      rw [hok x hx] at hleft
      cases hn.symm.trans hleft.absent
    · rw [h.ran.frame hk] at hn
      obtain ⟨x, hx, hxk⟩ := List.mem_map.1 ((h.due k reason).2 ⟨n, hn, ho⟩)
      exact hk (List.mem_map.2 ⟨x, hx, congrArg DueNode.name hxk⟩)

/-- A pass that goes on alone comes to its end, with one termination for each node that has to go. If
nothing hinders these, no node is left for a pass at the same time. -/
theorem pass_exact (f : Fleet) (now : Timestamp) (s : State) (sites : String → Memory)
    (hr : s.registry.Keyed) (es : List Circumstance) (q : Progress Phase ReapReport) (g : Solo)
    (h : Solo.run (pending f) { state := s, sites } (.looking now) es = some (q, g)) :
    es.length ≤ 7 * (dueNodes f now s.registry).length + 1 ∧
    match q with
    | .wait _ => ∃ more report g', Solo.run (pending f) { state := s, sites } (.looking now)
        (es ++ more) = some (.done report, g')
    | .done report => ∃ ends, Exact f now es { state := s, sites } report g ends ∧
        (Unhindered f now es { state := s, sites } → report.failures = .empty ∧
          ∀ e, Solo.run (pending f) g (.looking now) [e] = some (.done {}, g)) := by
  have hcount : Counted f (dueNodes f now s.registry).length (.wait (.looking now))
      { state := s, sites } := by
    intro t ht
    cases ht
    rfl
  have hlen := Progress.length_le_ahead (fun _ _ _ _ _ => step_counted) hcount h
  refine ⟨Nat.le_trans (Nat.le_add_right ..) hlen, ?_⟩
  cases q with
  | wait p =>
    exact Progress.exists_walk_append (fun _ _ _ _ _ => step_counted)
      (fun g p _ => ⟨{ moment := .sample 0 }, isSome_step g p _⟩) hcount h
  | done report =>
    cases run_course h with
    | ended due all =>
      have hexact := exact_of_terminations hr due all
      refine ⟨_, hexact, fun hu => ?_⟩
      obtain ⟨hfailures, hidle⟩ := hexact.unhindered hu rfl
      exact ⟨hfailures, fun e => run_idle e hidle⟩

/-- The container of an idle node does not stop, and goes by force. -/
theorem pass_exact_idle : ∃ es report g ends,
    Solo.run (pending .one) (.ofNode [.stop]) (.looking (.ofSecs 900)) es = some (.done report, g) ∧
    Exact .one (.ofSecs 900) es (.ofNode [.stop]) report g ends ∧
    report.terminated = [⟨"n1", .idle⟩] ∧ report.failures = .empty ∧
    g.state.registry.get? "n1" = none ∧
    ∀ e, Solo.run (pending .one) g (.looking (.ofSecs 900)) [e] = some (.done {}, g) := by
  let es : List Circumstance := .replicate 7 { moment := .sample 1 }
  obtain ⟨report, g, hrun, hterminated⟩ : ∃ report g,
      Solo.run (pending .one) (.ofNode [.stop]) (.looking (.ofSecs 900)) es =
        some (.done report, g) ∧ report.terminated = [⟨"n1", .idle⟩] := ⟨_, _, rfl, rfl⟩
  have honly : ∀ k n, (Solo.ofNode [.stop]).state.registry.get? k = some n →
      k = "n1" ∧ n = Node.sample := by
    intro k n hk
    have hk' : (Dict.empty.insert "n1" Node.sample).get? k = some n := hk
    rw [Dict.get?_insert] at hk'
    split at hk'
    · exact ⟨‹_›, (Option.some.inj hk').symm⟩
    · cases hk'
  have hkeyed : (Solo.ofNode [.stop]).state.registry.Keyed := by
    intro k n hk
    obtain ⟨rfl, rfl⟩ := honly k n hk
    rfl
  obtain ⟨-, ends, hexact, hunhindered⟩ := pass_exact .one (.ofSecs 900) (Solo.ofNode [.stop]).state
    (Stage.sampleSites [.stop]) hkeyed es _ g hrun
  obtain ⟨hfailures, hidle⟩ := hunhindered ⟨fun e he => by rw [List.eq_of_mem_replicate he],
    fun k n reason hk ho => by
      obtain ⟨rfl, rfl⟩ := honly k n hk
      exact ⟨_, rfl, fun e he => by rw [List.eq_of_mem_replicate he]; rfl, rfl⟩⟩
  exact ⟨es, report, g, ends, hrun, hexact, hterminated, hfailures,
    hexact.gone ⟨"n1", .idle⟩ (by rw [hterminated]; exact List.mem_singleton_self _), hidle⟩

end Reap

end ContainerFleet
