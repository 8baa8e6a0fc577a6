import ContainerFleet.Proofs.Matching
import ContainerFleet.Proofs.Pool
import ContainerFleet.Proofs.Removal
import ContainerFleet.Proofs.Stage

namespace ContainerFleet

namespace CloudSweep

section

variable (f : Fleet) (c : Cloud) (nodes : Registry) (m : Moment) (before : Memory)

def doomed : List Container :=
  overdue c nodes m.wall (graceSpan f.grace) (before.owned f c).values

def reportOn (gone : List Container) : SweepReport :=
  let found := findings (before.owned f c).values
  let drift := Drift.between found.map (live c nodes) m.wall (graceSpan f.grace)
  { mapped := found.map.size
    skipped := found.skipped
    removed := if before.isBroken .remove then [] else gone.map (·.id)
    removalFailures := if before.isBroken .remove then gone.map (·.id) else []
    inGrace := drift.inGrace.map (·.id)
    stale := drift.stale
    ignored := found.ignored }

def leftOf (gone : List Container) (id : String) : Option Container :=
  if id ∈ gone.map (·.id) then ((before.owned f c).get? id).bind before.remains
  else (before.owned f c).get? id

/-- Where the sweep of a cloud can be that began with the memory `before`, and which of the containers of
the cloud there are then. -/
inductive Sweeping : Dict Container → Progress Phase Result → Prop where
  | starting : Sweeping (before.owned f c) (.wait .starting)
  | listing : Sweeping (before.owned f c) (.wait .listing)
  | inspecting {pre post : List Container} {x : Container} {status : String}
      (works : before.isBroken .list = false)
      (listed : (before.owned f c).values = pre ++ x :: post) (hasStatus : x.status = some status) :
      Sweeping (before.owned f c)
        (.wait (.inspecting x.summary status (post.map (·.summary)) (findings pre)))
  | removing {own : Dict Container} {gone rest : List Container} {x y : Container} {r : Removal}
      {rs : List Removal} {p : Removal.Phase} (works : before.isBroken .list = false)
      (due : doomed f c nodes m before = gone ++ x :: rest) (this : r.id = x.id)
      (next : rs.map (·.id) = rest.map (·.id)) (under : Removal.At before x p y)
      (held : own.get? x.id = some y)
      (others : ∀ id, id ≠ x.id → own.get? id = leftOf f c before gone id) :
      Sweeping own (.wait (.removing r p rs (reportOn f c nodes m before gone)))
  | unleased {e : PoolError} (refused : m.refusal c.endpoint ≠ none) :
      Sweeping (before.owned f c) (.done (.error (.client c.name e)))
  | unlisted (broken : before.isBroken .list = true) :
      Sweeping (before.owned f c) (.done (.error (.list c.name (Memory.brokenError .list))))
  | swept {own : Dict Container} (works : before.isBroken .list = false)
      (left : ∀ id, own.get? id = leftOf f c before (doomed f c nodes m before) id) :
      Sweeping own (.done (.ok (reportOn f c nodes m before (doomed f c nodes m before))))

def ahead (n : Nat) : Progress Phase Result → Nat
  | .wait .starting => 4 * n + 2
  | .wait .listing => 4 * n + 1
  | .wait (.inspecting _ _ rest found) => 4 * (rest.length + 1) + 3 * found.map.size
  | .wait (.removing _ p rest _) => 3 * rest.length + p.ahead
  | .done _ => 0

end

variable {f : Fleet} {c : Cloud} {nodes : Registry} {s : State} {m : Moment} {before : Memory}
  {n : Nat}

theorem Sweeping.of_error {own : Dict Container} {e : SweepError}
    (h : Sweeping f c nodes m before own (.done (.error e))) : own = before.owned f c ∧
      ((m.refusal c.endpoint ≠ none ∧ ∃ e', e = .client c.name e') ∨
        (before.isBroken .list = true ∧ e = .list c.name (Memory.brokenError .list))) := by
  cases h with
  | unleased refused => exact ⟨rfl, .inl ⟨refused, _, rfl⟩⟩
  | unlisted broken => exact ⟨rfl, .inr ⟨broken, rfl⟩⟩

theorem Sweeping.of_ok {own : Dict Container} {report : SweepReport}
    (h : Sweeping f c nodes m before own (.done (.ok report))) : before.isBroken .list = false ∧
      report = reportOn f c nodes m before (doomed f c nodes m before) ∧
      ∀ id, own.get? id = leftOf f c before (doomed f c nodes m before) id := by
  cases h with
  | swept works left => exact ⟨works, rfl, left⟩

theorem ahead_removeNext (report : SweepReport) (rs : List Removal) :
    ahead n (removeNext c s m report rs).progress = 3 * rs.length := by
  cases rs <;> rfl

theorem doomed_sorted (hk : before.Keyed) :
    (doomed f c nodes m before).Pairwise (·.id < ·.id) :=
  hk.sorted_owned.sublist overdue_sublist

theorem get?_of_mem_doomed (hk : before.Keyed) {x : Container}
    (hx : x ∈ doomed f c nodes m before) : (before.owned f c).get? x.id = some x :=
  hk.get?_of_mem (overdue_sublist.subset hx)

theorem removeNext_sweeping (hk : before.Keyed) (works : before.isBroken .list = false)
    {own : Dict Container} {gone rest : List Container} {rs : List Removal}
    (due : doomed f c nodes m before = gone ++ rest) (next : rs.map (·.id) = rest.map (·.id))
    (hown : ∀ id, own.get? id = leftOf f c before gone id) :
    Sweeping f c nodes m before own
      (removeNext c s m (reportOn f c nodes m before gone) rs).progress := by
  cases rest with
  | nil =>
    obtain rfl := List.map_eq_nil_iff.1 next
    rw [List.append_nil] at due
    rw [← due] at hown ⊢
    exact .swept works hown
  | cons x rest =>
    cases rs with
    | nil => cases next
    | cons r rs =>
      obtain ⟨hid, hrest⟩ := List.cons_eq_cons.1 next
      have hx : x.id ∉ gone.map (·.id) := by
        intro hin
        obtain ⟨y, hy, hyx⟩ := List.mem_map.1 hin
        have hs : (doomed f c nodes m before).Pairwise (·.id < ·.id) := doomed_sorted hk
        rw [due] at hs
        have hlt := (List.pairwise_append.1 hs).2.2 y hy x List.mem_cons_self
        exact String.lt_irrefl _ (hyx ▸ hlt)
      refine .removing works due hid hrest .stopping ?_ fun id _ => hown id
      have hmem : x ∈ doomed f c nodes m before := by simp [due]
      rw [hown, leftOf, if_neg hx]
      exact get?_of_mem_doomed hk hmem

theorem classify_sweeping (hk : before.Keyed) (works : before.isBroken .list = false) :
    Sweeping f c nodes m before (before.owned f c)
        (classify f c nodes s m (findings (before.owned f c).values)).progress ∧
      ahead n (classify f c nodes s m (findings (before.owned f c).values)).progress ≤
        3 * (eligible (before.owned f c).values).length := by
  have hs := hk.sorted_owned (f := f) (c := c)
  have hc : classify f c nodes s m (findings (before.owned f c).values) =
      removeNext c s m (reportOn f c nodes m before [])
        ((Drift.between (findings (before.owned f c).values).map (live c nodes) m.wall
          (graceSpan f.grace)).orphans.map (removal c (findings (before.owned f c).values))) := by
    simp [classify, reportOn]
  rw [hc, orphans_between hs, List.map_map]
  constructor
  · have hdue : doomed f c nodes m before = [] ++ doomed f c nodes m before := rfl
    refine removeNext_sweeping hk works hdue ?_ fun id => ?_
    · rw [List.map_map]
      rfl
    · simp [leftOf]
  · rw [ahead_removeNext, List.length_map]
    have hl : (overdue c nodes m.wall (graceSpan f.grace) (before.owned f c).values).length ≤
        (eligible (before.owned f c).values).length :=
      (List.filter_sublist.trans List.filter_sublist).length_le
    omega

theorem inspectNext_sweeping (hk : before.Keyed) (works : before.isBroken .list = false)
    {pre post : List Container} (listed : (before.owned f c).values = pre ++ post) :
    Sweeping f c nodes m before (before.owned f c)
        (inspectNext f c nodes s m (findings pre) (post.map (·.summary))).progress ∧
      ahead n (inspectNext f c nodes s m (findings pre) (post.map (·.summary))).progress ≤
        4 * post.length + 3 * (eligible pre).length := by
  induction post generalizing pre with
  | nil =>
    rw [List.append_nil] at listed
    subst listed
    have hahead : ahead n (classify f c nodes s m (findings (before.owned f c).values)).progress ≤
        3 * (eligible (before.owned f c).values).length := (classify_sweeping hk works).2
    exact ⟨(classify_sweeping (n := n) hk works).1, by simpa [inspectNext] using hahead⟩
  | cons x post ih =>
    cases hst : x.status with
    | some status =>
      have hi : inspectNext f c nodes s m (findings pre) ((x :: post).map (·.summary)) =
          { state := s
            progress := .wait
              (.inspecting x.summary status (post.map (·.summary)) (findings pre)) } := by
        rw [List.map_cons, inspectNext, show x.summary.status = some status from hst]
      have hpre : pre.Pairwise (·.id < ·.id) :=
        (listed ▸ hk.sorted_owned (f := f) (c := c)).sublist (List.sublist_append_left _ _)
      rw [hi]
      refine ⟨.inspecting works listed hst, ?_⟩
      simp only [ahead, size_findings hpre, List.length_map, List.length_cons]
      omega
    | none =>
      have hi : inspectNext f c nodes s m (findings pre) ((x :: post).map (·.summary)) =
          inspectNext f c nodes s m (findings (pre ++ [x])) (post.map (·.summary)) := by
        rw [List.map_cons, inspectNext, show x.summary.status = none from hst, findings_concat, note,
          hst]
        rfl
      have he : eligible (pre ++ [x]) = eligible pre := by
        rw [eligible_concat, if_neg]
        simp [Container.standsAfter, hst]
      have hl : (before.owned f c).values = pre ++ [x] ++ post := by simpa using listed
      obtain ⟨hsweep, hahead⟩ := ih hl
      rw [he] at hahead
      rw [hi]
      refine ⟨hsweep, ?_⟩
      rw [List.length_cons]
      omega

section

variable {g g₁ : Stage} (hk : before.Keyed)

include hk

theorem list_sweeping {a : Except RuntimeError (List Summary)}
    (hb : (g.sites c.endpoint.uri).broken = before.broken)
    (hown : (g.sites c.endpoint.uri).owned f c = before.owned f c)
    (ha : a = ((g.sites c.endpoint.uri).answer m.wall (.list (ownFilter f c))).1) :
    Sweeping f c nodes m before (before.owned f c) (listed f c nodes s m a).progress ∧
      ahead n (listed f c nodes s m a).progress ≤ 4 * (before.owned f c).values.length := by
  have hl : (g.sites c.endpoint.uri).answer m.wall (.list (ownFilter f c)) =
      if before.isBroken .list then (.error (Memory.brokenError .list), g.sites c.endpoint.uri)
      else (.ok ((before.owned f c).values.map (·.summary)), g.sites c.endpoint.uri) := by
    rw [← hown, ← Memory.listed_owned, ← Memory.isBroken_congr hb]
    rfl
  rw [ha, hl]
  cases hbl : before.isBroken .list with
  | true => exact ⟨.unlisted hbl, Nat.zero_le _⟩
  | false => exact inspectNext_sweeping hk hbl (List.nil_append (before.owned f c).values).symm

theorem inspect_sweeping {pre post : List Container} {x : Container} {status : String}
    {a : Except RuntimeError Details} (works : before.isBroken .list = false)
    (hl : (before.owned f c).values = pre ++ x :: post) (hst : x.status = some status)
    (hown : (g.sites c.endpoint.uri).owned f c = before.owned f c)
    (ha : a = ((g.sites c.endpoint.uri).answer m.wall (.inspect x.id)).1) :
    Sweeping f c nodes m before (before.owned f c)
        (inspectNext f c nodes s m (correlate (findings pre) x.summary status a)
          (post.map (·.summary))).progress ∧
      ahead n (inspectNext f c nodes s m (correlate (findings pre) x.summary status a)
          (post.map (·.summary))).progress ≤ 4 * post.length + 3 * (eligible pre).length + 3 := by
  have hx : (g.sites c.endpoint.uri).get? x.id = some x := by
    have hget := hk.get?_of_mem (f := f) (c := c) (x := x) (by simp [hl])
    rw [← hown] at hget
    exact (Memory.get?_owned.1 hget).1
  have hf : correlate (findings pre) x.summary status a = findings (pre ++ [x]) := by
    rw [ha, Memory.answer_inspect hx, findings_concat, note, hst]
  have he : (eligible (pre ++ [x])).length ≤ (eligible pre).length + 1 := by
    rw [eligible_concat]
    split <;> simp
  have hl' : (before.owned f c).values = pre ++ [x] ++ post := by simpa using hl
  rw [hf]
  refine And.imp_right (fun h => Nat.le_trans h ?_) (inspectNext_sweeping hk works hl')
  omega

theorem remove_sweeping {own : Dict Container} {gone rest : List Container} {x y : Container}
    {r : Removal} {rs : List Removal} {p : Removal.Phase}
    (hb : (g.sites c.endpoint.uri).broken = before.broken)
    (works : before.isBroken .list = false)
    (due : doomed f c nodes m before = gone ++ x :: rest) (this : r.id = x.id)
    (next : rs.map (·.id) = rest.map (·.id)) (under : Removal.At before x p y)
    (held : (g.sites c.endpoint.uri).get? x.id = some y)
    (hown : ∀ id, id ≠ x.id → own.get? id = leftOf f c before gone id)
    (hown' : own.get? x.id = (r.attempt (g.sites c.endpoint.uri) m.wall p).2.get? x.id) :
    Sweeping f c nodes m before own
        (remove c s m r p rs (reportOn f c nodes m before gone)
          (r.attempt (g.sites c.endpoint.uri) m.wall p).1).progress ∧
      ahead n (remove c s m r p rs (reportOn f c nodes m before gone)
          (r.attempt (g.sites c.endpoint.uri) m.wall p).1).progress < 3 * rest.length + p.ahead := by
  have hmem : x ∈ doomed f c nodes m before := by simp [due]
  have hx : (before.owned f c).get? x.id = some x := get?_of_mem_doomed hk hmem
  have hlen : rs.length = rest.length := by simpa using congrArg List.length next
  have hp : 0 < p.ahead := by cases p <;> exact Nat.succ_pos _
  have due' : doomed f c nodes m before = gone ++ [x] ++ rest := by simp [due]
  -- The container `x` has come to its end, and the sweep goes on with the next one.
  have hnext {report : SweepReport} (hrep : report = reportOn f c nodes m before (gone ++ [x]))
      (hend : (r.attempt (g.sites c.endpoint.uri) m.wall p).2.get? x.id = before.remains x) :
      Sweeping f c nodes m before own (removeNext c s m report rs).progress ∧
        ahead n (removeNext c s m report rs).progress < 3 * rest.length + p.ahead := by
    subst hrep
    refine ⟨removeNext_sweeping hk works due' next fun id => ?_, by rw [ahead_removeNext]; omega⟩
    by_cases hid : id = x.id
    · rw [hid, hown', hend, leftOf, if_pos (by simp), hx]
      rfl
    · rw [hown id hid, leftOf, leftOf]
      simp [hid]
  unfold remove
  obtain ⟨p', y', hr, hat, hy', hlt⟩ | ⟨hbr, ⟨done, hr⟩, hend⟩ | ⟨hbr, ⟨e, hr⟩, hend⟩ :=
    under.goes_on m.wall (this ▸ held) hb
  · rw [hr]
    refine ⟨.removing works due this next hat ?_ hown, ?_⟩
    · rw [hown', ← this, hy']
    · simp only [ahead]
      omega
  · rw [hr]
    exact hnext (by simp [reportOn, hbr, this]) (by rw [← this, hend, Memory.remains, hbr]; rfl)
  · rw [hr]
    exact hnext (by simp [reportOn, hbr, this]) (by rw [← this, hend, Memory.remains, hbr]; rfl)

theorem step_sweeping {p : Phase} {a : (wait f c p).Answer}
    (hb : (g.sites c.endpoint.uri).broken = before.broken)
    (h : Sweeping f c nodes m before ((g.sites c.endpoint.uri).owned f c) (.wait p))
    (hs : g.serve m.wall (wait f c p) = some (a, g₁)) :
    Sweeping f c nodes m before ((g₁.sites c.endpoint.uri).owned f c)
        (resume f c nodes s m p a).progress ∧
      ahead (before.owned f c).values.length (resume f c nodes s m p a).progress <
        ahead (before.owned f c).values.length (.wait p) := by
  generalize hown : (g.sites c.endpoint.uri).owned f c = own at h
  cases h with
  | starting =>
    obtain ⟨_, rfl⟩ := Prod.ext_iff.1 (Option.some.inj hs)
    rw [hown]
    simp only [resume, start]
    split
    · rename_i e s' hl
      refine ⟨.unleased fun hr => ?_, Nat.succ_pos _⟩
      obtain ⟨client, hc⟩ := State.lease_ok (s := s) hr
      rw [hl] at hc
      cases hc
    · exact ⟨.listing, Nat.lt_succ_self _⟩
  | listing =>
    obtain ⟨ha, hsites⟩ := Stage.serve_call hs
    have hsame : g₁.sites c.endpoint.uri = g.sites c.endpoint.uri := by
      rw [hsites, Function.update_self, (Memory.answer_list _ _).1]
    rw [hsame, hown]
    exact And.imp_right Nat.lt_succ_of_le (list_sweeping hk hb hown ha)
  | @inspecting pre post x status works listed hasStatus =>
    obtain ⟨ha, hsites⟩ := Stage.serve_call hs
    have hsame : g₁.sites c.endpoint.uri = g.sites c.endpoint.uri := by
      rw [hsites, Function.update_self]
      rfl
    have hpre : pre.Pairwise (·.id < ·.id) :=
      (listed ▸ hk.sorted_owned (f := f) (c := c)).sublist (List.sublist_append_left _ _)
    rw [hsame, hown]
    refine And.imp_right (fun h => Nat.lt_of_le_of_lt h ?_)
      (inspect_sweeping hk works listed hasStatus hown ha)
    simp only [ahead, List.length_map, size_findings hpre]
    omega
  | @removing _ gone rest x y r rs p works due this next under held others =>
    obtain ⟨ha, hsites⟩ := Stage.serve_call hs
    have hy : (g.sites c.endpoint.uri).get? x.id = some y ∧ f.owns c y.labels = true :=
      Memory.get?_owned.1 (hown ▸ held)
    have hM : g₁.sites c.endpoint.uri = (r.attempt (g.sites c.endpoint.uri) m.wall p).2 := by
      rw [hsites, Function.update_self]
      rfl
    have hreply : r.reply p a = (r.attempt (g.sites c.endpoint.uri) m.wall p).1 := by
      rw [ha]
      rfl
    have hlen : rs.length = rest.length := by simpa using congrArg List.length next
    rw [hM]
    simp only [resume, ahead, hreply, hlen]
    refine remove_sweeping hk hb works due this next under hy.1 (fun id hid => ?_) ?_
    · rw [← others id hid, ← hown]
      exact Memory.get?_owned_congr (Removal.get?_answer_call p (this ▸ hid))
    · refine Memory.get?_owned_of fun z hz => ?_
      have hc : (g.sites c.endpoint.uri).Culls (fun _ _ => True)
          (r.attempt (g.sites c.endpoint.uri) m.wall p).2 :=
        Memory.answer_culls (Removal.call_livens r p) fun _ _ _ _ => trivial
      rw [hc.labels_eq hy.1 hz]
      exact hy.2

end

theorem registry_inspectNext (found : Findings) (xs : List Summary) :
    (inspectNext f c nodes s m found xs).state.registry = s.registry := by
  induction xs generalizing found with
  | nil =>
    simp only [inspectNext, classify]
    generalize List.map (removal c found) _ = rs
    cases rs <;> rfl
  | cons x xs ih =>
    simp only [inspectNext]
    split
    · rfl
    · exact ih _

theorem registry_resume (p : Phase) (a : (wait f c p).Answer) :
    (resume f c nodes s m p a).state.registry = s.registry := by
  cases p with
  | starting =>
    have hl : (s.lease m c).2.registry = s.registry := rfl
    simp only [resume, start]
    split <;> rename_i he <;> rw [he] at hl <;> exact hl
  | listing =>
    simp only [resume, listed]
    split
    · rfl
    · exact registry_inspectNext _ _
  | inspecting x status rest found => exact registry_inspectNext _ _
  | removing r p rest report =>
    simp only [resume, remove]
    split
    · rfl
    · cases rest <;> rfl
    · cases rest <;> rfl

def Struck (calls : List (String × Call)) (uri id : String) : Prop :=
  ∃ call, (uri, call) ∈ calls ∧ call.victim? = some id

theorem struck_append {calls calls' : List (String × Call)} {uri id : String} :
    Struck (calls ++ calls') uri id ↔ Struck calls uri id ∨ Struck calls' uri id := by
  simp [Struck, or_and_right, exists_or]

theorem struck_wait {p : Phase} {uri id : String} : Struck (wait f c p).calls uri id ↔
    c.endpoint.uri = uri ∧ Struck (wait f c p).calls c.endpoint.uri id := by
  cases p <;> simp [Struck, Wait.calls, and_comm, eq_comm]

def tried : Progress Phase Result → List String
  | .wait (.removing r p _ report) =>
    report.removed ++ report.removalFailures ++ if p = .stopping then [] else [r.id]
  | .done (.ok report) => report.removed ++ report.removalFailures
  | _ => []

theorem tried_removeNext (report : SweepReport) (rs : List Removal) :
    tried (removeNext c s m report rs).progress = report.removed ++ report.removalFailures := by
  cases rs with
  | nil => rfl
  | cons r rs => exact List.append_nil _

theorem tried_reportOn (gone : List Container) :
    tried (.done (.ok (reportOn f c nodes m before gone))) = gone.map (·.id) := by
  simp only [tried, reportOn]
  split <;> simp

theorem tried_inspectNext (found : Findings) (xs : List Summary) :
    tried (inspectNext f c nodes s m found xs).progress = [] := by
  induction xs generalizing found with
  | nil => exact tried_removeNext _ _
  | cons x xs ih =>
    simp only [inspectNext]
    split
    · rfl
    · exact ih _

theorem mem_tried_resume (p : Phase) (a : (wait f c p).Answer) (id : String) :
    id ∈ tried (resume f c nodes s m p a).progress ↔
      id ∈ tried (.wait p) ∨ Struck (wait f c p).calls c.endpoint.uri id := by
  cases p with
  | starting =>
    simp only [resume, start]
    split <;> simp [tried, Struck, Wait.calls]
  | listing =>
    simp only [resume, listed]
    split
    · simp [tried, Struck, Wait.calls, Call.victim?]
    · rw [tried_inspectNext]
      simp [tried, Struck, Wait.calls, Call.victim?]
  | inspecting x status rest found =>
    rw [resume, tried_inspectNext]
    simp [tried, Struck, Wait.calls, Call.victim?]
  | removing r p rest report =>
    have hstruck : Struck (wait f c (.removing r p rest report)).calls c.endpoint.uri id ↔
        id = r.id := by
      simp [Struck, Wait.calls, Removal.victim?_call, eq_comm]
    have htried : id ∈ tried (.wait (.removing r p rest report)) ∨ id = r.id ↔
        id ∈ report.removed ∨ id ∈ report.removalFailures ∨ id = r.id := by
      simp only [tried]
      split <;> simp [or_assoc]
    rw [hstruck, htried]
    simp only [resume, remove]
    split
    · rename_i p' hp
      have hne : p' ≠ .stopping := fun he => Removal.resume_ne_stopping (he ▸ hp)
      simp [tried, hne]
    · rw [tried_removeNext]
      simp [or_left_comm, or_comm]
    · rw [tried_removeNext]
      simp

/-- The containers that the sweep of a cloud may stop or remove. -/
theorem step_culls {g g₁ : Stage} {p : Phase} {a : (wait f c p).Answer}
    (h : Sweeping f c nodes m before ((g.sites c.endpoint.uri).owned f c) (.wait p))
    (hs : g.serve m.wall (wait f c p) = some (a, g₁)) (uri : String) :
    (g.sites uri).Culls (fun _ l => c.endpoint.uri = uri ∧ f.owns c l = true) (g₁.sites uri) := by
  have hcall {call : Call} (hc : call.livens = false)
      (hv : ∀ id x, call.victim? = some id → (g.sites c.endpoint.uri).get? id = some x →
        f.owns c x.labels = true)
      (hsites : g₁.sites = Function.update g.sites c.endpoint.uri
        ((g.sites c.endpoint.uri).answer m.wall call).2) :
      (g.sites uri).Culls (fun _ l => c.endpoint.uri = uri ∧ f.owns c l = true)
        (g₁.sites uri) := by
    rw [hsites]
    by_cases hu : uri = c.endpoint.uri
    · subst hu
      rw [Function.update_self]
      exact Memory.answer_culls hc fun id x hi hx => ⟨rfl, hv id x hi hx⟩
    · rw [Function.update_of_ne hu]
      exact .refl
  generalize hown : (g.sites c.endpoint.uri).owned f c = own at h
  cases h with
  | starting =>
    obtain ⟨_, rfl⟩ := Prod.ext_iff.1 (Option.some.inj hs)
    exact .refl
  | listing =>
    refine hcall rfl (fun _ _ hi => ?_) (Stage.serve_call hs).2
    cases hi
  | inspecting =>
    refine hcall rfl (fun _ _ hi => ?_) (Stage.serve_call hs).2
    cases hi
  | @removing _ gone rest x y r rs p works due this next under held others =>
    refine hcall (Removal.call_livens r p) (fun id z hi hz => ?_) (Stage.serve_call hs).2
    obtain rfl : x.id = id := this ▸ Option.some.inj ((Removal.victim?_call r p).symm.trans hi)
    have hy := Memory.get?_owned.1 (hown ▸ held)
    rw [Option.some.inj (hz.symm.trans hy.1)]
    exact hy.2

end CloudSweep

end ContainerFleet
