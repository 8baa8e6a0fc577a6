import ContainerFleet.Proofs.FirstFit
import ContainerFleet.Proofs.SweepHistory
import Mathlib.Data.List.Forall2

namespace ContainerFleet

theorem exists_drop_of_sublist {α : Type} {t : α} {ts l : List α} (h : (t :: ts).Sublist l) :
    ∃ i, l[i]? = some t ∧ (t :: ts).Sublist (l.drop i) := by
  induction l with
  | nil => cases h
  | cons a l ih =>
    cases h with
    | cons _ h =>
      obtain ⟨i, hi, hs⟩ := ih h
      exact ⟨i + 1, hi, hs⟩
    | cons_cons _ h => exact ⟨0, rfl, h.cons_cons t⟩

namespace Plan

def order? : Plan → Option Order
  | pending o => some o
  | failed _ _ => none

def isFor (t : Target) : Plan → Prop
  | pending o => o.target = t
  | failed cloud _ => cloud = t.cloud.name

end Plan

namespace Planning

variable {f : Fleet} {s : State} {m : Moment} {plans : List Plan} {p : Plan} {t : Target} {b i : Nat}

def orders (plans : List Plan) : List Order := plans.filterMap (·.order?)

def covered (os : List Order) : Nat := (os.map (·.target.yield)).sum

def UpTo (f : Fleet) (b : Nat) (plans : List Plan) : Prop :=
  ∃ places : List Nat, places.Pairwise (· ≤ ·) ∧ (∀ i ∈ places, i ≤ b) ∧
    List.Forall₂ (fun i p => ∃ t, f.targets[i]? = some t ∧ p.isFor t) places plans

theorem UpTo.concat (h : UpTo f b plans) (hb : b ≤ i) (ht : f.targets[i]? = some t)
    (hp : p.isFor t) : UpTo f i (plans ++ [p]) := by
  obtain ⟨places, hsorted, hle, hplans⟩ := h
  refine ⟨places ++ [i], ?_, fun j hj => ?_, ?_⟩
  · refine List.pairwise_append.2 ⟨hsorted, List.pairwise_singleton _ _, fun j hj k hk => ?_⟩
    rw [List.mem_singleton.1 hk]
    exact Nat.le_trans (hle j hj) hb
  · obtain hj | hj := List.mem_append.1 hj
    · exact Nat.le_trans (hle j hj) hb
    · exact Nat.le_of_eq (List.mem_singleton.1 hj)
  · exact List.rel_append hplans (.cons ⟨t, ht, hp⟩ .nil)

/-- What planning finds when it goes on. Others may have changed all of the state since. -/
structure Encounter where
  state : State
  moment : Moment
  /-- What a listing comes to, if planning waits for one. -/
  listing : Except RuntimeError (List Summary)

def Encounter.answer (e : Encounter) : (p : Phase) → (wait p).Answer
  | .locking _ _ => ()
  | .counting _ _ _ _ => e.listing

abbrev Trail := List (Phase × Encounter)

def Trail.checked (tr : Trail) : List Target :=
  tr.filterMap fun x => match x.1 with
    | .locking _ t => some t
    | .counting _ _ _ _ => none

def tread (f : Fleet) (tr : Trail) (p : Phase) (e : Encounter) :
    Option (Progress Phase Round × Trail) :=
  some ((resume f e.state e.moment p (e.answer p)).progress, tr ++ [(p, e)])

def requestAmid (f : Fleet) (s : State) (m : Moment) (label : Option LabelExpr) (executors : Nat)
    (es : List Encounter) : Option (Progress Phase Round × Trail) :=
  match (start f s m label executors).progress with
  | .wait p => Progress.walk (tread f) [] p es
  | .done r => if es.isEmpty then some (.done r, []) else none

def TurnedDown (f : Fleet) (tr : Trail) (r : Round) (t : Target) : Prop :=
  ∃ r' onCloud ofTemplate e running detail,
    (Phase.counting r' t onCloud ofTemplate, e) ∈ tr ∧ e.listing = .ok running ∧
    exceeded? f t running onCloud ofTemplate = some detail ∧
    .capacityExceeded t.cloud.name t.template.name detail ∈ r.rejected

inductive Dropped (f : Fleet) (tr : Trail) (r : Round) (t : Target) : Prop where
  | full (down : TurnedDown f tr r t)
  | faulty (e : ProvisionError) (plan : .failed t.cloud.name e ∈ r.plans)
  | closed (x : Phase × Encounter) (met : x ∈ tr) (shut : x.2.state.isOpen x.2.moment t = false)

/-- The round so far, in which `demand` is to be covered from the candidates `entry`. -/
structure Shaped (f : Fleet) (entry : List Target) (demand : Nat) (tr : Trail) (r : Round) : Prop where
  ordered : ∃ b, UpTo f b r.plans ∧ r.candidates.Sublist (f.targets.drop b)
  failures : r.plans.Pairwise fun p q => p.isFailed = true → q.cloud ≠ p.cloud
  apart : ∀ p ∈ r.plans, p.isFailed = true → ∀ t ∈ r.candidates, t.cloud.name ≠ p.cloud
  remaining : r.remaining = demand - covered (orders r.plans)
  needed : ∀ os o, orders r.plans = os ++ [o] → covered os < demand
  accounted : ∀ t ∈ entry, t ∈ r.candidates ∨ Dropped f tr r t
  opening : if tr.checked = [] then r.candidates = entry else tr.checked.head? = entry.head?

/-- Where planning can be, if at most `most` checks are to be made. -/
inductive OnRound (f : Fleet) (entry : List Target) (demand most : Nat) :
    Progress Phase Round → Trail → Prop where
  | locking {tr : Trail} {r : Round} {t : Target} {ts : List Target}
      (shaped : Shaped f entry demand tr r)
      (few : tr.checked.length + (r.remaining + r.candidates.length) ≤ most)
      (short : 0 < r.remaining) (first : r.candidates = t :: ts) :
      OnRound f entry demand most (.wait (.locking r t)) tr
  | counting {tr : Trail} {r : Round} {t : Target} {ts : List Target} {onCloud ofTemplate : Nat}
      (shaped : Shaped f entry demand tr r)
      (few : tr.checked.length + (r.remaining + r.candidates.length) ≤ most + 1)
      (begun : tr.checked ≠ []) (short : 0 < r.remaining) (first : r.candidates = t :: ts) :
      OnRound f entry demand most (.wait (.counting r t onCloud ofTemplate)) tr
  | ended {tr : Trail} {r : Round} (shaped : Shaped f entry demand tr r)
      (few : tr.checked.length ≤ most) (spent : r.remaining = 0 ∨ r.candidates = []) :
      OnRound f entry demand most (.done r) tr

variable {entry : List Target} {demand most : Nat} {tr : Trail} {r : Round} {ts : List Target}
  {e : Encounter}

theorem orders_concat_pending (o : Order) : orders (plans ++ [.pending o]) = orders plans ++ [o] := by
  rw [orders, List.filterMap_append]
  rfl

theorem orders_concat_failed (c : CloudName) (e : ProvisionError) :
    orders (plans ++ [.failed c e]) = orders plans := by
  rw [orders, List.filterMap_append]
  exact List.append_nil _

theorem covered_concat (os : List Order) (o : Order) :
    covered (os ++ [o]) = covered os + o.target.yield := by
  simp [covered]

theorem checked_concat_locking : Trail.checked (tr ++ [(.locking r t, e)]) = tr.checked ++ [t] := by
  rw [Trail.checked, List.filterMap_append]
  rfl

theorem checked_concat_counting {onCloud ofTemplate : Nat} :
    Trail.checked (tr ++ [(.counting r t onCloud ofTemplate, e)]) = tr.checked := by
  rw [Trail.checked, List.filterMap_append]
  exact List.append_nil _

theorem Dropped.extend {x : Phase × Encounter} (h : Dropped f tr r t) :
    Dropped f (tr ++ [x]) r t := by
  cases h with
  | full down =>
    obtain ⟨r', onCloud, ofTemplate, e, running, detail, hmem, hrest⟩ := down
    exact .full ⟨r', onCloud, ofTemplate, e, running, detail, List.mem_append_left _ hmem, hrest⟩
  | faulty e plan => exact .faulty e plan
  | closed x met shut => exact .closed x (List.mem_append_left _ met) shut

theorem Dropped.grow {r' : Round} (h : Dropped f tr r t) (hp : ∀ p ∈ r.plans, p ∈ r'.plans)
    (hr : ∀ e ∈ r.rejected, e ∈ r'.rejected) : Dropped f tr r' t := by
  cases h with
  | full down =>
    obtain ⟨q, onCloud, ofTemplate, e, running, detail, hmem, hl, he, hrej⟩ := down
    exact .full ⟨q, onCloud, ofTemplate, e, running, detail, hmem, hl, he, hr _ hrej⟩
  | faulty e plan => exact .faulty e (hp _ plan)
  | closed x met shut => exact .closed x met shut

/-- The first candidate is declared at a place after which nothing has been planned. -/
theorem Shaped.place (h : Shaped f entry demand tr r) (hc : r.candidates = t :: ts) :
    ∃ b i, UpTo f b r.plans ∧ b ≤ i ∧ f.targets[i]? = some t ∧
      r.candidates.Sublist (f.targets.drop i) := by
  obtain ⟨b, hup, hsub⟩ := h.ordered
  rw [hc] at hsub ⊢
  obtain ⟨i, hi, hdrop⟩ := exists_drop_of_sublist hsub
  rw [List.getElem?_drop] at hi
  rw [List.drop_drop] at hdrop
  exact ⟨b, b + i, hup, Nat.le_add_right .., hi, hdrop⟩

theorem Shaped.extend {x : Phase × Encounter} (h : Shaped f entry demand tr r)
    (hx : Trail.checked (tr ++ [x]) = tr.checked) : Shaped f entry demand (tr ++ [x]) r :=
  ⟨h.ordered, h.failures, h.apart, h.remaining, h.needed,
    fun t ht => (h.accounted t ht).imp_right Dropped.extend, by rw [hx]; exact h.opening⟩

theorem Shaped.check (h : Shaped f entry demand tr r) (hc : r.candidates = t :: ts) :
    Shaped f entry demand (tr ++ [(.locking r t, e)]) r := by
  refine ⟨h.ordered, h.failures, h.apart, h.remaining, h.needed,
    fun t ht => (h.accounted t ht).imp_right Dropped.extend, ?_⟩
  have ho := h.opening
  rw [checked_concat_locking, if_neg (by simp)]
  split at ho
  · rename_i hnil
    rw [hnil, ← ho, hc]
    rfl
  · rename_i hne
    rw [List.head?_append_of_ne_nil _ hne]
    exact ho

theorem isOpen_trip {c : Cloud} {m' : Moment} {reason cause : String} (h : t.cloud.name ≠ c.name) :
    (s.trip f m c reason cause).isOpen m' t = s.isOpen m' t := by
  have ha : (s.trip f m c reason cause).cloudAvailability t.cloud = s.cloudAvailability t.cloud := by
    simp only [State.cloudAvailability, State.trip, State.setCloud, Dict.get?_insert]
    rw [if_neg fun he => h (Fleet.name_eq_iff.2 he)]
  rw [State.isOpen, ha]
  rfl

theorem length_apart {cs : List Target} (ht : t ∈ cs) :
    (cs.filter (·.cloud.name ≠ t.cloud.name)).length < cs.length :=
  List.length_filter_lt_length_iff_exists.2 ⟨t, ht, by simp⟩

theorem Shaped.closes (h : Shaped f entry demand tr r)
    (hshut : ∀ t ∈ r.candidates, s.isOpen m t = false →
      ∃ x ∈ tr, x.2.state.isOpen x.2.moment t = false)
    (hopen : tr.checked = [] → r.candidates.filter (s.isOpen m) = r.candidates) :
    Shaped f entry demand tr { r with candidates := r.candidates.filter (s.isOpen m) } := by
  obtain ⟨b, hup, hsub⟩ := h.ordered
  refine ⟨⟨b, hup, List.filter_sublist.trans hsub⟩, h.failures,
    fun p hp hf t ht => h.apart p hp hf t (List.mem_of_mem_filter ht), h.remaining, h.needed,
    fun t ht => ?_, ?_⟩
  · obtain hc | hd := h.accounted t ht
    · by_cases ho : s.isOpen m t = true
      · exact .inl (List.mem_filter.2 ⟨hc, ho⟩)
      · obtain ⟨x, hx, hs⟩ := hshut t hc (Bool.eq_false_iff.2 ho)
        exact .inr (.closed x hx hs)
    · exact .inr (hd.grow (fun _ => id) fun _ => id)
  · have hopening := h.opening
    split at hopening
    · rename_i hnil
      rw [if_pos hnil]
      exact (hopen hnil).trans hopening
    · rename_i hne
      rw [if_neg hne]
      exact hopening

/-- Planning goes on with the next check, if one is needed and can be made. -/
theorem advance_onRound (h : Shaped f entry demand tr r)
    (few : tr.checked.length + (r.remaining + r.candidates.length) ≤ most)
    (hshut : ∀ t ∈ r.candidates, s.isOpen m t = false →
      ∃ x ∈ tr, x.2.state.isOpen x.2.moment t = false)
    (hopen : tr.checked = [] → r.candidates.filter (s.isOpen m) = r.candidates) :
    OnRound f entry demand most (advance s m r).progress tr := by
  have hfew : tr.checked.length ≤ most := Nat.le_trans (Nat.le_add_right ..) few
  have hlen : (r.candidates.filter (s.isOpen m)).length ≤ r.candidates.length :=
    List.length_filter_le ..
  unfold advance
  split
  · rename_i hr
    exact .ended h hfew (.inl hr)
  · rename_i hr
    simp only
    split
    · rename_i hc
      exact .ended (h.closes hshut hopen) hfew (.inr hc)
    · rename_i t ts hc
      refine .locking (h.closes hshut hopen) (Nat.le_trans ?_ few) (Nat.pos_of_ne_zero hr) hc
      simp only
      omega

theorem Shaped.fails (h : Shaped f entry demand tr r) (begun : tr.checked ≠ [])
    (hc : r.candidates = t :: ts) (error : ProvisionError) :
    Shaped f entry demand tr { r with
      candidates := r.candidates.filter (·.cloud.name ≠ t.cloud.name)
      plans := r.plans ++ [.failed t.cloud.name error] } := by
  obtain ⟨b, i, hup, hb, hi, hsub⟩ := h.place hc
  refine ⟨⟨i, hup.concat hb hi rfl, List.filter_sublist.trans hsub⟩, ?_, fun p hp hf x hx => ?_, ?_, ?_,
    fun x hx => ?_, ?_⟩
  · refine List.pairwise_append.2 ⟨h.failures, List.pairwise_singleton _ _, fun p hp q hq hf => ?_⟩
    rw [List.mem_singleton.1 hq]
    exact h.apart p hp hf t (hc ▸ List.mem_cons_self)
  · obtain ⟨hx, hapart⟩ := List.mem_filter.1 hx
    obtain hp | hp := List.mem_append.1 hp
    · exact h.apart p hp hf x hx
    · rw [List.mem_singleton.1 hp]
      exact of_decide_eq_true hapart
  · rw [orders_concat_failed]
    exact h.remaining
  · rw [orders_concat_failed]
    exact h.needed
  · obtain hx | hx := h.accounted x hx
    · by_cases hn : x.cloud.name = t.cloud.name
      · exact .inr (.faulty error (by rw [hn]; exact List.mem_append_right _ List.mem_cons_self))
      · exact .inl (List.mem_filter.2 ⟨hx, decide_eq_true hn⟩)
    · exact .inr (hx.grow (fun _ => List.mem_append_left _) fun _ => id)
  · have hopening := h.opening
    rw [if_neg begun] at hopening ⊢
    exact hopening

theorem Shaped.turnsDown (h : Shaped f entry demand tr r) (begun : tr.checked ≠ [])
    (hc : r.candidates = t :: ts) {error : ProvisionError}
    (down : TurnedDown f tr
      { r with candidates := r.candidates.tail, rejected := r.rejected ++ [error] } t) :
    Shaped f entry demand tr
      { r with candidates := r.candidates.tail, rejected := r.rejected ++ [error] } := by
  refine ⟨?_, h.failures, fun p hp hf x hx => h.apart p hp hf x (List.mem_of_mem_tail hx), h.remaining,
    h.needed, fun x hx => ?_, ?_⟩
  · obtain ⟨b, hup, hsub⟩ := h.ordered
    exact ⟨b, hup, (List.tail_sublist _).trans hsub⟩
  · obtain hx | hx := h.accounted x hx
    · rw [hc] at hx
      obtain rfl | hx := List.mem_cons.1 hx
      · exact .inr (.full down)
      · exact .inl (by rw [hc]; exact hx)
    · exact .inr (hx.grow (fun _ => id) fun _ => List.mem_append_left _)
  · have hopening := h.opening
    rw [if_neg begun] at hopening ⊢
    exact hopening

theorem Shaped.takes (h : Shaped f entry demand tr r) (begun : tr.checked ≠ [])
    (hc : r.candidates = t :: ts) (short : 0 < r.remaining) (id : NodeId) :
    Shaped f entry demand tr { r with
      remaining := r.remaining - max t.template.executors 1
      plans := r.plans ++ [.pending ⟨id, t⟩] } := by
  obtain ⟨b, i, hup, hb, hi, hsub⟩ := h.place hc
  have hyield : t.yield = max t.template.executors 1 := rfl
  have hremaining := h.remaining
  refine ⟨⟨i, hup.concat hb hi rfl, hsub⟩, ?_, fun p hp hf x hx => ?_, ?_, fun os o hos => ?_,
    fun x hx => ?_, ?_⟩
  · refine List.pairwise_append.2 ⟨h.failures, List.pairwise_singleton _ _, fun p hp q hq hf => ?_⟩
    rw [List.mem_singleton.1 hq]
    exact h.apart p hp hf t (hc ▸ List.mem_cons_self)
  · obtain hp | hp := List.mem_append.1 hp
    · exact h.apart p hp hf x hx
    · rw [List.mem_singleton.1 hp] at hf
      cases hf
  · rw [orders_concat_pending, covered_concat]
    simp only
    omega
  · rw [orders_concat_pending] at hos
    obtain ⟨rfl, -⟩ := List.append_inj' hos rfl
    omega
  · exact (h.accounted x hx).imp_right
      fun hd => hd.grow (fun _ => List.mem_append_left _) fun _ hr => hr
  · have hopening := h.opening
    rw [if_neg begun] at hopening ⊢
    exact hopening

theorem fault_onRound (h : Shaped f entry demand tr r) (begun : tr.checked ≠ [])
    (few : tr.checked.length + (r.remaining + r.candidates.length) ≤ most + 1)
    (hc : r.candidates = t :: ts) {error : ProvisionError}
    (hshut : ∀ t ∈ r.candidates, s.isOpen m t = false →
      ∃ x ∈ tr, x.2.state.isOpen x.2.moment t = false) :
    OnRound f entry demand most (fault f s m r t.cloud error).progress tr := by
  refine advance_onRound (h.fails begun hc error) ?_ (fun x hx ho => ?_) fun hnil => absurd hnil begun
  · have hlt := length_apart (hc ▸ List.mem_cons_self : t ∈ r.candidates)
    simp only
    omega
  · obtain ⟨hx, hapart⟩ := List.mem_filter.1 hx
    rw [isOpen_trip (of_decide_eq_true hapart)] at ho
    exact hshut x hx ho

theorem lock_onRound (h : OnRound f entry demand most (.wait (.locking r t)) tr) :
    OnRound f entry demand most (lock f e.state e.moment r t).progress
      (tr ++ [(.locking r t, e)]) := by
  cases h with
  | locking shaped few short first =>
    have hchecked : Trail.checked (tr ++ [(.locking r t, e)]) = tr.checked ++ [t] :=
      checked_concat_locking
    have hfew : (Trail.checked (tr ++ [(.locking r t, e)])).length +
        (r.remaining + r.candidates.length) ≤ most + 1 := by
      rw [hchecked, List.length_append, List.length_singleton]
      omega
    have hbegun : Trail.checked (tr ++ [(.locking r t, e)]) ≠ [] := by
      rw [hchecked]
      simp
    unfold lock
    simp only
    split
    · rename_i cause s hl
      obtain ⟨-, rfl⟩ := Prod.ext_iff.1 hl
      exact fault_onRound (shaped.check first) hbegun hfew first fun x _ ho =>
        ⟨_, List.mem_append_right _ List.mem_cons_self, ho⟩
    · exact .counting (shaped.check first) hfew hbegun short first

theorem count_onRound {onCloud ofTemplate : Nat}
    (h : OnRound f entry demand most (.wait (.counting r t onCloud ofTemplate)) tr) :
    OnRound f entry demand most (count f e.state e.moment r t onCloud ofTemplate e.listing).progress
      (tr ++ [(.counting r t onCloud ofTemplate, e)]) := by
  cases h with
  | @counting _ _ _ ts _ _ shaped few begun short first =>
    have hchecked : Trail.checked (tr ++ [(.counting r t onCloud ofTemplate, e)]) = tr.checked :=
      checked_concat_counting
    have hlast : (Phase.counting r t onCloud ofTemplate, e) ∈
        tr ++ [(.counting r t onCloud ofTemplate, e)] := List.mem_append_right _ List.mem_cons_self
    have hnow : Shaped f entry demand (tr ++ [(.counting r t onCloud ofTemplate, e)]) r :=
      shaped.extend hchecked
    rw [← hchecked] at few begun
    have hlen : r.candidates.length = ts.length + 1 := by rw [first]; rfl
    unfold count
    simp only
    split
    · exact fault_onRound hnow begun few first fun x _ ho => ⟨_, hlast, ho⟩
    · rename_i running hl
      split
      · -- The template is full, and planning goes on to the next one.
        rename_i detail hfull
        have down : TurnedDown f (tr ++ [(.counting r t onCloud ofTemplate, e)]) { r with
            candidates := r.candidates.tail
            rejected := r.rejected ++
              [.capacityExceeded t.cloud.name t.template.name detail] } t :=
          ⟨r, onCloud, ofTemplate, e, running, detail, hlast, hl, hfull,
            List.mem_append_right _ List.mem_cons_self⟩
        refine advance_onRound (hnow.turnsDown begun first down) ?_ (fun x _ ho => ⟨_, hlast, ho⟩)
          fun hnil => absurd hnil begun
        simp only [List.length_tail]
        omega
      · -- There is room for a node.
        have hy : 0 < max t.template.executors 1 := t.yield_pos
        refine advance_onRound (hnow.takes begun first short _) ?_ (fun x _ ho => ⟨_, hlast, ho⟩)
          fun hnil => absurd hnil begun
        simp only
        omega

theorem ahead_advance (r : Round) :
    ahead (advance s m r).progress ≤ 2 * (r.remaining + r.candidates.length) := by
  have hlen : (r.candidates.filter (s.isOpen m)).length ≤ r.candidates.length :=
    List.length_filter_le ..
  unfold advance
  split
  · exact Nat.zero_le _
  · simp only
    split
    · exact Nat.zero_le _
    · simp only [ahead]
      omega

theorem ahead_fault (ht : t ∈ r.candidates) (error : ProvisionError) :
    ahead (fault f s m r t.cloud error).progress < 2 * (r.remaining + r.candidates.length) - 1 := by
  refine Nat.lt_of_le_of_lt (ahead_advance _) ?_
  have hlt := length_apart ht
  simp only
  omega

theorem ahead_lock (ht : t ∈ r.candidates) :
    ahead (lock f s m r t).progress < ahead (.wait (.locking r t)) := by
  have hpos : 0 < r.candidates.length := List.length_pos_of_mem ht
  unfold lock
  simp only
  split
  · exact Nat.lt_of_lt_of_le (ahead_fault ht _) (Nat.sub_le ..)
  · simp only [ahead]
    omega

theorem ahead_count {onCloud ofTemplate : Nat} {a : Except RuntimeError (List Summary)}
    (ht : t ∈ r.candidates) (short : 0 < r.remaining) :
    ahead (count f s m r t onCloud ofTemplate a).progress <
      ahead (.wait (.counting r t onCloud ofTemplate)) := by
  have hpos : 0 < r.candidates.length := List.length_pos_of_mem ht
  unfold count
  simp only
  split
  · exact ahead_fault ht _
  · split
    · refine Nat.lt_of_le_of_lt (ahead_advance _) ?_
      simp only [ahead, List.length_tail]
      omega
    · have hy : 0 < max t.template.executors 1 := t.yield_pos
      refine Nat.lt_of_le_of_lt (ahead_advance _) ?_
      simp only [ahead]
      omega

theorem tread_onRound (tr : Trail) (p : Phase) (e : Encounter)
    (h : OnRound f entry demand most (.wait p) tr) :
    ∃ q tr', tread f tr p e = some (q, tr') ∧ OnRound f entry demand most q tr' ∧
      ahead q < ahead (.wait p) := by
  refine ⟨_, _, rfl, ?_⟩
  cases p with
  | locking r t =>
    refine ⟨lock_onRound h, ?_⟩
    cases h with
    | locking shaped few short first => exact ahead_lock (first ▸ List.mem_cons_self)
  | counting r t onCloud ofTemplate =>
    refine ⟨count_onRound h, ?_⟩
    cases h with
    | counting shaped few begun short first => exact ahead_count (first ▸ List.mem_cons_self) short

theorem start_onRound (f : Fleet) (s : State) (m : Moment) (label : Option LabelExpr)
    (executors : Nat) :
    OnRound f (candidates f s m label) executors (executors + (candidates f s m label).length)
      (start f s m label executors).progress [] := by
  have hsame : (candidates f s m label).filter (s.isOpen m) = candidates f s m label :=
    List.filter_eq_self.2 fun t ht => (Bool.and_eq_true_iff.1 (List.mem_filter.1 ht).2).1
  refine advance_onRound ⟨⟨0, ⟨[], .nil, List.forall_mem_nil _, .nil⟩, List.filter_sublist⟩, .nil,
    List.forall_mem_nil _, rfl, fun os o hos => ?_, fun t ht => .inl ht, rfl⟩ ?_ (fun t ht ho => ?_)
    fun _ => hsame
  · cases os <;> cases hos
  · simp [Trail.checked]
  · rw [← hsame] at ht
    cases (List.mem_filter.1 ht).2.symm.trans ho

/-- What a round comes to that had to cover `demand` from the candidates `entry`. -/
structure Outcome (f : Fleet) (entry : List Target) (demand : Nat) (tr : Trail) (r : Round) :
    Prop where
  ordered : ∃ places : List Nat, places.Pairwise (· ≤ ·) ∧
    List.Forall₂ (fun i p => ∃ t, f.targets[i]? = some t ∧ p.isFor t) places r.plans
  failures : r.plans.Pairwise fun p q => p.isFailed = true → q.cloud ≠ p.cloud
  empty : ∀ p ∈ r.plans, p.isFailed = true → p.executors = 0
  needed : ∀ os o, orders r.plans = os ++ [o] → covered os < demand
  exhausted : covered (orders r.plans) < demand → ∀ t ∈ entry, Dropped f tr r t

theorem OnRound.outcome (h : OnRound f entry demand most (.done r) tr) :
    Outcome f entry demand tr r ∧ tr.checked.length ≤ most ∧
      ∀ t, tr.checked.head? = some t → entry.head? = some t := by
  cases h with
  | ended shaped few spent =>
    refine ⟨⟨?_, shaped.failures, fun p _ hf => ?_, shaped.needed, fun hlt t ht => ?_⟩, few,
      fun t ht => ?_⟩
    · obtain ⟨b, ⟨places, hsorted, -, hplans⟩, -⟩ := shaped.ordered
      exact ⟨places, hsorted, hplans⟩
    · cases p with
      | pending o => cases hf
      | failed c e => rfl
    · have hremaining := shaped.remaining
      obtain hnone | hnil := spent
      · omega
      · refine (shaped.accounted t ht).resolve_left fun hmem => ?_
        rw [hnil] at hmem
        cases hmem
    · have ho := shaped.opening
      split at ho
      · rename_i hnil
        rw [hnil] at ht
        cases ht
      · exact ho ▸ ht

/-- Whatever a request meets, it is answered after at most as many checks of a capacity as executors are
asked for and candidates there are, and the first one is for the template that would serve it first. -/
theorem request_shape (f : Fleet) (s : State) (m : Moment) (label : Option LabelExpr)
    (executors : Nat) (e : Nat → Encounter) :
    ∃ n r tr, requestAmid f s m label executors ((List.range n).map e) = some (.done r, tr) ∧
      n ≤ 2 * (executors + (candidates f s m label).length) ∧
      tr.checked.length ≤ executors + (candidates f s m label).length ∧
      (∀ t, tr.checked.head? = some t → templateFor? f s m label = some t) ∧
      Outcome f (candidates f s m label) executors tr r := by
  have hstart := start_onRound f s m label executors
  unfold requestAmid
  have hahead : ahead (start f s m label executors).progress ≤
      2 * (executors + (candidates f s m label).length) := ahead_advance _
  cases hp : (start f s m label executors).progress with
  | wait p =>
    rw [hp] at hstart hahead
    obtain ⟨n, r, tr, hwalk, hle, hend⟩ := Progress.exists_walk_of_stream tread_onRound e hstart
    obtain ⟨houtcome, hfew, hfirst⟩ := hend.outcome
    exact ⟨n, r, tr, hwalk, Nat.le_trans hle hahead, hfew, hfirst, houtcome⟩
  | done r =>
    rw [hp] at hstart
    obtain ⟨houtcome, hfew, hfirst⟩ := hstart.outcome
    exact ⟨0, r, [], rfl, Nat.zero_le _, hfew, hfirst, houtcome⟩

theorem requestAmid_concat {label : Option LabelExpr} {executors : Nat} {es : List Encounter}
    {p : Phase} {tr : Trail} (h : requestAmid f s m label executors es = some (.wait p, tr))
    (e : Encounter) : requestAmid f s m label executors (es ++ [e]) =
      some ((resume f e.state e.moment p (e.answer p)).progress, tr ++ [(p, e)]) := by
  unfold requestAmid at h ⊢
  cases hp : (start f s m label executors).progress with
  | wait p₀ =>
    rw [hp] at h
    simp only at h ⊢
    rw [Progress.walk_append [e] h, Progress.walk, tread, Option.bind_some]
    cases (resume f e.state e.moment p (e.answer p)).progress <;> rfl
  | done r =>
    rw [hp] at h
    simp only at h
    split at h <;> cases h

end Planning

def Strand.Plans (q : Progress Planning.Phase Round) : Strand → Prop
  | .underWay (.planning p) _ => q = .wait p
  | .ended (.planned r) => q = .done r
  | _ => False

theorem Strand.Plans.underWay {q : Progress Planning.Phase Round} {j : Job} {replies : List Reply}
    (h : (Strand.underWay j replies).Plans q) : ∃ p, j = .planning p ∧ q = .wait p := by
  cases j with
  | planning p => exact ⟨p, rfl, h⟩
  | _ => exact h.elim

namespace Scene

variable {f : Fleet} {may : String → Dict String → Bool} {s s₁ s' : Scene} {m : Moment}
  {label : Option LabelExpr} {executors : Nat}

theorem plans_map (t : Turn Planning.Phase Round) (replies : List Reply) :
    (Strand.ofProgress replies (t.map Job.planning JobResult.planned).progress).Plans t.progress := by
  cases hp : t.progress with
  | wait p =>
    rw [Turn.map_wait hp]
    rfl
  | done r =>
    rw [Turn.map_done hp]
    rfl

/-- In every play a request is where it is with what it met, if it has not died. -/
theorem request_amid {moves : List Move}
    (h : s.move f may (.request m label executors) = some s₁) (hp : s₁.play f may moves = some s') :
    s.strands.length < s'.strands.length ∧ ∀ x, s'.strands[s.strands.length]? = some x →
      x = .died ∨ ∃ es q tr, Planning.requestAmid f s.state m label executors es = some (q, tr) ∧
        x.Plans q := by
  induction moves using List.reverseRecOn generalizing s' with
  | nil =>
    obtain rfl := Option.some.inj hp
    obtain rfl := Option.some.inj h
    refine ⟨by simp [enter], fun x hx =>
      .inr ⟨[], (Planning.start f s.state m label executors).progress, [], ?_, ?_⟩⟩
    · unfold Planning.requestAmid
      cases (Planning.start f s.state m label executors).progress <;> rfl
    · simp only [enter, List.getElem?_concat_length] at hx
      rw [← Option.some.inj hx]
      exact plans_map _ _
  | append_singleton moves z ih =>
    rw [play_append] at hp
    obtain ⟨s₂, hplay, hp⟩ := Option.bind_eq_some_iff.1 hp
    obtain ⟨s₃, hz, hp⟩ := Option.bind_eq_some_iff.1 hp
    obtain rfl := Option.some.inj hp
    obtain ⟨hlt, hold⟩ := ih hplay
    refine ⟨Nat.lt_of_lt_of_le hlt (move_length hz), fun x hx => ?_⟩
    cases move_strandStep hz hx with
    | stays same => exact hold x same
    | starts late starts => omega
    | dies => exact .inl rfl
    | @hears part now r j replies uri c was waits =>
      obtain hdied | ⟨es, q, tr, hrequest, hplans⟩ := hold _ was
      · cases hdied
      · obtain ⟨p, rfl, rfl⟩ := hplans.underWay
        exact .inr ⟨es, .wait p, tr, hrequest, rfl⟩
    | @goesOn part m' admitted j replies p a was waits granted =>
      obtain hdied | ⟨es, q, tr, hrequest, hplans⟩ := hold _ was
      · cases hdied
      · obtain ⟨p, rfl, rfl⟩ := hplans.underWay
        obtain ⟨rfl, rfl⟩ := Prod.ext_iff.1 (List.mem_singleton.1 waits)
        obtain ⟨listing, hanswer⟩ :
            ∃ listing, Planning.Encounter.answer ⟨s₂.state, m', listing⟩ p = a := by
          cases p with
          | locking r t => exact ⟨.ok [], rfl⟩
          | counting r t onCloud ofTemplate => exact ⟨a, rfl⟩
        have hnext := Planning.requestAmid_concat hrequest ⟨s₂.state, m', listing⟩
        rw [hanswer] at hnext
        exact .inr ⟨_, _, _, hnext, plans_map _ _⟩

end Scene

end ContainerFleet
