import ContainerFleet.Fleet.Availability
import Mathlib.Data.List.Induction

namespace ContainerFleet

structure OutageView where
  reason : String
  cause : Option String
  elapsed : Duration
  remaining : Duration

def OutageView.text (byChoice : Bool) : Option OutageView → String
  | some v => (if byChoice then "ByChoice," else "") ++
    s!"BySystem,{v.elapsed.secs}s ago,{v.remaining.secs}s remaining,{v.reason}"
  | none => if byChoice then "ByChoice" else "No"

def Outage.view (o : Outage) (now : Duration) : OutageView :=
  ⟨o.reason, o.cause, o.elapsed now, o.remaining now⟩

inductive AvailabilityQuery where
  | byChoice
  | bySystem
  | isDisabled
  | outage
  | text

inductive AvailabilityAnswer where
  | flag (b : Bool)
  | outage (o : Option OutageView)
  | text (s : String)

namespace AvailabilityQuery

def answer (a : Availability) (now : Duration) : AvailabilityQuery → AvailabilityAnswer
  | byChoice => .flag a.byChoice
  | bySystem => .flag (a.current? now).isSome
  | isDisabled => .flag (a.isDisabled now)
  | outage => .outage ((a.current? now).map (·.view now))
  | text => .text (a.text now)

/-- Whether a query looks at the outage. What an operator has disabled is so in any case. -/
def looks (a : Availability) : AvailabilityQuery → Bool
  | byChoice => false
  | isDisabled => !a.byChoice
  | bySystem | outage | text => true

theorem answer_congr {a b : Availability} {now : Duration} (hchoice : a.byChoice = b.byChoice)
    (houtage : a.current? now = b.current? now) (q : AvailabilityQuery) :
    q.answer a now = q.answer b now := by
  cases q <;> simp only [answer, Availability.isDisabled, Availability.text, hchoice, houtage]

end AvailabilityQuery

inductive AvailabilityOp where
  | choose (disabled : Bool)
  | trip (reason : String) (d : Duration) (cause : Option String)
  | ask (q : AvailabilityQuery)
  | wait (d : Duration)

namespace AvailabilityOp

def choice? : AvailabilityOp → Option Bool
  | choose disabled => some disabled
  | _ => none

def isTrip : AvailabilityOp → Bool
  | trip _ _ _ => true
  | _ => false

def isAsk : AvailabilityOp → Bool
  | ask _ => true
  | _ => false

theorem exists_ask {op : AvailabilityOp} (h : op.isAsk = true) : ∃ q, op = ask q := by
  cases op with
  | ask q => exact ⟨q, rfl⟩
  | _ => cases h

end AvailabilityOp

structure AvailabilityRun where
  now : Duration
  state : Availability

namespace Availability

variable {a : Availability} {now t : Duration} {o : Outage}

theorem current?_eq_some : a.current? t = some o ↔ a.outage = some o ∧ t < o.clears := by
  simp [current?, refresh, Option.filter_eq_some_iff]

/-- What is forgotten would not be in force later either. -/
theorem current?_refresh (h : now ≤ t) : (a.refresh now).current? t = a.current? t := by
  apply Option.ext
  intro o
  have hnow : t < o.clears → now < o.clears := fun ht => Nat.lt_of_le_of_lt h ht
  simp only [current?_eq_some]
  simp only [refresh, Option.filter_eq_some_iff, decide_eq_true_eq]
  tauto

theorem current?_trip {reason : String} {d : Duration} {cause : Option String} :
    (a.trip now reason d cause).current? t = some o ↔
      o = ⟨reason, cause, now, now + d⟩ ∧ t < o.clears := by
  rw [current?_eq_some, trip, Option.some.injEq, eq_comm]

theorem text_eq :
    a.text now = OutageView.text a.byChoice ((a.current? now).map (·.view now)) := by
  rw [text]
  cases a.current? now <;> rfl

end Availability

namespace AvailabilityRun

def start (chosen : Bool) (now : Duration) : AvailabilityRun := { now, state := { byChoice := chosen } }

def step (r : AvailabilityRun) : AvailabilityOp → AvailabilityRun
  | .choose disabled => { r with state := r.state.choose disabled }
  | .trip reason d cause => { r with state := r.state.trip r.now reason d cause }
  | .ask q => { r with state := if q.looks r.state then r.state.refresh r.now else r.state }
  | .wait d => { r with now := r.now + d }

def run (r : AvailabilityRun) (ops : List AvailabilityOp) : AvailabilityRun := ops.foldl step r

def answer (r : AvailabilityRun) (q : AvailabilityQuery) : AvailabilityAnswer := q.answer r.state r.now

variable {r r' : AvailabilityRun} {op : AvailabilityOp} {ops ops' : List AvailabilityOp} {o : Outage}
  {t : Duration} {chosen : Bool} {q : AvailabilityQuery}

theorem run_append : r.run (ops ++ ops') = (r.run ops).run ops' := List.foldl_append

theorem run_concat : r.run (ops ++ [op]) = (r.run ops).step op := run_append

theorem now_le_step : r.now ≤ (r.step op).now := by
  cases op with
  | wait d => exact Nat.le_add_right ..
  | _ => exact Nat.le_refl _

theorem now_le_run : r.now ≤ (r.run ops).now := by
  induction ops generalizing r with
  | nil => exact Nat.le_refl _
  | cons op ops ih => exact Nat.le_trans now_le_step ih

structure Alike (r r' : AvailabilityRun) : Prop where
  now : r.now = r'.now
  byChoice : r.state.byChoice = r'.state.byChoice
  current : ∀ t, r.now ≤ t → r.state.current? t = r'.state.current? t

theorem current?_ask (h : r.now ≤ t) : (r.step (.ask q)).state.current? t = r.state.current? t := by
  simp only [step]
  split
  · exact Availability.current?_refresh h
  · rfl

theorem byChoice_step : (r.step op).state.byChoice = op.choice?.getD r.state.byChoice := by
  cases op with
  | ask q =>
    simp only [step]
    split <;> rfl
  | _ => rfl

theorem Alike.ask (h : r.Alike r') : (r.step (.ask q)).Alike r' :=
  ⟨h.now, byChoice_step.trans h.byChoice, fun t ht => (current?_ask (r := r) ht).trans (h.current t ht)⟩

theorem Alike.step (h : r.Alike r') (hop : op.isAsk = false) : (r.step op).Alike (r'.step op) := by
  obtain ⟨now, state⟩ := r
  obtain ⟨now', state'⟩ := r'
  obtain ⟨rfl, hchoice, hcurrent⟩ := h
  cases op with
  | choose disabled => exact ⟨rfl, rfl, hcurrent⟩
  | trip reason d cause => exact ⟨rfl, hchoice, fun _ _ => rfl⟩
  | ask q => cases hop
  | wait d => exact ⟨rfl, hchoice, fun t ht => hcurrent t (Nat.le_trans (Nat.le_add_right ..) ht)⟩

theorem alike_unasked (r : AvailabilityRun) (ops : List AvailabilityOp) :
    (r.run ops).Alike (r.run (ops.filter (!·.isAsk))) := by
  induction ops using List.reverseRecOn with
  | nil => exact ⟨rfl, rfl, fun _ _ => rfl⟩
  | append_singleton ops op ih =>
    rw [run_concat, List.filter_append]
    cases hop : op.isAsk with
    | true =>
      obtain ⟨q, rfl⟩ := AvailabilityOp.exists_ask hop
      simpa [List.filter, hop] using ih.ask
    | false => simpa [List.filter, hop, run_concat] using ih.step hop

theorem Alike.answer (h : r.Alike r') (q : AvailabilityQuery) : r.answer q = r'.answer q := by
  rw [AvailabilityRun.answer, AvailabilityRun.answer, ← h.now]
  exact AvailabilityQuery.answer_congr h.byChoice (h.current _ (Nat.le_refl _)) q

/-- The last fault among the operations has brought the outage. -/
def LastTrip (r : AvailabilityRun) (ops : List AvailabilityOp) (o : Outage) : Prop :=
  ∃ before reason d cause after, ops = before ++ .trip reason d cause :: after ∧
    (∀ op ∈ after, op.isTrip = false) ∧
    o = ⟨reason, cause, (r.run before).now, (r.run before).now + d⟩

theorem lastTrip_concat : r.LastTrip (ops ++ [op]) o ↔
    (∃ reason d cause, op = .trip reason d cause ∧
      o = ⟨reason, cause, (r.run ops).now, (r.run ops).now + d⟩) ∨
    (op.isTrip = false ∧ r.LastTrip ops o) := by
  constructor
  · rintro ⟨before, reason, d, cause, after, hops, hafter, ho⟩
    obtain rfl | ⟨after, last, rfl⟩ := List.eq_nil_or_concat after
    · -- The operation that is added is the fault itself.
      obtain ⟨rfl, hop⟩ := List.append_inj' hops rfl
      exact .inl ⟨reason, d, cause, List.singleton_inj.1 hop, ho⟩
    · rw [List.concat_eq_append, ← List.cons_append, ← List.append_assoc] at hops
      obtain ⟨rfl, hop⟩ := List.append_inj' hops rfl
      obtain rfl := List.singleton_inj.1 hop
      exact .inr ⟨hafter op (by simp), before, reason, d, cause, after, rfl,
        fun x hx => hafter x (by simp [hx]), ho⟩
  · rintro (⟨reason, d, cause, rfl, ho⟩ | ⟨hop, before, reason, d, cause, after, rfl, hafter, ho⟩)
    · exact ⟨ops, reason, d, cause, [], rfl, by simp, ho⟩
    · refine ⟨before, reason, d, cause, after ++ [op], by simp, fun x hx => ?_, ho⟩
      obtain hx | hx := List.mem_append.1 hx
      · exact hafter x hx
      · rwa [List.mem_singleton.1 hx]

theorem lastTrip_trip {reason : String} {d : Duration} {cause : Option String} :
    r.LastTrip (ops ++ [.trip reason d cause]) o ↔
      o = ⟨reason, cause, (r.run ops).now, (r.run ops).now + d⟩ := by
  simp [lastTrip_concat, AvailabilityOp.isTrip]

theorem lastTrip_of_not_isTrip (hop : op.isTrip = false) :
    r.LastTrip (ops ++ [op]) o ↔ r.LastTrip ops o := by
  rw [lastTrip_concat]
  refine ⟨?_, fun h => .inr ⟨hop, h⟩⟩
  rintro (⟨reason, d, cause, rfl, -⟩ | ⟨-, h⟩)
  · cases hop
  · exact h

def lastChoice (chosen : Bool) (ops : List AvailabilityOp) : Bool :=
  (ops.filterMap (·.choice?)).getLast?.getD chosen

theorem lastChoice_concat :
    lastChoice chosen (ops ++ [op]) = op.choice?.getD (lastChoice chosen ops) := by
  rw [lastChoice, List.filterMap_append, List.getLast?_append]
  cases h : op.choice? <;> simp [h, lastChoice]

theorem byChoice_run : (r.run ops).state.byChoice = lastChoice r.state.byChoice ops := by
  induction ops using List.reverseRecOn with
  | nil => rfl
  | append_singleton ops op ih => rw [run_concat, byChoice_step, lastChoice_concat, ih]

/-- From now on the outage of the last fault counts, until it is over. -/
theorem current?_run (chosen : Bool) (begin : Duration) (ops : List AvailabilityOp) {t : Duration}
    (ht : ((start chosen begin).run ops).now ≤ t) :
    ((start chosen begin).run ops).state.current? t = some o ↔
      (start chosen begin).LastTrip ops o ∧ t < o.clears := by
  -- The time is general, as what holds after a wait is read off what holds from before it on.
  induction ops using List.reverseRecOn generalizing t with
  | nil => simp [run, start, Availability.current?_eq_some, LastTrip]
  | append_singleton ops op ih =>
    rw [run_concat] at ht ⊢
    have hbefore := ih (Nat.le_trans now_le_step ht)
    cases op with
    | trip reason d cause =>
      rw [lastTrip_trip]
      exact Availability.current?_trip
    | ask q =>
      rw [current?_ask (r := (start chosen begin).run ops) ht, lastTrip_of_not_isTrip rfl]
      exact hbefore
    | choose disabled | wait d =>
      rw [lastTrip_of_not_isTrip rfl]
      exact hbefore

def outage? (r : AvailabilityRun) : Option OutageView :=
  (r.state.current? r.now).map (·.view r.now)

theorem outage?_eq_none : r.outage? = none ↔ r.state.current? r.now = none := by simp [outage?]

/-- At any time the last choice and the last fault decide what is answered: a fault takes a cloud or a
template out of use until its time is over, whatever was chosen. No question changes a later answer, though
one that looks at an outage makes it forgotten when it is over. -/
theorem last_trip_decides (chosen : Bool) (begin : Duration) (ops : List AvailabilityOp) :
    let r₀ := start chosen begin
    let r := r₀.run ops
    (∀ v, r.outage? = some v ↔ ∃ before reason d cause after,
      ops = before ++ .trip reason d cause :: after ∧ (∀ op ∈ after, op.isTrip = false) ∧
        let s := (r₀.run before).now
        s ≤ r.now ∧ r.now < s + d ∧ v = ⟨reason, cause, r.now - s, s + d - r.now⟩) ∧
    (∀ v, r.outage? = some v → .zero < v.remaining) ∧
    r.answer .outage = .outage r.outage? ∧
    r.answer .bySystem = .flag r.outage?.isSome ∧
    r.answer .byChoice = .flag (lastChoice chosen ops) ∧
    r.answer .isDisabled = .flag (lastChoice chosen ops || r.outage?.isSome) ∧
    r.answer .text = .text (OutageView.text (lastChoice chosen ops) r.outage?) ∧
    (∀ disabled, (r.step (.choose disabled)).outage? = r.outage?) ∧
    (∀ reason d cause, (r.step (.trip reason d cause)).answer .byChoice = r.answer .byChoice) ∧
    (∀ q, r.answer q = (r₀.run (ops.filter (!·.isAsk))).answer q) ∧
    ∀ q : AvailabilityQuery, q.looks r.state = true →
      ((r.step (.ask q)).state.outage = none ↔ r.outage? = none) := by
  intro r₀ r
  have hchoice : r.state.byChoice = lastChoice chosen ops := byChoice_run
  have hview : ∀ v, r.outage? = some v ↔
      ∃ o, r₀.LastTrip ops o ∧ r.now < o.clears ∧ o.view r.now = v := by
    intro v
    rw [outage?, Option.map_eq_some_iff]
    refine exists_congr fun o => ?_
    rw [current?_run chosen begin ops (Nat.le_refl _), and_assoc]
  refine ⟨fun v => ?_, fun v hv => ?_, rfl, ?_, ?_, ?_, ?_, fun disabled => rfl, fun reason d cause => rfl,
    (alike_unasked r₀ ops).answer, fun q hq => ?_⟩
  · rw [hview]
    constructor
    · rintro ⟨o, ⟨before, reason, d, cause, after, hops, hafter, rfl⟩, hlt, rfl⟩
      refine ⟨before, reason, d, cause, after, hops, hafter, ?_, hlt, rfl⟩
      change (r₀.run before).now ≤ (r₀.run ops).now
      rw [hops, run_append]
      exact now_le_run
    · rintro ⟨before, reason, d, cause, after, hops, hafter, -, hlt, rfl⟩
      exact ⟨_, ⟨before, reason, d, cause, after, hops, hafter, rfl⟩, hlt, rfl⟩
  · obtain ⟨o, -, hlt, rfl⟩ := (hview v).1 hv
    exact Nat.sub_pos_of_lt hlt
  · simp [answer, AvailabilityQuery.answer, outage?]
  · rw [← hchoice]
    rfl
  · simp [answer, AvailabilityQuery.answer, Availability.isDisabled, outage?, hchoice]
  · rw [← hchoice]
    exact congrArg AvailabilityAnswer.text Availability.text_eq
  · rw [outage?_eq_none, step, if_pos hq]
    rfl

end AvailabilityRun

end ContainerFleet
