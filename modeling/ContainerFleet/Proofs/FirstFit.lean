import ContainerFleet.Proofs.Alone
import ContainerFleet.Proofs.Caps
import ContainerFleet.Proofs.SweepStrand
import Mathlib.Algebra.Order.Floor.Div

namespace ContainerFleet

namespace Target

def yield (t : Target) : Nat := max t.template.executors 1

theorem yield_pos (t : Target) : 0 < t.yield := Nat.le_max_right ..

end Target

def within (cap : Option Nat) (used n : Nat) : Nat :=
  match cap with
  | none => n
  | some c => min n (c - used)

@[simp] theorem within_zero (cap : Option Nat) (used : Nat) : within cap used 0 = 0 := by
  cases cap <;> simp [within]

theorem within_succ {cap : Option Nat} {used : Nat} (h : ∀ c, cap = some c → used < c) (n : Nat) :
    within cap used (n + 1) = within cap (used + 1) n + 1 := by
  cases cap with
  | none => rfl
  | some c =>
    have hlt := h c rfl
    simp only [within]
    omega

theorem within_eq_zero {c used : Nat} (h : c ≤ used) (n : Nat) : within (some c) used n = 0 := by
  simp only [within]
  omega

theorem ceilDiv_eq_succ {n k : Nat} (hk : 0 < k) (hn : 0 < n) : n ⌈/⌉ k = (n - k) ⌈/⌉ k + 1 := by
  rw [Nat.ceilDiv_eq_add_pred_div, Nat.ceilDiv_eq_add_pred_div]
  by_cases h : k ≤ n
  · rw [← Nat.add_div_right _ hk]
    congr 1
    omega
  · have hlt : n - k + k - 1 < k := by omega
    have hnk : n + k - 1 = n - 1 + k := by omega
    rw [Nat.div_eq_of_lt hlt, hnk, Nat.add_div_right _ hk, Nat.div_eq_of_lt (by omega)]

namespace Solo

variable (f : Fleet) (g : Solo)

/-- What counts for the cap of the cloud after nodes from `made` have been planned: all that runs at its
endpoint, and all that is being created for it. -/
def onCloud (made : List Target) (t : Target) : Nat :=
  ((g.sites t.cloud.endpoint.uri).running fun _ => true).length +
    g.state.capacity.inProgress t.cloud.name.text none +
    made.countP (·.cloud.name.text = t.cloud.name.text)

def ofTemplate (made : List Target) (t : Target) : Nat :=
  ((g.sites t.cloud.endpoint.uri).running (f.ownsFor t)).length +
    g.state.capacity.inProgress t.cloud.name.text (some t.template.name.text) +
    made.countP fun x =>
      x.cloud.name.text = t.cloud.name.text ∧ x.template.name.text = t.template.name.text

/-- How many nodes a template gets: those that the demand needs, so far as there is room on the cloud and
for the template. -/
def share (made : List Target) (t : Target) (demand : Nat) : Nat :=
  within t.template.instanceCap (g.ofTemplate f made t)
    (within t.cloud.containerCap (g.onCloud made t) (demand ⌈/⌉ t.yield))

def greedy : List Target → Nat → List Target → List Target
  | [], _, made => made
  | t :: ts, demand, made =>
    greedy ts (demand - g.share f made t demand * t.yield)
      (made ++ List.replicate (g.share f made t demand) t)

variable {f g} {made ts : List Target} {t : Target} {demand : Nat}

theorem greedy_zero : g.greedy f ts 0 made = made := by
  induction ts with
  | nil => rfl
  | cons t ts ih =>
    have hs : g.share f made t 0 = 0 := by simp [share]
    rw [greedy, hs, Nat.zero_sub, List.replicate_zero, List.append_nil, ih]

theorem share_succ (hcloud : ∀ c, t.cloud.containerCap = some c → g.onCloud made t < c)
    (htemplate : ∀ c, t.template.instanceCap = some c → g.ofTemplate f made t < c) (hd : 0 < demand) :
    g.share f made t demand = g.share f (made ++ [t]) t (demand - t.yield) + 1 := by
  have hceil : demand ⌈/⌉ t.yield = (demand - t.yield) ⌈/⌉ t.yield + 1 :=
    ceilDiv_eq_succ t.yield_pos hd
  have hc : g.onCloud (made ++ [t]) t = g.onCloud made t + 1 := by simp [onCloud, Nat.add_assoc]
  have ht : g.ofTemplate f (made ++ [t]) t = g.ofTemplate f made t + 1 := by
    simp [ofTemplate, Nat.add_assoc]
  rw [share, hceil, within_succ hcloud, within_succ htemplate, share, hc, ht]

theorem greedy_take (hcloud : ∀ c, t.cloud.containerCap = some c → g.onCloud made t < c)
    (htemplate : ∀ c, t.template.instanceCap = some c → g.ofTemplate f made t < c) (hd : 0 < demand) :
    g.greedy f (t :: ts) demand made =
      g.greedy f (t :: ts) (demand - t.yield) (made ++ [t]) := by
  rw [greedy, greedy, share_succ hcloud htemplate hd]
  congr 1
  · rw [Nat.succ_mul]
    omega
  · rw [List.append_assoc, List.singleton_append, List.replicate_succ]

theorem greedy_full (h : (∃ c, t.cloud.containerCap = some c ∧ c ≤ g.onCloud made t) ∨
    ∃ c, t.template.instanceCap = some c ∧ c ≤ g.ofTemplate f made t) :
    g.greedy f (t :: ts) demand made = g.greedy f ts demand made := by
  have hs : g.share f made t demand = 0 := by
    obtain ⟨c, hc, hle⟩ | ⟨c, hc, hle⟩ := h
    · rw [share, hc, within_eq_zero hle, within_zero]
    · rw [share, hc, within_eq_zero hle]
  rw [greedy, hs, Nat.zero_mul, Nat.sub_zero, List.replicate_zero, List.append_nil]

end Solo

structure Fleet.Calm (f : Fleet) (m₀ : Moment) where
  moment : Moment
  later : m₀.ticks ≤ moment.ticks
  reachable : ∀ c ∈ f.clouds, moment.refusal c.endpoint = none

theorem Availability.isDisabled_of_le {a : Availability} {now now' : Duration} (h : now ≤ now')
    (hd : a.isDisabled now = false) : a.isDisabled now' = false := by
  simp only [isDisabled, Bool.or_eq_false_iff, current?, refresh, Option.isSome_filter] at hd ⊢
  refine ⟨hd.1, ?_⟩
  cases ho : a.outage with
  | none => rfl
  | some o =>
    have hn : ¬ now < o.clears := by simpa [ho] using hd.2
    have hn' : ¬ now' < o.clears := fun hlt => hn (Nat.lt_of_le_of_lt h hlt)
    simpa using hn'

theorem State.isOpen_of_le {s s' : State} {m m' : Moment} {t : Target} (hc : s'.clouds = s.clouds)
    (ht : s'.templates = s.templates) (hm : m.ticks ≤ m'.ticks) (h : s.isOpen m t = true) :
    s'.isOpen m' t = true := by
  simp only [isOpen, cloudAvailability, templateAvailability, hc, ht, Bool.and_eq_true,
    Bool.not_eq_true'] at h ⊢
  exact ⟨Availability.isDisabled_of_le hm h.1, Availability.isDisabled_of_le hm h.2⟩

namespace Planning

variable {f : Fleet} {m₀ m : Moment} {g₀ g : Solo} {r : Round} {want : List Target}
  {orders : List Order} {t : Target}

theorem le_of_exceeded? {running : List Summary} {onCloud ofTemplate : Nat} {detail : String}
    (h : exceeded? f t running onCloud ofTemplate = some detail) :
    (∃ c, t.cloud.containerCap = some c ∧ c ≤ running.length + onCloud) ∨
      ∃ c, t.template.instanceCap = some c ∧
        c ≤ running.countP (f.ownsFor t ·.labels) + ofTemplate := by
  unfold exceeded? at h
  simp only [Fleet.admits_template] at h
  split at h
  · rename_i cap hcap
    obtain ⟨hc, hle⟩ := Option.filter_eq_some_iff.1 hcap
    exact .inl ⟨cap, hc, by simpa using hle⟩
  · rename_i cap _ hcap
    obtain ⟨hc, hle⟩ := Option.filter_eq_some_iff.1 hcap
    exact .inr ⟨cap, hc, by simpa using hle⟩
  · cases h

def calmStep (f : Fleet) (m₀ : Moment) (g : Solo) (p : Phase) (e : f.Calm m₀) :
    Option (Progress Phase Round × Solo) :=
  Solo.step (pending f) g p { moment := e.moment }

def requestAlone (f : Fleet) (m₀ : Moment) (g : Solo) (label : Option LabelExpr) (executors : Nat)
    (es : List (f.Calm m₀)) : Option (Progress Phase Round × Solo) :=
  match (start f g.state m₀ label executors).progress with
  | .wait p => Progress.walk (calmStep f m₀) g p es
  | .done r => if es.isEmpty then some (.done r, g) else none

/-- What planning that began at `g₀` has done so far. If it goes on greedily, it plans nodes from
`want`. -/
structure Planned (f : Fleet) (m₀ : Moment) (g₀ : Solo) (want : List Target) (g : Solo) (r : Round)
    (orders : List Order) : Prop where
  plans : r.plans = orders.map .pending
  grown : g₀.state.capacity.Grown g.state.capacity (orders.map (·.target))
  clouds : g.state.clouds = g₀.state.clouds
  templates : g.state.templates = g₀.state.templates
  sites : g.sites = g₀.sites
  candidates : ∀ t ∈ r.candidates, t ∈ f.targets ∧ g₀.state.isOpen m₀ t = true
  greedy : g₀.greedy f r.candidates r.remaining (orders.map (·.target)) = want

inductive OnPlanning (f : Fleet) (m₀ : Moment) (g₀ : Solo) (want : List Target) :
    Progress Phase Round → Solo → Prop where
  | locking {g : Solo} {r : Round} {orders : List Order} {t : Target} {ts : List Target}
      (planned : Planned f m₀ g₀ want g r orders) (demand : 0 < r.remaining)
      (first : r.candidates = t :: ts) (unlocked : g.state.locked = g₀.state.locked) :
      OnPlanning f m₀ g₀ want (.wait (.locking r t)) g
  | counting {g : Solo} {r : Round} {orders : List Order} {t : Target} {ts : List Target}
      (planned : Planned f m₀ g₀ want g r orders) (demand : 0 < r.remaining)
      (first : r.candidates = t :: ts)
      (locked : g.state.locked = g₀.state.locked.insert t.cloud.name.text ()) :
      OnPlanning f m₀ g₀ want
        (.wait (.counting r t (g.state.capacity.inProgress t.cloud.name.text none)
          (g.state.capacity.inProgress t.cloud.name.text (some t.template.name.text)))) g
  | ended {g : Solo} {r : Round} {orders : List Order} (planned : Planned f m₀ g₀ want g r orders)
      (targets : orders.map (·.target) = want) : OnPlanning f m₀ g₀ want (.done r) g

def ahead : Progress Phase Round → Nat
  | .wait (.locking r _) => 2 * (r.remaining + r.candidates.length)
  | .wait (.counting r _ _ _) => 2 * (r.remaining + r.candidates.length) - 1
  | .done _ => 0

theorem advance_onPlanning (h : Planned f m₀ g₀ want g r orders) (hm : m₀.ticks ≤ m.ticks)
    (hl : g.state.locked = g₀.state.locked) :
    OnPlanning f m₀ g₀ want (advance g.state m r).progress g ∧
      ahead (advance g.state m r).progress ≤ 2 * (r.remaining + r.candidates.length) := by
  have hopen : r.candidates.filter (g.state.isOpen m) = r.candidates :=
    List.filter_eq_self.2 fun t ht =>
      State.isOpen_of_le h.clouds h.templates hm (h.candidates t ht).2
  unfold advance
  split
  · rename_i hr
    have hw := h.greedy
    rw [hr, Solo.greedy_zero] at hw
    exact ⟨.ended h hw, Nat.zero_le _⟩
  · rename_i hr
    simp only [hopen]
    split
    · rename_i hc
      have hw := h.greedy
      rw [hc] at hw
      exact ⟨.ended h hw, Nat.zero_le _⟩
    · rename_i t ts hc
      exact ⟨.locking h (Nat.pos_of_ne_zero hr) hc hl, Nat.le_refl _⟩

theorem lock_onPlanning {ts : List Target} (h : Planned f m₀ g₀ want g r orders) (hr : 0 < r.remaining)
    (hc : r.candidates = t :: ts) (hl : g.state.locked = g₀.state.locked)
    (hm : m.refusal t.cloud.endpoint = none) :
    OnPlanning f m₀ g₀ want (lock f g.state m r t).progress
        { g with state := (lock f g.state m r t).state } ∧
      ahead (lock f g.state m r t).progress < ahead (.wait (.locking r t)) := by
  obtain ⟨client, hclient⟩ := State.lease_ok (s := g.state) hm
  have hlease : g.state.lease m t.cloud = (.ok client, (g.state.lease m t.cloud).2) :=
    Prod.ext hclient rfl
  have hlock : lock f g.state m r t =
      { state := (g.state.lease m t.cloud).2.lock t.cloud
        progress := .wait (.counting r t (g.state.capacity.inProgress t.cloud.name.text none)
          (g.state.capacity.inProgress t.cloud.name.text (some t.template.name.text))) } := by
    simp only [lock]
    rw [hlease]
    rfl
  rw [hlock]
  refine ⟨OnPlanning.counting (g := { g with state := (g.state.lease m t.cloud).2.lock t.cloud })
    ⟨h.plans, h.grown, h.clouds, h.templates, h.sites, h.candidates, h.greedy⟩ hr hc
    (congrArg (Dict.insert · t.cloud.name.text ()) hl), ?_⟩
  simp only [ahead]
  omega

/-- What counts for the caps is what a listing shows and what the tracker counts. -/
theorem Planned.counts (h : Planned f m₀ g₀ want g r orders) (t : Target) :
    ((g.sites t.cloud.endpoint.uri).listed {}).length +
        g.state.capacity.inProgress t.cloud.name.text none =
      g₀.onCloud (orders.map (·.target)) t ∧
    (((g.sites t.cloud.endpoint.uri).listed {}).map (·.summary)).countP (f.ownsFor t ·.labels) +
        g.state.capacity.inProgress t.cloud.name.text (some t.template.name.text) =
      g₀.ofTemplate f (orders.map (·.target)) t := by
  have hall := Memory.countP_listed (m := g₀.sites t.cloud.endpoint.uri) (p := fun _ => true)
  rw [List.countP_true, List.length_map] at hall
  constructor
  · rw [h.sites, hall, h.grown.ofCloud, Solo.onCloud, Nat.add_assoc]
  · rw [h.sites, Memory.countP_listed, h.grown.ofTemplate, Solo.ofTemplate, Nat.add_assoc]

theorem count_onPlanning {ts : List Target} (h : Planned f m₀ g₀ want g r orders) (hr : 0 < r.remaining)
    (hc : r.candidates = t :: ts) (hl : g.state.locked = g₀.state.locked.insert t.cloud.name.text ())
    (hfree : g₀.state.locked.contains t.cloud.name.text = false) (hm : m₀.ticks ≤ m.ticks)
    {a : Except RuntimeError (List Summary)}
    (ha : a = .ok (((g.sites t.cloud.endpoint.uri).listed {}).map (·.summary)))
    {u : Turn Phase Round}
    (hu : u = count f g.state m r t (g.state.capacity.inProgress t.cloud.name.text none)
      (g.state.capacity.inProgress t.cloud.name.text (some t.template.name.text)) a) :
    OnPlanning f m₀ g₀ want u.progress { g with state := u.state } ∧
      ahead u.progress < 2 * (r.remaining + r.candidates.length) - 1 := by
  obtain ⟨hcloud, htemplate⟩ := h.counts t
  have hlocked : ((g.state.giveBack m t.cloud).unlock t.cloud).locked = g₀.state.locked :=
    (congrArg (Dict.erase · t.cloud.name.text) hl).trans (Dict.erase_insert hfree)
  have hlen : r.candidates.length = ts.length + 1 := by rw [hc]; rfl
  subst hu
  rw [ha]
  simp only [count]
  split
  · -- The template is full, and planning goes on to the next one.
    rename_i detail hfull
    have hfull := le_of_exceeded? hfull
    rw [List.length_map, hcloud, htemplate] at hfull
    have hrest : Planned f m₀ g₀ want
        { g with state := (g.state.giveBack m t.cloud).unlock t.cloud }
        { r with
          candidates := r.candidates.tail
          rejected := r.rejected ++ [.capacityExceeded t.cloud.name t.template.name detail] }
        orders := by
      refine ⟨h.plans, h.grown, h.clouds, h.templates, h.sites,
        fun x hx => h.candidates x (List.mem_of_mem_tail hx), ?_⟩
      rw [← h.greedy, hc, List.tail_cons, Solo.greedy_full hfull]
    obtain ⟨hon, hahead⟩ := advance_onPlanning hrest hm hlocked
    rw [advance_state]
    refine ⟨hon, Nat.lt_of_le_of_lt hahead ?_⟩
    simp only [List.length_tail]
    omega
  · -- There is room for a node, which takes some of the demand, and the template stays first.
    rename_i hroom
    obtain ⟨hcaps, hcaps'⟩ := Fleet.lt_of_exceeded? hroom
    rw [List.length_map, hcloud] at hcaps
    rw [htemplate] at hcaps'
    have hnext : Planned f m₀ g₀ want
        { g with state := ((g.state.giveBack m t.cloud).unlock t.cloud).reserve t }
        { r with
          remaining := r.remaining - max t.template.executors 1
          plans := r.plans ++ [.pending ⟨m.freshId, t⟩] }
        (orders ++ [⟨m.freshId, t⟩]) := by
      refine ⟨?_, ?_, h.clouds, h.templates, h.sites, h.candidates, ?_⟩
      · rw [h.plans, List.map_append]
        rfl
      · rw [List.map_append]
        exact h.grown.reserve
      · rw [← h.greedy, hc, List.map_append]
        exact (Solo.greedy_take hcaps hcaps' hr).symm
    obtain ⟨hon, hahead⟩ := advance_onPlanning hnext hm hlocked
    rw [advance_state]
    refine ⟨hon, Nat.lt_of_le_of_lt hahead ?_⟩
    have hy : 0 < max t.template.executors 1 := t.yield_pos
    simp only
    omega

variable {p : Phase} {q : Progress Phase Round} {g' : Solo} {e : f.Calm m₀}

section

variable (hfree : ∀ c ∈ f.clouds, g₀.state.locked.contains c.name.text = false)

include hfree

theorem step_onPlanning (hlist : ∀ c ∈ f.clouds, (g₀.sites c.endpoint.uri).isBroken .list = false)
    (h : OnPlanning f m₀ g₀ want (.wait p) g) (hs : calmStep f m₀ g p e = some (q, g')) :
    OnPlanning f m₀ g₀ want q g' ∧ ahead q < ahead (.wait p) := by
  obtain ⟨a, g₁, hserve, rfl, rfl⟩ := Solo.step_eq_some hs
  have hcloud {r : Round} {orders : List Order} {t : Target} {ts : List Target}
      (planned : Planned f m₀ g₀ want g r orders) (first : r.candidates = t :: ts) :
      t.cloud ∈ f.clouds :=
    (Fleet.mem_targets.1 (planned.candidates t (first ▸ List.mem_cons_self)).1).1
  cases h with
  | locking planned demand first unlocked =>
    have hg : g₁ = g := by
      simp only [pending, wait, Solo.serve] at hserve
      split at hserve
      · cases hserve
      · exact (Prod.ext_iff.1 (Option.some.inj hserve)).2.symm
    subst hg
    exact lock_onPlanning planned demand first unlocked (e.reachable _ (hcloud planned first))
  | @counting _ r orders t ts planned demand first locked =>
    have hc := hcloud planned first
    obtain ⟨_, ha, rfl⟩ := Solo.serve_call hserve
    have hanswer : (g.sites t.cloud.endpoint.uri).answer e.moment.wall (.list {}) =
        (.ok (((g.sites t.cloud.endpoint.uri).listed {}).map (·.summary)),
          g.sites t.cloud.endpoint.uri) := by
      have hb := hlist t.cloud hc
      rw [← planned.sites] at hb
      simp [Memory.answer, Call.kind, hb]
    have hsites : Function.update g.sites t.cloud.endpoint.uri
        ((g.sites t.cloud.endpoint.uri).answer e.moment.wall (.list {})).2 = g.sites := by
      rw [hanswer, Function.update_eq_self]
    have hplanned : Planned f m₀ g₀ want
        { g with
          sites := Function.update g.sites t.cloud.endpoint.uri
            ((g.sites t.cloud.endpoint.uri).answer e.moment.wall (.list {})).2
          heard := ⟨0, .list {}, a⟩ :: g.heard } r orders :=
      ⟨planned.plans, planned.grown, planned.clouds, planned.templates, hsites.trans planned.sites,
        planned.candidates, planned.greedy⟩
    refine count_onPlanning hplanned demand first locked (hfree _ hc) e.later ?_ rfl
    rw [hsites]
    exact ha.trans (congrArg Prod.fst hanswer)

theorem exists_calmStep (h : OnPlanning f m₀ g₀ want (.wait p) g) :
    ∃ e, (calmStep f m₀ g p e).isSome = true := by
  refine ⟨⟨{ m₀ with refusal := fun _ => none }, Nat.le_refl _, fun _ _ => rfl⟩, ?_⟩
  rw [calmStep, Solo.step, Option.isSome_map]
  cases h with
  | locking planned demand first unlocked =>
    have ht := (planned.candidates _ (first ▸ List.mem_cons_self)).1
    have hc := hfree _ (Fleet.mem_targets.1 ht).1
    simp [pending, wait, Solo.serve, unlocked, hc]
  | counting => exact Solo.isSome_serve_call

end

theorem start_onPlanning (label : Option LabelExpr) (executors : Nat) :
    OnPlanning f m g (g.greedy f (candidates f g.state m label) executors [])
        (start f g.state m label executors).progress g ∧
      ahead (start f g.state m label executors).progress ≤
        2 * (executors + (candidates f g.state m label).length) := by
  have hplanned : Planned f m g (g.greedy f (candidates f g.state m label) executors []) g
      { remaining := executors, candidates := candidates f g.state m label } [] := by
    refine ⟨rfl, .refl, rfl, rfl, rfl, fun t ht => ?_, rfl⟩
    obtain ⟨ht, hopen⟩ := List.mem_filter.1 ht
    exact ⟨ht, (Bool.and_eq_true_iff.1 hopen).1⟩
  exact advance_onPlanning hplanned (Nat.le_refl _) rfl

/-- Of the templates that are open and serve the label, one after the other got its share of the demand in
the order of their declaration. The tracker counts just these nodes beyond those before. -/
def FirstFit (f : Fleet) (m : Moment) (g : Solo) (label : Option LabelExpr) (executors : Nat)
    (r : Round) (g' : Solo) : Prop :=
  ∃ orders : List Order, r.plans = orders.map .pending ∧
    orders.map (·.target) = g.greedy f
      (f.targets.filter fun t => g.state.isOpen m t && t.template.serves label) executors [] ∧
    g.state.capacity.Grown g'.state.capacity (orders.map (·.target)) ∧ g'.sites = g.sites

/-- A request that is answered alone comes to its end, and agrees with the greedy choice. -/
theorem request_first_fit (hfree : ∀ c ∈ f.clouds, g.state.locked.contains c.name.text = false)
    (hlist : ∀ c ∈ f.clouds, (g.sites c.endpoint.uri).isBroken .list = false)
    (label : Option LabelExpr) (executors : Nat) :
    (∀ es p g', requestAlone f m g label executors es = some (.wait p, g') →
      es.length ≤ 2 * (executors + (candidates f g.state m label).length) ∧
      ∃ more r g'', requestAlone f m g label executors (es ++ more) = some (.done r, g'')) ∧
    ∀ es r g', requestAlone f m g label executors es = some (.done r, g') →
      FirstFit f m g label executors r g' := by
  obtain ⟨hstart, hahead⟩ := start_onPlanning (f := f) (m := m) (g := g) label executors
  have hstep {want : List Target} : ∀ g₁ p e q g₂, OnPlanning f m g want (.wait p) g₁ →
      calmStep f m g₁ p e = some (q, g₂) →
      OnPlanning f m g want q g₂ ∧ ahead q < ahead (.wait p) :=
    fun _ _ _ _ _ h hs => step_onPlanning hfree hlist h hs
  have hended {r : Round} {g' : Solo}
      (h : OnPlanning f m g (g.greedy f (candidates f g.state m label) executors []) (.done r) g') :
      FirstFit f m g label executors r g' := by
    cases h with
    | ended planned targets => exact ⟨_, planned.plans, targets, planned.grown, planned.sites⟩
  unfold requestAlone
  cases hp : (start f g.state m label executors).progress with
  | wait p =>
    rw [hp] at hstart hahead
    refine ⟨fun es p' g' h => ⟨?_, ?_⟩, fun es r g' h => hended ?_⟩
    · have hle := Progress.length_le_ahead hstep hstart h
      omega
    · exact Progress.exists_walk_append hstep (fun _ _ h => exists_calmStep hfree h) hstart h
    · exact Progress.walk_induction (fun _ _ _ _ _ h hs => (hstep _ _ _ _ _ h hs).1) hstart h
  | done r =>
    rw [hp] at hstart
    refine ⟨fun es p' g' h => ?_, fun es r' g' h => hended ?_⟩
    · simp only at h
      split at h <;> cases h
    · simp only at h
      split at h
      · obtain ⟨hr, rfl⟩ := Prod.ext_iff.1 (Option.some.inj h)
        obtain rfl := Progress.done.inj hr
        exact hstart
      · cases h

end Planning

def Fleet.twoTemplates : Fleet :=
  { Fleet.one with
    clouds := Definition.build ⟨[{
      name := CloudName.sample
      uri := "tcp://h:1"
      containerCap := some 4
      templates := [
        { name := TemplateName.sample, image := "alpine", executors := 2, instanceCap := some 1 },
        { name := ⟨"u", by decide⟩, image := "alpine" }] }]⟩ }

def Solo.withStranger : Solo :=
  { state := .initial (.ofSecs 300) 8
    sites := fun _ => Memory.empty.insert
      { id := "c1", name := "c1", image := "alpine", status := some "running", running := true
        created := .epoch, labels := .empty } }

namespace Planning

/-- Of six executors asked for, one node of the first template brings two and two nodes of the second one
each; then the cloud is full. -/
theorem request_first_fit_full : ∃ es r g',
    requestAlone .twoTemplates (.sample 0) .withStranger none 6 es = some (.done r, g') ∧
    r.plans.map (fun x => (x.template?.map fun t => t.text)) = [some "t", some "u", some "u"] ∧
    FirstFit .twoTemplates (.sample 0) .withStranger none 6 r g' := by
  let e : Fleet.twoTemplates.Calm (.sample 0) := ⟨.sample 0, Nat.le_refl _, fun _ _ => rfl⟩
  have hrun : (requestAlone .twoTemplates (.sample 0) .withStranger none 6 (List.replicate 10 e)).map
      (fun x => match x.1 with
        | .wait _ => none
        | .done r => some (r.plans.map fun x => (x.template?.map fun t => t.text))) =
      some (some [some "t", some "u", some "u"]) := by decide +kernel
  obtain ⟨⟨q, g'⟩, hrun, hq⟩ := Option.map_eq_some_iff.1 hrun
  cases q with
  | wait p => cases hq
  | done r =>
    refine ⟨_, r, g', hrun, Option.some.inj hq, ?_⟩
    exact (request_first_fit (f := .twoTemplates) (m := .sample 0) (g := .withStranger) (by decide)
      (by decide) none 6).2 _ _ _ hrun

end Planning

end ContainerFleet
