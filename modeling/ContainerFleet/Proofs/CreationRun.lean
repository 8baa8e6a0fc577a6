import ContainerFleet.Proofs.Alone
import ContainerFleet.Proofs.Capacity
import ContainerFleet.Proofs.Registry

namespace ContainerFleet

/-- A fault at the moment took the cloud out of use. Nothing else has become of the clouds. -/
def State.Tripped (f : Fleet) (c : Cloud) (m : Moment) (reason cause : String) (s s' : State) : Prop :=
  s'.clouds = s.clouds.insert c.name.text
    { byChoice := (s.cloudAvailability c).byChoice
      outage := some
        { reason, cause := some cause, since := m.ticks, clears := m.ticks + f.outageFor } }

variable {f : Fleet} {c d : Cloud} {s s' : State} {m : Moment} {reason cause : String}

theorem State.Tripped.byChoice (h : s.Tripped f c m reason cause s') (hd : d = c ∨ d.name ≠ c.name) :
    (s'.cloudAvailability d).byChoice = (s.cloudAvailability d).byChoice := by
  rw [cloudAvailability, h, Dict.get?_insert]
  obtain rfl | hne := hd
  · rw [if_pos rfl]
    rfl
  · rw [if_neg fun he => hne (Fleet.name_eq_iff.2 he)]
    rfl

def Solo.made (g : Solo) : List String := g.heard.filterMap (·.container?)

theorem Reply.container?_of_ne {part : Nat} {c : Call} {a : c.Outcome} (h : c.kind ≠ .create) :
    Reply.container? ⟨part, c, a⟩ = none := by
  cases c with
  | create spec => exact absurd rfl h
  | _ => rfl

def ProvisionError.isFault : ProvisionError → Bool
  | .registration .. => false
  | _ => true

namespace Creation

def outageReason (o : Order) : ProvisionError → String
  | .nodeCreation _ stage _ =>
    s!"failed to {stage.name} container for template {o.template.name}"
  | _ => "no runtime client for template " ++ o.template.name.text

def outageCause : ProvisionError → String
  | .nodeCreation _ _ cause => cause.message
  | error => error.message

/-- Where the error came up. After a start that failed, one more step removes the container. -/
def faultAt? (es : List Circumstance) : ProvisionError → Option Circumstance
  | .nodeCreation _ .start _ => es.dropLast.getLast?
  | _ => es.getLast?

def Faulted (f : Fleet) (o : Order) (e : Option Circumstance) (s s' : State) (error : ProvisionError) :
    Prop :=
  ∃ e', e = some e' ∧
    s.Tripped f o.cloud e'.moment (outageReason o error) (outageCause error) s'

abbrev spec (f : Fleet) (o : Order) : CreateSpec :=
  o.template.createSpec f.owner o.cloud.name o.nodeName

inductive Origin (f : Fleet) (o : Order) (heard : List Reply) : ProvisionError → Prop where
  | lease {cause : PoolError} (silent : heard = []) : Origin f o heard (.ofPool o.cloud.name cause)
  | create {cause : RuntimeError}
      (told : ⟨0, .create (spec f o), .error cause⟩ ∈ heard) :
      Origin f o heard (.nodeCreation o.nodeName .create cause)
  | start {id : String} {cause : RuntimeError} (told : ⟨0, .start id, .error cause⟩ ∈ heard) :
      Origin f o heard (.nodeCreation o.nodeName .start cause)
  | inspect {id : String} {a : Except RuntimeError Details} {cause : RuntimeError}
      (told : ⟨0, .inspect id, a⟩ ∈ heard) (unfit : Connector.verify id a = .error cause) :
      Origin f o heard (.nodeCreation o.nodeName .start cause)
  | registration {id : String} {cause : RegistryError} (told : ⟨0, .start id, .ok ()⟩ ∈ heard) :
      Origin f o heard (.registration o.nodeName cause)

structure Ended (o : Order) (g₀ g : Solo) : Prop where
  capacity : g.state.capacity =
    g₀.state.capacity.release o.cloud.name.text o.template.name.text
  templates : g.state.templates = g₀.state.templates
  others : ∀ uri id, uri ≠ o.cloud.endpoint.uri ∨ id ∉ g.made →
    (g.sites uri).get? id = (g₀.sites uri).get? id

structure Succeeded (f : Fleet) (o : Order) (g₀ g : Solo) (n : Node) : Prop extends Ended o g₀ g where
  node : ∃ m, n = Creation.node o m n.containerId
  idle : n.state = .registered ∧ n.activity = .idle n.createdAt
  fresh : g₀.state.registry.contains n.name = false
  registry : g.state.registry = g₀.state.registry.insert n.name n
  container : ∃ x, (g.sites o.cloud.endpoint.uri).get? n.containerId = some x ∧ x.running = true ∧
    x.labels.get? Identity.ownerKey = some f.owner.toText ∧
    x.labels.get? Identity.cloudKey = some n.cloud.text ∧
    x.labels.get? Identity.templateKey = some n.template.text ∧
    x.labels.get? Identity.nodeNameKey = some n.name
  clouds : g.state.clouds = g₀.state.clouds

/-- There is no node, and what was made for it is gone if its removal did not fail. -/
structure Failed (f : Fleet) (o : Order) (es : List Circumstance) (g₀ g : Solo) (e : ProvisionError) :
    Prop extends Ended o g₀ g where
  registry : g.state.registry = g₀.state.registry
  gone : ∀ id ∈ g.made, (g.sites o.cloud.endpoint.uri).get? id = none ∨
    ∃ options cause, g.heard.head? = some ⟨0, .remove id options, .error cause⟩ ∧
      cause.isNotFound = false
  origin : Origin f o g.heard e
  faulty : e.isFault = true → Faulted f o (faultAt? es e) g₀.state g.state e
  faultless : e.isFault = false → g.state.clouds = g₀.state.clouds

/-- What a creation under way has not changed, apart from the containers that it made. -/
structure Along (o : Order) (g₀ g : Solo) (ids : List String) : Prop where
  made : g.made = ids
  registry : g.state.registry = g₀.state.registry
  capacity : g.state.capacity = g₀.state.capacity
  templates : g.state.templates = g₀.state.templates
  others : ∀ uri id, uri ≠ o.cloud.endpoint.uri ∨ id ∉ ids →
    (g.sites uri).get? id = (g₀.sites uri).get? id

def Holds (f : Fleet) (o : Order) (g : Solo) (id : String) (running : Bool) : Prop :=
  ∃ x, (g.sites o.cloud.endpoint.uri).get? id = some x ∧ x.labels = o.labels f.owner ∧
    (running = true → x.running = true)

/-- Where a creation that goes on alone can be, after it has met `es`. -/
inductive OnCreation (f : Fleet) (o : Order) (g₀ : Solo) (es : List Circumstance) :
    Progress Phase Result → Solo → Prop where
  | queued : OnCreation f o g₀ es (.wait .queued) g₀
  | creating {g : Solo} (along : Along o g₀ g []) (calm : g.state.clouds = g₀.state.clouds) :
      OnCreation f o g₀ es (.wait .creating) g
  | starting {g : Solo} {id : String} (along : Along o g₀ g [id])
      (calm : g.state.clouds = g₀.state.clouds) (held : Holds f o g id false) :
      OnCreation f o g₀ es (.wait (.starting id)) g
  | inspecting {g : Solo} {id : String} (along : Along o g₀ g [id])
      (calm : g.state.clouds = g₀.state.clouds) (held : Holds f o g id true)
      (started : ⟨0, .start id, .ok ()⟩ ∈ g.heard) :
      OnCreation f o g₀ es (.wait (.inspecting id)) g
  | discarding {g : Solo} {id : String} {cause : RuntimeError} (along : Along o g₀ g [id])
      (faulted : Faulted f o es.getLast? g₀.state g.state (.nodeCreation o.nodeName .start cause))
      (origin : Origin f o g.heard (.nodeCreation o.nodeName .start cause)) :
      OnCreation f o g₀ es (.wait (.discarding id cause)) g
  | registering {g : Solo} {id : String} {m : Moment} (along : Along o g₀ g [id])
      (calm : g.state.clouds = g₀.state.clouds) (held : Holds f o g id true)
      (started : ⟨0, .start id, .ok ()⟩ ∈ g.heard) :
      OnCreation f o g₀ es (.wait (.registering (node o m id))) g
  | unwinding {g : Solo} {id : String} {cause : RegistryError} {p : Removal.Phase}
      (along : Along o g₀ g [id]) (calm : g.state.clouds = g₀.state.clouds)
      (started : ⟨0, .start id, .ok ()⟩ ∈ g.heard) :
      OnCreation f o g₀ es (.wait (.unwinding id cause p)) g
  | succeeded {g : Solo} {n : Node} (end' : Succeeded f o g₀ g n) :
      OnCreation f o g₀ es (.done (.ok n)) g
  | failed {g : Solo} {e : ProvisionError} (end' : Failed f o es g₀ g e) :
      OnCreation f o g₀ es (.done (.error e)) g

def ahead : Progress Phase Result → Nat
  | .wait .queued => 8
  | .wait .creating => 7
  | .wait (.starting _) => 6
  | .wait (.inspecting _) => 5
  | .wait (.registering _) => 4
  | .wait (.unwinding _ _ p) => p.ahead
  | .wait (.discarding _ _) => 1
  | .done _ => 0

variable {f : Fleet} {o : Order} {g₀ g : Solo} {es : List Circumstance} {e : Circumstance} {m : Moment}
  {id : String}

def heardFrom (o : Order) (g : Solo) (e : Circumstance) (c : Call) (a : c.Outcome) : Solo :=
  { g with
    sites := Function.update g.sites o.cloud.endpoint.uri
      (e.answer (g.sites o.cloud.endpoint.uri) c).2
    heard := ⟨0, c, a⟩ :: g.heard }

theorem site_heardFrom {c : Call} {a : c.Outcome} :
    (heardFrom o g e c a).sites o.cloud.endpoint.uri =
      (e.answer (g.sites o.cloud.endpoint.uri) c).2 := Function.update_self ..

theorem Along.call (h : Along o g₀ g [id]) {c : Call} {a : c.Outcome} (hc : c.kind ≠ .create)
    (hs : c.subject? = some id) : Along o g₀ (heardFrom o g e c a) [id] := by
  refine ⟨?_, h.registry, h.capacity, h.templates, fun uri k hk => ?_⟩
  · rw [Solo.made, heardFrom, List.filterMap_cons_none (Reply.container?_of_ne hc)]
    exact h.made
  · rw [← h.others uri k hk]
    by_cases hu : uri = o.cloud.endpoint.uri
    · have hne : k ≠ id := by simpa [hu] using hk
      rw [hu, site_heardFrom, Circumstance.get?_answer_of_ne hc]
      rw [hs]
      exact fun he => hne (Option.some.inj he).symm
    · exact congrArg (Memory.get? · k) (Function.update_of_ne hu _ _)

theorem Along.settle {ids : List String} (h : Along o g₀ g ids) (registry : Registry)
    (clouds : Dict Availability) :
    Ended o g₀ { g with state := settle o { g.state with registry, clouds } m } :=
  ⟨congrArg (Capacity.release · o.cloud.name.text o.template.name.text) h.capacity, h.templates,
    fun uri k hk => h.others uri k (h.made ▸ hk)⟩

theorem Holds.start (h : Holds f o g id false)
    (ha : (e.answer (g.sites o.cloud.endpoint.uri) (.start id)).1 = .ok ()) :
    Holds f o (heardFrom o g e (.start id) (.ok ())) id true := by
  have he := Circumstance.answer_of_ok (by simp [Call.kind]) ha
  rw [he] at ha
  obtain ⟨x, hx, hx'⟩ := Memory.answer_start_ok ha
  obtain ⟨y, hy, hl, _⟩ := h
  obtain rfl := Option.some.inj (hx.symm.trans hy)
  refine ⟨x.started, ?_, hl, fun _ => rfl⟩
  rw [site_heardFrom, he, hx']

theorem ahead_pos (p : Phase) : 0 < ahead (.wait p) := by
  cases p with
  | unwinding id cause p => cases p <;> exact Nat.zero_lt_succ _
  | _ => exact Nat.zero_lt_succ _

theorem ahead_ready (s : State) (a : Except RuntimeError Unit) :
    ahead (ready f o s m id a).progress ≤ 4 := by
  cases a with
  | ok u => exact Nat.le_refl _
  | error cause => exact Nat.le_of_ble_eq_true rfl

theorem ahead_resume (s : State) (p : Phase) (a : (wait f o p).Answer) :
    ahead (resume f o s m p a).progress < ahead (.wait p) := by
  cases p with
  | queued =>
    simp only [resume, begin]
    split <;> simp [ahead]
  | creating => cases a <;> simp [resume, created, finish, ahead]
  | starting id =>
    cases a with
    | ok u =>
      simp only [resume, started]
      split
      · exact Nat.lt_succ_self _
      · exact Nat.lt_succ_of_lt (Nat.lt_succ_of_le (ahead_ready ..))
    | error cause => exact Nat.lt_succ_of_lt (Nat.lt_succ_of_le (ahead_ready ..))
  | inspecting id => exact Nat.lt_succ_of_le (ahead_ready ..)
  | discarding id cause => exact Nat.zero_lt_one
  | registering n =>
    simp only [resume, register]
    split
    · exact Nat.zero_lt_succ _
    · exact Nat.lt_succ_self _
  | unwinding id cause p =>
    simp only [resume, unwind]
    split
    · rename_i p' hp
      exact Removal.ahead_resume hp
    · exact ahead_pos _

theorem exists_step (hp : 0 < g₀.state.permits) {p : Phase} (h : OnCreation f o g₀ es (.wait p) g) :
    ∃ e, (Solo.step (pending f o) g p e).isSome = true := by
  refine ⟨{ moment := .sample 0 }, ?_⟩
  rw [Solo.step, Option.isSome_map]
  cases h with
  | queued =>
    have hne : g₀.state.permits ≠ 0 := Nat.ne_of_gt hp
    simp [pending, wait, Solo.serve, hne]
  | registering => rfl
  | _ => exact Solo.isSome_serve_call

theorem OnCreation.quiet {p : Phase} (h : OnCreation f o g₀ es (.wait p) g) :
    g.state.registry = g₀.state.registry ∧ g.state.capacity = g₀.state.capacity := by
  cases h with
  | queued => exact ⟨rfl, rfl⟩
  | creating along | starting along | inspecting along | discarding along | registering along
  | unwinding along => exact ⟨along.registry, along.capacity⟩

theorem Ended.ofTemplate (h : Ended o g₀ g)
    (hr : 0 < g₀.state.capacity.ofTemplate o.cloud.name.text o.template.name.text) (n t : String) :
    g.state.capacity.ofTemplate n t +
      (if n = o.cloud.name.text ∧ t = o.template.name.text then 1 else 0) =
        g₀.state.capacity.ofTemplate n t := by
  rw [h.capacity, Capacity.ofTemplate_release]
  split
  · rename_i he
    rw [he.1, he.2]
    omega
  · rfl

theorem Succeeded.byChoice {n : Node} (h : Succeeded f o g₀ g n) (c : Cloud) :
    (g.state.cloudAvailability c).byChoice = (g₀.state.cloudAvailability c).byChoice := by
  rw [State.cloudAvailability, h.clouds]
  rfl

theorem Failed.byChoice {error : ProvisionError} (h : Failed f o es g₀ g error) {c : Cloud}
    (hc : c = o.cloud ∨ c.name ≠ o.cloud.name) :
    (g.state.cloudAvailability c).byChoice = (g₀.state.cloudAvailability c).byChoice := by
  cases hf : error.isFault with
  | true =>
    obtain ⟨e, -, htripped⟩ := h.faulty hf
    exact htripped.byChoice hc
  | false =>
    rw [State.cloudAvailability, h.faultless hf]
    rfl

end Creation

def Solo.ofOrder (o : Order) : Solo :=
  { state := (State.initial (.ofSecs 300) 8).reserve o.target, sites := fun _ => .empty }

def Circumstance.exited : List Circumstance :=
  let e : Circumstance := { moment := .sample 2 }
  let details : Details :=
    { id := "000000000001", name := "", image := "alpine", running := false, created := .epoch
      labels := .empty }
  [e, e, e, { e with shown := some details },
    { e with reaction := .refuses (.unavailable "gone away") }]

namespace Creation

end Creation

end ContainerFleet
