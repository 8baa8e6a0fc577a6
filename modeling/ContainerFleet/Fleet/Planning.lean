import ContainerFleet.Fleet.State

namespace ContainerFleet

inductive Plan where
  | pending (o : Order)
  | failed (cloud : CloudName) (error : ProvisionError)
deriving DecidableEq, Repr

namespace Plan

def displayName : Plan → String
  | pending o => o.nodeName
  | failed cloud _ => cloud.text ++ " (unavailable)"

def cloud : Plan → CloudName
  | pending o => o.cloud.name
  | failed cloud _ => cloud

def template? : Plan → Option TemplateName
  | pending o => some o.template.name
  | failed _ _ => none

def executors : Plan → Nat
  | pending o => o.template.executors
  | failed _ _ => 0

def isFailed : Plan → Bool
  | pending _ => false
  | failed _ _ => true

def text (p : Plan) : String :=
  let template := match p.template? with
    | some t => "Some(TemplateName(" ++ Text.quoted t.text ++ "))"
    | none => "None"
  "PlannedNode \x7b display_name: " ++ Text.quoted p.displayName ++
    ", cloud: CloudName(" ++ Text.quoted p.cloud.text ++ "), template: " ++ template ++
    ", executors: " ++ toString p.executors ++
    ", failed: " ++ (if p.isFailed then "true" else "false") ++ " \x7d"

def fields (p : Plan) : List (String × Data) :=
  [("name", .text p.displayName), ("cloud", .text p.cloud.text),
    ("template", .ofText? (p.template?.map (·.text))), ("executors", .nat p.executors),
    ("failed", .bool p.isFailed), ("debug", .text p.text)]

end Plan

structure Round where
  remaining : Nat
  candidates : List Target
  plans : List Plan := []
  /-- The templates that were turned down, and why. -/
  rejected : List ProvisionError := []
deriving DecidableEq, Repr

namespace Planning

inductive Phase where
  | locking (r : Round) (t : Target)
  /-- The creations under way are counted before the containers, so that a creation that ends in
  between is counted at least once. -/
  | counting (r : Round) (t : Target) (onCloud ofTemplate : Nat)
deriving DecidableEq, Repr

abbrev wait : Phase → Wait
  | .locking _ t => .lock t.cloud.name.text
  | .counting _ t _ _ => .call t.cloud.endpoint.uri (.list {})

variable (f : Fleet)

def candidates (s : State) (m : Moment) (label : Option LabelExpr) : List Target :=
  f.targets.filter fun t => s.isOpen m t && t.template.serves label

def templateFor? (s : State) (m : Moment) (label : Option LabelExpr) : Option Target :=
  (candidates f s m label).head?

def advance (s : State) (m : Moment) (r : Round) : Turn Phase Round :=
  if r.remaining = 0 then { state := s, progress := .done r }
  else
    let r := { r with candidates := r.candidates.filter (s.isOpen m) }
    match r.candidates with
    | [] => { state := s, progress := .done r }
    | t :: _ => { state := s, progress := .wait (.locking r t) }

def start (s : State) (m : Moment) (label : Option LabelExpr) (executors : Nat) : Turn Phase Round :=
  advance s m { remaining := executors, candidates := candidates f s m label }

/-- A fault takes the cloud out of the round and out of use. -/
def fault (s : State) (m : Moment) (r : Round) (c : Cloud) (e : ProvisionError) : Turn Phase Round :=
  advance (s.trip f m c ("capacity check failed: " ++ e.message) e.message) m
    { r with
      candidates := r.candidates.filter (·.cloud.name ≠ c.name)
      plans := r.plans ++ [.failed c.name e] }

def lock (s : State) (m : Moment) (r : Round) (t : Target) : Turn Phase Round :=
  let c := t.cloud
  match s.lease m c with
  | (.error e, s) => fault f s m r c (.ofPool c.name e)
  | (.ok _, s) =>
    { state := s.lock c
      progress := .wait (.counting r t (s.capacity.inProgress c.name.text none)
        (s.capacity.inProgress c.name.text (some t.template.name.text))) }

def ownFilter (t : Target) : ListFilter :=
  { labels := Dict.ofList [
      (Identity.ownerKey, f.owner.toText),
      (Identity.cloudKey, t.cloud.name.text),
      (Identity.templateKey, t.template.name.text)] }

/-- The cap that one more container would exceed, if there is one. All containers at the endpoint
count for the cloud, and this fleet's containers of the template for the template. -/
def exceeded? (t : Target) (running : List Summary) (onCloud ofTemplate : Nat) : Option String :=
  let total := running.length + onCloud
  let own := running.countP ((ownFilter f t).admits ·.labels) + ofTemplate
  match t.cloud.containerCap.filter (· ≤ total), t.template.instanceCap.filter (· ≤ own) with
  | some cap, _ => some s!"cloud full with {total} of {cap} containers"
  | none, some cap => some s!"instance limit of {cap} reached"
  | none, none => none

def count (s : State) (m : Moment) (r : Round) (t : Target) (onCloud ofTemplate : Nat)
    (a : Except RuntimeError (List Summary)) : Turn Phase Round :=
  let c := t.cloud
  let s := (s.giveBack m c).unlock c
  match a with
  | .error e => fault f s m r c (.remoteQuery c.name e)
  | .ok running =>
    match exceeded? f t running onCloud ofTemplate with
    | some detail =>
      advance s m { r with
        candidates := r.candidates.tail
        rejected := r.rejected ++ [.capacityExceeded c.name t.template.name detail] }
    | none =>
      let o : Order := ⟨m.freshId, t⟩
      let turn := advance (s.reserve t) m { r with
        remaining := r.remaining - max t.template.executors 1
        plans := r.plans ++ [.pending o] }
      { turn with ordered := [o] }

def resume (s : State) (m : Moment) : (p : Phase) → (wait p).Answer → Turn Phase Round
  | .locking r t, _ => lock f s m r t
  | .counting r t onCloud ofTemplate, a => count f s m r t onCloud ofTemplate a

def abandon (s : State) (m : Moment) : Phase → State
  | .locking _ _ => s
  | .counting _ t _ _ => (s.giveBack m t.cloud).unlock t.cloud

def pending (p : Phase) : Pending Phase Round := ⟨wait p, fun s m => resume f s m p⟩

end Planning

end ContainerFleet
