import ContainerFleet.Fleet.State
import ContainerFleet.Container.Removal

namespace ContainerFleet.Termination

inductive Phase where
  | lookingUp
  | marking (node : Node) (cloud : Cloud)
  | removing (cloud : Cloud) (r : Removal) (p : Removal.Phase)
  | markingGone
  | unregistering
deriving DecidableEq, Repr

abbrev Result := Except ProvisionError Unit

abbrev wait : Phase → Wait
  | .removing cloud r p => .call cloud.endpoint.uri (r.call p)
  | _ => .turn

def Phase.leases? : Phase → Option Cloud
  | removing cloud _ _ => some cloud
  | _ => none

/-- The removal of a node's container. A template that is no longer there is taken to stop within ten
seconds and to keep its volumes. -/
def removal (n : Node) (c : Cloud) : Removal :=
  match c.template? n.template.text with
  | some t => ⟨n.containerId, t.stopTimeout, t.removeVolumes⟩
  | none => ⟨n.containerId, .ofSecs 10, false⟩

variable (f : Fleet) (name : String)

def stop (s : State) (e : ProvisionError) : Turn Phase Result :=
  { state := s, progress := .done (.error e) }

def lookUp (s : State) : Turn Phase Result :=
  match s.registry.get? name with
  | none => stop s (.unknownNode name)
  | some n =>
    match f.cloud? n.cloud.text with
    | none => stop s (.unknownCloud n.cloud.text)
    | some c => { state := s, progress := .wait (.marking n c) }

def mark (s : State) (m : Moment) (n : Node) (c : Cloud) : Turn Phase Result :=
  match s.registry.setState name .terminating with
  | .error e => stop s (.registration name e)
  | .ok registry =>
    match { s with registry }.lease m c with
    | (.error e, s) => stop s (.ofPool c.name e)
    | (.ok _, s) => { state := s, progress := .wait (.removing c (removal n c) .stopping) }

def remove (s : State) (m : Moment) (c : Cloud) (r : Removal) (p : Removal.Phase)
    (a : Except RuntimeError Unit) : Turn Phase Result :=
  match Removal.resume p a with
  | .wait p => { state := s, progress := .wait (.removing c r p) }
  | .done (.error e) => stop (s.giveBack m c) (.termination name e)
  | .done (.ok _) => { state := s.giveBack m c, progress := .wait .markingGone }

def markGone (s : State) : Turn Phase Result :=
  match s.registry.setState name .gone with
  | .error e => stop s (.registration name e)
  | .ok registry => { state := { s with registry }, progress := .wait .unregistering }

def unregister (s : State) : Turn Phase Result :=
  match s.registry.remove name with
  | .error e => stop s (.registration name e)
  | .ok (_, registry) => { state := { s with registry }, progress := .done (.ok ()) }

def resume (s : State) (m : Moment) : (p : Phase) → (wait p).Answer → Turn Phase Result
  | .lookingUp, _ => lookUp f name s
  | .marking n c, _ => mark name s m n c
  | .removing c r p, a => remove name s m c r p (r.reply p a)
  | .markingGone, _ => markGone name s
  | .unregistering, _ => unregister name s

def abandon (s : State) (m : Moment) (p : Phase) : State :=
  match p.leases? with
  | some c => s.giveBack m c
  | none => s

def pending (p : Phase) : Pending Phase Result := ⟨wait p, fun s m => resume f name s m p⟩

end ContainerFleet.Termination
