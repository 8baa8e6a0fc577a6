import ContainerFleet.Fleet.State
import ContainerFleet.Container.Removal

namespace ContainerFleet.Creation

inductive Phase where
  | queued
  | creating
  | starting (container : String)
  | inspecting (container : String)
  /-- The start failed, and the container is being removed. -/
  | discarding (container : String) (cause : RuntimeError)
  | registering (node : Node)
  /-- The scheduler refused the node, and the container is being removed. -/
  | unwinding (container : String) (cause : RegistryError) (p : Removal.Phase)
deriving DecidableEq, Repr

abbrev Result := Except ProvisionError Node

def removal (o : Order) (container : String) : Removal :=
  ⟨container, o.template.stopTimeout, true⟩

def Phase.isUnderWay : Phase → Bool
  | queued => false
  | _ => true

variable (f : Fleet) (o : Order)

abbrev wait : Phase → Wait
  | .queued => .permit
  | .creating =>
    .call o.cloud.endpoint.uri (.create (o.template.createSpec f.owner o.cloud.name o.nodeName))
  | .starting container => .call o.cloud.endpoint.uri (.start container)
  | .inspecting container => .call o.cloud.endpoint.uri (.inspect container)
  | .discarding container _ => .call o.cloud.endpoint.uri (Removal.forceCall container true)
  | .registering _ => .admission
  | .unwinding container _ p => .call o.cloud.endpoint.uri ((removal o container).call p)

def settle (s : State) (m : Moment) : State :=
  let s := s.giveBack m o.cloud
  { s with permits := s.permits + 1 }.unreserve o.target

def finish (s : State) (m : Moment) (r : Result) : Turn Phase Result :=
  { state := settle o s m, progress := .done r }

def begin (s : State) (m : Moment) : Turn Phase Result :=
  match s.lease m o.cloud with
  | (.ok _, s) => { state := { s with permits := s.permits - 1 }, progress := .wait .creating }
  | (.error e, s) =>
    let e := ProvisionError.ofPool o.cloud.name e
    let s := s.trip f m o.cloud ("no runtime client for template " ++ o.template.name.text) e.message
    { state := s.unreserve o.target, progress := .done (.error e) }

def trip (s : State) (m : Moment) (stage : CreationStage) (e : RuntimeError) : State :=
  s.trip f m o.cloud s!"failed to {stage.name} container for template {o.template.name}" e.message

def created (s : State) (m : Moment) : Except RuntimeError String → Turn Phase Result
  | .ok container => { state := s, progress := .wait (.starting container) }
  | .error e =>
    finish o (trip f o s m .create e) m (.error (.nodeCreation o.nodeName .create e))

def node (m : Moment) (container : String) : Node :=
  { id := o.id
    name := o.nodeName
    cloud := o.cloud.name
    template := o.template.name
    containerId := container
    executors := o.template.executors
    state := .registered
    launcher := o.template.connector.launcher container o.nodeName
    createdAt := m.wall
    activity := .idle m.wall }

def ready (s : State) (m : Moment) (container : String) :
    Except RuntimeError Unit → Turn Phase Result
  | .ok () => { state := s, progress := .wait (.registering (node o m container)) }
  | .error e =>
    { state := trip f o s m .start e, progress := .wait (.discarding container e) }

def started (s : State) (m : Moment) (container : String) (a : Except RuntimeError Unit) :
    Turn Phase Result :=
  match a with
  | .ok () =>
    if o.template.connector.inspectsStarted then
      { state := s, progress := .wait (.inspecting container) }
    else ready f o s m container (.ok ())
  | .error e => ready f o s m container (.error e)

def register (s : State) (m : Moment) (n : Node) (admitted : Bool) : Turn Phase Result :=
  let outcome := if admitted then s.registry.register n else .error (.alreadyRegistered n.name)
  match outcome with
  | .ok registry => finish o { s with registry } m (.ok n)
  | .error e => { state := s, progress := .wait (.unwinding n.containerId e .stopping) }

def unwind (s : State) (m : Moment) (container : String) (cause : RegistryError)
    (p : Removal.Phase) (a : Except RuntimeError Unit) : Turn Phase Result :=
  match Removal.resume p a with
  | .wait p => { state := s, progress := .wait (.unwinding container cause p) }
  | .done _ => finish o s m (.error (.registration o.nodeName cause))

def resume (s : State) (m : Moment) : (p : Phase) → (wait f o p).Answer → Turn Phase Result
  | .queued, _ => begin f o s m
  | .creating, a => created f o s m a
  | .starting container, a => started f o s m container a
  | .inspecting container, a => ready f o s m container (Connector.verify container a)
  | .discarding _ e, _ => finish o s m (.error (.nodeCreation o.nodeName .start e))
  | .registering n, a => register o s m n a
  | .unwinding container cause p, a =>
    unwind o s m container cause p ((removal o container).reply p a)

def abandon (s : State) (m : Moment) (p : Phase) : State :=
  if p.isUnderWay then settle o s m else s.unreserve o.target

def pending (p : Phase) : Pending Phase Result := ⟨wait f o p, fun s m => resume f o s m p⟩

end ContainerFleet.Creation
