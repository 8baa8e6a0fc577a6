import ContainerFleet.Container.Call
import ContainerFleet.Data.Value

namespace ContainerFleet

inductive Connector where
  | attach (user : Option String)
  /-- Over a daemon inside the container. -/
  | ssh (port : Nat) (credentialsId : Option String)
  | jnlp (controllerUrl : String) (workDir : Option String)
deriving DecidableEq, Repr, Inhabited

inductive Launcher where
  | attach (containerId : String) (user : Option String)
  | ssh (containerId : String) (port : Nat) (credentialsId : Option String)
  | jnlp (nodeName : String)
deriving DecidableEq, Repr

namespace Connector

def standard : Connector := .attach none

def defaultPort : Nat := 22

def prepare (c : Connector) (nodeName : String) (spec : CreateSpec) : CreateSpec :=
  match c with
  | attach _ => { spec with openStdin := true }
  | ssh port _ => { spec with env := spec.env.insert "DOCKFLEET_SSH_PORT" (toString port) }
  | jnlp controllerUrl workDir =>
    let env := (spec.env.insert "DOCKFLEET_AGENT_NAME" nodeName).insert
      "DOCKFLEET_CONTROLLER_URL" controllerUrl
    match workDir with
    | some dir => { spec with env := env.insert "DOCKFLEET_AGENT_WORKDIR" dir }
    | none => { spec with env }

/-- A started container is inspected, because it has to stay up until it is called. -/
def inspectsStarted : Connector → Bool
  | ssh .. => true
  | _ => false

def verify (id : String) (details : Except RuntimeError Details) : Except RuntimeError Unit :=
  match details with
  | .error e => .error e
  | .ok d =>
    if d.running then .ok ()
    else .error (.unavailable ("container " ++ id ++ " exited before sshd came up"))

def launcher (c : Connector) (containerId nodeName : String) : Launcher :=
  match c with
  | attach user => .attach containerId user
  | ssh port credentialsId => .ssh containerId port credentialsId
  | jnlp .. => .jnlp nodeName

def toData : Connector → Data
  | attach user => .table [("type", .text "attach"), ("user", .ofText? user)]
  | ssh port credentialsId =>
    .table [("type", .text "ssh"), ("port", .nat port), ("credentials_id", .ofText? credentialsId)]
  | jnlp controllerUrl workDir =>
    .table [("type", .text "jnlp"), ("controller_url", .text controllerUrl),
      ("work_dir", .ofText? workDir)]

def text? (d : Option Data) : Option (Option String) :=
  Data.optional (Data.nullable? Data.text?) none d

def ofData? (d : Data) : Option Connector := do
  match ← d.variant? with
  | ("attach", d) =>
    let [user] ← d.record? ["user"] true | none
    some (.attach (← text? user))
  | ("ssh", d) =>
    let [port, credentialsId] ← d.record? ["port", "credentials_id"] true | none
    some (.ssh (← Data.optional (Data.nat? 16) defaultPort port) (← text? credentialsId))
  | ("jnlp", d) =>
    let [controllerUrl, workDir] ← d.record? ["controller_url", "work_dir"] true | none
    some (.jnlp (← Data.required Data.text? controllerUrl) (← text? workDir))
  | _ => none

end Connector

def Launcher.toData : Launcher → Data
  | attach containerId user =>
    .table [("type", .text "attach"), ("container_id", .text containerId), ("user", .ofText? user)]
  | ssh containerId port credentialsId =>
    .table [("type", .text "ssh"), ("container_id", .text containerId), ("port", .nat port),
      ("credentials_id", .ofText? credentialsId)]
  | jnlp nodeName => .table [("type", .text "jnlp"), ("node_name", .text nodeName)]

end ContainerFleet
