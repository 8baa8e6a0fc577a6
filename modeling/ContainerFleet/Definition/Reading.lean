import ContainerFleet.Definition.Basic
import ContainerFleet.Text.Utf8
import ContainerFleet.Toml.Document

namespace ContainerFleet

def UsageMode.ofData? : Data → Option UsageMode
  | .text "normal" | .table [("normal", .table [])] | .table [("normal", .list [])] => some .normal
  | .text "exclusive" | .table [("exclusive", .table [])] | .table [("exclusive", .list [])] =>
    some .exclusive
  | _ => none

def Name.ofData? (k : NameKind) (d : Data) : Option (Name k) :=
  d.text?.bind fun s => (Name.parse k s).toOption

open Data (required optional nullable?)

namespace TemplateDefinition

def fields : List String :=
  ["name", "image", "labels", "instance_cap", "executors", "mode", "connector", "remove_volumes",
    "stop_timeout_secs", "name_prefix", "cmd", "env", "retention", "disabled"]

def ofData? (d : Data) : Option TemplateDefinition := do
  let [name, image, labels, instanceCap, executors, mode, connector, removeVolumes, stopTimeout,
    nameStem, cmd, env, retention, disabled] ← d.record? fields false | none
  let name ← required (Name.ofData? .template) name
  let image ← required Data.text? image
  let standard : TemplateDefinition := { name, image }
  some {
    name, image
    labels := ← optional Data.text? standard.labels labels
    instanceCap := ← optional (nullable? (Data.nat? 32)) standard.instanceCap instanceCap
    executors := ← optional (Data.nat? 32) standard.executors executors
    mode := ← optional UsageMode.ofData? standard.mode mode
    connector := ← optional Connector.ofData? standard.connector connector
    removeVolumes := ← optional Data.bool? standard.removeVolumes removeVolumes
    stopTimeout := ← optional (Data.nat? 64) standard.stopTimeout stopTimeout
    nameStem := ← optional Data.text? standard.nameStem nameStem
    cmd := ← optional (Data.list? Data.text?) standard.cmd cmd
    env := ← optional (Data.dict? Data.text?) standard.env env
    retention := ← optional RetentionPolicy.ofData? standard.retention retention
    disabled := ← optional Data.bool? standard.disabled disabled }

end TemplateDefinition

namespace CloudDefinition

def fields : List String :=
  ["name", "uri", "credentials_id", "connect_timeout_secs", "read_timeout_secs", "container_cap",
    "disabled", "template"]

def ofData? (d : Data) : Option CloudDefinition := do
  let [name, uri, credentialsId, connectTimeout, readTimeout, containerCap, disabled, templates] ←
    d.record? fields false | none
  let name ← required (Name.ofData? .cloud) name
  let uri ← required Data.text? uri
  let standard : CloudDefinition := { name, uri }
  some {
    name, uri
    credentialsId := ← optional (nullable? Data.text?) standard.credentialsId credentialsId
    connectTimeout := ← optional (Data.nat? 64) standard.connectTimeout connectTimeout
    readTimeout := ← optional (Data.nat? 64) standard.readTimeout readTimeout
    containerCap := ← optional (nullable? (Data.nat? 32)) standard.containerCap containerCap
    disabled := ← optional Data.bool? standard.disabled disabled
    templates := ← optional (Data.list? TemplateDefinition.ofData?) standard.templates templates }

end CloudDefinition

namespace Definition

def ofData? (d : Data) : Option Definition := do
  let [clouds] ← d.record? ["cloud"] false | none
  some { clouds := ← optional (Data.list? CloudDefinition.ofData?) [] clouds }

def parse (s : String) : Except DefinitionError Definition :=
  match (Toml.document? s).bind ofData? with
  | none => .error .malformed
  | some d => d.check.map fun _ => d

end Definition

inductive LoadError where
  | unreadable (path : String)
  | refused (path : String) (cause : DefinitionError)
deriving DecidableEq, Repr

def LoadError.message : LoadError → String
  | unreadable path => "failed to read fleet definition " ++ path
  | refused path cause => "in " ++ path ++ ": " ++ cause.message

/-- Reads the definition in a file with the given octets; without octets the file is not there. -/
def Definition.load (path : String) (content : Option (List UInt8)) : Except LoadError Definition :=
  match content.bind Text.Utf8.decode? with
  | none => .error (.unreadable path)
  | some cs => (parse (String.ofList cs)).mapError (.refused path)

end ContainerFleet
