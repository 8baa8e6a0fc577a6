import ContainerFleet.Client.Endpoint
import ContainerFleet.Fleet.Cloud

namespace ContainerFleet

/-- A template as an operator declares it. A cap of zero is none; times are in seconds. -/
structure TemplateDefinition where
  name : TemplateName
  image : String
  labels : String := ""
  instanceCap : Option Nat := none
  executors : Nat := 1
  mode : UsageMode := .normal
  connector : Connector := .standard
  removeVolumes : Bool := false
  stopTimeout : Nat := 10
  nameStem : String := "docker"
  cmd : List String := []
  env : Dict String := .empty
  retention : RetentionPolicy := .standard
  disabled : Bool := false
deriving DecidableEq, Repr

structure CloudDefinition where
  name : CloudName
  uri : String
  credentialsId : Option String := none
  connectTimeout : Nat := 5
  readTimeout : Nat := 60
  containerCap : Option Nat := none
  disabled : Bool := false
  templates : List TemplateDefinition := []
deriving DecidableEq, Repr

inductive DefinitionError where
  | malformed
  | duplicateCloud (cloud : CloudName)
  | badUri (cloud : CloudName) (cause : RuntimeError)
  | duplicateTemplate (template : TemplateName) (cloud : CloudName)
  | noImage (template : TemplateName)
  | noExecutor (template : TemplateName)
  | badStem (template : TemplateName) (cause : IdError)
deriving DecidableEq, Repr

def DefinitionError.message : DefinitionError → String
  | malformed => "failed to parse fleet definition"
  | duplicateCloud cloud => s!"duplicate cloud {cloud}"
  | badUri cloud cause => s!"cloud {cloud} has an invalid uri: {cause.message}"
  | duplicateTemplate template cloud => s!"duplicate template {template} in cloud {cloud}"
  | noImage template => s!"template {template} has no image"
  | noExecutor template => s!"template {template} must have at least one executor"
  | badStem template cause => s!"template {template}: {cause.message}"

def capOf (cap : Option Nat) : Option Nat := cap.filter (0 < ·)

namespace TemplateDefinition

def check (t : TemplateDefinition) : Except DefinitionError Unit :=
  if (Text.trim t.image).isEmpty then .error (.noImage t.name)
  else if t.executors = 0 then .error (.noExecutor t.name)
  else (Name.validate "name prefix" t.nameStem).mapError (.badStem t.name)

def build (t : TemplateDefinition) : Template :=
  { name := t.name
    image := t.image
    labels := LabelSet.ofText t.labels
    instanceCap := capOf t.instanceCap
    executors := t.executors
    mode := t.mode
    connector := t.connector
    removeVolumes := t.removeVolumes
    stopTimeout := .ofSecs t.stopTimeout
    nameStem := t.nameStem
    cmd := t.cmd
    env := t.env
    retention := t.retention
    disabled := t.disabled }

end TemplateDefinition

namespace CloudDefinition

def checkTemplates (cloud : CloudName) (seen : List TemplateName) :
    List TemplateDefinition → Except DefinitionError Unit
  | [] => .ok ()
  | t :: ts =>
    if seen.contains t.name then .error (.duplicateTemplate t.name cloud)
    else match t.check with
      | .error e => .error e
      | .ok () => checkTemplates cloud (t.name :: seen) ts

def check (c : CloudDefinition) : Except DefinitionError Unit :=
  match Endpoint.parse c.uri with
  | .error e => .error (.badUri c.name e)
  | .ok _ => checkTemplates c.name [] c.templates

def endpoint (c : CloudDefinition) : ClientKey :=
  { uri := c.uri
    credentialsId := c.credentialsId
    connectTimeout := .ofSecs c.connectTimeout
    readTimeout := .ofSecs c.readTimeout }

def build (c : CloudDefinition) : Cloud :=
  { name := c.name
    endpoint := c.endpoint
    containerCap := capOf c.containerCap
    disabled := c.disabled
    templates := c.templates.map (·.build) }

end CloudDefinition

structure Definition where
  clouds : List CloudDefinition := []
deriving DecidableEq, Repr

namespace Definition

def checkClouds (seen : List CloudName) : List CloudDefinition → Except DefinitionError Unit
  | [] => .ok ()
  | c :: cs =>
    if seen.contains c.name then .error (.duplicateCloud c.name)
    else match c.check with
      | .error e => .error e
      | .ok () => checkClouds (c.name :: seen) cs

def check (d : Definition) : Except DefinitionError Unit := checkClouds [] d.clouds

def build (d : Definition) : List Cloud := d.clouds.map (·.build)

end Definition

end ContainerFleet
