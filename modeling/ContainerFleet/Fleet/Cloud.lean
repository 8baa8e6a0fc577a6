import ContainerFleet.Client.Pool
import ContainerFleet.Container.Call
import ContainerFleet.Container.Identity
import ContainerFleet.Label.Expr
import ContainerFleet.Node.Connector
import ContainerFleet.Node.Retention

namespace ContainerFleet

inductive UsageMode where
  /-- Those without a label, and those whose label it satisfies. -/
  | normal
  /-- Only those with a label that it satisfies. -/
  | exclusive
deriving DecidableEq, Repr

def UsageMode.name : UsageMode → String
  | normal => "normal"
  | exclusive => "exclusive"

/-- What nodes of one sort are made from. Without a cap there is no limit. -/
structure Template where
  name : TemplateName
  image : String
  labels : LabelSet
  instanceCap : Option Nat
  executors : Nat
  mode : UsageMode
  connector : Connector
  removeVolumes : Bool
  stopTimeout : Duration
  nameStem : String
  cmd : List String
  env : Dict String
  retention : RetentionPolicy
  disabled : Bool
deriving DecidableEq, Repr

namespace Template

def serves (t : Template) : Option LabelExpr → Bool
  | none => t.mode = .normal
  | some e => e.satisfiedBy t.labels

def identity (t : Template) (owner : FleetId) (cloud : CloudName) (nodeName : String) : Identity :=
  { owner, cloud, template := t.name, image := t.image, nodeName, removeVolumes := t.removeVolumes }

def createSpec (t : Template) (owner : FleetId) (cloud : CloudName) (nodeName : String) :
    CreateSpec :=
  t.connector.prepare nodeName
    { name := nodeName
      image := t.image
      hostname := some nodeName
      cmd := t.cmd
      env := t.env
      labels := (t.identity owner cloud nodeName).labels }

end Template

structure Cloud where
  name : CloudName
  endpoint : ClientKey
  containerCap : Option Nat
  disabled : Bool
  templates : List Template
deriving DecidableEq, Repr

namespace Cloud

def template? (c : Cloud) (name : String) : Option Template :=
  c.templates.find? (·.name.text = name)

end Cloud

end ContainerFleet
