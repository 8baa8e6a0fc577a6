import ContainerFleet.Id.Tagged
import ContainerFleet.Id.Name
import ContainerFleet.Dict

namespace ContainerFleet

structure Identity where
  owner : FleetId
  cloud : CloudName
  template : TemplateName
  image : String
  nodeName : String
  removeVolumes : Bool
deriving DecidableEq, Repr

namespace Identity

def space : String := "io.dockfleet."

def ownerKey : String := "io.dockfleet.owner-instance-id"

def cloudKey : String := "io.dockfleet.cloud"

def templateKey : String := "io.dockfleet.template"

def imageKey : String := "io.dockfleet.image"

def nodeNameKey : String := "io.dockfleet.node-name"

def removeVolumesKey : String := "io.dockfleet.remove-volumes"

def labels (i : Identity) : Dict String :=
  Dict.ofList [
    (ownerKey, i.owner.toText),
    (cloudKey, i.cloud.text),
    (templateKey, i.template.text),
    (imageKey, i.image),
    (nodeNameKey, i.nodeName),
    (removeVolumesKey, if i.removeVolumes then "true" else "false")]

/-- The flag that a container's labels hold, in any case of letters; false if they hold none. -/
def removesVolumes (labels : Dict String) : Bool :=
  match labels.get? removeVolumesKey with
  | some v => Text.lowerAscii v = "true"
  | none => false

end Identity

end ContainerFleet
