import ContainerFleet.Client.Pool
import ContainerFleet.Id.Name
import ContainerFleet.Node.Registry

namespace ContainerFleet

inductive CreationStage where
  | create
  | start
deriving DecidableEq, Repr

def CreationStage.name : CreationStage → String
  | create => "create"
  | start => "start"

inductive ProvisionError where
  | capacityExceeded (cloud : CloudName) (template : TemplateName) (detail : String)
  | remoteQuery (cloud : CloudName) (cause : RuntimeError)
  | nodeCreation (node : String) (stage : CreationStage) (cause : RuntimeError)
  | registration (node : String) (cause : RegistryError)
  | clientPool (cloud : CloudName) (key : String) (cause : CacheError)
  | termination (node : String) (cause : RuntimeError)
  | workerLost (node reason : String)
  | unknownNode (name : String)
  | unknownCloud (name : String)
deriving DecidableEq, Repr

namespace ProvisionError

def message : ProvisionError → String
  | capacityExceeded cloud template detail =>
    cloud.text ++ "/" ++ template.text ++ " at capacity: " ++ detail
  | remoteQuery cloud cause => s!"failed to query cloud {cloud}: {cause.message}"
  | nodeCreation node stage cause => s!"node {node} failed to {stage.name}: {cause.message}"
  | registration node cause => s!"node {node} could not be registered: {cause.message}"
  | clientPool cloud key cause => s!"client pool error for cloud {cloud}: " ++ cause.message key
  | termination node cause => s!"failed to terminate node {node}: {cause.message}"
  | workerLost node reason => s!"provisioning task for {node} was lost: {reason}"
  | unknownNode name => "unknown node: " ++ name
  | unknownCloud name => "unknown cloud: " ++ name

def reason : ProvisionError → String
  | capacityExceeded .. => "capacity_exceeded"
  | remoteQuery .. => "remote_query"
  | nodeCreation .. => "node_creation"
  | registration .. => "registration"
  | clientPool .. => "client_pool"
  | termination .. => "termination"
  | workerLost .. => "worker_lost"
  | unknownNode _ => "unknown_node"
  | unknownCloud _ => "unknown_cloud"

/-- Planning goes on with the next template. -/
def isSoft : ProvisionError → Bool
  | capacityExceeded .. => true
  | _ => false

def ofPool (cloud : CloudName) : PoolError → ProvisionError
  | .connect _ cause => remoteQuery cloud cause
  | .misuse key cause => clientPool cloud key cause

end ProvisionError

end ContainerFleet
