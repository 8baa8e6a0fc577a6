namespace ContainerFleet

inductive NodeState where
  | provisioning
  | registered
  | running
  | terminating
  | gone
deriving DecidableEq, Repr

namespace NodeState

def all : List NodeState := [provisioning, registered, running, terminating, gone]

def name : NodeState → String
  | provisioning => "provisioning"
  | registered => "registered"
  | running => "running"
  | terminating => "terminating"
  | gone => "gone"

def ofName? (s : String) : Option NodeState := all.find? (·.name = s)

def expectsContainer : NodeState → Bool
  | registered | running => true
  | _ => false

def canBecome : NodeState → NodeState → Bool
  | provisioning, registered
  | provisioning, gone
  | registered, running
  | registered, terminating
  | running, terminating
  | terminating, gone => true
  | _, _ => false

end NodeState

end ContainerFleet
