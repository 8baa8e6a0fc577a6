import ContainerFleet.Container.Call

namespace ContainerFleet

universe u v

inductive Progress (σ : Type u) (α : Type v) where
  | wait (s : σ)
  | done (a : α)
deriving Repr

namespace Progress

variable {σ : Type u} {τ : Type _} {α : Type v} {β : Type _}

def mapState (f : σ → τ) : Progress σ α → Progress τ α
  | wait s => wait (f s)
  | done a => done a

end Progress

inductive Removed where
  | removed
  | alreadyGone
deriving DecidableEq, Repr

def Removed.name : Removed → String
  | removed => "removed"
  | alreadyGone => "already_gone"

structure Removal where
  id : String
  timeout : Duration
  volumes : Bool
deriving DecidableEq, Repr

namespace Removal

inductive Phase where
  | stopping
  | removing (force : Bool)
  /-- The forced removal after one without force failed. -/
  | retrying
deriving DecidableEq, Repr

def call (r : Removal) : Phase → Call
  | .stopping => .stop r.id r.timeout
  | .removing force => .remove r.id ⟨force, r.volumes⟩
  | .retrying => .remove r.id ⟨true, r.volumes⟩

def reply (r : Removal) : (p : Phase) → (r.call p).Outcome → Except RuntimeError Unit
  | .stopping, a => a
  | .removing _, a => a
  | .retrying, a => a

/-- The next call, or the end. That the container is gone already counts as success. -/
def resume : Phase → Except RuntimeError Unit → Progress Phase (Except RuntimeError Removed)
  | .stopping, .ok () => .wait (.removing false)
  | .stopping, .error (.notFound _) => .done (.ok .alreadyGone)
  | .stopping, .error _ => .wait (.removing true)
  | .removing _, .ok () => .done (.ok .removed)
  | .removing _, .error (.notFound _) => .done (.ok .alreadyGone)
  | .removing false, .error _ => .wait .retrying
  | .removing true, .error e => .done (.error e)
  | .retrying, .ok () => .done (.ok .removed)
  | .retrying, .error (.notFound _) => .done (.ok .removed)
  | .retrying, .error e => .done (.error e)

def forceCall (id : String) (volumes : Bool) : Call := .remove id ⟨true, volumes⟩

def forced : Except RuntimeError Unit → Except RuntimeError Removed
  | .ok () => .ok .removed
  | .error (.notFound _) => .ok .alreadyGone
  | .error e => .error e

end Removal

end ContainerFleet
