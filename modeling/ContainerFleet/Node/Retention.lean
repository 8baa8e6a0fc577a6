import ContainerFleet.Data.Value
import ContainerFleet.Time.Rfc3339

namespace ContainerFleet

structure Activity where
  busy : Nat := 0
  completed : Nat := 0
  /-- When the last task ended, or the node came up; none while a task runs. -/
  idleSince : Option Timestamp
deriving DecidableEq, Repr

namespace Activity

def idle (t : Timestamp) : Activity := { idleSince := some t }

def toData (a : Activity) : Data :=
  .table [("busy_executors", .nat a.busy), ("completed_tasks", .nat a.completed),
    ("idle_since", .ofText? (a.idleSince.map Rfc3339.format))]

end Activity

inductive RetentionPolicy where
  /-- Once it has run nothing for so long. -/
  | idle (minutes : Nat)
  /-- Once a task has ended, or it has run nothing for so long. -/
  | once (minutes : Nat)
deriving DecidableEq, Repr

inductive RetentionReason where
  | idle
  | usedOnce
deriving DecidableEq, Repr

def RetentionReason.name : RetentionReason → String
  | idle => "idle"
  | usedOnce => "used_once"

namespace RetentionPolicy

def defaultMinutes : Nat := 10

def standard : RetentionPolicy := .idle defaultMinutes

instance : Inhabited RetentionPolicy := ⟨standard⟩

def minutes : RetentionPolicy → Nat
  | idle m | once m => m

/-- The timeout in seconds, which 64 bits hold. -/
def idleTimeout (p : RetentionPolicy) : Duration :=
  .ofSecs (min (p.minutes * 60) (Word.count 64 - 1))

def verdict (p : RetentionPolicy) (a : Activity) (now : Timestamp) : Option RetentionReason :=
  if 0 < a.busy then none
  else if p = .once p.minutes ∧ 0 < a.completed then some .usedOnce
  else do
    let idleFor ← now.elapsed? (← a.idleSince)
    if p.idleTimeout < idleFor then some .idle else none

def toData : RetentionPolicy → Data
  | idle m => .table [("type", .text "idle"), ("idle_minutes", .nat m)]
  | once m => .table [("type", .text "once"), ("idle_minutes", .nat m)]

def ofData? (d : Data) : Option RetentionPolicy := do
  let (name, d) ← d.variant?
  let policy ← match name with
    | "idle" => some RetentionPolicy.idle
    | "once" => some RetentionPolicy.once
    | _ => none
  let [minutes] ← d.record? ["idle_minutes"] false | none
  some (policy (← Data.optional (Data.nat? 64) defaultMinutes minutes))

end RetentionPolicy

end ContainerFleet
