import ContainerFleet.Container.Error
import ContainerFleet.Data.Value
import ContainerFleet.Time.Rfc3339

namespace ContainerFleet

/-- Which containers a listing holds: those with all of `labels`, and unless `all` is set only the
running ones. -/
structure ListFilter where
  all : Bool := false
  labels : Dict String := .empty
deriving DecidableEq, Repr

def ListFilter.admits (f : ListFilter) (labels : Dict String) : Bool :=
  f.labels.toList.all fun e => labels.get? e.1 = some e.2

structure Summary where
  id : String
  image : String
  status : Option String
  created : Timestamp
  labels : Dict String
deriving DecidableEq, Repr

structure Details where
  id : String
  name : String
  image : String
  running : Bool
  created : Timestamp
  labels : Dict String
deriving DecidableEq, Repr

def Summary.toData (s : Summary) : Data :=
  .table [("id", .text s.id), ("image", .text s.image), ("status", .ofText? s.status),
    ("created_ms", .int s.created.millis), ("labels", .ofDict s.labels)]

def Details.toData (d : Details) : Data :=
  .table [("id", .text d.id), ("name", .text d.name), ("image", .text d.image),
    ("running", .bool d.running), ("created", .text (Rfc3339.format d.created)),
    ("labels", .ofDict d.labels)]

structure CreateSpec where
  name : String := ""
  image : String := ""
  hostname : Option String := none
  cmd : List String := []
  env : Dict String := .empty
  labels : Dict String := .empty
  openStdin : Bool := false
deriving DecidableEq, Repr

def CreateSpec.toData (s : CreateSpec) : Data :=
  .table [("name", .text s.name), ("image", .text s.image), ("hostname", .ofText? s.hostname),
    ("cmd", .ofTexts s.cmd), ("env", .ofDict s.env), ("labels", .ofDict s.labels),
    ("open_stdin", .bool s.openStdin)]

/-- With `force` a running container is killed first; with `volumes` its anonymous volumes go too. -/
structure RemoveOptions where
  force : Bool := false
  volumes : Bool := false
deriving DecidableEq, Repr

inductive Call where
  | list (filter : ListFilter)
  | inspect (id : String)
  | create (spec : CreateSpec)
  | start (id : String)
  | stop (id : String) (timeout : Duration)
  | remove (id : String) (options : RemoveOptions)
deriving DecidableEq, Repr

inductive CallKind where
  | list
  | inspect
  | create
  | start
  | stop
  | remove
deriving DecidableEq, Repr

namespace CallKind

def all : List CallKind := [list, inspect, create, start, stop, remove]

def name : CallKind → String
  | list => "list"
  | inspect => "inspect"
  | create => "create"
  | start => "start"
  | stop => "stop"
  | remove => "remove"

def ofName? (s : String) : Option CallKind := all.find? (·.name = s)

end CallKind

namespace Call

def kind : Call → CallKind
  | list _ => .list
  | inspect _ => .inspect
  | create _ => .create
  | start _ => .start
  | stop _ _ => .stop
  | remove _ _ => .remove

def toData (uri : String) (c : Call) : Data :=
  let details : List Data := match c with
    | list f => [.bool f.all, .ofDict f.labels]
    | inspect id | start id => [.text id]
    | create spec => [spec.toData]
    | stop id timeout => [.text id, .text (toString timeout.millis)]
    | remove id o => [.text id, .table [("force", .bool o.force), ("volumes", .bool o.volumes)]]
  .list (.text c.kind.name :: .text uri :: details)

abbrev Reply : Call → Type
  | list _ => List Summary
  | inspect _ => Details
  | create _ => String
  | _ => Unit

def replyData : (c : Call) → c.Reply → Data
  | list _, containers => .list (containers.map (·.toData))
  | inspect _, d => d.toData
  | create _, id => .text id
  | start _, _ | stop _ _, _ | remove _ _, _ => .text "ok"

abbrev Outcome (c : Call) : Type := Except RuntimeError c.Reply

def fail (c : Call) (e : RuntimeError) : c.Outcome := .error e

end Call

end ContainerFleet
