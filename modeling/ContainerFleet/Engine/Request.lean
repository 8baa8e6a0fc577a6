import ContainerFleet.Container.Call
import ContainerFleet.Data.Json
import ContainerFleet.Uri.Percent

namespace ContainerFleet.Engine

inductive Method where
  | get
  | post
  | delete
deriving DecidableEq, Repr

def Method.name : Method → String
  | get => "GET"
  | post => "POST"
  | delete => "DELETE"

structure Request where
  method : Method
  target : String
  body : Option Data := none
deriving Repr

def mediaType : String := "application/json"

def listFields (f : ListFilter) : List (String × String) :=
  (if f.all then [("all", "true")] else []) ++
    if f.labels.isEmpty then []
    else
      let labels := f.labels.toList.map fun e => e.1 ++ "=" ++ e.2
      [("filters", Json.toText (.table [("label", .ofTexts labels)]))]

def withQuery (path query : String) : String := if query.isEmpty then path else path ++ "?" ++ query

def createBody (s : CreateSpec) : Data :=
  .table ([("Image", .text s.image)] ++
    (s.hostname.toList.map fun h => ("Hostname", .text h)) ++
    (if s.cmd.isEmpty then [] else [("Cmd", .ofTexts s.cmd)]) ++
    [("Env", .ofTexts (s.env.toList.map fun e => e.1 ++ "=" ++ e.2)),
      ("Labels", .ofDict s.labels),
      ("OpenStdin", .bool s.openStdin),
      ("AttachStdin", .bool s.openStdin),
      ("StdinOnce", .bool false)])

def flagText (b : Bool) : String := if b then "true" else "false"

/-- The request that makes a call. Ids stand in its target as they are. -/
def Request.ofCall : Call → Request
  | .list f => { method := .get, target := withQuery "/containers/json" (Form.ofFields (listFields f)) }
  | .inspect id => { method := .get, target := "/containers/" ++ id ++ "/json" }
  | .create s =>
    { method := .post
      target := withQuery "/containers/create" (Form.ofFields [("name", s.name)])
      body := some (createBody s) }
  | .start id => { method := .post, target := "/containers/" ++ id ++ "/start" }
  | .stop id timeout =>
    { method := .post, target := "/containers/" ++ id ++ "/stop?t=" ++ toString timeout.secs }
  | .remove id options =>
    { method := .delete
      target := "/containers/" ++ id ++ "?force=" ++ flagText options.force ++
        "&v=" ++ flagText options.volumes }

def isPathCharacter (c : Char) : Bool :=
  33 ≤ c.toNat && c.toNat ≤ 126 && !(['#', '<', '>', '?', '\x60'].contains c)

def isQueryCharacter (c : Char) : Bool :=
  33 ≤ c.toNat && c.toNat ≤ 126 && !(['"', '#', '<', '>'].contains c)

/-- The target up to a number sign, after which nothing is sent. -/
def Request.sentTarget (r : Request) : String := String.ofList (r.target.toList.takeWhile (· ≠ '#'))

/-- A request can be sent only if its target holds no other characters. -/
def Request.canSend (r : Request) : Bool :=
  let cs := r.sentTarget.toList
  (cs.takeWhile (· ≠ '?')).all isPathCharacter &&
    ((cs.dropWhile (· ≠ '?')).drop 1).all isQueryCharacter

end ContainerFleet.Engine
