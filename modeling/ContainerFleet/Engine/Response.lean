import ContainerFleet.Container.Call
import ContainerFleet.Data.Json
import ContainerFleet.Time.Rfc3339

namespace ContainerFleet.Engine

structure Response where
  status : Nat
  body : List UInt8 := []
deriving DecidableEq, Repr

namespace Response

/-- The answer is the last one to its request: its status has three digits and does not say that another
answer will follow. -/
def isFinal (r : Response) : Bool := r.status = 101 || 200 ≤ r.status && r.status < 1000

def isSuccess (r : Response) : Bool := 200 ≤ r.status && r.status < 300

def content (r : Response) : List UInt8 :=
  if r.status < 200 || r.status = 204 || r.status = 304 then [] else r.body

end Response

open Data (required optional nullable?)

def labels? (d : Option Data) : Option (Dict String) :=
  (optional (nullable? (Data.dict? Data.text?)) none d).map (·.getD .empty)

/-- The instant of a count of seconds; the epoch if the calendar does not reach so far. -/
def instant (s : Int) : Timestamp := (Timestamp.ofSecs? s).getD .epoch

def summary? (d : Data) : Option Summary := do
  let [id, image, status, created, labels] ←
    d.record? ["Id", "Image", "Status", "Created", "Labels"] true | none
  some {
    id := ← required Data.text? id
    image := ← optional Data.text? "" image
    status := (← optional (nullable? Data.text?) none status).filter (· ≠ "")
    created := instant (← optional (Data.int? (-Word.count 63) (Word.count 63 - 1)) 0 created)
    labels := ← labels? labels }

def config? (d : Data) : Option (String × Dict String) := do
  let [image, labels] ← d.record? ["Image", "Labels"] true | none
  some (← optional Data.text? "" image, ← labels? labels)

def running? (d : Data) : Option Bool := do
  let [running] ← d.record? ["Running"] true | none
  optional Data.bool? false running

def details? (d : Data) : Option Details := do
  let [id, name, created, config, state] ←
    d.record? ["Id", "Name", "Created", "Config", "State"] true | none
  let id ← required Data.text? id
  let name ← optional Data.text? "" name
  let created ← required (fun d => d.text?.bind Rfc3339.parse?) created
  let (image, labels) ← required config? config
  let running ← required running? state
  some { id, name := Text.dropPrefix (· = '/') name, image, running, created, labels }

def createdId? (d : Data) : Option String := do
  let [id, warnings] ← d.record? ["Id", "Warnings"] true | none
  discard (optional (nullable? (Data.list? Data.text?)) none warnings)
  required Data.text? id

def complaint (body : List UInt8) : String :=
  let message := (Json.ofBytes? body).bind fun d => do
    let [message] ← d.record? ["message"] true | none
    required Data.text? message
  message.getD (Text.trim (String.ofList (Text.Utf8.decodeLossy body)))

def failure (subject : String) (r : Response) : RuntimeError :=
  if r.status = 404 then .notFound subject
  else if r.status = 409 then .conflict (complaint r.content)
  else .api r.status (complaint r.content)

def valued {α : Type} (subject : String) (read : Data → Option α) (r : Response) :
    Except RuntimeError α :=
  if r.isSuccess then
    match (Json.ofBytes? r.content).bind read with
    | some a => .ok a
    | none => .error (.json "")
  else .error (failure subject r)

/-- Success without a value. A container that is already in the wanted state is one. -/
def acknowledged (subject : String) (r : Response) : Except RuntimeError Unit :=
  if r.isSuccess || r.status = 304 then .ok () else .error (failure subject r)

def Response.outcome (r : Response) : (c : Call) → c.Outcome
  | .list _ => valued "containers" (Data.list? summary?) r
  | .inspect id => valued id details? r
  | .create s => valued s.image createdId? r
  | .start id => acknowledged id r
  | .stop id _ => acknowledged id r
  | .remove id _ => acknowledged id r

end ContainerFleet.Engine
