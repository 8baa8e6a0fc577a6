import ContainerFleet.Client.Endpoint
import ContainerFleet.Client.Pool
import ContainerFleet.Engine.Request
import ContainerFleet.Engine.Response

namespace ContainerFleet.Engine

inductive Exchange where
  /-- Nobody answers in time. -/
  | silent
  | broken (detail : String)
  | answered (r : Response)
deriving DecidableEq, Repr

/-- What a client says of a call whose request was sent. An answer that is not the last one, and after
which none comes, is a fault of the connection. -/
def Exchange.outcome (key : ClientKey) (c : Call) : Exchange → c.Outcome
  | silent => c.fail (.timeout key.uri key.readTimeout)
  | broken detail => c.fail (.http detail)
  | answered r => if r.isFinal then r.outcome c else c.fail (.http "")

def longestAddress : Nat := 65534

def Request.fault? (r : Request) (e : Endpoint) : Option String :=
  if longestAddress < e.base.utf8ByteSize + r.target.utf8ByteSize then some "uri too long"
  else e.hostFault?.or (if r.canSend then none else some "invalid uri character")

inductive Sending where
  | sent
  | refused (e : RuntimeError)
  | died
deriving DecidableEq, Repr

/-- What comes of a call that the client for a key makes. Only the client of a port refuses a request
that cannot be sent; that of a socket dies of it. -/
def send (key : ClientKey) (c : Call) : Sending :=
  match Endpoint.parse key.uri with
  | .error e => .refused e
  | .ok e =>
    match (Request.ofCall c).fault? e, e with
    | none, _ => .sent
    | some _, .socket _ => .died
    | some detail, .port _ _ => .refused (.request detail)

def outcome? (key : ClientKey) (c : Call) (x : Exchange) : Option c.Outcome :=
  match send key c with
  | .sent => some (x.outcome key c)
  | .refused e => some (c.fail e)
  | .died => none

end ContainerFleet.Engine
