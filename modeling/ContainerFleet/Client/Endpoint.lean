import ContainerFleet.Container.Error
import ContainerFleet.Uri.Basic

namespace ContainerFleet

inductive Endpoint where
  | socket (path : String)
  | port (host : Host) (number : Nat)
deriving DecidableEq, Repr

namespace Endpoint

def defaultPort : Nat := 2375

/-- What all addresses of requests to an endpoint start with. The path of a socket stands there as the
digits of its octets. -/
def base : Endpoint → String
  | socket path =>
    "unix://" ++ String.ofList ((Text.Utf8.encode path.toList).flatMap fun b =>
      [Text.hexDigit (b.toNat / 16), Text.hexDigit (b.toNat % 16)]) ++ ":0"
  | port host number => "http://" ++ host.text ++ ":" ++ toString number

def hostFault? : Endpoint → Option String
  | socket _ => none
  | port host _ =>
    let cs := host.text.toList
    if cs.any ['"', '\x60', '\x7b', '\x7d'].contains then some "invalid uri character"
    else if cs.contains '%' then some "invalid authority"
    else none

def ofUri (u : Uri) : Except String Endpoint :=
  if u.scheme = "unix" then
    if u.path = "" ∨ u.path = "/" then .error "missing socket path" else .ok (.socket u.path)
  else if u.scheme = "tcp" ∨ u.scheme = "http" then
    match u.host with
    | some host => .ok (.port host (u.port.getD defaultPort))
    | none => .error "missing host"
  else .error s!"unsupported scheme '{u.scheme}'"

def parse (s : String) : Except RuntimeError Endpoint :=
  match Uri.parse s with
  | .error e => .error (.invalidEndpoint s e.message)
  | .ok u => (ofUri u).mapError (.invalidEndpoint s)

end Endpoint

end ContainerFleet
