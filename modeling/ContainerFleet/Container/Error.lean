import ContainerFleet.Time.Duration

namespace ContainerFleet

inductive RuntimeError where
  | notFound (id : String)
  | conflict (detail : String)
  | api (status : Nat) (detail : String)
  | http (detail : String)
  | request (detail : String)
  | json (detail : String)
  | timeout (endpoint : String) (limit : Duration)
  | invalidEndpoint (uri reason : String)
  | unavailable (detail : String)
deriving DecidableEq, Repr

namespace RuntimeError

def message : RuntimeError → String
  | notFound id => "no such container: " ++ id
  | conflict detail => "conflict: " ++ detail
  | api status detail => s!"runtime API error {status}: {detail}"
  | http detail => "HTTP error: " ++ detail
  | request detail => "invalid request: " ++ detail
  | json detail => "JSON error: " ++ detail
  | timeout endpoint limit => "request to " ++ endpoint ++ " timed out after " ++ limit.text
  | invalidEndpoint uri reason => s!"invalid endpoint '{uri}': {reason}"
  | unavailable detail => "runtime unavailable: " ++ detail

def isNotFound : RuntimeError → Bool
  | notFound _ => true
  | _ => false

end RuntimeError

end ContainerFleet
