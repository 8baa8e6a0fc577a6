import ContainerFleet.Uri.Address
import ContainerFleet.Uri.DomainName

namespace ContainerFleet

inductive Host where
  | name (s : String)
  | ipv4 (address : Nat)
  | ipv6 (pieces : List Nat)
deriving DecidableEq, Repr

namespace Host

def text : Host → String
  | name s => s
  | ipv4 address => Uri.ipv4Text address
  | ipv6 pieces => "[" ++ Uri.ipv6Text pieces ++ "]"

def isForbidden (c : Char) : Bool :=
  c.toNat = 0 || "\t\n\r #/:<>?@[\\]^|".contains c

def bracketed (cs : List Char) : Except UriError Host :=
  if cs.getLast? = some ']' then
    match Uri.ipv6? cs.dropLast with
    | some pieces => .ok (.ipv6 pieces)
    | none => .error .badIPv6
  else .error .badIPv6

def unnamed (cs : List Char) : Except UriError Host :=
  match cs with
  | '[' :: cs => bracketed cs
  | cs =>
    if cs.any isForbidden then .error .badDomainCharacter
    else .ok (.name (String.ofList (Percent.encode Percent.isControl cs)))

def internet (cs : List Char) : Except UriError Host :=
  match cs with
  | '[' :: cs => bracketed cs
  | cs =>
    match DomainName.toAscii? cs with
    | none => .error .badInternationalName
    | some [] => .error .emptyHost
    | some domain =>
      if Uri.endsInNumber domain then
        match Uri.ipv4? domain with
        | some address => .ok (.ipv4 address)
        | none => .error .badIPv4
      else .ok (.name (String.ofList domain))

end Host

end ContainerFleet
