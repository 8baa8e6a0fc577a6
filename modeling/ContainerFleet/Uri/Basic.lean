import ContainerFleet.Uri.Host
import ContainerFleet.Uri.Path

namespace ContainerFleet

structure Uri where
  scheme : String
  host : Option Host
  /-- The port, if it is not the usual one of the scheme. -/
  port : Option Nat
  path : String
deriving DecidableEq, Repr

namespace Uri

inductive Family where
  /-- An internet host follows in any case; its usual port. -/
  | internet (port : Nat)
  | file
  | other
deriving DecidableEq, Repr

def Family.ofScheme (scheme : String) : Family :=
  if scheme = "http" || scheme = "ws" then .internet 80
  else if scheme = "https" || scheme = "wss" then .internet 443
  else if scheme = "ftp" then .internet 21
  else if scheme = "file" then .file
  else .other

/-- In URIs with an internet host or a file a backslash is as good as a slash. -/
def Family.isSlash (f : Family) (c : Char) : Bool := c = '/' || (f ≠ .other && c = '\\')

def Family.endsAuthority (f : Family) (c : Char) : Bool := f.isSlash c || c = '?' || c = '#'

def clean (cs : List Char) : List Char :=
  let isEdge (c : Char) : Bool := c.toNat ≤ 32
  ((cs.dropWhile isEdge).reverse.dropWhile isEdge).reverse.filter fun c =>
    !(c = '\t' || c = '\n' || c = '\r')

def scheme? (cs : List Char) : Option (String × List Char) :=
  let name := cs.takeWhile fun c => c.isAlphanum || c = '+' || c = '-' || c = '.'
  match cs.drop name.length with
  | ':' :: rest =>
    if name.head?.any Char.isAlpha then some (Text.lowerAscii (String.ofList name), rest) else none
  | _ => none

def splitUser (cs : List Char) : Option (List Char) × List Char :=
  let after := (cs.reverse.takeWhile (· ≠ '@')).reverse
  if after.length = cs.length then (none, cs)
  else (some (cs.take (cs.length - after.length - 1)), after)

def hostLength (inBrackets : Bool) : List Char → Nat
  | [] => 0
  | c :: cs => if c = ':' && !inBrackets then 0 else hostLength (c = '[' || (inBrackets && c ≠ ']')) cs + 1

/-- The port after a colon. Without digits there is none. A backslash ends it. -/
def portOf (cs : List Char) : Except UriError (Option Nat) :=
  let digits := cs.takeWhile Char.isDigit
  match cs.drop digits.length with
  | [] | '\\' :: _ => (match Text.decimal? digits with
    | none => .ok none
    | some n => if n < 65536 then .ok (some n) else .error .badPort)
  | _ :: _ => .error .badPort

def afterPort (cs : List Char) : List Char := cs.dropWhile (· ≠ '\\')

/-- Reads user, host and port. It also yields what follows the port if a backslash ends it. -/
def authority (f : Family) (cs rest : List Char) :
    Except UriError (Option Host × Option Nat × List Char) := do
  let (user, cs) := splitUser cs
  if user = some [] && cs.isEmpty && !rest.isEmpty then throw .emptyHost
  let host := cs.take (hostLength false cs)
  let portText := cs.drop host.length
  let named := user.any fun u => u ≠ [] && u ≠ [':']
  match f with
  | .other =>
    if host.isEmpty then
      if !portText.isEmpty || named then throw .emptyHost
      else return (none, none, [])
    else
      let h ← Host.unnamed host
      return (some h, ← portOf (portText.drop 1), afterPort portText)
  | _ =>
    if host.isEmpty then throw .emptyHost
    let h ← Host.internet host
    return (some h, ← portOf (portText.drop 1), [])

def upToQuery (cs : List Char) : List Char := cs.takeWhile fun c => c ≠ '?' && c ≠ '#'

def pathOf (f : Family) (mayLack : Bool) (cs : List Char) : String :=
  match upToQuery cs with
  | [] => if mayLack then "" else "/"
  | cs => String.ofList (UriPath.absolute (cs.map fun c => if f.isSlash c then '/' else c))

/-- The host and the path of a file. The letter of a drive is no host. -/
def ofFile (cs : List Char) : Except UriError Uri :=
  let hostText := ((cs.drop 2).takeWhile (!Family.file.endsAuthority ·))
  let hasHost := 2 ≤ cs.length && (cs.take 2).all Family.file.isSlash && !hostText.isEmpty &&
    !(hostText.length = 2 && UriPath.isDrive hostText)
  if hasHost then do
    let host ← Host.internet hostText
    return { scheme := "file", host := some host, port := none
             path := pathOf .file false (cs.drop (2 + hostText.length)) }
  else .ok { scheme := "file", host := none, port := none, path := pathOf .file false cs }

def afterAuthority (f : Family) (scheme : String) (cs : List Char) : Except UriError Uri := do
  let name := cs.takeWhile (!f.endsAuthority ·)
  let rest := cs.drop name.length
  let (host, port, more) ← authority f name rest
  let usual := match f with
    | .internet n => some n
    | _ => none
  return {
    scheme, host
    port := if port = usual then none else port
    path := pathOf f (f = .other) (more ++ rest) }

def ofOther (scheme : String) (cs : List Char) : Except UriError Uri :=
  match cs with
  | '/' :: '/' :: cs => afterAuthority .other scheme cs
  | '/' :: cs => .ok { scheme, host := none, port := none, path := pathOf .other false cs }
  | cs =>
    .ok { scheme, host := none, port := none,
          path := String.ofList (Percent.encode Percent.isControl (upToQuery cs)) }

def parse (s : String) : Except UriError Uri :=
  match scheme? (clean s.toList) with
  | none => .error .relative
  | some (scheme, cs) =>
    match Family.ofScheme scheme with
    | .file => ofFile cs
    | .other => ofOther scheme cs
    | f => afterAuthority f scheme (cs.dropWhile f.isSlash)

end Uri

end ContainerFleet
