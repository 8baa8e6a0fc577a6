import ContainerFleet.Data.Json
import ContainerFleet.Text.Blank

namespace ContainerFleet

inductive UriError where
  | relative
  | badPort
  | emptyHost
  | badIPv6
  | badIPv4
  | badInternationalName
  | badDomainCharacter
deriving DecidableEq, Repr

def UriError.message : UriError → String
  | relative => "relative URL without a base"
  | badPort => "invalid port number"
  | emptyHost => "empty host"
  | badIPv6 => "invalid IPv6 address"
  | badIPv4 => "invalid IPv4 address"
  | badInternationalName => "invalid international domain name"
  | badDomainCharacter => "invalid domain character"

namespace Uri

inductive Numeral where
  | value (n : Nat)
  | overflow
deriving DecidableEq, Repr

def inBase? (base : Nat) (cs : List Char) : Option Numeral := do
  let ds ← cs.mapM Text.hexValue?
  if ds.all (· < base) then
    let n := ds.foldl (fun n d => base * n + d) 0
    some (if n < Word.count 32 then .value n else .overflow)
  else none

/-- A numeral in decimal, in octal after `0` or in hexadecimal after `0x`. -/
def numeral? : List Char → Option Numeral
  | [] => none
  | '0' :: 'x' :: cs | '0' :: 'X' :: cs => inBase? 16 cs
  | '0' :: c :: cs => inBase? 8 (c :: cs)
  | cs => inBase? 10 cs

def dotted (cs : List Char) : List (List Char) :=
  let parts := cs.splitOn '.'
  if 2 ≤ parts.length && parts.getLast? = some [] then parts.dropLast else parts

def endsInNumber (cs : List Char) : Bool :=
  match (dotted cs).getLast? with
  | some last => (!last.isEmpty && last.all Char.isDigit) || (numeral? last).isSome
  | none => false

/-- The four octets of an address with up to four numerals; the last stands for all octets that are
left. -/
def ipv4? (cs : List Char) : Option Nat := do
  let parts := dotted cs
  let numbers ← parts.mapM fun p => (numeral? p).bind fun
    | .value n => some n
    | .overflow => none
  let last ← numbers.getLast?
  let first := numbers.dropLast
  let left := Word.count (8 * (4 - first.length))
  if 4 < numbers.length || left ≤ last || first.any (255 < ·) then none
  else some (first.foldl (fun n x => 256 * n + x) 0 * left + last)

def ipv4Text (n : Nat) : String :=
  s!"{n >>> 24}.{n >>> 16 % 256}.{n >>> 8 % 256}.{n % 256}"

/-- Four decimal numbers up to 255 without leading zeros, as two pieces. -/
def embedded? (cs : List Char) : Option (List Nat) := do
  let numbers ← (cs.splitOn '.').mapM fun p => do
    let n ← Text.decimal? p
    if n ≤ 255 && !(2 ≤ p.length && p.head? = some '0') then some n else none
  match numbers with
  | [a, b, c, d] => some [256 * a + b, 256 * c + d]
  | _ => none

def piece? (cs : List Char) : Option Nat := do
  let ds ← cs.mapM Text.hexValue?
  if 1 ≤ ds.length && ds.length ≤ 4 then some (ds.foldl (fun n d => 16 * n + d) 0) else none

/-- The pieces between the colons; the last may be written as four numbers. -/
def pieces? (mayEmbed : Bool) (cs : List Char) : Option (List Nat) :=
  if cs.isEmpty then some []
  else do
    let parts := cs.splitOn ':'
    let last ← parts.getLast?
    let first ← parts.dropLast.mapM piece?
    match piece? last with
    | some p => some (first ++ [p])
    | none => if mayEmbed then (embedded? last).map (first ++ ·) else none

def atDoubleColon : List Char → Option (List Char × List Char)
  | ':' :: ':' :: cs => some ([], cs)
  | c :: cs => (atDoubleColon cs).map fun (a, b) => (c :: a, b)
  | [] => none

/-- The eight pieces of an address. A double colon stands for one zero piece or more. -/
def ipv6? (cs : List Char) : Option (List Nat) := do
  match atDoubleColon cs with
  | some (a, b) =>
    let front ← pieces? false a
    let back ← pieces? true b
    if front.length + back.length ≤ 7 then
      some (front ++ List.replicate (8 - front.length - back.length) 0 ++ back)
    else none
  | none =>
    let ps ← pieces? true cs
    if ps.length = 8 then some ps else none

def zeros (ps : List Nat) : Nat := (ps.takeWhile (· = 0)).length

def longestZeros (ps : List Nat) : Option (Nat × Nat) :=
  (List.range ps.length).foldl (fun best i =>
    let n := zeros (ps.drop i)
    match best with
    | some (_, m) => if m < n then some (i, n) else best
    | none => if 2 ≤ n then some (i, n) else none) none

def piecesText (ps : List Nat) : String := ":".intercalate (ps.map Text.hex)

def ipv6Text (ps : List Nat) : String :=
  match longestZeros ps with
  | some (i, n) => piecesText (ps.take i) ++ "::" ++ piecesText (ps.drop (i + n))
  | none => piecesText ps

end Uri

end ContainerFleet
