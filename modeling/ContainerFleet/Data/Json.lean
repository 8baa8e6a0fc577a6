import ContainerFleet.Data.Value
import ContainerFleet.Text.Blank
import ContainerFleet.Text.Utf8

namespace ContainerFleet.Json

open Text (hexDigit hexValue?)

def escape (c : Char) : List Char :=
  if c = '"' then ['\\', '"']
  else if c = '\\' then ['\\', '\\']
  else if c = '\n' then ['\\', 'n']
  else if c = '\r' then ['\\', 'r']
  else if c = '\t' then ['\\', 't']
  else if c.toNat = 8 then ['\\', 'b']
  else if c.toNat = 12 then ['\\', 'f']
  else if c.toNat < 32 then
    ['\\', 'u', '0', '0', hexDigit (c.toNat / 16), hexDigit (c.toNat % 16)]
  else [c]

def quote (s : String) : List Char := '"' :: s.toList.flatMap escape ++ ['"']

mutual

def render : Data → List Char
  | .null => "null".toList
  | .bool b => (if b then "true" else "false").toList
  | .int n => (toString n).toList
  | .real literal => literal.toList
  | .text s => quote s
  | .illFormed => "null".toList
  | .list [] => ['[', ']']
  | .list (d :: ds) => '[' :: render d ++ renderItems ds ++ [']']
  | .table [] => ['\x7b', '\x7d']
  | .table (f :: fs) => '\x7b' :: quote f.1 ++ ':' :: render f.2 ++ renderFields fs ++ ['\x7d']

def renderItems : List Data → List Char
  | [] => []
  | d :: ds => ',' :: render d ++ renderItems ds

def renderFields : List (String × Data) → List Char
  | [] => []
  | f :: fs => ',' :: quote f.1 ++ ':' :: render f.2 ++ renderFields fs

end

def toText (d : Data) : String := String.ofList (render d)

def skip (cs : List Char) : List Char :=
  cs.dropWhile fun c => c = ' ' || c = '\n' || c = '\t' || c = '\r'

def hex4? (a b c d : Char) : Option Nat := do
  some (4096 * (← hexValue? a) + 256 * (← hexValue? b) + 16 * (← hexValue? c) + (← hexValue? d))

/-- A text literal while it is read: the characters so far, last first, a first half of a surrogate
pair that waits for its second, and whether all escapes so far denoted characters. -/
structure Literal where
  chars : List Char := []
  half : Option Nat := none
  sound : Bool := true

namespace Literal

/-- A waiting half that is not followed by its second half denotes no character. -/
def push (l : Literal) (c : Char) : Literal :=
  ⟨c :: l.chars, none, l.sound && l.half.isNone⟩

def pushUnit (l : Literal) (n : Nat) : Literal :=
  if 0xD800 ≤ n ∧ n < 0xDC00 then ⟨l.chars, some n, l.sound && l.half.isNone⟩
  else if 0xDC00 ≤ n ∧ n < 0xE000 then
    match l.half with
    | some h => ⟨Char.ofNat (0x10000 + (h - 0xD800) * 1024 + (n - 0xDC00)) :: l.chars, none, l.sound⟩
    | none => ⟨l.chars, none, false⟩
  else l.push (Char.ofNat n)

def text? (l : Literal) : Option String :=
  if l.sound && l.half.isNone then some (String.ofList l.chars.reverse) else none

end Literal

def unescape? (c : Char) : Option Char :=
  match c with
  | '"' => some '"'
  | '\\' => some '\\'
  | '/' => some '/'
  | 'b' => some (Char.ofNat 8)
  | 'f' => some (Char.ofNat 12)
  | 'n' => some '\n'
  | 'r' => some '\r'
  | 't' => some '\t'
  | _ => none

def literal (l : Literal) : List Char → Option (Literal × List Char)
  | [] => none
  | '"' :: cs => some (l, cs)
  | '\\' :: 'u' :: a :: b :: c :: d :: cs => (hex4? a b c d).bind fun n => literal (l.pushUnit n) cs
  | '\\' :: c :: cs => (unescape? c).bind fun c => literal (l.push c) cs
  | c :: cs => if c.toNat < 32 then none else literal (l.push c) cs

def digits (cs : List Char) : List Char × List Char := (cs.takeWhile Char.isDigit, cs.dropWhile Char.isDigit)

def fraction? : List Char → Option (List Char × List Char)
  | '.' :: cs => if (digits cs).1.isEmpty then none else some ('.' :: (digits cs).1, (digits cs).2)
  | cs => some ([], cs)

def exponent? : List Char → Option (List Char × List Char)
  | [] => some ([], [])
  | e :: cs =>
    if e = 'e' ∨ e = 'E' then
      let (sign, ds) := match cs with
        | '+' :: ds => (['+'], ds)
        | '-' :: ds => (['-'], ds)
        | ds => ([], ds)
      if (digits ds).1.isEmpty then none
      else some (e :: sign ++ (digits ds).1, (digits ds).2)
    else some ([], e :: cs)

/-- An integer keeps its value if 64 bits hold it. Minus zero is no integer. -/
def classify (negative : Bool) (n : Nat) (literal : List Char) : Data :=
  if negative then
    if 0 < n ∧ n ≤ Word.count 63 then .int (-n) else .real (String.ofList literal)
  else if n < Word.count 64 then .int n
  else .real (String.ofList literal)

def number? (cs : List Char) : Option (Data × List Char) :=
  let (sign, rest) := match cs with
    | '-' :: rest => (['-'], rest)
    | rest => ([], rest)
  let (whole, rest) := digits rest
  match whole, rest with
  | [], _ => none
  | '0' :: _ :: _, _ => none
  | _, _ => do
    let n ← Text.decimal? whole
    let (fraction, rest) ← fraction? rest
    let (exponent, rest) ← exponent? rest
    let literal := sign ++ whole ++ fraction ++ exponent
    if fraction.isEmpty && exponent.isEmpty then some (classify (!sign.isEmpty) n literal, rest)
    else some (.real (String.ofList literal), rest)

def table (fields : List (Option String × Data)) : Data :=
  match fields.mapM fun (name, d) => name.map (·, d) with
  | some fields => .table fields
  | none => .illFormed

def keyword? (word : String) (d : Data) (cs : List Char) : Option (Data × List Char) :=
  if word.toList.isPrefixOf cs then some (d, cs.drop word.length) else none

mutual

def value? : Nat → List Char → Option (Data × List Char)
  | 0, _ => none
  | fuel + 1, cs =>
    match skip cs with
    | [] => none
    | '"' :: rest => (literal {} rest).map fun (l, rest) =>
        (match l.text? with | some s => .text s | none => .illFormed, rest)
    | '[' :: rest =>
      match skip rest with
      | ']' :: rest => some (.list [], rest)
      | _ => (items? fuel rest).map fun (ds, rest) => (.list ds, rest)
    | '\x7b' :: rest =>
      match skip rest with
      | '\x7d' :: rest => some (.table [], rest)
      | _ => (fields? fuel rest).map fun (fs, rest) => (table fs, rest)
    | 't' :: rest => keyword? "rue" (.bool true) rest
    | 'f' :: rest => keyword? "alse" (.bool false) rest
    | 'n' :: rest => keyword? "ull" .null rest
    | rest => number? rest

def items? : Nat → List Char → Option (List Data × List Char)
  | 0, _ => none
  | fuel + 1, cs => do
    let (d, rest) ← value? fuel cs
    match skip rest with
    | ',' :: rest => (items? fuel rest).map fun (ds, rest) => (d :: ds, rest)
    | ']' :: rest => some ([d], rest)
    | _ => none

def fields? : Nat → List Char → Option (List (Option String × Data) × List Char)
  | 0, _ => none
  | fuel + 1, cs =>
    match skip cs with
    | '"' :: rest => do
      let (l, rest) ← literal {} rest
      match skip rest with
      | ':' :: rest =>
        let (d, rest) ← value? fuel rest
        match skip rest with
        | ',' :: rest => (fields? fuel rest).map fun (fs, rest) => ((l.text?, d) :: fs, rest)
        | '\x7d' :: rest => some ([(l.text?, d)], rest)
        | _ => none
      | _ => none
    | _ => none

end

/-- Reads a text that holds one value. Every call of the reader uses up a character or is the first
for one, so twice the length is fuel enough. -/
def parse? (cs : List Char) : Option Data := do
  let (d, rest) ← value? (2 * cs.length + 2) cs
  if (skip rest).isEmpty then some d else none

def ofText? (s : String) : Option Data := parse? s.toList

/-- What stands for octets that are no text: half of a surrogate pair, which denotes no character
either. A letter on each side keeps it apart from other escapes. -/
def noText : List Char := "x\\ud800x".toList

def ofBytes? (bs : List UInt8) : Option Data :=
  parse? ((Text.Utf8.decodeFrom .start bs).flatMap fun
    | some c => [c]
    | none => noText)

end ContainerFleet.Json
