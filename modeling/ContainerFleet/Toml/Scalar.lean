import ContainerFleet.Data.Value
import ContainerFleet.Text.Blank
import ContainerFleet.Time.Calendar

namespace ContainerFleet.Toml

def digits? (isDigit : Char → Bool) (cs : List Char) : Option (List Char) :=
  let groups := cs.splitOn '_'
  if groups.all fun g => !g.isEmpty && g.all isDigit then some groups.flatten else none

/-- The value of a digit; `g` and all that follows is too large for any base. -/
def digitValue (c : Char) : Nat :=
  if c.isDigit then c.toNat - 48 else c.toLower.toNat - 87

def numeral (base : Nat) (ds : List Char) : Nat :=
  ds.foldl (fun n d => base * n + digitValue d) 0

def integer? (n : Int) : Option Data :=
  if -Word.count 63 ≤ n ∧ n < Word.count 64 then some (.int n) else none

def based? (base : Nat) (isDigit : Char → Bool) (cs : List Char) : Option Data :=
  (digits? isDigit cs).bind fun ds => integer? (numeral base ds)

def decimal? (cs : List Char) : Option (List Char) :=
  (digits? Char.isDigit cs).bind fun
    | '0' :: _ :: _ => none
    | ds => some ds

def sign (cs : List Char) : Bool × List Char :=
  match cs with
  | '-' :: cs => (true, cs)
  | '+' :: cs => (false, cs)
  | cs => (false, cs)

def exponent? (cs : List Char) : Option Int :=
  let (negative, cs) := sign cs
  (digits? Char.isDigit cs).map fun ds =>
    let n : Int := numeral 10 ds
    if negative then -n else n

def isMark (c : Char) : Bool := c = 'e' || c = 'E'

/-- What double precision would round to infinity. -/
def infinite : Nat := Word.count 1024 - Word.count 970

def isFinite (ds : List Char) (exponent : Int) : Bool :=
  let ds := ds.dropWhile (· = '0')
  let places := ds.length + exponent
  if ds.isEmpty || places ≤ 0 then true
  else if 310 ≤ places then false
  else if 0 ≤ exponent then numeral 10 ds * Nat.pow 10 exponent.toNat < infinite
  else numeral 10 ds < infinite * Nat.pow 10 (-exponent).toNat

/-- The digits of a number with a fraction, an exponent or both, and the power of ten that they are
multiplied with. -/
def float? (cs : List Char) : Option (List Char × Int) := do
  let whole := cs.takeWhile fun c => c ≠ '.' && !isMark c
  let ds ← decimal? whole
  match cs.drop whole.length with
  | '.' :: cs =>
    let fraction := cs.takeWhile (!isMark ·)
    let fs ← digits? Char.isDigit fraction
    let exponent ← match cs.drop fraction.length with
      | [] => some 0
      | _ :: cs => exponent? cs
    some (ds ++ fs, exponent - fs.length)
  | _ :: cs => some (ds, ← exponent? cs)
  | [] => none

def number? (literal : List Char) : Option Data :=
  let (negative, cs) := sign literal
  let real := Data.real (String.ofList literal)
  match literal with
  | '0' :: 'x' :: ds => based? 16 (fun c => c.isDigit || (97 ≤ c.toLower.toNat && c.toLower.toNat ≤ 102)) ds
  | '0' :: 'o' :: ds => based? 8 (fun c => c.isDigit && c.toNat < 56) ds
  | '0' :: 'b' :: ds => based? 2 (fun c => c = '0' || c = '1') ds
  | _ =>
    if cs = "inf".toList ∨ cs = "nan".toList then some real
    else match decimal? cs with
      | some ds =>
        let n : Int := numeral 10 ds
        integer? (if negative then -n else n)
      | none => (float? cs).bind fun (ds, exponent) => if isFinite ds exponent then some real else none

/-!
Dates and times. What is read is their text in one form.
-/

def two? (low high : Nat) : List Char → Option Nat
  | [a, b] => (Text.decimal? [a, b]).filter fun n => low ≤ n && n ≤ high
  | _ => none

def date? (cs : List Char) : Option (List Char) := do
  match cs with
  | [a, b, c, d, '-', e, f, '-', g, h] =>
    let year ← Text.decimal? [a, b, c, d]
    let month ← two? 1 12 [e, f]
    discard (two? 1 (Calendar.daysInMonth year month) [g, h])
    some cs
  | _ => none

def fraction? (ds : List Char) : Option (List Char) := do
  discard (Text.decimal? ds)
  match ((ds.take 9).reverse.dropWhile (· = '0')).reverse with
  | [] => some []
  | ds => some ('.' :: ds)

def clock? (cs : List Char) : Option (List Char) := do
  match cs with
  | a :: b :: ':' :: c :: d :: rest =>
    discard (two? 0 23 [a, b])
    discard (two? 0 59 [c, d])
    match rest with
    | [] => some [a, b, ':', c, d, ':', '0', '0']
    | ':' :: e :: f :: rest =>
      discard (two? 0 60 [e, f])
      let fraction ← match rest with
        | [] => some []
        | '.' :: ds => fraction? ds
        | _ => none
      some ([a, b, ':', c, d, ':', e, f] ++ fraction)
    | _ => none
  | _ => none

/-- A distance from UTC, of which none has a minus sign. -/
def offset? (cs : List Char) : Option (List Char) := do
  match cs with
  | ['Z'] | ['z'] => some ['Z']
  | [s, a, b, ':', c, d] =>
    if s = '+' ∨ s = '-' then
      let hours ← two? 0 23 [a, b]
      let minutes ← two? 0 59 [c, d]
      some [if hours = 0 ∧ minutes = 0 then '+' else s, a, b, ':', c, d]
    else none
  | _ => none

def zoned? (cs : List Char) : Option (List Char) := do
  let time := cs.takeWhile fun c => c.isDigit || c = ':' || c = '.'
  let clock ← clock? time
  match cs.drop time.length with
  | [] => some clock
  | cs => (offset? cs).map (clock ++ ·)

def momentText? (cs : List Char) : Option (List Char) :=
  match clock? cs with
  | some clock => some clock
  | none => do
    let date ← date? (cs.take 10)
    match cs.drop 10 with
    | [] => some date
    | c :: rest =>
      if c = 'T' ∨ c = 't' ∨ c = ' ' then (zoned? rest).map fun time => date ++ 'T' :: time else none

/-- The field of the table that a date or a time is taken for. -/
def momentField : String := "$__toml_private_datetime"

def moment? (cs : List Char) : Option Data :=
  (momentText? cs).map fun text => .table [(momentField, .text (String.ofList text))]

def isScalar (c : Char) : Bool := c.isAlphanum || c = '_' || c = '-' || c = '+' || c = '.' || c = ':'

/-- A date and the time after it may have a space between them. -/
def scalar (cs : List Char) : List Char × List Char :=
  let word := cs.takeWhile isScalar
  let rest := cs.drop word.length
  match rest with
  | ' ' :: d :: _ =>
    if (date? word).isSome && d.isDigit then
      let time := (rest.drop 1).takeWhile isScalar
      (word ++ ' ' :: time, rest.drop (time.length + 1))
    else (word, rest)
  | _ => (word, rest)

def ofScalar? (cs : List Char) : Option Data :=
  if cs = "true".toList then some (.bool true)
  else if cs = "false".toList then some (.bool false)
  else (number? cs).or (moment? cs)

end ContainerFleet.Toml
