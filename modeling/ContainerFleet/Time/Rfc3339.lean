import ContainerFleet.Time.Timestamp
import ContainerFleet.Time.Calendar

namespace ContainerFleet.Rfc3339

open Text (padZero isBlank)

/-- Four digits for the years 0 to 9999; all others have a sign. -/
def yearText (y : Int) : String :=
  if 0 ≤ y ∧ y ≤ 9999 then padZero 4 (toString y)
  else (if y < 0 then "-" else "+") ++ padZero 4 (toString y.natAbs)

/-- No fraction when it is zero, else the least of 3, 6 and 9 digits that is exact. -/
def fractionText (nanos : Nat) : String :=
  if nanos = 0 then ""
  else if nanos % 1000000 = 0 then "." ++ padZero 3 (toString (nanos / 1000000))
  else if nanos % 1000 = 0 then "." ++ padZero 6 (toString (nanos / 1000))
  else "." ++ padZero 9 (toString nanos)

def two (n : Int) : String := padZero 2 (toString n)

def format (t : Timestamp) : String :=
  let date := Calendar.ofDayNumber (t.second / 86400)
  let time := t.secondOfDay
  let second := time % 60 + if t.leap then 1 else 0
  yearText date.year ++ "-" ++ two date.month ++ "-" ++ two date.day ++ "T" ++
    two (time / 3600) ++ ":" ++ two (time / 60 % 60) ++ ":" ++ two second ++
    fractionText (t.nanos % 1000000000).toNat ++ "Z"

def digits? (most : Nat) (cs : List Char) : Option (Nat × List Char) :=
  let ds := (cs.take most).takeWhile Char.isDigit
  (Text.decimal? ds).map (·, cs.drop ds.length)

def blanks (cs : List Char) : List Char := cs.dropWhile isBlank

def literal? (c : Char) : List Char → Option (List Char)
  | d :: cs => if c = d then some cs else none
  | [] => none

def field? (low high : Nat) (cs : List Char) : Option (Nat × List Char) := do
  let (n, cs) ← digits? 2 (blanks cs)
  if low ≤ n ∧ n ≤ high then some (n, cs) else none

def year? (cs : List Char) : Option (Int × List Char) :=
  match blanks cs with
  | '-' :: cs => (digits? cs.length cs).map fun (n, cs) => (-n, cs)
  | '+' :: cs => (digits? cs.length cs).map fun (n, cs) => (n, cs)
  | cs => (digits? 4 cs).map fun (n, cs) => (n, cs)

/-- A fraction of a second in nanoseconds; digits after the ninth do not count. -/
def fraction? : List Char → Option (Nat × List Char)
  | '.' :: cs => do
    let (n, rest) ← digits? 9 cs
    let used := cs.length - rest.length
    some (n * Nat.pow 10 (9 - used), rest.dropWhile Char.isDigit)
  | cs => some (0, cs)

def offset? (cs : List Char) : Option (Int × List Char) :=
  if (cs.take 3).map Char.toLower = ['u', 't', 'c'] then some (0, cs.drop 3)
  else match cs with
    | [] => none
    | c :: cs =>
      if c = 'Z' ∨ c = 'z' then some (0, cs)
      else if c = '+' then signed 1 cs
      else if c = '-' ∨ c = '−' then signed (-1) cs
      else none
where
  signed (sign : Int) (cs : List Char) : Option (Int × List Char) := do
    let hours ← Text.decimal? (cs.take 2)
    let rest := (cs.drop 2).dropWhile fun c => c = ':' || isBlank c
    let minutes ← Text.decimal? (rest.take 2)
    if 2 ≤ cs.length ∧ 2 ≤ rest.length ∧ minutes < 60 ∧ hours < 24 then
      some (sign * (hours * 3600 + minutes * 60), rest.drop 2)
    else none

/-- Reads an instant. Apart from RFC 3339 itself, blanks may stand around the parts, numbers may
lack leading zeros, and a blank may stand for the `T`. -/
def parse? (s : String) : Option Timestamp := do
  let (year, cs) ← year? s.toList
  let cs ← literal? '-' (blanks cs)
  let (month, cs) ← field? 1 12 cs
  let cs ← literal? '-' (blanks cs)
  let (day, cs) ← field? 1 31 cs
  let cs ← match cs with
    | c :: cs => if c = 'T' ∨ c = 't' ∨ c = ' ' then some cs else none
    | [] => none
  let (hour, cs) ← field? 0 23 cs
  let cs ← literal? ':' (blanks cs)
  let (minute, cs) ← field? 0 59 cs
  let cs ← literal? ':' (blanks cs)
  let (second, cs) ← field? 0 60 cs
  let (nanos, cs) ← fraction? cs
  let (offset, cs) ← offset? (blanks cs)
  if !(blanks cs).isEmpty || day > Calendar.daysInMonth year month then none
  else
    let total := Calendar.dayNumber ⟨year, month, day⟩ * 86400 + hour * 3600 + minute * 60 + second
    let inCalendar (s : Int) := Timestamp.firstSecond ≤ s && s ≤ Timestamp.lastSecond
    if inCalendar total && inCalendar (total - offset) then
      some { nanos := (total - offset) * 1000000000 + nanos, leap := second = 60 }
    else none

end ContainerFleet.Rfc3339
