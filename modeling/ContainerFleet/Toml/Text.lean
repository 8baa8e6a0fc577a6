import ContainerFleet.Data.Json

namespace ContainerFleet.Toml

def isPrintable (c : Char) : Bool := c = '\t' || (0x20 ≤ c.toNat && c.toNat ≠ 0x7F)

def isBlank (c : Char) : Bool := c = ' ' || c = '\t'

def skipBlanks (cs : List Char) : List Char := cs.dropWhile isBlank

def newline? : List Char → Option (List Char)
  | '\n' :: cs => some cs
  | '\r' :: '\n' :: cs => some cs
  | _ => none

def scalar? (n : Nat) : Option Char := if n.isValidChar then some (Char.ofNat n) else none

def codePoint? (count : Nat) (cs : List Char) : Option (Char × List Char) := do
  let ds ← (cs.take count).mapM Text.hexValue?
  if ds.length = count then
    some (← scalar? (ds.foldl (fun n d => 16 * n + d) 0), cs.drop count)
  else none

def escape? : List Char → Option (Char × List Char)
  | [] => none
  | 'x' :: cs => codePoint? 2 cs
  | 'u' :: cs => codePoint? 4 cs
  | 'U' :: cs => codePoint? 8 cs
  | 'e' :: cs => some (Char.ofNat 27, cs)
  | '/' :: _ => none
  | c :: cs => (Json.unescape? c).map (·, cs)

/-- Reads a text after its opening quote; `acc` holds the characters so far, last first. -/
def basic? (acc : List Char) : Nat → List Char → Option (String × List Char)
  | 0, _ => none
  | fuel + 1, cs =>
    match cs with
    | [] => none
    | '"' :: cs => some (String.ofList acc.reverse, cs)
    | '\\' :: cs => (escape? cs).bind fun (c, cs) => basic? (c :: acc) fuel cs
    | c :: cs => if isPrintable c then basic? (c :: acc) fuel cs else none

def apostrophe : Char := Char.ofNat 39

def plain? (cs : List Char) : Option (String × List Char) :=
  let body := cs.takeWhile fun c => c ≠ apostrophe && isPrintable c
  match cs.drop body.length with
  | c :: rest => if c = apostrophe then some (String.ofList body, rest) else none
  | [] => none

def skipBreaks : List Char → List Char
  | [] => []
  | '\r' :: '\n' :: cs => skipBreaks cs
  | c :: cs => if isBlank c || c = '\n' then skipBreaks cs else c :: cs

/-- What follows a backslash at the end of a line: all up to the next character that is not blank. -/
def continuation? (cs : List Char) : Option (List Char) := (newline? (skipBlanks cs)).map skipBreaks

/-- Reads a text of several lines after its opening marks, up to three marks `q`. Up to two marks may
stand before these. -/
def lines? (q : Char) (escapes : Bool) (acc : List Char) :
    Nat → List Char → Option (String × List Char)
  | 0, _ => none
  | fuel + 1, cs =>
    match cs with
    | [] => none
    | c :: rest =>
      if c = q then
        let marks := (cs.takeWhile (· = q)).length
        if marks < 3 then lines? q escapes (c :: acc) fuel rest
        else
          let used := min marks 5
          some (String.ofList (List.replicate (used - 3) q ++ acc).reverse, cs.drop used)
      else if escapes && c = '\\' then
        match continuation? rest with
        | some cs => lines? q escapes acc fuel cs
        | none => (escape? rest).bind fun (c, cs) => lines? q escapes (c :: acc) fuel cs
      else if isPrintable c || (newline? cs).isSome then lines? q escapes (c :: acc) fuel rest
      else none

/-- A line break right after the opening marks does not count. -/
def trimFirst (cs : List Char) : List Char := (newline? cs).getD cs

def text? (cs : List Char) : Option (String × List Char) :=
  let fuel := cs.length + 1
  match cs with
  | '"' :: '"' :: '"' :: cs => lines? '"' true [] fuel (trimFirst cs)
  | '"' :: cs => basic? [] fuel cs
  | a :: b :: c :: cs' =>
    if a = apostrophe && b = apostrophe && c = apostrophe then
      lines? apostrophe false [] fuel (trimFirst cs')
    else if a = apostrophe then plain? (b :: c :: cs')
    else none
  | a :: cs' => if a = apostrophe then plain? cs' else none
  | [] => none

def isBare (c : Char) : Bool := c.isAlphanum || c = '_' || c = '-'

def simpleKey? (cs : List Char) : Option (String × List Char) :=
  match cs with
  | '"' :: cs' => basic? [] (cs.length + 1) cs'
  | c :: cs' =>
    if c = apostrophe then plain? cs'
    else if isBare c then some (String.ofList (cs.takeWhile isBare), cs.dropWhile isBare)
    else none
  | [] => none

/-- How many brackets may be open at the same time, and how many parts a key may have. -/
def maxDepth : Nat := 80

def parts? : Nat → List Char → Option (List String × List Char)
  | 0, _ => none
  | room + 1, cs => do
    let (k, cs) ← simpleKey? (skipBlanks cs)
    match skipBlanks cs with
    | '.' :: cs => (parts? room cs).map fun (ks, cs) => (k :: ks, cs)
    | cs => some ([k], cs)

def key? (cs : List Char) : Option (List String × List Char) := parts? maxDepth cs

def comment? (cs : List Char) : Option (List Char) :=
  match cs with
  | '#' :: cs =>
    match cs.dropWhile isPrintable with
    | [] => some []
    | cs => (newline? cs).map fun _ => cs
  | cs => some cs

def skipLines? : Nat → List Char → Option (List Char)
  | 0, _ => none
  | fuel + 1, cs => do
    let cs ← comment? (skipBlanks cs)
    match newline? cs with
    | some cs => skipLines? fuel cs
    | none => some cs

end ContainerFleet.Toml
