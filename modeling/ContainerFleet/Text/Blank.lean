namespace ContainerFleet

def Word.count (bits : Nat) : Nat := Nat.pow 2 bits

namespace Text

/-- Unicode `White_Space`. -/
def isBlank (c : Char) : Bool :=
  let n := c.toNat
  (9 ≤ n && n ≤ 13) || n == 0x20 || n == 0x85 || n == 0xA0 || n == 0x1680 ||
    (0x2000 ≤ n && n ≤ 0x200A) || n == 0x2028 || n == 0x2029 || n == 0x202F || n == 0x205F ||
    n == 0x3000

def trim (s : String) : String :=
  String.ofList ((s.toList.dropWhile isBlank).reverse.dropWhile isBlank).reverse

/-- The maximal runs without blanks; `run` holds the characters of the current one, last first. -/
def runs (run : List Char) : List Char → List (List Char)
  | [] => if run.isEmpty then [] else [run.reverse]
  | c :: cs =>
    if isBlank c then
      if run.isEmpty then runs [] cs else run.reverse :: runs [] cs
    else runs (c :: run) cs

def words (s : String) : List String := (runs [] s.toList).map String.ofList

def lowerAscii (s : String) : String := String.ofList (s.toList.map Char.toLower)

def dropPrefix (p : Char → Bool) (s : String) : String := String.ofList (s.toList.dropWhile p)

def hexDigit (n : Nat) : Char := if n < 10 then Char.ofNat (48 + n) else Char.ofNat (87 + n)

def hex (n : Nat) : String := String.ofList (Nat.toDigits 16 n)

def hexValue? (c : Char) : Option Nat :=
  let n := c.toLower.toNat
  if c.isDigit then some (c.toNat - 48)
  else if 97 ≤ n ∧ n ≤ 102 then some (n - 87)
  else none

def hexNumber? (cs : List Char) : Option Nat :=
  if cs.isEmpty then none
  else (cs.mapM hexValue?).map fun ds => ds.foldl (fun n d => 16 * n + d) 0

def padZero (width : Nat) (s : String) : String :=
  String.ofList (List.replicate (width - s.length) '0') ++ s

def decimal? (cs : List Char) : Option Nat :=
  if cs.isEmpty || !cs.all Char.isDigit then none
  else some (cs.foldl (fun n c => 10 * n + (c.toNat - 48)) 0)

def natural? (s : String) : Option Nat :=
  match s.toList with
  | '+' :: cs => decimal? cs
  | cs => decimal? cs

end Text

end ContainerFleet
