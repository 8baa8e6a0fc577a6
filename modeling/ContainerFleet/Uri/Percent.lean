import ContainerFleet.Data.Json
import ContainerFleet.Text.Utf8

namespace ContainerFleet.Percent

def isControl (c : Char) : Bool := c.toNat < 32 || c.toNat = 127

def isOutsidePath (c : Char) : Bool :=
  isControl c || [' ', '"', '<', '>', '\x60', '#', '?', '\x7b', '\x7d'].contains c

def upperHexDigit (n : Nat) : Char := if n < 10 then Char.ofNat (48 + n) else Char.ofNat (55 + n)

def octet (b : UInt8) : List Char :=
  ['%', upperHexDigit (b.toNat / 16), upperHexDigit (b.toNat % 16)]

def encode (p : Char → Bool) (cs : List Char) : List Char :=
  cs.flatMap fun c => if 128 ≤ c.toNat || p c then (Text.Utf8.encode [c]).flatMap octet else [c]

/-- The octets of a text in which some may be written with percent signs. A percent sign without two
digits stands for itself. -/
def octets : List Char → List UInt8
  | '%' :: a :: b :: cs =>
    match Text.hexValue? a, Text.hexValue? b with
    | some x, some y => UInt8.ofNat (16 * x + y) :: octets cs
    | _, _ => 37 :: octets (a :: b :: cs)
  | c :: cs => Text.Utf8.encode [c] ++ octets cs
  | [] => []

end ContainerFleet.Percent

namespace ContainerFleet.Form

def isPlain (c : Char) : Bool := c.isAlphanum || c = '*' || c = '-' || c = '.' || c = '_'

/-- A blank is written as a plus sign and any other character that is not plain as its octets. -/
def encode (cs : List Char) : List Char :=
  cs.flatMap fun c =>
    if isPlain c then [c] else if c = ' ' then ['+'] else Percent.encode (fun _ => true) [c]

def field (name value : String) : List Char := encode name.toList ++ '=' :: encode value.toList

def ofFields (fields : List (String × String)) : String :=
  String.ofList (List.intercalate ['&'] (fields.map fun f => field f.1 f.2))

end ContainerFleet.Form
