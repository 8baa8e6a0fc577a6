import ContainerFleet.Id.Error
import ContainerFleet.Text.Blank

namespace ContainerFleet

/-- A 128-bit number that is written with 26 digits of Crockford's base 32. -/
structure Ulid where
  value : Nat
  bound : value < Word.count 128
deriving DecidableEq, Repr

namespace Ulid

/-- The digits in ascending order: `0` to `9` and the capital letters without `I`, `L`, `O`, `U`. -/
def alphabet : List Char := "0123456789ABCDEFGHJKMNPQRSTVWXYZ".toList

def digitChar (d : Nat) : Char := alphabet.getD d '0'

def digit? (c : Char) : Option Nat := alphabet.idxOf? c.toUpper

def digits : Nat → Nat → List Char
  | 0, _ => []
  | n + 1, v => digits n (v / 32) ++ [digitChar (v % 32)]

def toText (u : Ulid) : String := String.ofList (digits 26 u.value)

def ofNat (n : Nat) : Ulid := ⟨n % Word.count 128, Nat.mod_lt _ (by decide)⟩

def valueOf? (v : Nat) : List Char → Option Nat
  | [] => some v
  | c :: cs => (digit? c).bind fun d => valueOf? (32 * v + d) cs

/-- The 130 bits that 26 digits hold are cut to the lower 128. -/
def parse (s : String) : Except UlidError Ulid :=
  if s.utf8ByteSize ≠ 26 then .error .length
  else match valueOf? 0 s.toList with
    | none => .error .character
    | some v => .ok (ofNat v)

end Ulid

end ContainerFleet
