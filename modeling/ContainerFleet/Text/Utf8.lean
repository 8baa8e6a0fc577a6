namespace ContainerFleet.Text.Utf8

/-- The octets a continuation may take after the lead octet, and how many continuations there are
in all. Only the first continuation is ever narrower than `80..BF`. -/
def shape (lead : UInt8) : Option (Nat × UInt8 × UInt8) :=
  if lead < 0x80 then some (0, 0x80, 0xBF)
  else if 0xC2 ≤ lead && lead ≤ 0xDF then some (1, 0x80, 0xBF)
  else if lead == 0xE0 then some (2, 0xA0, 0xBF)
  else if lead == 0xED then some (2, 0x80, 0x9F)
  else if 0xE1 ≤ lead && lead ≤ 0xEF then some (2, 0x80, 0xBF)
  else if lead == 0xF0 then some (3, 0x90, 0xBF)
  else if 0xF1 ≤ lead && lead ≤ 0xF3 then some (3, 0x80, 0xBF)
  else if lead == 0xF4 then some (3, 0x80, 0x8F)
  else none

def leadBits (lead : UInt8) : Nat → Nat
  | 0 => lead.toNat
  | 1 => lead.toNat % 32
  | 2 => lead.toNat % 16
  | _ => lead.toNat % 8

/-- Where decoding stands: between characters, or inside one with the bits so far, the number of
continuations owed and the range of the next. -/
inductive State where
  | start
  | inside (bits owed : Nat) (low high : UInt8)

/-- Decodes octets to characters. An ill-formed sequence yields one `none`, and decoding goes on
at the octet that broke it. -/
def decodeFrom : State → List UInt8 → List (Option Char)
  | .start, [] => []
  | .inside _ _ _ _, [] => [none]
  | .inside bits owed low high, b :: bs =>
    if low ≤ b && b ≤ high then
      let bits := bits * 64 + b.toNat % 64
      if owed ≤ 1 then some (Char.ofNat bits) :: decodeFrom .start bs
      else decodeFrom (.inside bits (owed - 1) 0x80 0xBF) bs
    else none :: lead b bs
  | .start, b :: bs => lead b bs
where
  lead (b : UInt8) (bs : List UInt8) : List (Option Char) :=
    match shape b with
    | none => none :: decodeFrom .start bs
    | some (0, _, _) => some (Char.ofNat b.toNat) :: decodeFrom .start bs
    | some (n, low, high) => decodeFrom (.inside (leadBits b n) n low high) bs

def decode? (bs : List UInt8) : Option (List Char) := (decodeFrom .start bs).mapM id

/-- Lenient decoding: an ill-formed sequence becomes U+FFFD. -/
def decodeLossy (bs : List UInt8) : List Char :=
  (decodeFrom .start bs).map (·.getD (Char.ofNat 0xFFFD))

def encode (cs : List Char) : List UInt8 := cs.flatMap String.utf8EncodeChar

end ContainerFleet.Text.Utf8
