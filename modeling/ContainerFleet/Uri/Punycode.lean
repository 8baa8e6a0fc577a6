import ContainerFleet.Text.Blank

namespace ContainerFleet.Punycode

def digitChar (d : Nat) : Char := if d < 26 then Char.ofNat (97 + d) else Char.ofNat (22 + d)

def digit? (c : Char) : Option Nat :=
  if c.isDigit then some (c.toNat - 22)
  else if c.toLower.isLower then some (c.toLower.toNat - 97)
  else none

/-- The largest value that a digit at `place` may have as the last one of its number. -/
def threshold (bias place : Nat) : Nat := min 26 (max 1 (place - bias))

theorem threshold_pos (bias place : Nat) : 1 ≤ threshold bias place := by
  unfold threshold; omega

theorem threshold_le (bias place : Nat) : threshold bias place ≤ 26 := by
  unfold threshold; omega

def scaleDown (delta : Nat) : Nat × Nat :=
  if 455 < delta then
    let (n, d) := scaleDown (delta / 35)
    (n + 36, d)
  else (0, delta)
termination_by delta
decreasing_by omega

def adapt (delta count : Nat) (isFirst : Bool) : Nat :=
  let delta := if isFirst then delta / 700 else delta / 2
  let (n, d) := scaleDown (delta + delta / count)
  n + 36 * d / (d + 38)

/-- The digits of `n` from `place` on. -/
def number (bias place n : Nat) : List Char :=
  let t := threshold bias place
  if n < t then [digitChar n]
  else digitChar (t + (n - t) % (36 - t)) :: number bias (place + 36) ((n - t) / (36 - t))
termination_by n
decreasing_by
  have := threshold_pos bias place
  exact Nat.lt_of_le_of_lt (Nat.div_le_self _ _) (by omega)

structure Writing where
  out : List Char
  delta : Nat := 0
  bias : Nat := 72
  written : Nat

def pass (basic n : Nat) (w : Writing) (c : Char) : Writing :=
  if c.toNat < n then { w with delta := w.delta + 1 }
  else if c.toNat = n then
    { out := w.out ++ number w.bias 36 w.delta
      delta := 0
      bias := adapt w.delta (w.written + 1) (w.written = basic)
      written := w.written + 1 }
  else w

def rounds (cs : List Char) (basic : Nat) : List Nat → Nat → Writing → List Char
  | [], _, w => w.out
  | n :: ns, next, w =>
    let w := cs.foldl (pass basic n) { w with delta := w.delta + (n - next) * (w.written + 1) }
    rounds cs basic ns (n + 1) { w with delta := w.delta + 1 }

/-- A text in ASCII letters, digits and hyphens: its ASCII characters, and numbers that say which
other characters stand where. -/
def encode (cs : List Char) : List Char :=
  let basic := cs.filter (·.toNat < 128)
  let others := ((cs.map Char.toNat).filter (128 ≤ ·)).mergeSort.eraseDups
  basic ++ (if basic.isEmpty then [] else ['-']) ++
    rounds cs basic.length others 128 { out := [], written := basic.length }

def fits? (n : Nat) : Option Nat := if n < Word.count 32 then some n else none

def readNumber? (bias : Nat) : Nat → Nat → Nat → List Char → Option (Nat × List Char)
  | _, _, _, [] => none
  | place, weight, n, c :: cs => do
    let d ← digit? c
    let t := threshold bias place
    let n ← fits? (n + d * weight)
    if d < t then some (n, cs)
    else readNumber? bias (place + 36) (← fits? (weight * (36 - t))) n cs

def insertions? : Nat → Nat → Nat → Nat → List Char → List Char → Option (List Char)
  | _, _, _, _, out, [] => some out
  | 0, _, _, _, _, _ => none
  | fuel + 1, n, i, bias, out, cs => do
    let (j, cs) ← readNumber? bias 36 1 i cs
    let count := out.length + 1
    let n := n + j / count
    if 0x10FFFF < n || (0xD800 ≤ n && n < 0xE000) then none
    else
      insertions? fuel n (j % count + 1) (adapt (j - i) count (i = 0))
        (out.take (j % count) ++ Char.ofNat n :: out.drop (j % count)) cs

/-- The text that `encode` wrote. A hyphen in front is no separator. -/
def decode? (cs : List Char) : Option (List Char) :=
  let basic := ((cs.reverse.dropWhile (· ≠ '-')).drop 1).reverse
  let rest := if basic.isEmpty then cs else cs.drop (basic.length + 1)
  insertions? rest.length 128 0 72 basic rest

end ContainerFleet.Punycode
