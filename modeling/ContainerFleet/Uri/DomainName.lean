import ContainerFleet.Text.Composition
import ContainerFleet.Text.Direction
import ContainerFleet.Text.Joining
import ContainerFleet.Uri.Percent
import ContainerFleet.Uri.Punycode
import ContainerFleet.Uri.Replacement

namespace ContainerFleet.DomainName

def isForbidden (c : Char) : Bool :=
  Percent.isControl c || " %#/:<>?@[\\]^|".contains c

def isFinal (cs : List Char) : Bool :=
  cs.all fun c => !isForbidden c && replace? c = some [c]

structure Label where
  shown : List Char
  written : List Char
deriving DecidableEq, Repr

namespace Label

def mark : List Char := ['x', 'n', '-', '-']

def maxShown : Nat := 1000

def maxEncoded : Nat := 2000

def isSound (cs : List Char) : Bool := !cs.head?.any Text.isMark && Text.joinersFit [] cs

def decode? (cs : List Char) : Option (List Char) :=
  if cs.isEmpty || cs.getLast? = some '-' || maxEncoded < cs.length || cs.any (128 ≤ ·.toNat) then none
  else (Punycode.decode? cs).filter fun shown =>
    isFinal shown && !shown.contains '.' && Text.composed shown = shown

def ofText? (cs : List Char) : Option Label :=
  if mark.isPrefixOf cs then
    ((decode? (cs.drop mark.length)).filter isSound).map fun shown => ⟨shown, cs⟩
  else if cs.any isForbidden || !isSound cs then none
  else if cs.all (·.toNat < 128) then some ⟨cs, cs⟩
  else if maxShown < cs.length then none
  else some ⟨cs, mark ++ Punycode.encode cs⟩

end Label

/-- The labels of a name. If one of them has characters that are written from right to left, each has
to have one direction. -/
def labels? (cs : List Char) : Option (List Label) := do
  let texts ← cs.mapM replace?
  let labels ← ((Text.composed texts.flatten).splitOn '.').mapM Label.ofText?
  if labels.any (Text.hasRightToLeft ·.shown) && !labels.all (Text.hasOneDirection ·.shown) then none
  else some labels

def toAscii? (cs : List Char) : Option (List Char) := do
  let labels ← labels? (← Text.Utf8.decode? (Percent.octets cs))
  some (List.intercalate ['.'] (labels.map (·.written)))

end ContainerFleet.DomainName
