import ContainerFleet.Data.Value
import ContainerFleet.Id.Error

namespace ContainerFleet

inductive NameKind where
  | cloud
  | template
deriving DecidableEq, Repr

def NameKind.title : NameKind → String
  | .cloud => "cloud name"
  | .template => "template name"

namespace Name

def maxLength : Nat := 63

def isInitial (c : Char) : Bool := c.isLower || c.isDigit

def isInner (c : Char) : Bool := isInitial c || c = '.' || c = '_' || c = '-'

def firstBad : List Char → Option Char
  | [] => none
  | c :: cs => if isInitial c then cs.find? (!isInner ·) else some c

inductive Fault where
  | empty
  | tooLong
  | character (c : Char)
deriving DecidableEq, Repr

def fault? (s : String) : Option Fault :=
  if s.isEmpty then some .empty
  else if maxLength < s.utf8ByteSize then some .tooLong
  else (firstBad s.toList).map .character

def Fault.toError (kind name : String) : Fault → IdError
  | .empty => .empty
  | .tooLong => .nameTooLong kind name maxLength
  | .character c => .badCharacter kind name c

def validate (kind name : String) : Except IdError Unit :=
  match fault? name with
  | none => .ok ()
  | some f => .error (f.toError kind name)

end Name

structure Name (k : NameKind) where
  text : String
  valid : Name.fault? text = none
deriving DecidableEq, Repr

abbrev CloudName := Name .cloud

abbrev TemplateName := Name .template

def Name.parse (k : NameKind) (s : String) : Except IdError (Name k) :=
  match h : Name.fault? s with
  | none => .ok ⟨s, h⟩
  | some f => .error (f.toError k.title s)

instance (k : NameKind) : ToString (Name k) := ⟨Name.text⟩

def Name.toData {k : NameKind} (n : Name k) : Data := .text n.text

end ContainerFleet
