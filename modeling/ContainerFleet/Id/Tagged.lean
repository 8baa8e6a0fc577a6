import ContainerFleet.Data.Value
import ContainerFleet.Id.Ulid
import ContainerFleet.Text.Blank

namespace ContainerFleet

inductive IdKind where
  | fleet
  | node
deriving DecidableEq, Repr

def IdKind.tag : IdKind → String
  | .fleet => "fleet"
  | .node => "node"

/-- A generated id. It is written as its kind's tag, an underscore and the ULID. -/
structure Id (k : IdKind) where
  ulid : Ulid
deriving DecidableEq, Repr

abbrev FleetId := Id .fleet

abbrev NodeId := Id .node

namespace Id

variable {k : IdKind}

def toText (i : Id k) : String := k.tag ++ "_" ++ i.ulid.toText

def short (i : Id k) : String := Text.lowerAscii i.ulid.toText

def parse (k : IdKind) (s : String) : Except IdError (Id k) :=
  let cs := s.toList
  let tag := cs.takeWhile (· ≠ '_')
  match cs.dropWhile (· ≠ '_') with
  | [] => .error (if cs.isEmpty then .empty else .missingSeparator)
  | _ :: rest =>
    if tag ≠ k.tag.toList then .error (.wrongTag k.tag (String.ofList tag))
    else match Ulid.parse (String.ofList rest) with
      | .error e => .error (.badUlid e)
      | .ok u => .ok ⟨u⟩

def toData (i : Id k) : Data := .text i.toText

def ofData? (k : IdKind) (d : Data) : Option (Id k) :=
  d.text?.bind fun s => (parse k s).toOption

instance : LT (Id k) := ⟨fun a b => a.ulid.value < b.ulid.value⟩

instance (a b : Id k) : Decidable (a < b) :=
  inferInstanceAs (Decidable (a.ulid.value < b.ulid.value))

def insertSorted (i : Id k) : List (Id k) → List (Id k)
  | [] => [i]
  | j :: js => if i < j then i :: j :: js else if i = j then j :: js else j :: insertSorted i js

def sort (is : List (Id k)) : List (Id k) := is.foldr insertSorted []

end Id

def NodeId.nodeName (i : NodeId) (stem : String) : String := stem ++ "-" ++ i.short

end ContainerFleet
