import ContainerFleet.Data.Value

namespace ContainerFleet

structure Capacity where
  counts : Dict (Dict Nat) := .empty
deriving DecidableEq, Repr

namespace Capacity

def empty : Capacity := {}

def ofCloud (c : Capacity) (cloud : String) : Dict Nat := (c.counts.get? cloud).getD .empty

def ofTemplate (c : Capacity) (cloud template : String) : Nat :=
  ((c.ofCloud cloud).get? template).getD 0

def inProgress (c : Capacity) (cloud : String) : Option String → Nat
  | none => (c.ofCloud cloud).values.foldr (· + ·) 0
  | some template => c.ofTemplate cloud template

def isEmpty (c : Capacity) : Bool := c.counts.isEmpty

def reserve (c : Capacity) (cloud template : String) : Capacity :=
  ⟨c.counts.insert cloud
    ((c.ofCloud cloud).insert template (c.ofTemplate cloud template + 1))⟩

/-- Takes one creation back. Counts of zero are not kept. -/
def release (c : Capacity) (cloud template : String) : Capacity :=
  let rest :=
    if 1 < c.ofTemplate cloud template then
      (c.ofCloud cloud).insert template (c.ofTemplate cloud template - 1)
    else (c.ofCloud cloud).erase template
  if rest.isEmpty then ⟨c.counts.erase cloud⟩ else ⟨c.counts.insert cloud rest⟩

def toData (c : Capacity) : Data :=
  .table (c.counts.toList.map fun (cloud, ofCloud) =>
    (cloud, .table (ofCloud.toList.map fun (template, n) => (template, .nat n))))

end Capacity

end ContainerFleet
