import ContainerFleet.Text.Blank

namespace ContainerFleet

structure Run (α : Type) where
  first : Nat
  last : Nat
  value : α
deriving Repr

/-- How many of the entries `low..high` of a table whose keys ascend have a key up to `n`, plus
`low`. -/
def rank (key : Nat → Nat) (n low high : Nat) : Nat :=
  if low < high then
    let mid := (low + high) / 2
    if key mid ≤ n then rank key n (mid + 1) high else rank key n low mid
  else low
termination_by high - low

structure RunTable (α : Type) where
  runs : Array (Run α)

namespace RunTable

variable {α : Type}

def run? (t : RunTable α) (n : Nat) : Option (Run α) :=
  match rank (fun i => (t.runs[i]?.map Run.first).getD 0) n 0 t.runs.size with
  | 0 => none
  | i + 1 => t.runs[i]?.filter (n ≤ ·.last)

def get? (t : RunTable α) (c : Char) : Option α := (t.run? c.toNat).map Run.value

def contains (t : RunTable α) (c : Char) : Bool := (t.run? c.toNat).isSome

def read? (value? : List Char → Option α) (cs : List Char) : Option (Run α) := do
  let bounds := cs.takeWhile (· ≠ ':')
  let first ← Text.hexNumber? (bounds.takeWhile (· ≠ '-'))
  let last := (Text.hexNumber? ((bounds.dropWhile (· ≠ '-')).drop 1)).getD first
  some { first, last, value := ← value? (cs.drop (bounds.length + 1)) }

def ofText (value? : List Char → Option α) (s : String) : RunTable α :=
  ⟨((Text.runs [] s.toList).filterMap (read? value?)).toArray⟩

end RunTable

end ContainerFleet
