import ContainerFleet.Dict
import ContainerFleet.Text.Blank

namespace ContainerFleet

/-- A value of a self-describing format. Tables keep their fields as written, repeated names
included. -/
inductive Data where
  | null
  | bool (b : Bool)
  | int (n : Int)
  /-- A number with a fraction or an exponent, or an integer too large for 64 bits. -/
  | real (literal : String)
  | text (s : String)
  /-- A text literal that denotes no Unicode text, or a table with such a name. -/
  | illFormed
  | list (items : List Data)
  | table (fields : List (String × Data))
deriving Repr, Inhabited, BEq

namespace Data

def nat (n : Nat) : Data := .int n

def ofText? : Option String → Data
  | none => .null
  | some s => .text s

def ofTexts (ss : List String) : Data := .list (ss.map .text)

def ofDict (d : Dict String) : Data := .table (d.toList.map fun e => (e.1, .text e.2))

mutual

def mapText (f : String → String) : Data → Data
  | .text s => .text (f s)
  | .list items => .list (mapItems f items)
  | .table fields => .table (mapFields f fields)
  | d => d

def mapItems (f : String → String) : List Data → List Data
  | [] => []
  | d :: ds => d.mapText f :: mapItems f ds

def mapFields (f : String → String) : List (String × Data) → List (String × Data)
  | [] => []
  | (name, d) :: fields => (f name, d.mapText f) :: mapFields f fields

end

/-- The value of a field; of several the last counts. -/
def get? (d : Data) (name : String) : Option Data :=
  match d with
  | .table fields => fields.reverse.lookup name
  | _ => none

/-!
Readers. Each yields none where the value has another type or is out of range.
-/

def bool? : Data → Option Bool
  | .bool b => some b
  | _ => none

def text? : Data → Option String
  | .text s => some s
  | _ => none

def int? (low high : Int) : Data → Option Int
  | .int n => if low ≤ n ∧ n ≤ high then some n else none
  | _ => none

def nat? (bits : Nat) (d : Data) : Option Nat := (d.int? 0 (Word.count bits - 1)).map Int.toNat

def list? (read : Data → Option α) : Data → Option (List α)
  | .list items => items.mapM read
  | _ => none

def dict? (read : Data → Option α) : Data → Option (Dict α)
  | .table fields => (fields.mapM fun f => (read f.2).map (f.1, ·)).map Dict.ofList
  | _ => none

def nullable? (read : Data → Option α) : Data → Option (Option α)
  | .null => some none
  | d => (read d).map some

/-- The values given for `names`, in their order. In a table each of them may stand once, and
other fields only if the record is open; in a list the values stand in order. -/
def record? (names : List String) (isOpen : Bool) : Data → Option (List (Option Data))
  | .table fields =>
    if names.all (fun n => (fields.filter (·.1 = n)).length ≤ 1) &&
        (isOpen || fields.all (names.contains ·.1)) then
      some (names.map fun n => fields.lookup n)
    else none
  | .list items =>
    if items.length ≤ names.length then
      some (items.map some ++ List.replicate (names.length - items.length) none)
    else none
  | _ => none

def required (read : Data → Option α) (d : Option Data) : Option α := d.bind read

def optional (read : Data → Option α) (default : α) : Option Data → Option α
  | none => some default
  | some d => read d

/-- The name of a variant, which the table gives as `type` and the list as its first value, and the
variant's own fields. -/
def variant? : Data → Option (String × Data)
  | .table fields =>
    match fields.filter (·.1 = "type") with
    | [(_, .text name)] => some (name, .table (fields.filter (·.1 ≠ "type")))
    | _ => none
  | .list (.text name :: items) => some (name, .list items)
  | _ => none

end Data

end ContainerFleet
