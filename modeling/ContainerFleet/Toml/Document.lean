import ContainerFleet.Toml.Scalar
import ContainerFleet.Toml.Text
import ContainerFleet.Toml.Tree

namespace ContainerFleet.Toml

mutual

def value? : Nat → Nat → List Char → Option (Data × List Char)
  | 0, _, _ => none
  | fuel + 1, room, cs =>
    match text? cs with
    | some (s, cs) => some (.text s, cs)
    | none =>
      match cs, room with
      | '[' :: cs, room + 1 => (items? fuel room cs).map fun (ds, cs) => (.list ds, cs)
      | '\x7b' :: cs, room + 1 =>
        (members? fuel room [] cs).map fun (es, cs) => (.table (Tree.fields es), cs)
      | cs, _ =>
        let (word, rest) := scalar cs
        (ofScalar? word).map (·, rest)

def items? : Nat → Nat → List Char → Option (List Data × List Char)
  | 0, _, _ => none
  | fuel + 1, room, cs => do
    match ← skipLines? fuel cs with
    | ']' :: cs => some ([], cs)
    | cs =>
      let (d, cs) ← value? fuel room cs
      match ← skipLines? fuel cs with
      | ',' :: cs => (items? fuel room cs).map fun (ds, cs) => (d :: ds, cs)
      | ']' :: cs => some ([d], cs)
      | _ => none

def members? : Nat → Nat → Tree.Entries → List Char → Option (Tree.Entries × List Char)
  | 0, _, _, _ => none
  | fuel + 1, room, es, cs => do
    match ← skipLines? fuel cs with
    | '\x7d' :: cs => some (es, cs)
    | cs =>
      let (ks, cs) ← key? cs
      match ← skipLines? fuel cs with
      | '=' :: cs =>
        let (d, cs) ← value? fuel room (← skipLines? fuel cs)
        let es ← Tree.atKey true (Tree.addValue · d) ks es
        match ← skipLines? fuel cs with
        | ',' :: cs => members? fuel room es cs
        | '\x7d' :: cs => some (es, cs)
        | _ => none
      | _ => none

end

def lineEnd? (cs : List Char) : Option (List Char) := do
  match ← comment? (skipBlanks cs) with
  | [] => some []
  | cs => newline? cs

def statement? (fuel : Nat) (path : List String) (es : Tree.Entries) (cs : List Char) :
    Option (List String × Tree.Entries × List Char) := do
  match cs with
  | '[' :: '[' :: cs =>
    let (ks, cs) ← key? cs
    match cs with
    | ']' :: ']' :: cs => some (ks, ← Tree.atKey false Tree.addToTables ks es, cs)
    | _ => none
  | '[' :: cs =>
    let (ks, cs) ← key? cs
    match cs with
    | ']' :: cs => some (ks, ← Tree.atKey false Tree.addTable ks es, cs)
    | _ => none
  | cs =>
    let (ks, cs) ← key? cs
    match cs with
    | '=' :: cs =>
      let (d, cs) ← value? fuel maxDepth (skipBlanks cs)
      some (path, ← Tree.within false (Tree.atKey true (Tree.addValue · d) ks) path es, cs)
    | _ => none

def statements? : Nat → List String → Tree.Entries → List Char → Option Tree.Entries
  | 0, _, _, _ => none
  | fuel + 1, path, es, cs => do
    match ← skipLines? (fuel + 1) cs with
    | [] => some es
    | cs =>
      let (path, es, cs) ← statement? (fuel + 1) path es cs
      statements? fuel path es (← lineEnd? cs)

/-- Reads a document. A byte-order mark may stand in front. Every call uses up a character or ends a
statement, so twice the length is fuel enough. -/
def document? (s : String) : Option Data :=
  let cs := match s.toList with
    | c :: cs => if c.toNat = 0xFEFF then cs else c :: cs
    | [] => []
  (statements? (2 * cs.length + 2) [] [] cs).map fun es => .table (Tree.fields es)

end ContainerFleet.Toml
