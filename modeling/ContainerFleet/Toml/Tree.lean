import ContainerFleet.Data.Value

namespace ContainerFleet.Toml

inductive Origin where
  | header
  | implied
  | dotted
deriving DecidableEq, Repr

inductive Tree where
  /-- What can no longer change. -/
  | closed (d : Data)
  | table (o : Origin) (entries : List (String × Tree))
  /-- Tables with headers of their own, the last one first. -/
  | tables (items : List (List (String × Tree)))
deriving Repr

namespace Tree

abbrev Entries := List (String × Tree)

def put (k : String) (t : Tree) : Entries → Entries
  | [] => [(k, t)]
  | e :: es => if e.1 = k then (k, t) :: es else e :: put k t es

/-- Changes the entries at the end of a path. Missing tables are made on the way, and a list of tables
stands for its last one. A key with dots leads into no table that has a header of its own, and adds to
tables only that such keys have made. -/
def within (dotted : Bool) (f : Entries → Option Entries) : List String → Entries → Option Entries
  | [], es => f es
  | k :: path, es =>
    match es.lookup k with
    | none => (within dotted f path []).map fun x =>
        put k (.table (if dotted then .dotted else .implied) x) es
    | some (.table o sub) =>
      if dotted && (o = .header || (path.isEmpty && o ≠ .dotted)) then none
      else (within dotted f path sub).map fun x => put k (.table o x) es
    | some (.tables (last :: rest)) =>
      if dotted && path.isEmpty then none
      else (within dotted f path last).map fun x => put k (.tables (x :: rest)) es
    | _ => none

def addValue (k : String) (d : Data) (es : Entries) : Option Entries :=
  match es.lookup k with
  | none => some (put k (.closed d) es)
  | some _ => none

/-- A header makes a table, unless that has a header or dotted keys already. -/
def addTable (k : String) (es : Entries) : Option Entries :=
  match es.lookup k with
  | none => some (put k (.table .header []) es)
  | some (.table .implied sub) => some (put k (.table .header sub) es)
  | some _ => none

def addToTables (k : String) (es : Entries) : Option Entries :=
  match es.lookup k with
  | none => some (put k (.tables [[]]) es)
  | some (.tables items) => some (put k (.tables ([] :: items)) es)
  | some _ => none

def atKey (dotted : Bool) (f : String → Entries → Option Entries) (ks : List String) (es : Entries) :
    Option Entries :=
  match ks.getLast? with
  | none => none
  | some k => within dotted (f k) ks.dropLast es

mutual

def toData : Tree → Data
  | .closed d => d
  | .table _ es => .table (fields es)
  | .tables items => .list (records items).reverse

def fields : Entries → List (String × Data)
  | [] => []
  | (k, t) :: es => (k, t.toData) :: fields es

def records : List Entries → List Data
  | [] => []
  | es :: rest => .table (fields es) :: records rest

end

end Tree

end ContainerFleet.Toml
