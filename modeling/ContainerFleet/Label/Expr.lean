import ContainerFleet.Data.Value
import ContainerFleet.Text.Blank

namespace ContainerFleet

abbrev LabelSet := Dict Unit

def LabelSet.ofText (s : String) : LabelSet := Dict.ofKeys (Text.words s)

inductive LabelExpr where
  | atom (label : String)
  | not (e : LabelExpr)
  | and (l r : LabelExpr)
  | or (l r : LabelExpr)
deriving DecidableEq, Repr

namespace LabelExpr

def satisfiedBy (labels : LabelSet) : LabelExpr → Bool
  | atom label => labels.contains label
  | not e => !e.satisfiedBy labels
  | and l r => l.satisfiedBy labels && r.satisfiedBy labels
  | or l r => l.satisfiedBy labels || r.satisfiedBy labels

/-- Conjunctions and disjunctions stand in parentheses, so that no precedence is needed. -/
def toText : LabelExpr → String
  | atom label => label
  | not e => "!" ++ e.toText
  | and l r => "(" ++ l.toText ++ " && " ++ r.toText ++ ")"
  | or l r => "(" ++ l.toText ++ " || " ++ r.toText ++ ")"

def toData : LabelExpr → Data
  | atom label => .text label
  | not e => .list [.text "not", e.toData]
  | and l r => .list [.text "and", l.toData, r.toData]
  | or l r => .list [.text "or", l.toData, r.toData]

end LabelExpr

end ContainerFleet
