import ContainerFleet.Label.Expr
import ContainerFleet.Label.Token

namespace ContainerFleet.LabelExpr

inductive Frame where
  | negation
  | conjunct (l : LabelExpr)
  | disjunct (l : LabelExpr)
  | group
deriving DecidableEq, Repr

inductive Reader where
  | before (stack : List Frame)
  | after (e : LabelExpr) (stack : List Frame)
deriving DecidableEq, Repr

/-- Combines an operand with the operators that bind tighter than any that may follow. -/
def complete (e : LabelExpr) : List Frame → Reader
  | .negation :: stack => complete (.not e) stack
  | .conjunct l :: stack => .after (.and l e) stack
  | stack => .after e stack

def disjoin (e : LabelExpr) : List Frame → LabelExpr × List Frame
  | .disjunct l :: stack => (.or l e, stack)
  | stack => (e, stack)

def Reader.step? : Reader → LabelToken → Option Reader
  | .before stack, .atom label => some (complete (.atom label) stack)
  | .before stack, .not => some (.before (.negation :: stack))
  | .before stack, .opening => some (.before (.group :: stack))
  | .after e stack, .and => some (.before (.conjunct e :: stack))
  | .after e stack, .or => some (.before (.disjunct (disjoin e stack).1 :: (disjoin e stack).2))
  | .after e stack, .closing =>
    match disjoin e stack with
    | (e, .group :: stack) => some (complete e stack)
    | _ => none
  | _, _ => none

def Reader.result? : Reader → Option LabelExpr
  | .before _ => none
  | .after e stack =>
    match disjoin e stack with
    | (e, []) => some e
    | _ => none

def Reader.run (r : Reader) : List LabelToken.Placed → Except LabelError LabelExpr
  | [] => match r.result? with
    | some e => .ok e
    | none => .error .unexpectedEnd
  | t :: ts => match r.step? t.token with
    | some r => r.run ts
    | none => .error (.unexpected t.token.toText t.offset)

/-- Reads an expression: `||` joins conjunctions and `&&` what they conjoin, both to the left; `!`
binds tightest. -/
def parse (s : String) : Except LabelError LabelExpr :=
  match LabelToken.scan 0 s.toList with
  | .error e => .error e
  | .ok [] => .error .empty
  | .ok ts => (Reader.before []).run ts

end ContainerFleet.LabelExpr
