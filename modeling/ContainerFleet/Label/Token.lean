import ContainerFleet.Text.Blank

namespace ContainerFleet

/-- Why a text is no label expression. An offset counts bytes. -/
inductive LabelError where
  | empty
  | unexpected (found : String) (offset : Nat)
  | unexpectedEnd
deriving DecidableEq, Repr

def LabelError.message : LabelError → String
  | empty => "label expression is empty"
  | unexpected found offset => s!"unexpected '{found}' at offset {offset}"
  | unexpectedEnd => "unexpected end of label expression"

inductive LabelToken where
  | atom (label : String)
  | and
  | or
  | not
  | opening
  | closing
deriving DecidableEq, Repr

namespace LabelToken

def toText : LabelToken → String
  | atom label => label
  | and => "&&"
  | or => "||"
  | not => "!"
  | opening => "("
  | closing => ")"

def isAtomic (c : Char) : Bool :=
  !(Text.isBlank c || c = '(' || c = ')' || c = '!' || c = '&' || c = '|')

structure Placed where
  offset : Nat
  token : LabelToken
deriving DecidableEq, Repr

def width (cs : List Char) : Nat := cs.foldr (·.utf8Size + ·) 0

def next? : List Char → Option (LabelToken × List Char)
  | '(' :: cs => some (.opening, cs)
  | ')' :: cs => some (.closing, cs)
  | '!' :: cs => some (.not, cs)
  | '&' :: '&' :: cs => some (.and, cs)
  | '|' :: '|' :: cs => some (.or, cs)
  | c :: cs =>
    if isAtomic c then some (.atom (String.ofList (c :: cs.takeWhile isAtomic)), cs.dropWhile isAtomic)
    else none
  | [] => none

theorem length_next? {cs rest : List Char} {t : LabelToken} (h : next? cs = some (t, rest)) :
    rest.length < cs.length := by
  unfold next? at h
  split at h
  case h_6 c cs _ _ _ _ _ =>
    split at h
    · cases h
      exact Nat.lt_succ_of_le (List.dropWhile_suffix _).length_le
    · cases h
  case h_7 => cases h
  all_goals
    cases h
    simp only [List.length_cons]
    omega

/-- Splits a text at `offset` into tokens. The only text that is no token is an `&` or a `|` that
stands alone. -/
def scan (offset : Nat) (cs : List Char) : Except LabelError (List Placed) :=
  match cs with
  | [] => .ok []
  | c :: cs' =>
    if Text.isBlank c then scan (offset + c.utf8Size) cs'
    else match h : next? (c :: cs') with
      | none => .error (.unexpected (String.singleton c) offset)
      | some (t, rest) =>
        have : rest.length < (c :: cs').length := length_next? h
        (scan (offset + (width (c :: cs') - width rest)) rest).map (⟨offset, t⟩ :: ·)
termination_by cs.length
decreasing_by
  · exact Nat.lt_succ_self _
  · assumption

end LabelToken

end ContainerFleet
