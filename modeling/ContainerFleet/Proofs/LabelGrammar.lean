import ContainerFleet.Label.Expr
import ContainerFleet.Label.Token

namespace ContainerFleet

inductive Connective where
  | and
  | or

namespace Connective

def token : Connective → LabelToken
  | and => .and
  | or => .or

def combine : Connective → LabelExpr → LabelExpr → LabelExpr
  | and => .and
  | or => .or

end Connective

/-- What can be combined. The tightest comes first. -/
inductive Rank where
  | operand
  | chain (c : Connective)

abbrev Connective.member : Connective → Rank
  | and => .operand
  | or => .chain .and

inductive Phrase where
  | whole (r : Rank)
  | links (c : Connective)

/-- The derivations of the grammar

    chain or  := chain and ("||" chain and)*
    chain and := operand ("&&" operand)*
    operand   := "!" operand | "(" chain or ")" | atom

from its atoms up. A repetition is a list of links. -/
inductive Derivation : Phrase → Type where
  | atom (label : String) : Derivation (.whole .operand)
  | not (d : Derivation (.whole .operand)) : Derivation (.whole .operand)
  | group (d : Derivation (.whole (.chain .or))) : Derivation (.whole .operand)
  | stop {c : Connective} : Derivation (.links c)
  | link {c : Connective} (d : Derivation (.whole c.member)) (more : Derivation (.links c)) :
      Derivation (.links c)
  | chain {c : Connective} (first : Derivation (.whole c.member)) (more : Derivation (.links c)) :
      Derivation (.whole (.chain c))

abbrev Sentence := Derivation (.whole (.chain .or))

abbrev Phrase.Meaning : Phrase → Type
  | .whole _ => LabelExpr
  | .links _ => List LabelExpr

namespace Derivation

variable {c : Connective} {p : Phrase} {r r' : List LabelToken}

def tokens : {p : Phrase} → Derivation p → List LabelToken
  | _, atom label => [.atom label]
  | _, not d => .not :: d.tokens
  | _, group d => .opening :: (d.tokens ++ [.closing])
  | _, stop => []
  | _, @link c d more => c.token :: (d.tokens ++ more.tokens)
  | _, chain first more => first.tokens ++ more.tokens

/-- The expression that is derived. Chains are joined from the left. -/
def tree : {p : Phrase} → Derivation p → p.Meaning
  | _, atom label => .atom label
  | _, not d => .not d.tree
  | _, group d => d.tree
  | _, stop => []
  | _, link d more => d.tree :: more.tree
  | _, @chain c first more => more.tree.foldl c.combine first.tree

end Derivation

def Connective.EndsBefore (r : List LabelToken) : Connective → Prop
  | and => r.head? ≠ some .and
  | or => r.head? ≠ some .and ∧ r.head? ≠ some .or

def Phrase.EndsBefore (r : List LabelToken) : Phrase → Prop
  | whole .operand => True
  | whole (.chain c) | links c => c.EndsBefore r

namespace Derivation

variable {c : Connective} {p : Phrase} {r r' : List LabelToken}

theorem member_endsBefore (more : Derivation (.links c)) (h : c.EndsBefore r) :
    (Phrase.whole c.member).EndsBefore (more.tokens ++ r) := by
  cases c with
  | and => trivial
  | or =>
    cases more with
    | stop => exact h.1
    | link d more => nofun

theorem not_endsBefore (c : Connective) (r : List LabelToken) : ¬ c.EndsBefore (c.token :: r) := by
  cases c with
  | and => exact fun h => h rfl
  | or => exact fun h => h.2 rfl

/-- The grammar is unambiguous: what stands at the front of a list of tokens and goes on as far as it
can is derived in one way. -/
theorem eq_of_tokens (d d' : Derivation p) (hr : p.EndsBefore r) (hr' : p.EndsBefore r')
    (h : d.tokens ++ r = d'.tokens ++ r') : d = d' := by
  induction d generalizing r r' with
  | atom label =>
    cases d' with
    | atom label' =>
      simp only [tokens, List.cons_append, List.cons.injEq, LabelToken.atom.injEq] at h
      rw [h.1]
    | not d' => simp [tokens] at h
    | group d' => simp [tokens] at h
  | not d ih =>
    cases d' with
    | atom label' => simp [tokens] at h
    | not d' =>
      simp only [tokens, List.cons_append, List.cons.injEq, true_and] at h
      rw [ih d' trivial trivial h]
    | group d' => simp [tokens] at h
  | group d ih =>
    cases d' with
    | atom label' => simp [tokens] at h
    | not d' => simp [tokens] at h
    | group d' =>
      simp only [tokens, List.cons_append, List.append_assoc, List.cons.injEq, true_and] at h
      have hclose : ∀ r, (Phrase.whole (.chain .or)).EndsBefore (.closing :: r) := fun r => by
        constructor <;> nofun
      rw [ih d' (hclose r) (hclose r') h]
  | stop =>
    cases d' with
    | stop => rfl
    | link d' more' =>
      simp only [tokens, List.nil_append, List.cons_append] at h
      exact absurd (h ▸ hr) (not_endsBefore _ _)
  | link d more ih ihmore =>
    cases d' with
    | stop =>
      simp only [tokens, List.nil_append, List.cons_append] at h
      exact absurd (h ▸ hr') (not_endsBefore _ _)
    | link d' more' =>
      simp only [tokens, List.cons_append, List.append_assoc, List.cons.injEq, true_and] at h
      obtain rfl := ih d' (member_endsBefore more hr) (member_endsBefore more' hr') h
      rw [ihmore more' hr hr' (List.append_cancel_left h)]
  | chain first more ih ihmore =>
    cases d' with
    | chain first' more' =>
      simp only [tokens, List.append_assoc] at h
      obtain rfl := ih first' (member_endsBefore more hr) (member_endsBefore more' hr') h
      rw [ihmore more' hr hr' (List.append_cancel_left h)]

theorem tokens_inj {d d' : Sentence} : d.tokens = d'.tokens ↔ d = d' := by
  refine ⟨fun h => ?_, congrArg tokens⟩
  have hend : (Phrase.whole (.chain .or)).EndsBefore [] := ⟨nofun, nofun⟩
  exact eq_of_tokens d d' hend hend (congrArg (· ++ []) h)

def extend (more : Derivation (.links c)) (e : Derivation (.whole c.member)) : Derivation (.links c) :=
  match more with
  | stop => link e stop
  | link d more => link d (more.extend e)

theorem tokens_extend (more : Derivation (.links c)) (e : Derivation (.whole c.member)) :
    (more.extend e).tokens = more.tokens ++ c.token :: e.tokens := by
  fun_induction extend more e with
  | case1 => simp [tokens]
  | case2 d more ih => simp [tokens, ih]

theorem tree_extend (more : Derivation (.links c)) (e : Derivation (.whole c.member)) :
    (more.extend e).tree = more.tree ++ [e.tree] := by
  fun_induction extend more e with
  | case1 => rfl
  | case2 d more ih => simp only [tree, ih, List.cons_append]

def add (d : Derivation (.whole (.chain c))) (e : Derivation (.whole c.member)) :
    Derivation (.whole (.chain c)) :=
  match d with
  | chain first more => chain first (more.extend e)

variable (d : Derivation (.whole (.chain c))) (e : Derivation (.whole c.member))

theorem tokens_add : (d.add e).tokens = d.tokens ++ c.token :: e.tokens := by
  cases d with
  | chain first more => simp only [add, tokens, tokens_extend, List.append_assoc]

theorem tree_add : (d.add e).tree = c.combine d.tree e.tree := by
  cases d with
  | chain first more =>
    simp only [add, tree, tree_extend, List.foldl_append, List.foldl_cons, List.foldl_nil]

theorem tokens_single : (chain e stop).tokens = e.tokens := List.append_nil _

theorem tree_single : (chain e stop).tree = e.tree := rfl

end Derivation

end ContainerFleet
