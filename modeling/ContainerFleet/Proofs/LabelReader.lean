import ContainerFleet.Label.Parser
import ContainerFleet.Proofs.LabelGrammar

namespace ContainerFleet

open LabelExpr (Frame Reader complete disjoin)

/-- Where a chain has been read up to `e`, before the operators in `stack`. -/
def Connective.Read (e : LabelExpr) (stack : List Frame) (r : Reader) : Connective → Prop
  | and => r = .after e stack
  | or => ∃ e' stack', r = .after e' stack' ∧ disjoin e' stack' = (e, stack)

/-- No operator of the stack binds as tight as the chain's own. -/
def Connective.Fits (stack : List Frame) : Connective → Prop
  | and => ∀ e, complete e stack = .after e stack
  | or => ∀ e, complete e stack = .after e stack ∧ disjoin e stack = (e, stack)

def Connective.frame : Connective → LabelExpr → Frame
  | and => .conjunct
  | or => .disjunct

namespace LabelExpr.Reader

variable {r : Reader} {c : Connective} {e l : LabelExpr} {stack : List Frame} {ts us : List LabelToken}

def read? (r : Reader) (ts : List LabelToken) : Option Reader := ts.foldlM step? r

theorem read?_append : r.read? (ts ++ us) = (r.read? ts).bind (·.read? us) := List.foldlM_append ..

theorem read?_cons {t : LabelToken} : r.read? (t :: ts) = (r.step? t).bind (·.read? ts) :=
  List.foldlM_cons ..

theorem read?_then {r' r'' : Reader} (h : r.read? ts = some r') (h' : r'.read? us = some r'') :
    r.read? (ts ++ us) = some r'' := by
  rw [read?_append, h]
  exact h'

def Takes : {p : Phrase} → Derivation p → Prop
  | .whole .operand, d => ∀ stack, (before stack).read? d.tokens = some (complete d.tree stack)
  | .whole (.chain c), d => ∀ stack, c.Fits stack →
      ∃ r, (before stack).read? d.tokens = some r ∧ c.Read d.tree stack r
  | .links c, d => ∀ stack e r, c.Read e stack r →
      ∃ r', r.read? d.tokens = some r' ∧ c.Read (d.tree.foldl c.combine e) stack r'

theorem takes_first {d : Derivation (.whole c.member)} (h : Takes d) (hs : c.Fits stack) :
    ∃ r, (before stack).read? d.tokens = some r ∧ c.Read d.tree stack r := by
  cases c with
  | and => exact ⟨_, h stack, hs d.tree⟩
  | or =>
    obtain ⟨r, hr, hread⟩ := h stack fun e => (hs e).1
    exact ⟨r, hr, _, _, hread, (hs d.tree).2⟩

theorem takes_next {d : Derivation (.whole c.member)} (h : Takes d) (hl : c.Read l stack r) :
    ∃ r', r.read? (c.token :: d.tokens) = some r' ∧ c.Read (c.combine l d.tree) stack r' := by
  cases c with
  | and =>
    obtain rfl := hl
    exact ⟨_, h (.conjunct l :: stack), rfl⟩
  | or =>
    obtain ⟨e', stack', rfl, hj⟩ := hl
    obtain ⟨r', hr, hread⟩ := h (.disjunct l :: stack) fun e => rfl
    refine ⟨r', ?_, _, _, hread, rfl⟩
    rw [read?_cons, ← hr]
    simp only [Connective.token, step?, hj, Option.bind_some]

theorem takes {p : Phrase} (d : Derivation p) : Takes d := by
  induction d with
  | atom label => exact fun stack => rfl
  | not d ih => exact fun stack => ih (.negation :: stack)
  | group d ih =>
    intro stack
    obtain ⟨r, hr, e', stack', rfl, hj⟩ := ih (.group :: stack) fun e => ⟨rfl, rfl⟩
    have hclose : (after e' stack').read? [.closing] = some (complete d.tree stack) := by
      simp only [read?_cons, step?, hj]
      rfl
    exact read?_then hr hclose
  | stop => exact fun stack e r h => ⟨r, rfl, h⟩
  | @link c d more ih ihmore =>
    intro stack e r h
    obtain ⟨r₁, hr₁, h₁⟩ := takes_next ih h
    obtain ⟨r₂, hr₂, h₂⟩ := ihmore stack _ r₁ h₁
    exact ⟨r₂, read?_then hr₁ hr₂, h₂⟩
  | @chain c first more ih ihmore =>
    intro stack hs
    obtain ⟨r₁, hr₁, h₁⟩ := takes_first ih hs
    obtain ⟨r₂, hr₂, h₂⟩ := ihmore stack _ r₁ h₁
    exact ⟨r₂, read?_then hr₁ hr₂, h₂⟩

/-- A sentence is read to its end, and gives its expression. -/
theorem read?_sentence (d : Sentence) :
    ∃ r, (before []).read? d.tokens = some r ∧ r.result? = some d.tree := by
  obtain ⟨r, hr, e', stack', rfl, hj⟩ := takes d [] fun e => ⟨rfl, rfl⟩
  exact ⟨_, hr, by simp only [result?, hj]⟩

/-- The tokens `ts` lead to a place where a phrase of the rank may stand, before the operators in
`stack`. -/
inductive Leads : Rank → List Frame → List LabelToken → Prop
  | start : Leads (.chain .or) [] []
  | group {stack : List Frame} {ts : List LabelToken} : Leads .operand stack ts →
      Leads (.chain .or) (.group :: stack) (ts ++ [.opening])
  | disjunct {stack : List Frame} {ts : List LabelToken} (d : Sentence) :
      Leads (.chain .or) stack ts →
      Leads (.chain .and) (.disjunct d.tree :: stack) (ts ++ (d.tokens ++ [.or]))
  | conjunction {stack : List Frame} {ts : List LabelToken} : Leads (.chain .or) stack ts →
      Leads (.chain .and) stack ts
  | conjunct {stack : List Frame} {ts : List LabelToken} (d : Derivation (.whole (.chain .and))) :
      Leads (.chain .and) stack ts →
      Leads .operand (.conjunct d.tree :: stack) (ts ++ (d.tokens ++ [.and]))
  | negation {stack : List Frame} {ts : List LabelToken} : Leads .operand stack ts →
      Leads .operand (.negation :: stack) (ts ++ [.not])
  | operand {stack : List Frame} {ts : List LabelToken} : Leads (.chain .and) stack ts →
      Leads .operand stack ts

def Stands (ts : List LabelToken) : Reader → Prop
  | before stack => Leads .operand stack ts
  | after e stack => ∃ us, ∃ d : Derivation (.whole (.chain .and)),
      Leads (.chain .and) stack us ∧ d.tree = e ∧ us ++ d.tokens = ts

theorem stands_single (h : Leads (.chain .and) stack us) (d : Derivation (.whole .operand)) :
    (after d.tree stack).Stands (us ++ d.tokens) :=
  ⟨us, .chain d .stop, h, rfl, by rw [Derivation.tokens_single]⟩

theorem complete_stands (h : Leads .operand stack us) (d : Derivation (.whole .operand)) :
    (complete d.tree stack).Stands (us ++ d.tokens) := by
  induction stack generalizing us d with
  | nil =>
    cases h with
    | operand h => exact stands_single h d
  | cons f stack ih =>
    cases h with
    | @negation stack ts h =>
      have hmore := ih h (.not d)
      rwa [Derivation.tokens, ← List.singleton_append, ← List.append_assoc] at hmore
    | conjunct d' h =>
      refine ⟨_, d'.add d, h, d'.tree_add d, ?_⟩
      simp only [Derivation.tokens_add, Connective.token, List.append_assoc, List.singleton_append]
    | operand h =>
      cases h with
      | disjunct d' h => exact stands_single (.disjunct d' h) d
      | conjunction h =>
        cases h with
        | group h => exact stands_single (.conjunction (.group h)) d

theorem disjoin_leads (h : Leads (.chain .and) stack us) (d : Derivation (.whole (.chain .and))) :
    ∃ vs, ∃ d' : Sentence, Leads (.chain .or) (disjoin d.tree stack).2 vs ∧
      d'.tree = (disjoin d.tree stack).1 ∧ vs ++ d'.tokens = us ++ d.tokens := by
  cases h with
  | @disjunct stack ts d' h =>
    refine ⟨ts, d'.add d, h, d'.tree_add d, ?_⟩
    simp only [Derivation.tokens_add, Connective.token, List.append_assoc, List.singleton_append]
  | conjunction h =>
    have hj : disjoin d.tree stack = (d.tree, stack) := by cases h <;> rfl
    rw [hj]
    exact ⟨us, .chain d .stop, h, rfl, by rw [Derivation.tokens_single]⟩

theorem Stands.step {r' : Reader} {t : LabelToken} (h : r.Stands ts) (hs : r.step? t = some r') :
    r'.Stands (ts ++ [t]) := by
  cases r with
  | before stack =>
    cases t with
    | atom label =>
      obtain rfl := Option.some.inj hs
      exact complete_stands h (.atom label)
    | not =>
      obtain rfl := Option.some.inj hs
      exact .negation h
    | opening =>
      obtain rfl := Option.some.inj hs
      exact .operand (.conjunction (.group h))
    | and | or | closing => cases hs
  | after e stack =>
    obtain ⟨us, d, hlead, rfl, rfl⟩ := h
    obtain ⟨vs, d', hlead', htree, htokens⟩ := disjoin_leads hlead d
    cases t with
    | atom label => cases hs
    | not | opening => cases hs
    | and =>
      obtain rfl := Option.some.inj hs
      rw [List.append_assoc]
      exact .conjunct d hlead
    | or =>
      obtain rfl := Option.some.inj hs
      rw [← htokens, ← htree, List.append_assoc]
      exact .operand (.disjunct d' hlead')
    | closing =>
      simp only [step?] at hs
      split at hs
      · rename_i e stack' hj
        cases hs
        rw [hj] at hlead' htree
        obtain rfl : d'.tree = e := htree
        cases hlead' with
        | @group _ us h =>
          have hgroup := complete_stands h (.group d')
          rwa [Derivation.tokens, ← List.cons_append, ← List.singleton_append,
            ← List.append_assoc, ← List.append_assoc, htokens] at hgroup
      · cases hs

theorem Stands.read {r' : Reader} (h : r.Stands ts) (hr : r.read? us = some r') :
    r'.Stands (ts ++ us) := by
  induction us generalizing r ts with
  | nil =>
    obtain rfl := Option.some.inj hr
    rwa [List.append_nil]
  | cons t us ih =>
    rw [read?_cons, Option.bind_eq_some_iff] at hr
    obtain ⟨r₁, hstep, hr⟩ := hr
    have hmore := ih (h.step hstep) hr
    rwa [List.append_assoc, List.singleton_append] at hmore

theorem Stands.result (h : r.Stands ts) (hr : r.result? = some e) :
    ∃ d : Sentence, d.tokens = ts ∧ d.tree = e := by
  cases r with
  | before stack => cases hr
  | after e' stack =>
    obtain ⟨us, d, hlead, rfl, rfl⟩ := h
    obtain ⟨vs, d', hlead', htree, htokens⟩ := disjoin_leads hlead d
    simp only [result?] at hr
    split at hr
    · rename_i hj
      cases hr
      rw [hj] at hlead' htree
      cases hlead'
      exact ⟨d', htokens, htree⟩
    · cases hr

def Closes (k : Rank) (ts : List LabelToken) : Prop :=
  ∃ n, ∀ d : Derivation (.whole k), ∃ d' : Sentence,
    d'.tokens = ts ++ (d.tokens ++ List.replicate n .closing)

theorem Closes.first (h : Closes (.chain c) ts) : Closes c.member ts := by
  obtain ⟨n, hn⟩ := h
  refine ⟨n, fun d => ?_⟩
  obtain ⟨d', hd'⟩ := hn (.chain d .stop)
  exact ⟨d', by rw [hd', Derivation.tokens_single]⟩

theorem Closes.next (l : Derivation (.whole (.chain c))) (h : Closes (.chain c) ts) :
    Closes c.member (ts ++ (l.tokens ++ [c.token])) := by
  obtain ⟨n, hn⟩ := h
  refine ⟨n, fun d => ?_⟩
  obtain ⟨d', hd'⟩ := hn (l.add d)
  exact ⟨d', by simp [hd', Derivation.tokens_add]⟩

theorem Leads.closes {k : Rank} (h : Leads k stack ts) : Closes k ts := by
  induction h with
  | start => exact ⟨0, fun d => ⟨d, by simp⟩⟩
  | group _ ih =>
    obtain ⟨n, hn⟩ := ih
    refine ⟨n + 1, fun d => ?_⟩
    obtain ⟨d', hd'⟩ := hn (.group d)
    exact ⟨d', by simp [hd', Derivation.tokens, List.replicate_succ]⟩
  | disjunct l _ ih => exact Closes.next (c := .or) l ih
  | conjunction _ ih => exact Closes.first (c := .or) ih
  | conjunct l _ ih => exact Closes.next (c := .and) l ih
  | negation _ ih =>
    obtain ⟨n, hn⟩ := ih
    refine ⟨n, fun d => ?_⟩
    obtain ⟨d', hd'⟩ := hn (.not d)
    exact ⟨d', by simp [hd', Derivation.tokens]⟩
  | operand _ ih => exact Closes.first (c := .and) ih

end LabelExpr.Reader

end ContainerFleet
