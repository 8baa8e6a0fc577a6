import ContainerFleet.Proofs.LabelParse

namespace ContainerFleet

open LabelToken (Placed Lexes Ordinary WellFormed EndsBefore)

variable {s t : String} {ts us : List LabelToken}

/-- The text gives the tokens, wherever it is not followed by more of an atom. -/
def Spells (s : String) (ts : List LabelToken) : Prop :=
  ∀ n rest ps, (∀ c ∈ rest.head?, ¬ Ordinary c) → Lexes (n + s.utf8ByteSize) rest ps →
    ∃ qs, Lexes n (s.toList ++ rest) (qs ++ ps) ∧ qs.map (·.token) = ts

namespace Spells

theorem nil : Spells "" [] := fun _ _ _ _ h => ⟨[], h, rfl⟩

theorem atom {label : String} (h : (LabelToken.atom label).WellFormed) :
    Spells label [.atom label] :=
  fun _ _ _ hrest hps => ⟨[⟨_, _⟩], .token h hrest hps, rfl⟩

theorem cons {t : LabelToken} (hw : t.WellFormed) (he : ∀ rest, t.EndsBefore rest)
    (h : Spells s ts) : Spells (t.toText ++ s) (t :: ts) := by
  intro n rest ps hrest hps
  rw [String.utf8ByteSize_append, ← Nat.add_assoc] at hps
  obtain ⟨qs, hqs, rfl⟩ := h _ rest ps hrest hps
  refine ⟨⟨n, t⟩ :: qs, ?_, rfl⟩
  rw [String.toList_append, List.append_assoc]
  exact .token hw (he _) hqs

theorem blank (h : Spells s ts) : Spells (" " ++ s) ts := by
  intro n rest ps hrest hps
  rw [String.utf8ByteSize_append, ← Nat.add_assoc] at hps
  obtain ⟨qs, hqs, rfl⟩ := h _ rest ps hrest hps
  refine ⟨qs, ?_, rfl⟩
  rw [String.toList_append, List.append_assoc]
  have hblank : Text.isBlank ' ' = true := by decide
  exact .blank hblank hqs

theorem append (hs : Spells s ts) (ht : Spells t us) (hc : ∀ c ∈ t.toList.head?, ¬ Ordinary c) :
    Spells (s ++ t) (ts ++ us) := by
  intro n rest ps hrest hps
  rw [String.utf8ByteSize_append, ← Nat.add_assoc] at hps
  obtain ⟨qs, hqs, rfl⟩ := ht _ rest ps hrest hps
  have hnext : ∀ c ∈ (t.toList ++ rest).head?, ¬ Ordinary c := by
    cases h : t.toList with
    | nil => exact hrest
    | cons d ds => exact fun c hd => hc c (h ▸ hd)
  obtain ⟨qs', hqs', rfl⟩ := hs n _ _ hnext hqs
  refine ⟨qs' ++ qs, ?_, List.map_append⟩
  rwa [String.toList_append, List.append_assoc, List.append_assoc]

theorem joined (c : Connective) (hs : Spells s ts) (ht : Spells t us) :
    Spells ("(" ++ (s ++ (" " ++ (c.token.toText ++ (" " ++ (t ++ ")"))))))
      (.opening :: (ts ++ c.token :: (us ++ [.closing]))) := by
  have hclose : Spells ")" [.closing] := nil.cons (t := .closing) trivial fun _ => trivial
  have hparen : ∀ d ∈ ")".toList.head?, ¬ Ordinary d := fun d hd => by
    obtain rfl := Option.some.inj hd
    decide
  have hright := (ht.append hclose hparen).blank
  have hmiddle : Spells (c.token.toText ++ (" " ++ (t ++ ")"))) (c.token :: (us ++ [.closing])) :=
    hright.cons (by cases c <;> trivial) fun _ => by cases c <;> trivial
  have hleft := hs.append hmiddle.blank fun d hd => by
    rw [String.toList_append] at hd
    obtain rfl := Option.some.inj hd
    decide
  exact hleft.cons (t := .opening) trivial fun _ => trivial

theorem hasTokens (h : Spells s ts) : LabelExpr.HasTokens s ts := by
  obtain ⟨qs, hqs, rfl⟩ := h 0 [] [] nofun (.done _)
  rw [List.append_nil, List.append_nil] at hqs
  exact ⟨qs, hqs, rfl⟩

end Spells

namespace LabelExpr

def atoms : LabelExpr → List String
  | atom label => [label]
  | not e => e.atoms
  | and l r | or l r => l.atoms ++ r.atoms

def Printable (e : LabelExpr) : Prop := ∀ label ∈ e.atoms, (LabelToken.atom label).WellFormed

/-- How the text of an expression is derived. What an operator joins stands in parentheses, so all of
it is an operand. -/
def derivation : LabelExpr → Derivation (.whole .operand)
  | atom label => .atom label
  | not e => .not e.derivation
  | and l r => .group (.chain (.chain l.derivation (.link r.derivation .stop)) .stop)
  | or l r =>
    .group (.chain (.chain l.derivation .stop) (.link (.chain r.derivation .stop) .stop))

variable {e : LabelExpr}

theorem tree_derivation (e : LabelExpr) : e.derivation.tree = e := by
  induction e with
  | atom label => rfl
  | not e ih => exact congrArg LabelExpr.not ih
  | and l r ihl ihr => exact congrArg₂ LabelExpr.and ihl ihr
  | or l r ihl ihr => exact congrArg₂ LabelExpr.or ihl ihr

section Combine

variable (c : Connective) (l r : LabelExpr)

theorem toText_combine : (c.combine l r).toText =
    "(" ++ (l.toText ++ (" " ++ (c.token.toText ++ (" " ++ (r.toText ++ ")"))))) := by
  cases c <;> simp only [Connective.combine, toText, String.append_assoc] <;> rfl

theorem tokens_combine : (c.combine l r).derivation.tokens =
    .opening :: (l.derivation.tokens ++ c.token :: (r.derivation.tokens ++ [.closing])) := by
  cases c <;>
    simp [Connective.combine, Connective.token, derivation, Derivation.tokens]

theorem atoms_combine : (c.combine l r).atoms = l.atoms ++ r.atoms := by cases c <;> rfl

end Combine

theorem spells_combine {l r : LabelExpr} (c : Connective) (hl : Spells l.toText l.derivation.tokens)
    (hr : Spells r.toText r.derivation.tokens) :
    Spells (c.combine l r).toText (c.combine l r).derivation.tokens := by
  rw [toText_combine, tokens_combine]
  exact .joined c hl hr

theorem spells_toText (he : e.Printable) : Spells e.toText e.derivation.tokens := by
  induction e with
  | atom label => exact .atom (he label List.mem_cons_self)
  | not e ih => exact (ih he).cons (t := .not) trivial fun _ => trivial
  | and l r ihl ihr =>
    obtain ⟨hl, hr⟩ := List.forall_mem_append.1 he
    exact spells_combine .and (ihl hl) (ihr hr)
  | or l r ihl ihr =>
    obtain ⟨hl, hr⟩ := List.forall_mem_append.1 he
    exact spells_combine .or (ihl hl) (ihr hr)

theorem parse_toText_of_printable (he : e.Printable) : parse e.toText = .ok e := by
  have h := parse_of_tokens (.chain (.chain e.derivation .stop) .stop)
    (by simpa only [Derivation.tokens_single] using (spells_toText he).hasTokens)
  rwa [Derivation.tree_single, Derivation.tree_single, tree_derivation] at h

end LabelExpr

def Phrase.atoms : {p : Phrase} → p.Meaning → List String
  | whole _, e => LabelExpr.atoms e
  | links _, es => es.flatMap LabelExpr.atoms

namespace Derivation

theorem atoms_foldl (c : Connective) (es : List LabelExpr) (e : LabelExpr) :
    (es.foldl c.combine e).atoms = e.atoms ++ es.flatMap LabelExpr.atoms := by
  induction es generalizing e with
  | nil => simp
  | cons e' es ih => simp [ih, LabelExpr.atoms_combine]

theorem mem_tokens_of_mem_atoms {p : Phrase} (d : Derivation p) {label : String}
    (h : label ∈ Phrase.atoms d.tree) : .atom label ∈ d.tokens := by
  induction d with
  | atom label' => exact List.mem_singleton.2 (congrArg LabelToken.atom (List.mem_singleton.1 h))
  | not d ih => exact List.mem_cons_of_mem _ (ih h)
  | group d ih => exact List.mem_cons_of_mem _ (List.mem_append_left _ (ih h))
  | stop => cases h
  | link d more ih ihmore =>
    rw [tree, Phrase.atoms, List.flatMap_cons] at h
    exact List.mem_cons_of_mem _ (List.mem_append.2 ((List.mem_append.1 h).imp ih ihmore))
  | chain first more ih ihmore =>
    rw [tree, Phrase.atoms, atoms_foldl] at h
    exact List.mem_append.2 ((List.mem_append.1 h).imp ih ihmore)

end Derivation

namespace LabelExpr

theorem printable_of_parse (h : parse s = .ok e) : e.Printable := by
  obtain ⟨d, ⟨ps, hps, htokens⟩, rfl⟩ := tokens_of_parse h
  intro label hlabel
  have hmem := d.mem_tokens_of_mem_atoms hlabel
  rw [← htokens] at hmem
  obtain ⟨p, hp, htoken⟩ := List.mem_map.1 hmem
  exact htoken ▸ hps.wellFormed p hp

/-- The expressions whose labels are words are those that are read back from their texts. The reader
gives no others, so what it has read once it reads again, from a text that then stays as it is. -/
theorem printed_reads_back (s : String) (e : LabelExpr) :
    (parse e.toText = .ok e ↔ e.Printable) ∧
      (parse s = .ok e → e.Printable ∧ parse e.toText = parse s ∧
        (parse e.toText).map toText = .ok e.toText) := by
  refine ⟨⟨printable_of_parse, parse_toText_of_printable⟩, fun h => ?_⟩
  have he := printable_of_parse h
  have hback := parse_toText_of_printable he
  refine ⟨he, hback.trans h.symm, ?_⟩
  rw [hback]
  rfl

theorem printed_reads_back_nested :
    let e : LabelExpr := .or (.and (.not (.not (.atom "a"))) (.not (.or (.atom "b") (.atom "c"))))
      (.atom "d")
    parse "!!a&&!(b || c) || d" = .ok e ∧ e.toText = "((!!a && !(b || c)) || d)" ∧ e.Printable ∧
      parse e.toText = .ok e ∧ (parse e.toText).map toText = .ok e.toText := by
  have h : parse "!!a&&!(b || c) || d" = .ok (.or (.and (.not (.not (.atom "a")))
      (.not (.or (.atom "b") (.atom "c")))) (.atom "d")) := by
    decide +kernel
  obtain ⟨he, hback, hfixed⟩ := (printed_reads_back _ _).2 h
  exact ⟨h, rfl, he, hback.trans h, hfixed⟩

end LabelExpr

end ContainerFleet
