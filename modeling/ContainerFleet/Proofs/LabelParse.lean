import ContainerFleet.Proofs.LabelReader
import ContainerFleet.Proofs.Lexeme

namespace ContainerFleet.LabelExpr

open LabelToken (Placed Lexes Stray)

variable {s : String} {e : LabelExpr} {ps : List Placed} {ts : List LabelToken}

namespace Reader

variable {r r' : Reader} {pre post : List Placed} {p : Placed}

theorem run_of_read? (h : r.read? (ps.map (·.token)) = some r') :
    r.run ps = match r'.result? with
      | some e => .ok e
      | none => .error .unexpectedEnd := by
  induction ps generalizing r with
  | nil =>
    obtain rfl := Option.some.inj h
    rfl
  | cons p ps ih =>
    rw [List.map_cons, read?_cons, Option.bind_eq_some_iff] at h
    obtain ⟨r₁, hstep, h⟩ := h
    rw [run, hstep]
    exact ih h

theorem run_of_stuck (h : r.read? (pre.map (·.token)) = some r')
    (hp : r'.step? p.token = none) :
    r.run (pre ++ p :: post) = .error (.unexpected p.token.toText p.offset) := by
  induction pre generalizing r with
  | nil =>
    obtain rfl := Option.some.inj h
    rw [List.nil_append, run, hp]
  | cons q pre ih =>
    rw [List.map_cons, read?_cons, Option.bind_eq_some_iff] at h
    obtain ⟨r₁, hstep, h⟩ := h
    rw [List.cons_append, run, hstep]
    exact ih h

/-- The reader comes to the end, or there is a first token that cannot stand where it does. -/
theorem read?_or_stuck (r : Reader) (ps : List Placed) :
    (∃ r', r.read? (ps.map (·.token)) = some r') ∨
      ∃ pre p post r', ps = pre ++ p :: post ∧
        r.read? (pre.map (·.token)) = some r' ∧ r'.step? p.token = none := by
  induction ps generalizing r with
  | nil => exact .inl ⟨r, rfl⟩
  | cons p ps ih =>
    cases hstep : r.step? p.token with
    | none => exact .inr ⟨[], p, ps, r, rfl, rfl, hstep⟩
    | some r₁ =>
      have hread : ∀ ts, r.read? (p.token :: ts) = r₁.read? ts := fun ts => by
        rw [read?_cons, hstep, Option.bind_some]
      obtain ⟨r', hr'⟩ | ⟨pre, q, post, r', rfl, hr', hq⟩ := ih r₁
      · exact .inl ⟨r', by rw [List.map_cons, hread, hr']⟩
      · exact .inr ⟨p :: pre, q, post, r', rfl, by rw [List.map_cons, hread, hr'], hq⟩

theorem stands_start : (before []).Stands [] := Leads.operand (.conjunction .start)

end Reader

def HasTokens (s : String) (ts : List LabelToken) : Prop :=
  ∃ ps, Lexes 0 s.toList ps ∧ ps.map (·.token) = ts

theorem parse_of_lexes (h : Lexes 0 s.toList ps) (hne : ps ≠ []) :
    parse s = (Reader.before []).run ps := by
  rw [parse, LabelToken.scan_of_lexes h]
  split
  · rename_i heq
    cases heq
  · rename_i heq
    exact absurd (Except.ok.inj heq) hne
  · rename_i heq
    rw [Except.ok.inj heq]

theorem parse_of_blank (h : Lexes 0 s.toList []) : parse s = .error .empty := by
  rw [parse, LabelToken.scan_of_lexes h]

theorem parse_of_stray {pre post : List Char} {c : Char} (h : Stray 0 s.toList pre c post) :
    parse s = .error (.unexpected (String.singleton c) (LabelToken.width pre)) := by
  rw [parse, h.scan, Nat.zero_add]

theorem parse_of_tokens (d : Sentence) (h : HasTokens s d.tokens) : parse s = .ok d.tree := by
  obtain ⟨ps, hps, htokens⟩ := h
  obtain ⟨r, hr, hresult⟩ := Reader.read?_sentence d
  have hne : ps ≠ [] := by
    rintro rfl
    rw [← htokens] at hr
    obtain rfl := Option.some.inj hr
    cases hresult
  rw [parse_of_lexes hps hne, Reader.run_of_read? (htokens ▸ hr), hresult]

theorem tokens_of_parse (h : parse s = .ok e) : ∃ d : Sentence, HasTokens s d.tokens ∧ d.tree = e := by
  obtain ⟨ps, hps⟩ | ⟨pre, c, post, hstray⟩ := LabelToken.lexes_or_stray 0 s.toList
  · by_cases hne : ps = []
    · subst hne
      rw [parse_of_blank hps] at h
      cases h
    · rw [parse_of_lexes hps hne] at h
      obtain ⟨r, hr⟩ | ⟨pre, p, post, r, rfl, hr, hp⟩ := Reader.read?_or_stuck (.before []) ps
      · rw [Reader.run_of_read? hr] at h
        split at h
        · rename_i e' hresult
          obtain rfl := Except.ok.inj h
          obtain ⟨d, hd, rfl⟩ := (Reader.stands_start.read hr).result hresult
          exact ⟨d, ⟨ps, hps, hd.symm⟩, rfl⟩
        · cases h
      · rw [Reader.run_of_stuck hr hp] at h
        cases h
  · rw [parse_of_stray hstray] at h
    cases h

/-- The reader accepts the texts whose tokens the grammar derives, no others, and gives the expression
of the only derivation. -/
theorem parse_eq_ok_iff (s : String) (e : LabelExpr) :
    parse s = .ok e ↔ ∃ ts, HasTokens s ts ∧
      ∃ d : Sentence, (d.tokens = ts ∧ ∀ d' : Sentence, d'.tokens = ts → d' = d) ∧ d.tree = e := by
  constructor
  · intro h
    obtain ⟨d, ht, htree⟩ := tokens_of_parse h
    have honly : ∀ d' : Sentence, d'.tokens = d.tokens → d' = d := fun d' => Derivation.tokens_inj.1
    exact ⟨d.tokens, ht, d, ⟨rfl, honly⟩, htree⟩
  · rintro ⟨ts, ht, d, ⟨rfl, -⟩, rfl⟩
    exact parse_of_tokens d ht

example : parse "a || b && !c && d" =
    .ok (.or (.atom "a") (.and (.and (.atom "b") (.not (.atom "c"))) (.atom "d"))) := by
  decide +kernel

end ContainerFleet.LabelExpr
