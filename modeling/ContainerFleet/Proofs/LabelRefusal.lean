import ContainerFleet.Proofs.LabelParse

namespace ContainerFleet.LabelExpr

open LabelToken (Placed Lexes Stray WellFormed)

variable {s : String} {ps : List Placed} {ts : List LabelToken}

def Expresses (s : String) (ts : List LabelToken) : Prop :=
  HasTokens s ts ∧ ∃ d : Sentence, d.tokens = ts

/-- Some expression starts with the tokens, and goes on. -/
def Unfinished (ts : List LabelToken) : Prop := ∃ s more, more ≠ [] ∧ Expresses s (ts ++ more)

def Viable (ts : List LabelToken) : Prop := ∃ s more, Expresses s (ts ++ more)

theorem Viable.unfinished (h : Viable ts) (hs : ¬ Expresses s ts) (ht : HasTokens s ts) :
    Unfinished ts := by
  obtain ⟨s', more, htokens, d, hd⟩ := h
  refine ⟨s', more, ?_, htokens, d, hd⟩
  rintro rfl
  exact hs ⟨ht, d, by rw [hd, List.append_nil]⟩

theorem exists_hasTokens (h : ∀ t ∈ ts, t.WellFormed) : ∃ s, HasTokens s ts := by
  obtain ⟨cs, ps, hps, rfl⟩ := LabelToken.exists_lexes ts h 0
  exact ⟨String.ofList cs, ps, by rwa [String.toList_ofList], rfl⟩

namespace Reader

/-- Wherever the reader stands, what it has read can be completed. -/
theorem Stands.completes {r : Reader} (h : r.Stands ts) :
    ∃ more, (∀ t ∈ more, t.WellFormed) ∧ ∃ d : Sentence, d.tokens = ts ++ more := by
  have hclosing : ∀ n, ∀ t ∈ List.replicate n LabelToken.closing, t.WellFormed := by
    intro n t ht
    rw [List.eq_of_mem_replicate ht]
    trivial
  cases r with
  | before stack =>
    obtain ⟨n, hn⟩ := Leads.closes h
    obtain ⟨d, hd⟩ := hn (.atom "x")
    refine ⟨_, ?_, d, hd⟩
    exact List.forall_mem_append.2 ⟨by simp [Derivation.tokens, WellFormed]; decide, hclosing n⟩
  | after e stack =>
    obtain ⟨us, d, hlead, rfl, rfl⟩ := h
    obtain ⟨n, hn⟩ := hlead.closes
    obtain ⟨d', hd'⟩ := hn d
    exact ⟨_, hclosing n, d', by rw [hd', List.append_assoc]⟩

/-- The reader goes on exactly as long as what it has read starts an expression. -/
theorem read?_iff_viable (ht : ∀ t ∈ ts, t.WellFormed) :
    (∃ r, (before []).read? ts = some r) ↔ Viable ts := by
  constructor
  · rintro ⟨r, hr⟩
    obtain ⟨more, hmore, d, hd⟩ := (stands_start.read hr).completes
    obtain ⟨s, hs⟩ := exists_hasTokens (List.forall_mem_append.2 ⟨ht, hmore⟩)
    exact ⟨s, more, hs, d, hd⟩
  · rintro ⟨s, more, -, d, hd⟩
    obtain ⟨r, hr, -⟩ := read?_sentence d
    rw [hd, read?_append, Option.bind_eq_some_iff] at hr
    obtain ⟨r', hr', -⟩ := hr
    exact ⟨r', hr'⟩

end Reader

/-- What an error says of a text that is no expression. -/
structure Explains (s : String) (e : LabelError) : Prop where
  empty : e = .empty ↔ ∀ c ∈ s.toList, Text.isBlank c = true
  stray : ∀ pre c post, Stray 0 s.toList pre c post →
    e = .unexpected (String.singleton c) (String.ofList pre).utf8ByteSize
  lexed : (∀ pre c post, ¬ Stray 0 s.toList pre c post) → ∃ ps, Lexes 0 s.toList ps
  unfinished : ∀ ps, Lexes 0 s.toList ps → ps ≠ [] →
    (e = .unexpectedEnd ↔ Unfinished (ps.map (·.token)))
  /-- No more tokens do, and this is the first one with which that is so. -/
  misplaced : ∀ ps, Lexes 0 s.toList ps → ps ≠ [] → ¬ Unfinished (ps.map (·.token)) →
    ∃ pre p post, ps = pre ++ p :: post ∧ Viable (pre.map (·.token)) ∧
      ¬ Viable ((pre ++ [p]).map (·.token)) ∧ e = .unexpected p.token.toText p.offset
  located : ∀ found offset, e = .unexpected found offset →
    String.Pos.Raw.IsValid s ⟨offset⟩ ∧
      ∃ pre post, s = pre ++ (found ++ post) ∧ pre.utf8ByteSize = offset

theorem located_of_split {pre post : List Char} {found : String}
    (h : s.toList = pre ++ (found.toList ++ post)) :
    String.Pos.Raw.IsValid s ⟨LabelToken.width pre⟩ ∧
      ∃ pre' post', s = pre' ++ (found ++ post') ∧ pre'.utf8ByteSize = LabelToken.width pre := by
  have hs : s = String.ofList pre ++ (found ++ String.ofList post) := by
    rw [← String.toList_inj, String.toList_append, String.toList_append, String.toList_ofList,
      String.toList_ofList, h]
  rw [LabelToken.width_eq]
  exact ⟨String.Pos.Raw.isValid_iff_exists_append.2 ⟨_, _, hs, rfl⟩, _, _, hs, rfl⟩

theorem explains_stray {pre post : List Char} {c : Char} (h : Stray 0 s.toList pre c post) :
    Explains s (.unexpected (String.singleton c) (LabelToken.width pre)) where
  empty := by
    refine ⟨nofun, fun hblank => ?_⟩
    have hc : c ∈ s.toList := by simp [h.split]
    exact absurd (hblank c hc) (by simp [h.lone.not_blank])
  stray pre' c' post' h' := by
    rw [← LabelToken.width_eq]
    exact Except.error.inj ((parse_of_stray h).symm.trans (parse_of_stray h'))
  lexed hnone := absurd h (hnone pre c post)
  unfinished _ hps := absurd h hps.not_stray
  misplaced _ hps := absurd h hps.not_stray
  located found offset he := by
    obtain ⟨rfl, rfl⟩ := LabelError.unexpected.inj he
    have hs : s.toList = pre ++ ((String.singleton c).toList ++ post) := by simp [h.split]
    exact located_of_split hs

theorem explains_blank (h : Lexes 0 s.toList []) : Explains s .empty where
  empty := ⟨fun _ => LabelToken.lexes_nil_iff.1 h, fun _ => rfl⟩
  stray _ _ _ hstray := absurd hstray h.not_stray
  lexed _ := ⟨[], h⟩
  unfinished _ hps hne := absurd (hps.unique h) hne
  misplaced _ hps hne := absurd (hps.unique h) hne
  located := nofun

theorem not_blank_of_lexes (h : Lexes 0 s.toList ps) (hne : ps ≠ []) :
    ¬ ∀ c ∈ s.toList, Text.isBlank c = true :=
  fun hblank => hne (h.unique (LabelToken.lexes_nil_iff.2 hblank))

theorem explains_unfinished (h : Lexes 0 s.toList ps) (hne : ps ≠ [])
    (hu : Unfinished (ps.map (·.token))) : Explains s .unexpectedEnd where
  empty := ⟨nofun, fun hblank => absurd hblank (not_blank_of_lexes h hne)⟩
  stray _ _ _ hstray := absurd hstray h.not_stray
  lexed _ := ⟨ps, h⟩
  unfinished _ hqs _ := ⟨fun _ => hqs.unique h ▸ hu, fun _ => rfl⟩
  misplaced _ hqs _ hnot := absurd (hqs.unique h ▸ hu) hnot
  located := nofun

theorem explains_misplaced {pre post : List Placed} {p : Placed}
    (h : Lexes 0 s.toList (pre ++ p :: post)) (hv : Viable (pre.map (·.token)))
    (hn : ¬ Viable ((pre ++ [p]).map (·.token))) :
    Explains s (.unexpected p.token.toText p.offset) where
  empty := ⟨nofun, fun hblank => absurd hblank (not_blank_of_lexes h (by simp))⟩
  stray _ _ _ hstray := absurd hstray h.not_stray
  lexed _ := ⟨_, h⟩
  unfinished _ hqs _ := by
    refine ⟨nofun, fun hu => absurd ?_ hn⟩
    obtain ⟨s', more, -, hs'⟩ := hu
    exact ⟨s', post.map (·.token) ++ more, by simpa [hqs.unique h] using hs'⟩
  misplaced _ hqs _ _ := ⟨pre, p, post, hqs.unique h, hv, hn, rfl⟩
  located found offset he := by
    obtain ⟨rfl, rfl⟩ := LabelError.unexpected.inj he
    obtain ⟨cs, rest, hsplit, hoffset⟩ := h.located (List.mem_append_right pre List.mem_cons_self)
    have hs : s.toList = cs ++ (p.token.toText.toList ++ rest) := by rw [hsplit, List.append_assoc]
    rw [hoffset, Nat.zero_add]
    exact located_of_split hs

theorem explains_of_tokens (h : Lexes 0 s.toList ps) (hne : ps ≠ [])
    (hs : ¬ Expresses s (ps.map (·.token))) : ∃ e, parse s = .error e ∧ Explains s e := by
  rw [parse_of_lexes h hne]
  obtain ⟨r, hr⟩ | ⟨pre, p, post, r, rfl, hr, hp⟩ := Reader.read?_or_stuck (.before []) ps
  · rw [Reader.run_of_read? hr]
    cases hresult : r.result? with
    | some e =>
      obtain ⟨d, hd, -⟩ := (Reader.stands_start.read hr).result hresult
      exact absurd ⟨⟨ps, h, rfl⟩, d, hd⟩ hs
    | none =>
      have hwell : ∀ t ∈ ps.map (·.token), t.WellFormed := List.forall_mem_map.2 h.wellFormed
      have hviable := (Reader.read?_iff_viable hwell).1 ⟨r, hr⟩
      exact ⟨_, rfl, explains_unfinished h hne (hviable.unfinished hs ⟨ps, h, rfl⟩)⟩
  · have hwell : ∀ q ∈ pre ++ [p], q.token.WellFormed := fun q hq => by
      rw [← List.singleton_append, ← List.append_assoc] at h
      exact h.wellFormed q (List.mem_append_left post hq)
    have hpre := List.forall_mem_map.2 (List.forall_mem_append.1 hwell).1
    have hstop : ¬ Viable ((pre ++ [p]).map (·.token)) := by
      rw [← Reader.read?_iff_viable (List.forall_mem_map.2 hwell)]
      rintro ⟨r', hr'⟩
      rw [List.map_append, Reader.read?_append, hr] at hr'
      simp [Reader.read?_cons, hp] at hr'
    rw [Reader.run_of_stuck hr hp]
    exact ⟨_, rfl, explains_misplaced h ((Reader.read?_iff_viable hpre).1 ⟨r, hr⟩) hstop⟩

theorem not_expresses_of_error {e : LabelError} (h : parse s = .error e) :
    ¬ ∃ ts, Expresses s ts := by
  rintro ⟨ts, htokens, d, rfl⟩
  cases (parse_of_tokens d htokens).symm.trans h

/-- A text that is no expression is refused with an error that says why and where. -/
theorem parse_refuses (s : String) (hs : ¬ ∃ ts, Expresses s ts) :
    ∃ e, parse s = .error e ∧ Explains s e := by
  obtain ⟨ps, hps⟩ | ⟨pre, c, post, hstray⟩ := LabelToken.lexes_or_stray 0 s.toList
  · by_cases hne : ps = []
    · subst hne
      exact ⟨_, parse_of_blank hps, explains_blank hps⟩
    · exact explains_of_tokens hps hne fun h => hs ⟨_, h⟩
  · exact ⟨_, parse_of_stray hstray, explains_stray hstray⟩

theorem parse_refuses_misplaced : (¬ ∃ ts, Expresses "é && (a b" ts) ∧
    parse "é && (a b" = .error (.unexpected "b" 9) ∧
      Explains "é && (a b" (.unexpected "b" 9) := by
  have h : parse "é && (a b" = .error (.unexpected "b" 9) := by decide +kernel
  have hs := not_expresses_of_error h
  obtain ⟨e, he, hexplains⟩ := parse_refuses _ hs
  obtain rfl := Except.error.inj (he.symm.trans h)
  exact ⟨hs, h, hexplains⟩

end ContainerFleet.LabelExpr
