import ContainerFleet.Label.Token
import ContainerFleet.Proofs.Span

namespace ContainerFleet.LabelToken

variable {c : Char} {cs pre post rest : List Char} {t : LabelToken} {n : Nat} {ps : List Placed}

def Ordinary (c : Char) : Prop := Text.isBlank c = false ∧ c ∉ ['(', ')', '!', '&', '|']

instance (c : Char) : Decidable (Ordinary c) := inferInstanceAs (Decidable (_ ∧ _))

theorem isAtomic_iff : isAtomic c = true ↔ Ordinary c := by
  simp [isAtomic, Ordinary, and_assoc]

def WellFormed : LabelToken → Prop
  | atom label => label ≠ "" ∧ ∀ c ∈ label.toList, Ordinary c
  | _ => True

def EndsBefore (rest : List Char) : LabelToken → Prop
  | atom _ => ∀ c ∈ rest.head?, ¬ Ordinary c
  | _ => True

/-- What a text is made of from its byte `n` on: blanks, which separate, and tokens, each with the
byte it starts at. An atom is as long as it can be. -/
inductive Lexes : Nat → List Char → List Placed → Prop
  | done (n : Nat) : Lexes n [] []
  | blank {n : Nat} {c : Char} {cs : List Char} {ps : List Placed} : Text.isBlank c = true →
      Lexes (n + c.utf8Size) cs ps → Lexes n (c :: cs) ps
  | token {n : Nat} {t : LabelToken} {rest : List Char} {ps : List Placed} : t.WellFormed →
      t.EndsBefore rest → Lexes (n + t.toText.utf8ByteSize) rest ps →
      Lexes n (t.toText.toList ++ rest) (⟨n, t⟩ :: ps)

theorem next?_of_ordinary (h : Ordinary c) : next? (c :: cs) =
    some (.atom (String.ofList (c :: cs.takeWhile isAtomic)), cs.dropWhile isAtomic) := by
  have ha : isAtomic c = true := isAtomic_iff.2 h
  unfold next?
  split
  case h_6 =>
    rename_i heq
    obtain ⟨rfl, rfl⟩ := List.cons.inj heq
    exact if_pos ha
  case h_7 heq => cases heq
  all_goals
    rename_i heq
    obtain ⟨rfl, -⟩ := List.cons.inj heq
    exact absurd h (by decide)

theorem next?_append (hw : t.WellFormed) (he : t.EndsBefore rest) :
    next? (t.toText.toList ++ rest) = some (t, rest) := by
  cases t with
  | atom label =>
    obtain ⟨hne, hall⟩ := hw
    obtain ⟨cs, rfl⟩ : ∃ cs, label = String.ofList cs := ⟨_, String.ofList_toList.symm⟩
    rw [String.toList_ofList] at hall
    simp only [toText, String.toList_ofList]
    cases cs with
    | nil => exact absurd rfl hne
    | cons c cs =>
      obtain ⟨hc, hcs⟩ := List.forall_mem_cons.1 hall
      have hcs : ∀ c ∈ cs, isAtomic c = true := fun c hc => isAtomic_iff.2 (hcs c hc)
      have hends : ∀ c ∈ rest.head?, isAtomic c = false := fun c hc =>
        Bool.eq_false_iff.2 fun hatomic => he c hc (isAtomic_iff.1 hatomic)
      rw [List.cons_append, next?_of_ordinary hc, Span.takeWhile_append hcs hends,
        Span.dropWhile_append hcs hends]
  | and | or | not | opening | closing => rfl

theorem next?_sound (h : next? cs = some (t, rest)) :
    cs = t.toText.toList ++ rest ∧ t.WellFormed ∧ t.EndsBefore rest := by
  unfold next? at h
  split at h
  case h_6 c cs _ _ _ _ _ =>
    split at h
    · rename_i hc
      cases h
      refine ⟨by simp [toText], ⟨by simp, fun d hd => ?_⟩, fun d hd ho => ?_⟩
      · rw [String.toList_ofList] at hd
        obtain rfl | hd := List.mem_cons.1 hd
        · exact isAtomic_iff.1 hc
        · exact isAtomic_iff.1 (List.mem_takeWhile_imp hd)
      · have hstop := List.head?_dropWhile_not isAtomic cs
        rw [Option.mem_def.1 hd] at hstop
        exact absurd (isAtomic_iff.2 ho) (by simp [hstop])
    · cases h
  case h_7 => cases h
  all_goals
    cases h
    exact ⟨rfl, trivial, trivial⟩

def Lone (c : Char) (post : List Char) : Prop := (c = '&' ∨ c = '|') ∧ post.head? ≠ some c

theorem Lone.not_ordinary (h : Lone c post) : ¬ Ordinary c := by
  obtain ⟨rfl | rfl, -⟩ := h <;> decide

theorem Lone.not_blank (h : Lone c post) : Text.isBlank c = false := by
  obtain ⟨rfl | rfl, -⟩ := h <;> decide

theorem Lone.next? (h : Lone c post) : next? (c :: post) = none := by
  have hc : ¬ isAtomic c = true := fun ha => h.not_ordinary (isAtomic_iff.1 ha)
  obtain ⟨hc', hpost⟩ := h
  unfold LabelToken.next?
  split
  case h_6 =>
    rename_i heq
    obtain ⟨rfl, rfl⟩ := List.cons.inj heq
    exact if_neg hc
  case h_7 heq => cases heq
  all_goals
    rename_i heq
    obtain ⟨rfl, rfl⟩ := List.cons.inj heq
    simp at hc' hpost

theorem lone_of_next? (hb : Text.isBlank c = false) (h : next? (c :: cs) = none) : Lone c cs := by
  unfold next? at h
  split at h
  case h_6 c' cs' h₁ h₂ h₃ h₄ h₅ heq =>
    obtain ⟨rfl, rfl⟩ := List.cons.inj heq
    split at h
    · cases h
    · rename_i ha
      have hc : c = '&' ∨ c = '|' := by
        by_contra hc
        obtain ⟨hand, hor⟩ := not_or.1 hc
        exact ha (isAtomic_iff.2 ⟨hb, by simp [hand, hor, mt h₁, mt h₂, mt h₃]⟩)
      refine ⟨hc, fun hh => ?_⟩
      obtain ⟨post, rfl⟩ := List.head?_eq_some_iff.1 hh
      obtain rfl | rfl := hc
      · exact h₄ _ rfl rfl
      · exact h₅ _ rfl rfl
  case h_7 heq => cases heq
  all_goals cases h

theorem width_eq (cs : List Char) : width cs = (String.ofList cs).utf8ByteSize := by
  induction cs with
  | nil => rfl
  | cons c cs ih =>
    have hc : String.ofList (c :: cs) = String.singleton c ++ String.ofList cs := by
      rw [String.singleton_eq_ofList, ← String.ofList_append]
      rfl
    rw [hc, String.utf8ByteSize_append, String.utf8ByteSize_singleton, ← ih]
    rfl

theorem width_append (cs ds : List Char) : width (cs ++ ds) = width cs + width ds := by
  simp only [width_eq, String.ofList_append, String.utf8ByteSize_append]

theorem width_toList (s : String) : width s.toList = s.utf8ByteSize := by
  rw [width_eq, String.ofList_toList]

theorem scan_blank (h : Text.isBlank c = true) : scan n (c :: cs) = scan (n + c.utf8Size) cs := by
  rw [scan.eq_def]
  exact if_pos h

theorem not_blank_of_token (hw : t.WellFormed) :
    ∃ c cs, t.toText.toList = c :: cs ∧ Text.isBlank c = false := by
  cases t with
  | atom label =>
    cases hl : label.toList with
    | nil => exact absurd (String.toList_eq_nil_iff.1 hl) hw.1
    | cons c cs => exact ⟨c, cs, hl, (hw.2 c (hl ▸ List.mem_cons_self)).1⟩
  | and | or | not | opening | closing => exact ⟨_, _, rfl, by decide⟩

theorem scan_token (hw : t.WellFormed) (he : t.EndsBefore rest) :
    scan n (t.toText.toList ++ rest) =
      (scan (n + t.toText.utf8ByteSize) rest).map (⟨n, t⟩ :: ·) := by
  obtain ⟨c, cs, hc, hb⟩ := not_blank_of_token hw
  have hnext := next?_append hw he
  have hwidth : width (t.toText.toList ++ rest) - width rest = t.toText.utf8ByteSize := by
    rw [width_append, width_toList, Nat.add_sub_cancel]
  rw [hc, List.cons_append] at hnext hwidth ⊢
  rw [scan.eq_def]
  simp only [hb, Bool.false_eq_true, if_false]
  split
  · rename_i hnone
    rw [hnext] at hnone
    cases hnone
  · rename_i t' rest' hsome
    obtain ⟨rfl, rfl⟩ := Prod.ext_iff.1 (Option.some.inj (hnext.symm.trans hsome))
    rw [hwidth]

theorem scan_lone (h : Lone c post) :
    scan n (c :: post) = .error (.unexpected (String.singleton c) n) := by
  rw [scan.eq_def]
  simp only [h.not_blank, Bool.false_eq_true, if_false]
  split
  · rfl
  · rename_i hsome
    rw [h.next?] at hsome
    cases hsome

theorem front (cs : List Char) : cs = [] ∨ (∃ c cs', cs = c :: cs' ∧ Text.isBlank c = true) ∨
    (∃ (t : LabelToken) (rest : List Char), cs = t.toText.toList ++ rest ∧ t.WellFormed ∧
      t.EndsBefore rest) ∨ ∃ c post, cs = c :: post ∧ Lone c post := by
  cases cs with
  | nil => exact .inl rfl
  | cons c cs =>
    by_cases hb : Text.isBlank c = true
    · exact .inr (.inl ⟨c, cs, rfl, hb⟩)
    · cases h : next? (c :: cs) with
      | none => exact .inr (.inr (.inr ⟨c, cs, rfl, lone_of_next? (by simpa using hb) h⟩))
      | some x => exact .inr (.inr (.inl ⟨x.1, x.2, next?_sound h⟩))

theorem EndsBefore.shorten (h : t.EndsBefore (pre ++ post)) : t.EndsBefore pre := by
  cases t with
  | atom label =>
    intro c hc
    obtain ⟨cs, rfl⟩ := List.head?_eq_some_iff.1 hc
    exact h c rfl
  | and | or | not | opening | closing => trivial

theorem EndsBefore.extend (h : t.EndsBefore pre) (hpost : ∀ c ∈ post.head?, ¬ Ordinary c) :
    t.EndsBefore (pre ++ post) := by
  cases t with
  | atom label =>
    cases pre with
    | nil => exact hpost
    | cons c pre => exact h
  | and | or | not | opening | closing => trivial

/-- The text has a part that is made of blanks and tokens, and then an operator that lacks its half. -/
structure Stray (n : Nat) (cs pre : List Char) (c : Char) (post : List Char) : Prop where
  split : cs = pre ++ c :: post
  lexes : ∃ ps, Lexes n pre ps
  lone : Lone c post

theorem scan_of_lexes (h : Lexes n cs ps) : scan n cs = .ok ps := by
  induction h with
  | done n => rw [scan.eq_def]
  | blank hb _ ih => rw [scan_blank hb, ih]
  | token hw he _ ih => rw [scan_token hw he, ih]; rfl

theorem Stray.scan (h : Stray n cs pre c post) :
    scan n cs = .error (.unexpected (String.singleton c) (n + width pre)) := by
  obtain ⟨rfl, ⟨ps, hps⟩, hc⟩ := h
  induction hps with
  | done n => exact scan_lone hc
  | blank hb _ ih =>
    rw [List.cons_append, scan_blank hb, ih, Nat.add_assoc]
    rfl
  | @token n t rest ps hw he _ ih =>
    have hends : t.EndsBefore (rest ++ c :: post) := he.extend fun d hd => by
      obtain rfl := Option.some.inj hd
      exact hc.not_ordinary
    rw [List.append_assoc, scan_token hw hends, ih, width_append, width_toList, Nat.add_assoc]
    rfl

/-- A text is made of blanks and tokens, or has an operator that lacks its half. -/
theorem lexes_or_stray (n : Nat) (cs : List Char) :
    (∃ ps, Lexes n cs ps) ∨ ∃ pre c post, Stray n cs pre c post := by
  induction h : cs.length using Nat.strongRecOn generalizing n cs with
  | ind k ih =>
    subst h
    obtain rfl | ⟨c, cs, rfl, hb⟩ | ⟨t, rest, rfl, hw, he⟩ | ⟨c, post, rfl, hc⟩ := front cs
    · exact .inl ⟨[], .done n⟩
    · obtain ⟨ps, hps⟩ | ⟨pre, d, post, rfl, ⟨ps, hps⟩, hd⟩ :=
        ih _ (Nat.lt_succ_self _) (n + c.utf8Size) cs rfl
      · exact .inl ⟨ps, .blank hb hps⟩
      · exact .inr ⟨c :: pre, d, post, rfl, ⟨ps, .blank hb hps⟩, hd⟩
    · have hlt : rest.length < (t.toText.toList ++ rest).length := length_next? (next?_append hw he)
      obtain ⟨ps, hps⟩ | ⟨pre, d, post, rfl, ⟨ps, hps⟩, hd⟩ :=
        ih _ hlt (n + t.toText.utf8ByteSize) rest rfl
      · exact .inl ⟨_, .token hw he hps⟩
      · exact .inr ⟨t.toText.toList ++ pre, d, post, (List.append_assoc ..).symm,
          ⟨_, .token hw he.shorten hps⟩, hd⟩
    · exact .inr ⟨[], c, post, rfl, ⟨[], .done n⟩, hc⟩

theorem scan_eq_ok_iff : scan n cs = .ok ps ↔ Lexes n cs ps := by
  refine ⟨fun h => ?_, scan_of_lexes⟩
  obtain ⟨qs, hqs⟩ | ⟨pre, c, post, hstray⟩ := lexes_or_stray n cs
  · obtain rfl := Except.ok.inj ((scan_of_lexes hqs).symm.trans h)
    exact hqs
  · cases hstray.scan.symm.trans h

theorem Lexes.unique {qs : List Placed} (hp : Lexes n cs ps) (hq : Lexes n cs qs) : ps = qs :=
  Except.ok.inj ((scan_of_lexes hp).symm.trans (scan_of_lexes hq))

theorem Lexes.not_stray (h : Lexes n cs ps) : ¬ Stray n cs pre c post := by
  intro hstray
  cases (scan_of_lexes h).symm.trans hstray.scan

theorem Lexes.wellFormed (h : Lexes n cs ps) : ∀ p ∈ ps, p.token.WellFormed := by
  induction h with
  | done n => simp
  | blank _ _ ih => exact ih
  | token hw _ _ ih => exact List.forall_mem_cons.2 ⟨hw, ih⟩

theorem Lexes.located {p : Placed} (h : Lexes n cs ps) (hp : p ∈ ps) :
    ∃ pre post, cs = pre ++ p.token.toText.toList ++ post ∧ p.offset = n + width pre := by
  induction h with
  | done n => cases hp
  | @blank n c cs ps _ _ ih =>
    obtain ⟨pre, post, rfl, ho⟩ := ih hp
    exact ⟨c :: pre, post, rfl, by rw [ho, Nat.add_assoc]; rfl⟩
  | @token n t rest ps _ _ _ ih =>
    obtain rfl | hp := List.mem_cons.1 hp
    · exact ⟨[], rest, rfl, rfl⟩
    · obtain ⟨pre, post, rfl, ho⟩ := ih hp
      refine ⟨t.toText.toList ++ pre, post, by simp only [List.append_assoc], ?_⟩
      rw [ho, width_append, width_toList, Nat.add_assoc]

theorem lexes_nil_iff : Lexes n cs [] ↔ ∀ c ∈ cs, Text.isBlank c = true := by
  constructor
  · intro h
    generalize hps : ([] : List Placed) = ps at h
    induction h with
    | done n => simp
    | blank hb _ ih => exact List.forall_mem_cons.2 ⟨hb, ih hps⟩
    | token => cases hps
  · intro h
    induction cs generalizing n with
    | nil => exact .done n
    | cons c cs ih =>
      obtain ⟨hc, hcs⟩ := List.forall_mem_cons.1 h
      exact .blank hc (ih hcs)

/-- Tokens that stand apart are found again. -/
theorem exists_lexes (ts : List LabelToken) (h : ∀ t ∈ ts, t.WellFormed) (n : Nat) :
    ∃ cs ps, Lexes n cs ps ∧ ps.map (·.token) = ts := by
  induction ts generalizing n with
  | nil => exact ⟨[], [], .done n, rfl⟩
  | cons t ts ih =>
    obtain ⟨hw, hts⟩ := List.forall_mem_cons.1 h
    obtain ⟨cs, ps, hps, rfl⟩ := ih hts (n + t.toText.utf8ByteSize + ' '.utf8Size)
    have hnil : t.EndsBefore [] := by cases t <;> simp [EndsBefore]
    have hends : t.EndsBefore (' ' :: cs) := hnil.extend fun c hc => by
      obtain rfl := Option.some.inj hc
      decide
    exact ⟨_, _, .token hw hends (.blank (by decide) hps), rfl⟩

end ContainerFleet.LabelToken
