import ContainerFleet.Data.Json
import ContainerFleet.Proofs.Span
import Mathlib.Tactic.SplitIfs

namespace ContainerFleet

/-- The values that a text can stand for: all numbers are integers that 64 bits hold. -/
inductive Data.Legible : Data → Prop where
  | null : Legible .null
  | bool (b : Bool) : Legible (.bool b)
  | int {n : Int} (low : -(Word.count 63 : Int) ≤ n) (high : n < Word.count 64) : Legible (.int n)
  | text (s : String) : Legible (.text s)
  | list {ds : List Data} (items : ∀ d ∈ ds, Legible d) : Legible (.list ds)
  | table {fs : List (String × Data)} (fields : ∀ f ∈ fs, Legible f.2) : Legible (.table fs)

theorem mapM_map_of_reads {α β : Type} {write : α → β} {read : β → Option α}
    (h : ∀ x, read (write x) = some x) (xs : List α) : (xs.map write).mapM read = some xs := by
  have hread : read ∘ write = fun x => pure (id x) := funext h
  rw [List.mapM_map, hread, List.mapM_pure, List.map_id]
  rfl

theorem getElem?_of_mapM {α β : Type} {read : α → Option β} {as : List α} {bs : List β}
    (h : as.mapM read = some bs) (i : Nat) : bs[i]? = as[i]?.bind read := by
  induction as generalizing bs i with
  | nil =>
    obtain rfl := Option.some.inj h
    rfl
  | cons a as ih =>
    simp only [List.mapM_cons, Option.pure_def, Option.bind_eq_bind, Option.bind_eq_some_iff,
      Option.some.injEq] at h
    obtain ⟨b, hb, bs', hbs', rfl⟩ := h
    cases i with
    | zero => exact hb.symm
    | succ i => exact ih hbs' i

theorem exists_of_mem_mapM {α β : Type} {read : α → Option β} {as : List α} {bs : List β} {b : β}
    (h : as.mapM read = some bs) (hb : b ∈ bs) : ∃ a ∈ as, read a = some b := by
  obtain ⟨i, hi⟩ := List.mem_iff_getElem?.1 hb
  obtain ⟨a, ha, hread⟩ := Option.bind_eq_some_iff.1 ((getElem?_of_mapM h i).symm.trans hi)
  exact ⟨a, List.mem_of_getElem? ha, hread⟩

namespace Json

section Literals

open Text (hexDigit hexValue?)

variable {l : Literal} {n : Nat} {c d : Char} {cs : List Char}

theorem hexValue?_hexDigit : ∀ d < 16, hexValue? (hexDigit d) = some d := by decide

theorem hex4?_hexDigit (h : n < 256) :
    hex4? '0' '0' (hexDigit (n / 16)) (hexDigit (n % 16)) = some n := by
  have hzero : hexValue? '0' = some 0 := by decide
  have hhigh := hexValue?_hexDigit (n / 16) (by omega)
  have hlow := hexValue?_hexDigit (n % 16) (by omega)
  have hn : 16 * (n / 16) + n % 16 = n := Nat.div_add_mod n 16
  simp only [hex4?, hzero, hhigh, hlow, Option.bind_eq_bind, Option.bind_some, Nat.mul_zero,
    Nat.zero_add, hn]

theorem literal_letter (h : unescape? d = some c) :
    literal l ('\\' :: d :: cs) = literal (l.push c) cs := by
  have hu : d ≠ 'u' := by
    rintro rfl
    cases h
  rw [literal, h, Option.bind_some]
  rintro - - - - - rfl
  exact absurd rfl hu

theorem literal_code (h : c.toNat < 32) :
    literal l ('\\' :: 'u' :: '0' :: '0' :: hexDigit (c.toNat / 16) :: hexDigit (c.toNat % 16) :: cs) =
      literal (l.push c) cs := by
  rw [literal, hex4?_hexDigit (by omega), Option.bind_some]
  rw [Literal.pushUnit, if_neg (by omega), if_neg (by omega), Char.ofNat_toNat]

theorem literal_plain (h : ¬ c.toNat < 32) (hq : c ≠ '"') (hb : c ≠ '\\') :
    literal l (c :: cs) = literal (l.push c) cs := by
  rw [literal, if_neg h]
  · exact hq
  · exact fun _ _ _ _ _ hc => absurd hc hb
  · exact fun _ _ hc => absurd hc hb

theorem literal_escape (l : Literal) (c : Char) (cs : List Char) :
    literal l (escape c ++ cs) = literal (l.push c) cs := by
  unfold escape
  split_ifs with hq hb hn hr ht h8 h12 hcode
  · subst hq
    exact literal_letter rfl
  · subst hb
    exact literal_letter rfl
  · subst hn
    exact literal_letter rfl
  · subst hr
    exact literal_letter rfl
  · subst ht
    exact literal_letter rfl
  · exact literal_letter (by rw [← Char.ofNat_toNat c, h8]; rfl)
  · exact literal_letter (by rw [← Char.ofNat_toNat c, h12]; rfl)
  · exact literal_code hcode
  · exact literal_plain hcode hq hb

theorem literal_escapes (l : Literal) (ds cs : List Char) :
    literal l (ds.flatMap escape ++ '"' :: cs) = some (ds.foldl Literal.push l, cs) := by
  induction ds generalizing l with
  | nil => rw [List.flatMap_nil, List.nil_append, literal, List.foldl_nil]
  | cons d ds ih => rw [List.flatMap_cons, List.append_assoc, literal_escape, ih, List.foldl_cons]

theorem foldl_push (cs ds : List Char) :
    ds.foldl Literal.push ⟨cs, none, true⟩ = ⟨ds.reverse ++ cs, none, true⟩ := by
  induction ds generalizing cs with
  | nil => rfl
  | cons d ds ih =>
    rw [List.foldl_cons, List.reverse_cons, List.append_assoc]
    exact ih (d :: cs)

theorem literal_text (s : String) (cs : List Char) :
    ∃ l, literal {} (s.toList.flatMap escape ++ '"' :: cs) = some (l, cs) ∧ l.text? = some s := by
  refine ⟨_, literal_escapes {} s.toList cs, ?_⟩
  rw [foldl_push, List.append_nil]
  simp [Literal.text?]

theorem quote_append (s : String) (cs : List Char) :
    quote s ++ cs = '"' :: (s.toList.flatMap escape ++ '"' :: cs) := by
  rw [quote, List.cons_append, List.cons_append, List.append_assoc, List.singleton_append]

theorem value?_quote (fuel : Nat) (s : String) (cs : List Char) :
    value? (fuel + 1) (quote s ++ cs) = some (.text s, cs) := by
  obtain ⟨l, hl, htext⟩ := literal_text s cs
  have hskip : ∀ ds, skip ('"' :: ds) = '"' :: ds := fun ds => rfl
  rw [quote_append, value?, hskip]
  simp only [hl, Option.map_some, htext]

end Literals

variable {c : Char} {cs rest : List Char} {d : Data} {fuel k : Nat} {n : Int}

/-- A number that ends here does not go on with what follows. -/
def EndsNumber (rest : List Char) : Prop :=
  ∀ c ∈ rest.head?, c.isDigit = false ∧ c ≠ '.' ∧ c ≠ 'e' ∧ c ≠ 'E'

theorem digits_append (hcs : ∀ c ∈ cs, c.isDigit = true) (h : EndsNumber rest) :
    digits (cs ++ rest) = (cs, rest) := by
  have hends : ∀ c ∈ rest.head?, c.isDigit = false := fun c hc => (h c hc).1
  rw [digits, Span.takeWhile_append hcs hends, Span.dropWhile_append hcs hends]

theorem fraction?_of_ends (h : EndsNumber rest) : fraction? rest = some ([], rest) := by
  rw [fraction?]
  rintro _ rfl
  exact (h '.' rfl).2.1 rfl

theorem exponent?_of_ends (h : EndsNumber rest) : exponent? rest = some ([], rest) := by
  cases rest with
  | nil => rfl
  | cons c rest =>
    obtain ⟨-, -, he, hE⟩ := h c rfl
    unfold exponent?
    exact if_neg (by simp [he, hE])

theorem isDigit_toDigits (k : Nat) : ∀ c ∈ Nat.toDigits 10 k, c.isDigit = true := fun _ hc =>
  Nat.isDigit_of_mem_toDigits (b := 10) (by decide) (by decide) hc

theorem decimal?_toDigits (k : Nat) : Text.decimal? (Nat.toDigits 10 k) = some k := by
  have hall : (Nat.toDigits 10 k).all Char.isDigit = true :=
    List.all_eq_true.2 (isDigit_toDigits k)
  have hne : (Nat.toDigits 10 k).isEmpty = false := by simp
  have hvalue := Nat.ofDigitChars_ten_toDigits (n := k)
  rw [Text.decimal?, hall, hne]
  simpa [Nat.ofDigitChars] using hvalue

theorem head?_toDigits (h : 0 < k) : (Nat.toDigits 10 k).head? ≠ some '0' := by
  induction k using Nat.strongRecOn with
  | _ k ih =>
    by_cases hk : k < 10
    · have hdigit : ∀ d < 10, 0 < d → [d.digitChar].head? ≠ some '0' := by decide
      rw [Nat.toDigits_of_lt_base hk]
      exact hdigit k hk h
    · have hlead := ih (k / 10) (by omega) (by omega)
      obtain ⟨c, cs, hc⟩ := List.exists_cons_of_ne_nil (Nat.toDigits_ne_nil (n := k / 10) (b := 10))
      rw [Nat.toDigits_of_base_le (by decide) (by omega), hc]
      rwa [hc] at hlead

theorem toDigits_ne_zeros {c : Char} : Nat.toDigits 10 k ≠ '0' :: c :: cs := by
  intro h
  obtain rfl | hk := Nat.eq_zero_or_pos k
  · simp at h
  · exact head?_toDigits hk (by rw [h]; rfl)

theorem number?_signed {sign : List Char} (hs : sign = [] ∨ sign = ['-']) (h : EndsNumber rest) :
    number? (sign ++ Nat.toDigits 10 k ++ rest) =
      some (classify (!sign.isEmpty) k (sign ++ Nat.toDigits 10 k), rest) := by
  have hminus : ∀ cs, Nat.toDigits 10 k ++ rest ≠ '-' :: cs := by
    intro cs he
    obtain ⟨c, ds, hc⟩ := List.exists_cons_of_ne_nil (Nat.toDigits_ne_nil (n := k) (b := 10))
    have hdigit := isDigit_toDigits k c (by simp [hc])
    rw [hc, List.cons_append] at he
    rw [(List.cons.inj he).1] at hdigit
    exact absurd hdigit (by decide)
  unfold number?
  split
  rename_i sign' rest' hmatch
  have hsign : sign' = sign ∧ rest' = Nat.toDigits 10 k ++ rest := by
    obtain rfl | rfl := hs
    · split at hmatch
      · rename_i he
        exact absurd he (hminus _)
      · cases hmatch
        exact ⟨rfl, rfl⟩
    · cases hmatch
      exact ⟨rfl, rfl⟩
  obtain ⟨rfl, rfl⟩ := hsign
  simp only [digits_append (isDigit_toDigits k) h]
  split
  · rename_i he
    exact absurd he Nat.toDigits_ne_nil
  · rename_i he
    exact absurd he toDigits_ne_zeros
  · simp [decimal?_toDigits, fraction?_of_ends h, exponent?_of_ends h]

theorem toList_repr (k : Nat) : (Nat.repr k).toList = Nat.toDigits 10 k := by
  rw [Nat.repr_eq_ofList_toDigits, String.toList_ofList]

theorem toList_toString (n : Int) : ∃ sign, (sign = [] ∧ 0 ≤ n ∨ sign = ['-'] ∧ n < 0) ∧
    (toString n).toList = sign ++ Nat.toDigits 10 n.natAbs := by
  cases n with
  | ofNat k => exact ⟨[], .inl ⟨rfl, Int.natCast_nonneg k⟩, toList_repr k⟩
  | negSucc k =>
    refine ⟨['-'], .inr ⟨rfl, Int.negSucc_lt_zero k⟩, ?_⟩
    change ("-" ++ Nat.repr (k + 1)).toList = _
    rw [String.toList_append, toList_repr]
    rfl

theorem number?_int (low : -(Word.count 63 : Int) ≤ n) (high : n < Word.count 64) (h : EndsNumber rest) :
    number? ((toString n).toList ++ rest) = some (.int n, rest) := by
  obtain ⟨sign, hsign, htext⟩ := toList_toString n
  rw [htext, number?_signed (hsign.imp And.left And.left) h]
  obtain ⟨rfl, hn⟩ | ⟨rfl, hn⟩ := hsign
  · have hk : n.natAbs < Word.count 64 := by omega
    have habs : (n.natAbs : Int) = n := by omega
    have hclass : ∀ literal, classify false n.natAbs literal = .int n := fun literal => by
      rw [classify, if_neg Bool.false_ne_true, if_pos hk, habs]
    simp [hclass]
  · have hk : 0 < n.natAbs ∧ n.natAbs ≤ Word.count 63 := by omega
    have habs : -(n.natAbs : Int) = n := by omega
    have hclass : ∀ literal, classify true n.natAbs literal = .int n := fun literal => by
      rw [classify, if_pos rfl, if_pos hk, habs]
    simp [hclass]

def opens (c : Char) : Bool := c.isDigit || ['-', '"', '[', '\x7b', 't', 'f', 'n'].contains c

theorem render_int (n : Int) : ∃ c cs, render (.int n) = c :: cs ∧ (c.isDigit = true ∨ c = '-') := by
  obtain ⟨sign, ⟨rfl, -⟩ | ⟨rfl, -⟩, htext⟩ := toList_toString n
  · obtain ⟨c, cs, hc⟩ := List.exists_cons_of_ne_nil (Nat.toDigits_ne_nil (n := n.natAbs) (b := 10))
    exact ⟨c, cs, by rw [render, htext, hc, List.nil_append], .inl (isDigit_toDigits n.natAbs c (by simp [hc]))⟩
  · exact ⟨_, _, by rw [render, htext, List.singleton_append], .inr rfl⟩

theorem opens_of_number (h : c.isDigit = true ∨ c = '-') : opens c = true := by
  obtain h | rfl := h
  · simp [opens, h]
  · rfl

theorem render_opens (h : d.Legible) : ∃ c cs, render d = c :: cs ∧ opens c = true := by
  cases h with
  | null => exact ⟨_, _, rfl, rfl⟩
  | bool b => cases b <;> exact ⟨_, _, rfl, rfl⟩
  | @int n low high =>
    obtain ⟨c, cs, hc, hnumber⟩ := render_int n
    exact ⟨c, cs, hc, opens_of_number hnumber⟩
  | text s => exact ⟨_, _, rfl, rfl⟩
  | @list ds items => cases ds <;> rw [render] <;> exact ⟨_, _, rfl, rfl⟩
  | @table fs fields => cases fs <;> rw [render] <;> exact ⟨_, _, rfl, rfl⟩

theorem skip_of_opens (h : opens c = true) : skip (c :: cs) = c :: cs := by
  rw [skip, List.dropWhile_cons_of_neg]
  simp only [Bool.or_eq_true, decide_eq_true_eq]
  rintro (((rfl | rfl) | rfl) | rfl) <;> revert h <;> decide

theorem value?_number (h : c.isDigit = true ∨ c = '-') :
    value? (fuel + 1) (c :: cs) = number? (c :: cs) := by
  have hne : ∀ x, x.isDigit = false → x ≠ '-' → c ≠ x := by
    rintro x hx hm rfl
    simp [hx, hm] at h
  rw [value?, skip_of_opens (opens_of_number h)]
  split <;> rename_i heq
  case h_1 => cases heq
  case h_8 => rfl
  all_goals exact absurd (List.cons.inj heq).1 (hne _ rfl (by decide))

def Reads (d : Data) : Prop :=
  ∀ fuel rest, 2 * (render d).length ≤ fuel → EndsNumber rest →
    value? fuel (render d ++ rest) = some (d, rest)

theorem endsNumber_cons (h : [',', ']', '\x7d'].contains c = true) : EndsNumber (c :: rest) := by
  have hc : c = ',' ∨ c = ']' ∨ c = '\x7d' := by simpa using h
  rintro _ ⟨⟩
  obtain rfl | rfl | rfl := hc <;> decide

theorem items?_render {ds : List Data} (hd : Reads d) (hds : ∀ x ∈ ds, Reads x)
    (hfuel : 2 * (render d ++ renderItems ds).length < fuel) :
    items? fuel (render d ++ renderItems ds ++ ']' :: rest) = some (d :: ds, rest) := by
  induction ds generalizing d fuel with
  | nil =>
    obtain ⟨fuel, rfl⟩ := Nat.exists_eq_succ_of_ne_zero (Nat.ne_zero_of_lt hfuel)
    rw [renderItems, List.append_nil] at hfuel ⊢
    rw [items?, hd fuel _ (by omega) (endsNumber_cons rfl)]
    rfl
  | cons x ds ih =>
    obtain ⟨fuel, rfl⟩ := Nat.exists_eq_succ_of_ne_zero (Nat.ne_zero_of_lt hfuel)
    have hrender : render d ++ renderItems (x :: ds) ++ ']' :: rest =
        render d ++ ',' :: (render x ++ renderItems ds ++ ']' :: rest) := by
      simp [renderItems]
    simp only [renderItems, List.length_append, List.length_cons] at hfuel
    have hlength : 2 * (render x ++ renderItems ds).length < fuel := by
      rw [List.length_append]
      omega
    have htail := ih (hds x List.mem_cons_self) (fun y hy => hds y (List.mem_cons_of_mem _ hy)) hlength
    rw [hrender, items?, hd fuel _ (by omega) (endsNumber_cons rfl)]
    change (items? fuel (render x ++ renderItems ds ++ ']' :: rest)).map _ = _
    rw [htail]
    rfl

theorem fields?_field (name : String) (hd : Reads d) (hfuel : 2 * (render d).length ≤ fuel)
    (hc : [',', ']', '\x7d'].contains c = true) :
    fields? (fuel + 1) (quote name ++ ':' :: (render d ++ c :: rest)) =
      match skip (c :: rest) with
      | ',' :: rest => (fields? fuel rest).map fun (fs, rest) => ((some name, d) :: fs, rest)
      | '\x7d' :: rest => some ([(some name, d)], rest)
      | _ => none := by
  obtain ⟨l, hl, htext⟩ := literal_text name (':' :: (render d ++ c :: rest))
  rw [quote_append, fields?]
  change (literal {} _).bind _ = _
  rw [hl]
  change (value? fuel (render d ++ c :: rest)).bind _ = _
  rw [hd fuel _ hfuel (endsNumber_cons hc), ← htext]
  rfl

theorem fields?_render {f : String × Data} {fs : List (String × Data)} (hf : Reads f.2)
    (hfs : ∀ x ∈ fs, Reads x.2)
    (hfuel : 2 * (quote f.1 ++ ':' :: render f.2 ++ renderFields fs).length < fuel) :
    fields? fuel (quote f.1 ++ ':' :: render f.2 ++ renderFields fs ++ '\x7d' :: rest) =
      some ((f :: fs).map fun f => (some f.1, f.2), rest) := by
  induction fs generalizing f fuel with
  | nil =>
    obtain ⟨fuel, rfl⟩ := Nat.exists_eq_succ_of_ne_zero (Nat.ne_zero_of_lt hfuel)
    simp only [List.length_append, List.length_cons] at hfuel
    rw [renderFields, List.append_nil, List.append_assoc, List.cons_append,
      fields?_field f.1 hf (by omega) rfl]
    rfl
  | cons x fs ih =>
    obtain ⟨fuel, rfl⟩ := Nat.exists_eq_succ_of_ne_zero (Nat.ne_zero_of_lt hfuel)
    have hrender : quote f.1 ++ ':' :: render f.2 ++ renderFields (x :: fs) ++ '\x7d' :: rest =
        quote f.1 ++ ':' :: (render f.2 ++
          ',' :: (quote x.1 ++ ':' :: render x.2 ++ renderFields fs ++ '\x7d' :: rest)) := by
      simp [renderFields]
    simp only [renderFields, List.length_append, List.length_cons] at hfuel
    have hlength : 2 * (quote x.1 ++ ':' :: render x.2 ++ renderFields fs).length < fuel := by
      simp only [List.length_append, List.length_cons]
      omega
    have htail := ih (hfs x List.mem_cons_self) (fun y hy => hfs y (List.mem_cons_of_mem _ hy)) hlength
    rw [hrender, fields?_field f.1 hf (by omega) rfl]
    change (fields? fuel (quote x.1 ++ ':' :: render x.2 ++ renderFields fs ++ '\x7d' :: rest)).map _ = _
    rw [htail]
    rfl

theorem table_some (fs : List (String × Data)) :
    table (fs.map fun f => (some f.1, f.2)) = .table fs := by
  rw [table, mapM_map_of_reads]
  exact fun f => rfl

theorem reads_of_succ {cs : List Char} (hrender : render d = c :: cs)
    (h : ∀ fuel rest, 2 * cs.length < fuel → EndsNumber rest →
      value? (fuel + 1) (c :: (cs ++ rest)) = some (d, rest)) : Reads d := by
  intro fuel rest hfuel hrest
  rw [hrender, List.length_cons] at hfuel
  obtain ⟨fuel, rfl⟩ := Nat.exists_eq_succ_of_ne_zero (Nat.ne_zero_of_lt (show 0 < fuel by omega))
  rw [hrender]
  exact h fuel rest (by omega) hrest

theorem value?_list (hc : opens c = true) : value? (fuel + 1) ('[' :: c :: cs) =
    (items? fuel (c :: cs)).map fun (ds, rest) => (.list ds, rest) := by
  have hskip : ∀ ds, skip ('[' :: ds) = '[' :: ds := fun ds => rfl
  rw [value?, hskip]
  simp only [skip_of_opens hc]
  split
  · rename_i he
    rw [(List.cons.inj he).1] at hc
    exact absurd hc (by decide)
  · rfl

/-- Every value is read from its text, whatever follows that does not continue a number. -/
theorem reads_of_legible (h : d.Legible) : Reads d := by
  induction h with
  | null => exact reads_of_succ rfl fun fuel rest _ _ => rfl
  | bool b => cases b <;> exact reads_of_succ rfl fun fuel rest _ _ => rfl
  | @int n low high =>
    obtain ⟨c, cs, hc, hnumber⟩ := render_int n
    refine reads_of_succ hc fun fuel rest _ hrest => ?_
    rw [value?_number hnumber, ← List.cons_append, ← hc, render, number?_int low high hrest]
  | text s => exact reads_of_succ rfl fun fuel rest _ _ => value?_quote fuel s rest
  | @list ds items ih =>
    cases ds with
    | nil => exact reads_of_succ rfl fun fuel rest _ _ => rfl
    | cons d ds =>
      refine reads_of_succ rfl fun fuel rest hfuel _ => ?_
      obtain ⟨c, cs, hc, hopens⟩ := render_opens (items d List.mem_cons_self)
      have hitems : items? fuel (render d ++ renderItems ds ++ ']' :: rest) = some (d :: ds, rest) :=
        items?_render (ih d List.mem_cons_self) (fun x hx => ih x (List.mem_cons_of_mem _ hx))
          (by simp at hfuel ⊢; omega)
      change value? (fuel + 1) ('[' :: (render d ++ renderItems ds ++ [']'] ++ rest)) = _
      rw [List.append_assoc _ [']'], List.singleton_append]
      rw [hc, List.cons_append, List.cons_append] at hitems ⊢
      rw [value?_list hopens, hitems]
      rfl
  | @table fs fields ih =>
    cases fs with
    | nil => exact reads_of_succ rfl fun fuel rest _ _ => rfl
    | cons f fs =>
      refine reads_of_succ rfl fun fuel rest hfuel _ => ?_
      have hfields : fields? fuel (quote f.1 ++ ':' :: render f.2 ++ renderFields fs ++ '\x7d' :: rest) =
          some ((f :: fs).map fun f => (some f.1, f.2), rest) :=
        fields?_render (ih f List.mem_cons_self) (fun x hx => ih x (List.mem_cons_of_mem _ hx))
          (by simp at hfuel ⊢; omega)
      change value? (fuel + 1)
        ('\x7b' :: (quote f.1 ++ ':' :: render f.2 ++ renderFields fs ++ ['\x7d'] ++ rest)) = _
      rw [List.append_assoc _ ['\x7d'], List.singleton_append]
      change (fields? fuel _).map _ = _
      rw [hfields, Option.map_some, ← table_some]

theorem parse?_render (h : d.Legible) : parse? (render d) = some d := by
  have hvalue := reads_of_legible h (2 * (render d).length + 2) [] (by omega) (by rintro _ ⟨⟩)
  rw [List.append_nil] at hvalue
  rw [parse?, hvalue]
  rfl

theorem ofText?_toText_of_legible (h : d.Legible) : ofText? (toText d) = some d := by
  rw [ofText?, toText, String.toList_ofList, parse?_render h]

theorem ofText?_toText (s : String) : ofText? (toText (.text s)) = some (.text s) :=
  ofText?_toText_of_legible (.text s)

end Json

end ContainerFleet
