import ContainerFleet.Proofs.Lexeme
import Mathlib.Data.List.Chain

namespace ContainerFleet.LabelToken

variable {c : Char} {cs : List Char} {t : LabelToken} {n : Nat} {ps : List Placed} {p : Placed}

def Placed.stop (p : Placed) : Nat := p.offset + p.token.toText.utf8ByteSize

def Placed.Covers (p : Placed) (i : Nat) : Prop := p.offset ≤ i ∧ i < p.stop

/-- The tokens lie in a text that starts at byte `n`, one behind the other, and leave out its blanks
only. -/
structure Tiles (n : Nat) (cs : List Char) (ps : List Placed) : Prop where
  wellFormed : ∀ p ∈ ps, p.token.WellFormed
  /-- At its offset, between two characters, a token's own text stands, and an atom ends only where it
  has to. -/
  located : ∀ p ∈ ps, ∃ pre post, cs = pre ++ p.token.toText.toList ++ post ∧
    p.offset = n + width pre ∧ p.token.EndsBefore post
  increasing : ps.Pairwise (·.offset < ·.offset)
  apart : ps.Pairwise (·.stop ≤ ·.offset)
  blank : ∀ pre c post, cs = pre ++ c :: post →
    (Text.isBlank c = true ↔ ∀ p ∈ ps, ¬ p.Covers (n + width pre))

theorem WellFormed.not_blank (h : t.WellFormed) (hc : c ∈ t.toText.toList) : Text.isBlank c = false := by
  cases t with
  | atom label => exact (h.2 c hc).1
  | and | or | not | opening | closing =>
    simp only [toText, String.reduceToList, List.mem_cons, List.not_mem_nil, or_false, or_self] at hc
    rw [hc]
    decide

theorem WellFormed.size_pos (h : t.WellFormed) : 0 < t.toText.utf8ByteSize := by
  obtain ⟨c, cs, hc, -⟩ := not_blank_of_token h
  rw [← width_toList, hc]
  exact Nat.add_pos_left c.utf8Size_pos _

theorem Tiles.le_offset (h : Tiles n cs ps) (hp : p ∈ ps) : n ≤ p.offset := by
  obtain ⟨pre, post, -, ho, -⟩ := h.located p hp
  omega

theorem Tiles.nil (n : Nat) : Tiles n [] [] where
  wellFormed := by simp
  located := by simp
  increasing := .nil
  apart := .nil
  blank := by simp

theorem Tiles.skip (hb : Text.isBlank c = true) (h : Tiles (n + c.utf8Size) cs ps) :
    Tiles n (c :: cs) ps where
  wellFormed := h.wellFormed
  located p hp := by
    obtain ⟨pre, post, rfl, ho, he⟩ := h.located p hp
    exact ⟨c :: pre, post, rfl, by rw [ho, Nat.add_assoc]; rfl, he⟩
  increasing := h.increasing
  apart := h.apart
  blank pre d post hsplit := by
    cases pre with
    | nil =>
      obtain ⟨rfl, rfl⟩ := List.cons.inj hsplit
      refine iff_of_true hb fun p hp hcovers => ?_
      have hn : n + c.utf8Size ≤ p.offset := h.le_offset hp
      have hc : 0 < c.utf8Size := c.utf8Size_pos
      have hlow : p.offset ≤ n := hcovers.1
      omega
    | cons b pre =>
      obtain ⟨rfl, hcs⟩ := List.cons.inj hsplit
      have hwidth : n + width (c :: pre) = n + c.utf8Size + width pre := (Nat.add_assoc ..).symm
      rw [hwidth]
      exact h.blank pre d post hcs

theorem Tiles.cons {rest : List Char} (hw : t.WellFormed) (he : t.EndsBefore rest)
    (h : Tiles (n + t.toText.utf8ByteSize) rest ps) :
    Tiles n (t.toText.toList ++ rest) (⟨n, t⟩ :: ps) where
  wellFormed := List.forall_mem_cons.2 ⟨hw, h.wellFormed⟩
  located := by
    refine List.forall_mem_cons.2 ⟨⟨[], rest, rfl, rfl, he⟩, fun p hp => ?_⟩
    obtain ⟨pre, post, rfl, ho, hends⟩ := h.located p hp
    refine ⟨t.toText.toList ++ pre, post, by simp only [List.append_assoc], ?_, hends⟩
    rw [ho, width_append, width_toList, Nat.add_assoc]
  increasing := List.pairwise_cons.2 ⟨fun p hp =>
    Nat.lt_of_lt_of_le (Nat.lt_add_of_pos_right hw.size_pos) (h.le_offset hp), h.increasing⟩
  apart := List.pairwise_cons.2 ⟨fun p hp => h.le_offset hp, h.apart⟩
  blank pre c post hsplit := by
    obtain ⟨pre', rfl, hrest⟩ | ⟨rest', htext, hpost⟩ := List.append_eq_append_iff.1 hsplit
    · -- The character stands behind the token.
      have hwidth : n + width (t.toText.toList ++ pre') = n + t.toText.utf8ByteSize + width pre' := by
        rw [width_append, width_toList, Nat.add_assoc]
      rw [hwidth, h.blank pre' c post hrest, List.forall_mem_cons]
      refine (and_iff_right fun hcovers => ?_).symm
      exact Nat.not_lt.2 (Nat.le_add_right _ _) hcovers.2
    · cases rest' with
      | nil =>
        rw [List.append_nil] at htext
        have hwidth : n + width pre = n + t.toText.utf8ByteSize + width [] := by
          rw [← htext, width_toList]
          rfl
        rw [hwidth, h.blank [] c post hpost.symm, List.forall_mem_cons]
        refine (and_iff_right fun hcovers => ?_).symm
        exact Nat.not_lt.2 (Nat.le_add_right _ _) hcovers.2
      | cons d rest' =>
        -- It is one of the token's own.
        obtain ⟨rfl, -⟩ := List.cons.inj hpost
        have hblank : Text.isBlank c = false := hw.not_blank (by rw [htext]; simp)
        refine iff_of_false (by simp [hblank]) fun hnone => hnone _ List.mem_cons_self ?_
        have hsize : t.toText.utf8ByteSize = width pre + (c.utf8Size + width rest') := by
          rw [← width_toList, htext, width_append]
          rfl
        have hc : 0 < c.utf8Size := c.utf8Size_pos
        refine ⟨Nat.le_add_right _ _, ?_⟩
        change n + width pre < n + t.toText.utf8ByteSize
        omega

theorem Lexes.tiles (h : Lexes n cs ps) : Tiles n cs ps := by
  induction h with
  | done n => exact .nil n
  | blank hb _ ih => exact ih.skip hb
  | token hw he _ ih => exact ih.cons hw he

theorem Tiles.unskip (hb : Text.isBlank c = true) (h : Tiles n (c :: cs) ps) :
    Tiles (n + c.utf8Size) cs ps where
  wellFormed := h.wellFormed
  located p hp := by
    obtain ⟨pre, post, hsplit, ho, he⟩ := h.located p hp
    cases pre with
    | nil =>
      obtain ⟨d, ds, htext, hd⟩ := not_blank_of_token (h.wellFormed p hp)
      rw [htext] at hsplit
      obtain ⟨rfl, -⟩ := List.cons.inj hsplit
      simp [hb] at hd
    | cons d pre =>
      obtain ⟨rfl, rfl⟩ := List.cons.inj hsplit
      exact ⟨pre, post, rfl, by rw [ho, Nat.add_assoc]; rfl, he⟩
  increasing := h.increasing
  apart := h.apart
  blank pre d post hsplit := by
    have hwidth : n + c.utf8Size + width pre = n + width (c :: pre) := Nat.add_assoc ..
    rw [hwidth]
    exact h.blank (c :: pre) d post (by rw [hsplit, List.cons_append])

theorem Tiles.uncons {rest : List Char} (h : Tiles n (t.toText.toList ++ rest) (⟨n, t⟩ :: ps)) :
    Tiles (n + t.toText.utf8ByteSize) rest ps where
  wellFormed := (List.forall_mem_cons.1 h.wellFormed).2
  located p hp := by
    obtain ⟨pre, post, hsplit, ho, he⟩ := h.located p (List.mem_cons_of_mem _ hp)
    have hstop : n + t.toText.utf8ByteSize ≤ p.offset := (List.pairwise_cons.1 h.apart).1 p hp
    rw [List.append_assoc] at hsplit
    obtain ⟨pre', rfl, hrest⟩ | ⟨more, htext, hmore⟩ := List.append_eq_append_iff.1 hsplit
    · refine ⟨pre', post, by rw [hrest, List.append_assoc], ?_, he⟩
      rw [ho, width_append, width_toList, Nat.add_assoc]
    · -- Nothing of the token is left where the next one starts.
      have hwidth : t.toText.utf8ByteSize = width pre + width more := by
        rw [← width_toList, htext, width_append]
      cases more with
      | nil =>
        refine ⟨[], post, hmore.symm, ?_, he⟩
        rw [ho, hwidth]
        rfl
      | cons d more =>
        have hd : 0 < d.utf8Size := d.utf8Size_pos
        have hcons : width (d :: more) = d.utf8Size + width more := rfl
        omega
  increasing := (List.pairwise_cons.1 h.increasing).2
  apart := (List.pairwise_cons.1 h.apart).2
  blank pre c post hsplit := by
    have hwidth : n + t.toText.utf8ByteSize + width pre = n + width (t.toText.toList ++ pre) := by
      rw [width_append, width_toList, Nat.add_assoc]
    have hblank := h.blank (t.toText.toList ++ pre) c post (by rw [hsplit, List.append_assoc])
    rw [← hwidth, List.forall_mem_cons] at hblank
    rw [hblank]
    exact and_iff_right fun hcovers => Nat.not_lt.2 (Nat.le_add_right _ _) hcovers.2

theorem Tiles.first (hb : Text.isBlank c = false) (h : Tiles n (c :: cs) ps) :
    ∃ t rest ps', ps = ⟨n, t⟩ :: ps' ∧ c :: cs = t.toText.toList ++ rest ∧ t.WellFormed ∧
      t.EndsBefore rest := by
  obtain ⟨p, hp, hcovers⟩ : ∃ p ∈ ps, p.Covers (n + width []) := by
    by_contra hnone
    have hblank := (h.blank [] c cs rfl).2 fun p hp hcovers => hnone ⟨p, hp, hcovers⟩
    simp [hb] at hblank
  have hat : p.offset = n := Nat.le_antisymm hcovers.1 (h.le_offset hp)
  obtain ⟨pre, post, hsplit, ho, he⟩ := h.located p hp
  obtain rfl : pre = [] := by
    cases pre with
    | nil => rfl
    | cons d pre =>
      have hd : 0 < d.utf8Size := d.utf8Size_pos
      have hcons : width (d :: pre) = d.utf8Size + width pre := rfl
      omega
  cases ps with
  | nil => cases hp
  | cons q ps =>
    obtain rfl | hmem := List.mem_cons.1 hp
    · subst hat
      exact ⟨p.token, post, ps, rfl, hsplit, h.wellFormed p hp, he⟩
    · have hlt : q.offset < p.offset := (List.pairwise_cons.1 h.increasing).1 p hmem
      have hle : n ≤ q.offset := h.le_offset List.mem_cons_self
      omega

theorem Tiles.lexes (h : Tiles n cs ps) : Lexes n cs ps := by
  induction hk : cs.length using Nat.strongRecOn generalizing n cs ps with
  | ind k ih =>
    subst hk
    cases cs with
    | nil =>
      cases ps with
      | nil => exact .done n
      | cons p ps =>
        obtain ⟨pre, post, hsplit, -⟩ := h.located p List.mem_cons_self
        obtain ⟨c, cs, htext, -⟩ := not_blank_of_token (h.wellFormed p List.mem_cons_self)
        simp [htext] at hsplit
    | cons c cs =>
      cases hb : Text.isBlank c with
      | true => exact .blank hb (ih _ (Nat.lt_succ_self _) (h.unskip hb) rfl)
      | false =>
        obtain ⟨t, rest, ps', rfl, hcs, hw, he⟩ := h.first hb
        rw [hcs] at h ih ⊢
        have hlt : rest.length < (t.toText.toList ++ rest).length := length_next? (next?_append hw he)
        exact .token hw he (ih _ hlt h.uncons rfl)

theorem scan_eq_ok_iff_tiles : scan n cs = .ok ps ↔ Tiles n cs ps :=
  scan_eq_ok_iff.trans ⟨Lexes.tiles, Tiles.lexes⟩

def IsAtom : LabelToken → Prop
  | atom _ => True
  | _ => False

def spacedText (tail : String) : List (String × LabelToken) → String
  | [] => tail
  | (blanks, t) :: es => blanks ++ (t.toText ++ spacedText tail es)

def spacedPlaces (n : Nat) : List (String × LabelToken) → List Placed
  | [] => []
  | (blanks, t) :: es =>
    ⟨n + blanks.utf8ByteSize, t⟩ ::
      spacedPlaces (n + blanks.utf8ByteSize + t.toText.utf8ByteSize) es

/-- The blanks are blank, the atoms are words, and something stands between an atom and the next
one. -/
structure Spaced (tail : String) (es : List (String × LabelToken)) : Prop where
  tail : ∀ c ∈ tail.toList, Text.isBlank c = true
  blanks : ∀ e ∈ es, ∀ c ∈ e.1.toList, Text.isBlank c = true
  wellFormed : ∀ e ∈ es, e.2.WellFormed
  separated : es.IsChain fun d e => d.2.IsAtom → e.2.IsAtom → e.1 ≠ ""

variable {tail : String} {es : List (String × LabelToken)}

theorem map_token_spacedPlaces (n : Nat) (es : List (String × LabelToken)) :
    (spacedPlaces n es).map (·.token) = es.map (·.2) := by
  induction es generalizing n with
  | nil => rfl
  | cons e es ih => exact congrArg (e.2 :: ·) (ih _)

theorem Lexes.skip {blanks : List Char} (hb : ∀ c ∈ blanks, Text.isBlank c = true)
    (h : Lexes (n + width blanks) cs ps) : Lexes n (blanks ++ cs) ps := by
  induction blanks generalizing n with
  | nil => exact h
  | cons c blanks ih =>
    obtain ⟨hc, hblanks⟩ := List.forall_mem_cons.1 hb
    refine .blank hc (ih hblanks ?_)
    rwa [Nat.add_assoc]

theorem not_ordinary_of_blank (h : Text.isBlank c = true) : ¬ Ordinary c := fun ho => by
  simp [ho.1] at h

theorem endsBefore_of_not_isAtom (h : ¬ t.IsAtom) (cs : List Char) : t.EndsBefore cs := by
  cases t with
  | atom label => exact absurd trivial h
  | and | or | not | opening | closing => trivial

theorem endsBefore_of_head (h : ∀ c ∈ cs.head?, ¬ Ordinary c) : t.EndsBefore cs := by
  cases t with
  | atom label => exact h
  | and | or | not | opening | closing => trivial

/-- What follows a token does not go on with it: a blank, another token or nothing. -/
theorem Spaced.endsBefore {blanks : String} (h : Spaced tail ((blanks, t) :: es)) :
    t.EndsBefore (spacedText tail es).toList := by
  cases es with
  | nil => exact endsBefore_of_head fun c hc => not_ordinary_of_blank (h.tail c (List.mem_of_mem_head? hc))
  | cons e es =>
    obtain ⟨b, u⟩ := e
    by_cases ht : t.IsAtom
    · refine endsBefore_of_head fun c hc => ?_
      rw [spacedText, String.toList_append, String.toList_append] at hc
      cases hb : b.toList with
      | cons d ds =>
        rw [hb] at hc
        obtain rfl := Option.some.inj hc
        exact not_ordinary_of_blank (h.blanks (b, u) (by simp) d (by simp [hb]))
      | nil =>
        have hu : ¬ u.IsAtom := fun hu =>
          (List.isChain_cons_cons.1 h.separated).1 ht hu (String.toList_eq_nil_iff.1 hb)
        rw [hb, List.nil_append] at hc
        cases u with
        | atom label => exact absurd trivial hu
        | and | or | not | opening | closing =>
          obtain rfl := Option.some.inj hc
          decide
    · exact endsBefore_of_not_isAtom ht _

theorem Spaced.tail_spaced {e : String × LabelToken} (h : Spaced tail (e :: es)) : Spaced tail es where
  tail := h.tail
  blanks := (List.forall_mem_cons.1 h.blanks).2
  wellFormed := (List.forall_mem_cons.1 h.wellFormed).2
  separated := h.separated.tail

theorem Spaced.lexes (h : Spaced tail es) : Lexes n (spacedText tail es).toList (spacedPlaces n es) := by
  induction es generalizing n with
  | nil => exact lexes_nil_iff.2 h.tail
  | cons e es ih =>
    obtain ⟨blanks, t⟩ := e
    rw [spacedText, String.toList_append, String.toList_append]
    refine Lexes.skip (List.forall_mem_cons.1 h.blanks).1 ?_
    rw [width_toList]
    exact .token (List.forall_mem_cons.1 h.wellFormed).1 h.endsBefore (ih h.tail_spaced)

/-- The tokens that a text is split into cover all of it but its blanks, each where its own text stands;
and tokens with blanks around them are what their text is split into. -/
theorem scan_lossless (s : String) (ps : List Placed) (tail : String) (es : List (String × LabelToken)) :
    (scan 0 s.toList = .ok ps ↔ Tiles 0 s.toList ps) ∧
      (Spaced tail es → scan 0 (spacedText tail es).toList = .ok (spacedPlaces 0 es) ∧
        (spacedPlaces 0 es).map (·.token) = es.map (·.2)) :=
  ⟨scan_eq_ok_iff_tiles, fun h => ⟨scan_of_lexes h.lexes, map_token_spacedPlaces 0 es⟩⟩

/-- Letters of two bytes, a blank of three, and operators that touch. -/
theorem scan_lossless_wide :
    let s := "é&&!(ü\u2003b) "
    let ps : List Placed := [⟨0, .atom "é"⟩, ⟨2, .and⟩, ⟨4, .not⟩, ⟨5, .opening⟩, ⟨6, .atom "ü"⟩,
      ⟨11, .atom "b"⟩, ⟨12, .closing⟩]
    let es : List (String × LabelToken) := [("", .atom "é"), ("", .and), ("", .not), ("", .opening),
      ("", .atom "ü"), ("\u2003", .atom "b"), ("", .closing)]
    spacedText " " es = s ∧ Spaced " " es ∧ scan 0 s.toList = .ok ps ∧ Tiles 0 s.toList ps := by
  intro s ps es
  have htail : (" ".toList.all Text.isBlank) = true := by decide
  have hblanks : (es.all fun e => e.1.toList.all Text.isBlank) = true := by decide
  have hspaced : Spaced " " es :=
    { tail := List.all_eq_true.1 htail
      blanks := fun e he => List.all_eq_true.1 (List.all_eq_true.1 hblanks e he)
      wellFormed := by simp [es, WellFormed]; decide
      separated := by simp [es, IsAtom] }
  have hscan : scan 0 s.toList = .ok ps := ((scan_lossless s ps " " es).2 hspaced).1
  exact ⟨rfl, hspaced, hscan, (scan_lossless s ps " " es).1.1 hscan⟩

end ContainerFleet.LabelToken
