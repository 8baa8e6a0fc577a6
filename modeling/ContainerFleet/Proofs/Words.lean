import ContainerFleet.Label.Expr
import ContainerFleet.Proofs.Dict
import ContainerFleet.Proofs.Span

namespace ContainerFleet

namespace Text

variable {c : Char} {w p cs run : List Char}

/-- A run without blanks that blanks or the ends of the text enclose. -/
structure IsRun (w cs : List Char) : Prop where
  nonempty : w ≠ []
  plain : ∀ c ∈ w, isBlank c = false
  enclosed : ∃ pre post, cs = pre ++ w ++ post ∧ (∀ c ∈ pre.getLast?, isBlank c = true) ∧
    ∀ c ∈ post.head?, isBlank c = true

def IsWord (w s : String) : Prop := IsRun w.toList s.toList

theorem isRun_self (hp : ∀ c ∈ p, isBlank c = false) : IsRun w p ↔ w = p ∧ p ≠ [] := by
  constructor
  · rintro ⟨hne, -, pre, post, rfl, hpre, hpost⟩
    obtain rfl : pre = [] := Span.eq_nil_of_getLast? (fun c hc => hp c (by simp [hc])) hpre
    obtain rfl : post = [] := Span.eq_nil_of_head? (fun c hc => hp c (by simp [hc])) hpost
    rw [List.nil_append, List.append_nil]
    exact ⟨rfl, hne⟩
  · rintro ⟨rfl, hne⟩
    exact ⟨hne, hp, [], [], by simp, by simp, by simp⟩

theorem isRun_append_blank (hp : ∀ c ∈ p, isBlank c = false) (hc : isBlank c = true) :
    IsRun w (p ++ c :: cs) ↔ (w = p ∧ p ≠ []) ∨ IsRun w cs := by
  constructor
  · rintro ⟨hne, hw, pre, post, he, hpre, hpost⟩
    have hnot : c ∉ w := fun hmem => by
      have hplain := hw c hmem
      rw [hc] at hplain
      cases hplain
    rw [List.append_assoc] at he
    obtain ⟨as, rfl, htail⟩ | ⟨bs, rfl, htail⟩ := List.append_eq_append_iff.1 he
    · -- The run starts behind `p`, and behind the blank, which is not in it.
      cases as with
      | nil =>
        obtain ⟨x, w, rfl⟩ := List.exists_cons_of_ne_nil hne
        obtain ⟨rfl, -⟩ := List.cons.inj htail
        exact absurd List.mem_cons_self hnot
      | cons a as =>
        obtain ⟨rfl, rfl⟩ := List.cons.inj htail
        refine .inr ⟨hne, hw, as, post, (List.append_assoc _ _ _).symm, fun x hx => hpre x ?_, hpost⟩
        cases as with
        | nil => cases hx
        | cons y as => simpa [List.getLast?_append, List.getLast?_cons_cons] using hx
    · -- The run starts in `p`, at its start, and ends where `p` does.
      obtain rfl : pre = [] := Span.eq_nil_of_getLast? (fun x hx => hp x (List.mem_append_left _ hx)) hpre
      obtain ⟨as, rfl, hpost'⟩ | ⟨as, rfl, htail'⟩ := List.append_eq_append_iff.1 htail
      · obtain rfl : as = [] := by
          refine Span.eq_nil_of_head? (fun x hx => hp x (by simp [hx])) fun x hx => hpost x ?_
          rw [hpost', List.head?_append, Option.mem_def.1 hx]
          rfl
        rw [List.nil_append, List.append_nil]
        exact .inl ⟨rfl, hne⟩
      · cases as with
        | nil =>
          rw [List.nil_append, List.append_nil]
          exact .inl ⟨rfl, by simpa using hne⟩
        | cons a as =>
          obtain ⟨rfl, -⟩ := List.cons.inj htail'
          exact absurd (by simp) hnot
  · rintro (⟨rfl, hne⟩ | ⟨hne, hw, pre, post, rfl, hpre, hpost⟩)
    · refine ⟨hne, hp, [], c :: cs, rfl, by simp, fun x hx => ?_⟩
      obtain rfl := Option.some.inj hx
      exact hc
    · refine ⟨hne, hw, p ++ c :: pre, post, by simp, fun x hx => ?_, hpost⟩
      cases pre with
      | nil =>
        obtain rfl : c = x := by simpa using hx
        exact hc
      | cons y pre => exact hpre x (by simpa [List.getLast?_append, List.getLast?_cons_cons] using hx)

theorem mem_runs_iff (hrun : ∀ c ∈ run, isBlank c = false) :
    w ∈ runs run cs ↔ IsRun w (run.reverse ++ cs) := by
  induction cs generalizing run with
  | nil =>
    rw [List.append_nil, isRun_self fun c hc => hrun c (List.mem_reverse.1 hc), runs]
    cases run <;> simp
  | cons c cs ih =>
    rw [runs]
    by_cases hc : isBlank c = true
    · have hnil : w ∈ runs [] cs ↔ IsRun w cs := ih (by simp)
      rw [if_pos hc, isRun_append_blank (fun c hc => hrun c (List.mem_reverse.1 hc)) hc]
      cases run <;> simp [hnil]
    · have hcons : ∀ x ∈ c :: run, isBlank x = false := by
        rintro x (_ | ⟨_, hx⟩)
        · exact Bool.eq_false_iff.2 hc
        · exact hrun x hx
      rw [if_neg hc, ih hcons, List.reverse_cons, List.append_assoc, List.singleton_append]

theorem mem_words_iff {w s : String} : w ∈ words s ↔ IsWord w s := by
  have hruns : w.toList ∈ runs [] s.toList ↔ IsRun w.toList s.toList := mem_runs_iff (by simp)
  rw [IsWord, ← hruns, words, List.mem_map]
  constructor
  · rintro ⟨cs, hcs, rfl⟩
    rwa [String.toList_ofList]
  · intro h
    exact ⟨w.toList, h, String.ofList_toList⟩

theorem isEmpty_trim_iff {s : String} : (trim s).isEmpty = true ↔ ∀ c ∈ s.toList, isBlank c = true := by
  have hleft : s.toList.dropWhile isBlank = [] ↔ ∀ c ∈ s.toList.dropWhile isBlank, isBlank c = true := by
    constructor
    · intro h c hc
      rw [h] at hc
      cases hc
    · intro h
      cases hd : s.toList.dropWhile isBlank with
      | nil => rfl
      | cons c cs =>
        have hstop := List.head?_dropWhile_not isBlank s.toList
        rw [hd] at h hstop
        have hblank := h c List.mem_cons_self
        simp [hblank] at hstop
  rw [String.isEmpty_iff, trim, ← String.toList_inj, String.toList_ofList, String.toList_empty,
    List.reverse_eq_nil_iff]
  calc (s.toList.dropWhile isBlank).reverse.dropWhile isBlank = []
    _ ↔ ∀ c ∈ s.toList.dropWhile isBlank, isBlank c = true := by
      rw [List.dropWhile_eq_nil_iff]
      simp only [List.mem_reverse]
    _ ↔ s.toList.dropWhile isBlank = [] := hleft.symm
    _ ↔ ∀ c ∈ s.toList, isBlank c = true := List.dropWhile_eq_nil_iff

end Text

theorem Dict.contains_foldl_insert {ν : Type} {es : List (String × ν)} {d : Dict ν} {k : String} :
    (es.foldl (fun d e => d.insert e.1 e.2) d).contains k = true ↔ k ∈ es.map (·.1) ∨ d.contains k = true := by
  induction es generalizing d with
  | nil => simp
  | cons e es ih =>
    rw [List.foldl_cons, ih, contains_insert, Bool.or_eq_true, decide_eq_true_eq, List.map_cons,
      List.mem_cons]
    exact or_left_comm.trans or_assoc.symm

theorem LabelSet.contains_ofText {w s : String} :
    (LabelSet.ofText s).contains w = true ↔ Text.IsWord w s := by
  have hempty : (Dict.empty : Dict Unit).contains w = false := rfl
  rw [ofText, Dict.ofKeys, Dict.ofList, Dict.contains_foldl_insert, hempty, ← Text.mem_words_iff]
  simp

end ContainerFleet
