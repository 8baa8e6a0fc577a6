import ContainerFleet.Definition.Reading
import ContainerFleet.Proofs.JsonText
import ContainerFleet.Proofs.TextOctets
import Mathlib.Data.Bool.AllAny
import Mathlib.Data.List.Basic
import Mathlib.Data.String.Basic
import Mathlib.Tactic.SplitIfs

namespace ContainerFleet

namespace Name

def initials : List Char := "abcdefghijklmnopqrstuvwxyz0123456789".toList

def inners : List Char := "abcdefghijklmnopqrstuvwxyz0123456789._-".toList

def Spelled : List Char → Prop
  | [] => True
  | c :: cs => c ∈ initials ∧ ∀ d ∈ cs, d ∈ inners

def Lawful (s : String) : Prop := Spelled s.toList ∧ 1 ≤ s.length ∧ s.length ≤ 63

def Begins (cs : List Char) : Prop := ∃ ds, Lawful (String.ofList (cs ++ ds))

/-- Names can go on up to the character `c` of the text, but not beyond it. -/
def StopsAt (s : String) (c : Char) : Prop :=
  ∃ cs ds, s.toList = cs ++ c :: ds ∧ Begins cs ∧ ¬ Begins (cs ++ [c])

variable {c : Char} {cs ds : List Char} {s : String}

/-- Classes of characters of seven bits are the same if they agree on these. -/
theorem mem_iff_of_ascii {p : Char → Bool} {xs : List Char} (hp : ∀ c, p c = true → c.toNat < 128)
    (hxs : ∀ c ∈ xs, c.toNat < 128) (h : ∀ n < 128, p (Char.ofNat n) = true ↔ Char.ofNat n ∈ xs) :
    p c = true ↔ c ∈ xs := by
  by_cases hc : c.toNat < 128
  · have hchar := h c.toNat hc
    rwa [Char.ofNat_toNat] at hchar
  · exact iff_of_false (fun hin => hc (hp c hin)) fun hin => hc (hxs c hin)

theorem toNat_lt_of_isInitial (h : isInitial c = true) : c.toNat < 128 := by
  obtain h | h := Bool.or_eq_true_iff.1 h
  · have hle : c ≤ 'z' := of_decide_eq_true (Bool.and_eq_true_iff.1 h).2
    exact Nat.lt_of_le_of_lt (UInt32.le_iff_toNat_le.1 hle) (by decide)
  · have hle : c ≤ '9' := of_decide_eq_true (Bool.and_eq_true_iff.1 h).2
    exact Nat.lt_of_le_of_lt (UInt32.le_iff_toNat_le.1 hle) (by decide)

theorem isInitial_iff : isInitial c = true ↔ c ∈ initials :=
  mem_iff_of_ascii (fun _ => toNat_lt_of_isInitial) (List.all_iff_forall_prop.1 (by decide +kernel))
    (by decide +kernel)

theorem isInner_iff : isInner c = true ↔ c ∈ inners := by
  refine mem_iff_of_ascii (fun c h => ?_) (List.all_iff_forall_prop.1 (by decide +kernel)) (by decide +kernel)
  simp only [isInner, Bool.or_eq_true, decide_eq_true_eq] at h
  obtain ((h | rfl) | rfl) | rfl := h
  · exact toNat_lt_of_isInitial h
  · decide
  · decide
  · decide

theorem isInner_eq_false_iff : isInner c = false ↔ c ∉ inners := by
  rw [← isInner_iff, Bool.not_eq_true]

theorem mem_inners_of_initials : ∀ c ∈ initials, c ∈ inners :=
  List.all_iff_forall_prop.1 (by decide +kernel)

theorem utf8Size_of_mem_inners : ∀ c ∈ inners, c.utf8Size = 1 :=
  List.all_iff_forall_prop.1 (by decide +kernel)

theorem Spelled.mem_inners (h : Spelled cs) : ∀ c ∈ cs, c ∈ inners := by
  cases cs with
  | nil => simp
  | cons c cs => exact List.forall_mem_cons.2 ⟨mem_inners_of_initials c h.1, h.2⟩

theorem Spelled.append (h : Spelled cs) (hne : cs ≠ []) (hds : ∀ d ∈ ds, d ∈ inners) :
    Spelled (cs ++ ds) := by
  cases cs with
  | nil => exact absurd rfl hne
  | cons c cs => exact ⟨h.1, List.forall_mem_append.2 ⟨h.2, hds⟩⟩

theorem Spelled.left (h : Spelled (cs ++ ds)) : Spelled cs := by
  cases cs with
  | nil => trivial
  | cons c cs => exact ⟨h.1, fun d hd => h.2 d (List.mem_append_left ds hd)⟩

theorem Spelled.utf8ByteSize_eq (h : Spelled s.toList) : s.utf8ByteSize = s.length := by
  have hsize := Text.utf8ByteSize_of_single fun c hc => utf8Size_of_mem_inners c (h.mem_inners c hc)
  rwa [String.ofList_toList, String.length_toList] at hsize

theorem Lawful.toList_ne_nil (h : Lawful s) : s.toList ≠ [] := by
  refine List.ne_nil_of_length_pos ?_
  rw [String.length_toList]
  exact h.2.1

theorem firstBad_eq_none_iff : firstBad cs = none ↔ Spelled cs := by
  cases cs with
  | nil => exact iff_of_true rfl trivial
  | cons c cs =>
    rw [firstBad, Spelled, ← isInitial_iff]
    split_ifs with hc
    · simp [hc, ← isInner_iff]
    · simp [hc]

theorem firstBad_eq_some_iff : firstBad cs = some c ↔
    ∃ as bs, cs = as ++ c :: bs ∧ Spelled as ∧ ¬ Spelled (as ++ [c]) := by
  constructor
  · intro h
    cases cs with
    | nil => cases h
    | cons d ds =>
      rw [firstBad] at h
      split_ifs at h with hd
      · obtain ⟨hc, as, bs, rfl, has⟩ := List.find?_eq_some_iff_append.1 h
        have hinner : ∀ a ∈ as, a ∈ inners := fun a ha => isInner_iff.1 (by simpa using has a ha)
        have hbad : c ∉ inners := fun hin => by simp [isInner_iff.2 hin] at hc
        refine ⟨d :: as, bs, rfl, ⟨isInitial_iff.1 hd, hinner⟩, fun hall => ?_⟩
        exact hbad (hall.2 c (List.mem_append_right as List.mem_cons_self))
      · obtain rfl := Option.some.inj h
        exact ⟨[], ds, rfl, trivial, fun hall => hd (isInitial_iff.2 hall.1)⟩
  · rintro ⟨as, bs, rfl, has, hbad⟩
    cases as with
    | nil =>
      have hc : ¬ isInitial c = true := fun hc => hbad ⟨isInitial_iff.1 hc, by simp⟩
      exact if_neg hc
    | cons a as =>
      have hc : c ∉ inners := fun hin => hbad (has.append (by simp) (by simpa using hin))
      have hfind : (as ++ c :: bs).find? (!isInner ·) = some c := by
        refine List.find?_eq_some_iff_append.2 ⟨?_, as, bs, rfl, fun x hx => ?_⟩
        · simp [isInner_eq_false_iff.2 hc]
        · simp [isInner_iff.2 (has.2 x hx)]
      exact (if_pos (isInitial_iff.2 has.1)).trans hfind

theorem begins_iff : Begins cs ↔ Spelled cs ∧ cs.length ≤ 63 := by
  constructor
  · rintro ⟨ds, hspelled, -, hlength⟩
    rw [String.toList_ofList] at hspelled
    rw [String.length_ofList, List.length_append] at hlength
    exact ⟨hspelled.left, by omega⟩
  · rintro ⟨hspelled, hlength⟩
    cases cs with
    | nil => exact ⟨['a'], ⟨by decide, by simp⟩, by decide, by decide⟩
    | cons c cs =>
      refine ⟨[], ?_⟩
      rw [List.append_nil, Lawful, String.toList_ofList, String.length_ofList]
      exact ⟨hspelled, by simp, hlength⟩

/-- Within 63 octets the length of a text stops no name. -/
theorem stopsAt_iff (h : s.utf8ByteSize ≤ 63) : StopsAt s c ↔ firstBad s.toList = some c := by
  rw [firstBad_eq_some_iff, StopsAt]
  refine exists_congr fun as => exists_congr fun bs => and_congr_right fun hs => ?_
  have hlength : (as ++ [c]).length ≤ 63 := by
    have hle := Text.length_le_utf8ByteSize s
    rw [← String.length_toList, hs] at hle
    simp only [List.length_append, List.length_cons, List.length_nil] at hle ⊢
    omega
  have hshort : as.length ≤ 63 := by
    rw [List.length_append] at hlength
    omega
  simp only [begins_iff, hlength, hshort, and_true]

theorem fault?_eq_empty_iff : fault? s = some .empty ↔ s = "" := by
  rw [← String.isEmpty_iff, fault?]
  split_ifs with he hl
  · simp [he]
  · simp [he]
  · simp [he]

theorem fault?_of_ne (h : s ≠ "") : fault? s =
    if 63 < s.utf8ByteSize then some .tooLong else (firstBad s.toList).map .character :=
  if_neg fun he => h (String.isEmpty_iff.1 he)

theorem fault?_eq_tooLong_iff : fault? s = some .tooLong ↔ 63 < s.utf8ByteSize := by
  obtain rfl | hne := eq_or_ne s ""
  · decide
  · rw [fault?_of_ne hne]
    split_ifs with hl
    · simp [hl]
    · simp [hl]

theorem fault?_eq_character_iff : fault? s = some (.character c) ↔
    s ≠ "" ∧ s.utf8ByteSize ≤ 63 ∧ StopsAt s c := by
  obtain rfl | hne := eq_or_ne s ""
  · simp [fault?_eq_empty_iff.2]
  · rw [fault?_of_ne hne]
    split_ifs with hl
    · simp [Nat.not_le.2 hl]
    · have hle := Nat.not_lt.1 hl
      simp [hne, hle, stopsAt_iff hle]

theorem fault?_eq_none_iff : fault? s = none ↔ Lawful s := by
  obtain rfl | hne := eq_or_ne s ""
  · simp [fault?_eq_empty_iff.2, Lawful]
  · have hpos : 1 ≤ s.length := Nat.pos_of_ne_zero (mt String.length_eq_zero_iff.1 hne)
    rw [fault?_of_ne hne, Lawful]
    split_ifs with hl
    · refine iff_of_false (by simp) fun hlawful => ?_
      have hsize := hlawful.1.utf8ByteSize_eq
      omega
    · have hle := Text.length_le_utf8ByteSize s
      rw [Option.map_eq_none_iff, firstBad_eq_none_iff]
      exact ⟨fun h => ⟨h, hpos, by omega⟩, And.left⟩

section Reading

variable {kind : String} {k : NameKind} {n : Name k} {d : Data} {e : IdError}

theorem Fault.toError_inj {f g : Fault} : f.toError kind s = g.toError kind s ↔ f = g := by
  cases f <;> cases g <;> simp [toError]

theorem validate_eq_ok_iff : validate kind s = .ok () ↔ Lawful s := by
  rw [← fault?_eq_none_iff, validate]
  cases fault? s <;> simp

theorem validate_eq_error_iff (f : Fault) :
    validate kind s = .error (f.toError kind s) ↔ fault? s = some f := by
  rw [validate]
  cases fault? s <;> simp [Fault.toError_inj]

theorem validate_eq_empty_iff : validate kind s = .error .empty ↔ s = "" :=
  (validate_eq_error_iff .empty).trans fault?_eq_empty_iff

theorem validate_eq_tooLong_iff :
    validate kind s = .error (.nameTooLong kind s 63) ↔ 63 < s.utf8ByteSize :=
  (validate_eq_error_iff .tooLong).trans fault?_eq_tooLong_iff

theorem validate_eq_badCharacter_iff : validate kind s = .error (.badCharacter kind s c) ↔
    s ≠ "" ∧ s.utf8ByteSize ≤ 63 ∧ StopsAt s c :=
  (validate_eq_error_iff (.character c)).trans fault?_eq_character_iff

theorem validate_total (kind s : String) :
    validate kind s = .ok () ∨ ∃ f : Fault, validate kind s = .error (f.toError kind s) := by
  rw [validate]
  cases fault? s with
  | none => exact .inl rfl
  | some f => exact .inr ⟨f, rfl⟩

theorem parse_ok_iff : parse k s = .ok n ↔ n.text = s := by
  constructor
  · intro h
    unfold parse at h
    split at h
    · obtain rfl := Except.ok.inj h
      rfl
    · cases h
  · rintro rfl
    unfold parse
    split
    · rfl
    · rename_i f hf
      rw [n.valid] at hf
      cases hf

theorem parse_error_iff : parse k s = .error e ↔ validate k.title s = .error e := by
  unfold parse validate
  split <;> rename_i h <;> simp [h]

theorem ofData?_eq_some_iff : ofData? k d = some n ↔ d = .text n.text := by
  have htext : ∀ s, d.text? = some s ↔ d = .text s := by
    intro s
    cases d <;> simp [Data.text?]
  have hparse : ∀ s, (parse k s).toOption = some n ↔ n.text = s := by
    intro s
    rw [← parse_ok_iff]
    cases parse k s <;> simp [Except.toOption]
  simp only [ofData?, Option.bind_eq_some_iff, htext, hparse, exists_eq_right']

theorem exists_text_eq_iff : (∃ n : Name k, n.text = s) ↔ Lawful s := by
  rw [← fault?_eq_none_iff]
  constructor
  · rintro ⟨n, rfl⟩
    exact n.valid
  · exact fun h => ⟨⟨s, h⟩, rfl⟩

theorem ofText?_bind_iff {t : String} :
    (Json.ofText? t).bind (ofData? k) = some n ↔ Json.ofText? t = some (.text n.text) := by
  simp only [Option.bind_eq_some_iff, ofData?_eq_some_iff, exists_eq_right]

end Reading

/-- Just the lawful texts pass the check. Of the others the empty one is said to be empty, those above 63
octets to be too long, and of the rest the first character is shown at which no name can go on. Names of
either kind are the texts that pass the check, in whatever form they are read, and they are shown and
written as these texts. -/
theorem check_exact (kind s : String) :
    (validate kind s = .ok () ↔ Lawful s) ∧
    (validate kind s = .error .empty ↔ s = "") ∧
    (validate kind s = .error (.nameTooLong kind s 63) ↔ 63 < s.utf8ByteSize) ∧
    (∀ c, validate kind s = .error (.badCharacter kind s c) ↔
      s ≠ "" ∧ s.utf8ByteSize ≤ 63 ∧ StopsAt s c) ∧
    (validate kind s = .ok () ∨ validate kind s = .error .empty ∨
      validate kind s = .error (.nameTooLong kind s 63) ∨
      ∃ c, validate kind s = .error (.badCharacter kind s c)) ∧
    ∀ k : NameKind,
      ((∃ n, parse k s = .ok n) ↔ Lawful s) ∧
      ((∃ n, (Json.ofText? (Json.toText (.text s))).bind (ofData? k) = some n) ↔ Lawful s) ∧
      (∀ e, parse k s = .error e ↔ validate k.title s = .error e) ∧
      (∀ n, parse k s = .ok n ↔ toString n = s) ∧
      (∀ t n, (Json.ofText? t).bind (ofData? k) = some n ↔
        Json.ofText? t = some (.text (toString n))) ∧
      ∀ n : Name k, Json.ofText? (Json.toText n.toData) = some (.text (toString n)) := by
  refine ⟨validate_eq_ok_iff, validate_eq_empty_iff, validate_eq_tooLong_iff,
    fun c => validate_eq_badCharacter_iff, ?_,
    fun k => ⟨?_, ?_, fun e => parse_error_iff, fun n => parse_ok_iff, fun t n => ofText?_bind_iff,
      fun n => Json.ofText?_toText n.text⟩⟩
  · obtain h | ⟨f, h⟩ := validate_total kind s
    · exact .inl h
    · cases f with
      | empty => exact .inr (.inl h)
      | tooLong => exact .inr (.inr (.inl h))
      | character c => exact .inr (.inr (.inr ⟨c, h⟩))
  · simp only [parse_ok_iff, exists_text_eq_iff]
  · rw [← exists_text_eq_iff]
    refine exists_congr fun n => ?_
    rw [ofText?_bind_iff, Json.ofText?_toText, Option.some.injEq, Data.text.injEq, eq_comm]

/-- Octets are counted before characters are looked at, and characters of two octets make a short text too
long. -/
example : (String.ofList (List.replicate 32 'é')).length = 32 ∧
    validate "name" (String.ofList (List.replicate 32 'é')) =
      .error (.nameTooLong "name" (String.ofList (List.replicate 32 'é')) 63) ∧
    validate "name" "a.é" = .error (.badCharacter "name" "a.é" 'é') := by
  decide +kernel

end Name

end ContainerFleet
