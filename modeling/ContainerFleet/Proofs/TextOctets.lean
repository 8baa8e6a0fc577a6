import ContainerFleet.Text.Utf8
import Mathlib.Data.Char
import Mathlib.Data.List.Lex
import Mathlib.Data.String.Basic
import Mathlib.Tactic.SplitIfs

namespace ContainerFleet.Text

section Size

variable {cs : List Char}

theorem utf8ByteSize_of_single (h : ∀ c ∈ cs, c.utf8Size = 1) :
    (String.ofList cs).utf8ByteSize = cs.length := by
  rw [String.utf8ByteSize_ofList]
  induction cs with
  | nil => rfl
  | cons c cs ih =>
    obtain ⟨hc, hcs⟩ := List.forall_mem_cons.1 h
    rw [String.utf8Len_cons, ih hcs, hc, List.length_cons]

theorem length_le_utf8ByteSize (s : String) : s.length ≤ s.utf8ByteSize := by
  rw [← String.ofList_toList (s := s), String.length_ofList, String.utf8ByteSize_ofList]
  induction s.toList with
  | nil => exact Nat.le_refl 0
  | cons c cs ih =>
    rw [String.utf8Len_cons, List.length_cons]
    exact Nat.add_le_add ih c.utf8Size_pos

end Size

section Lists

variable {α : Type} [LT α] {us vs xs ys : List α}

theorem append_lt_append_iff (h : us.length = vs.length) :
    us ++ xs < vs ++ ys ↔ us < vs ∨ us = vs ∧ xs < ys := by
  induction us generalizing vs with
  | nil =>
    obtain rfl := List.length_eq_zero_iff.1 h.symm
    simp
  | cons u us ih =>
    cases vs with
    | nil => cases h
    | cons v vs =>
      rw [List.cons_append, List.cons_append, List.cons_lt_cons_iff, List.cons_lt_cons_iff,
        ih (Nat.succ.inj h), List.cons.injEq, and_or_left, or_assoc, and_assoc]

theorem append_lt_append_left_iff [Std.Irrefl fun a b : α => a < b] : us ++ xs < us ++ ys ↔ xs < ys := by
  simp [append_lt_append_iff]

end Lists

namespace Utf8

theorem ofNat_lt_iff {a b : Nat} (ha : a < 256) (hb : b < 256) :
    UInt8.ofNat a < UInt8.ofNat b ↔ a < b := by
  rw [UInt8.lt_iff_toNat_lt, UInt8.toNat_ofNat', UInt8.toNat_ofNat', Nat.mod_eq_of_lt ha,
    Nat.mod_eq_of_lt hb]

theorem ofNat_inj {a b : Nat} (ha : a < 256) (hb : b < 256) :
    UInt8.ofNat a = UInt8.ofNat b ↔ a = b := by
  rw [← UInt8.toNat_inj, UInt8.toNat_ofNat', UInt8.toNat_ofNat', Nat.mod_eq_of_lt ha,
    Nat.mod_eq_of_lt hb]

/-- The octets of the lesser character come first, whatever follows. -/
theorem encodeChar_lt {c d : Char} (h : c < d) (xs ys : List UInt8) :
    String.utf8EncodeChar c ++ xs < String.utf8EncodeChar d ++ ys := by
  have hlt : c.val.toNat < d.val.toNat := UInt32.lt_iff_toNat_lt.1 h
  have hvalid : d.val.toNat < 0xD800 ∨ 0xDFFF < d.val.toNat ∧ d.val.toNat < 0x110000 := d.valid
  simp only [String.utf8EncodeChar]
  generalize c.val.toNat = v at hlt
  generalize d.val.toNat = w at hlt hvalid
  split_ifs
  all_goals first
    | omega
    | -- As many octets: they hold the digits of the characters to the base 64.
      refine (append_lt_append_iff (by rfl)).2 (.inl ?_)
      simp (disch := omega) only [List.cons_lt_cons_iff, List.not_lt_nil, ofNat_lt_iff, ofNat_inj,
        Nat.mod_eq_of_lt, and_false, or_false]
      omega
    | -- More octets start with a greater one.
      refine List.cons_lt_cons_iff.2 (.inl ?_)
      simp (disch := omega) only [ofNat_lt_iff]
      omega

theorem encode_cons (c : Char) (cs : List Char) :
    encode (c :: cs) = String.utf8EncodeChar c ++ encode cs := List.flatMap_cons

theorem nil_lt_encode (c : Char) (cs : List Char) : [] < encode (c :: cs) := by
  have hpos : 0 < (encode (c :: cs)).length := by
    rw [encode_cons, List.length_append, String.length_utf8EncodeChar]
    exact Nat.add_pos_left c.utf8Size_pos _
  obtain ⟨b, bs, h⟩ := List.exists_cons_of_length_pos hpos
  rw [h]
  exact List.nil_lt_cons b bs

theorem encode_lt_encode_iff {cs ds : List Char} : encode cs < encode ds ↔ cs < ds := by
  induction cs generalizing ds with
  | nil =>
    cases ds with
    | nil => exact iff_of_false (List.not_lt_nil _) (List.not_lt_nil _)
    | cons d ds => exact iff_of_true (nil_lt_encode d ds) (List.nil_lt_cons d ds)
  | cons c cs ih =>
    cases ds with
    | nil => exact iff_of_false (List.not_lt_nil _) (List.not_lt_nil _)
    | cons d ds =>
      rw [encode_cons, encode_cons, List.cons_lt_cons_iff]
      obtain h | rfl | h := lt_trichotomy c d
      · exact iff_of_true (encodeChar_lt h _ _) (.inl h)
      · simp [append_lt_append_left_iff, ih]
      · refine iff_of_false (List.lt_asymm (encodeChar_lt h _ _)) ?_
        rintro (h' | ⟨rfl, -⟩)
        · exact lt_asymm h h'
        · exact lt_irrefl c h

end Utf8

end ContainerFleet.Text
