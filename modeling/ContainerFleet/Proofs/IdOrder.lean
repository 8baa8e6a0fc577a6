import ContainerFleet.Proofs.IdText
import ContainerFleet.Proofs.TextOctets
import Mathlib.Data.List.Basic
import Mathlib.Data.String.Basic

namespace ContainerFleet

open Text (append_lt_append_iff append_lt_append_left_iff)

namespace Ulid

variable {f : Char → Char}

def Ascends (f : Char → Char) : Prop :=
  ∀ d < 32, ∀ e < 32, f (digitChar d) < f (digitChar e) ↔ d < e

theorem ascends_id : Ascends id := by
  unfold Ascends
  decide +kernel

theorem ascends_toLower : Ascends Char.toLower := by
  unfold Ascends
  decide +kernel

theorem map_digits_lt_iff (hf : Ascends f) {n v w : Nat} (hv : v < Nat.pow 32 n) (hw : w < Nat.pow 32 n) :
    (digits n v).map f < (digits n w).map f ↔ v < w := by
  induction n generalizing v w with
  | zero =>
    have hpow : Nat.pow 32 0 = 1 := rfl
    simp only [digits, List.map_nil, List.not_lt_nil, false_iff]
    omega
  | succ n ih =>
    have hpow : Nat.pow 32 (n + 1) = Nat.pow 32 n * 32 := rfl
    have hlt {x y : Nat} (hx : x < Nat.pow 32 (n + 1)) (hy : y < Nat.pow 32 (n + 1)) :
        (digits n (x / 32)).map f < (digits n (y / 32)).map f ↔ x / 32 < y / 32 :=
      ih (by omega) (by omega)
    have hlast : f (digitChar (v % 32)) < f (digitChar (w % 32)) ↔ v % 32 < w % 32 :=
      hf _ (by omega) _ (by omega)
    have heq : (digits n (v / 32)).map f = (digits n (w / 32)).map f ↔ v / 32 = w / 32 := by
      constructor
      · intro h
        have hvw := (hlt hv hw).not.1 (h ▸ List.lt_irrefl _)
        have hwv := (hlt hw hv).not.1 (h ▸ List.lt_irrefl _)
        omega
      · exact fun h => h ▸ rfl
    have hlength : ((digits n (v / 32)).map f).length = ((digits n (w / 32)).map f).length := by
      rw [List.length_map, List.length_map, length_digits, length_digits]
    -- The last digits decide where the digits before them agree.
    rw [digits, digits, List.map_append, List.map_append, append_lt_append_iff hlength, hlt hv hw, heq,
      List.map_singleton, List.map_singleton, List.cons_lt_cons_iff, hlast]
    simp only [List.not_lt_nil, and_false, or_false]
    omega

theorem map_toText_lt_iff (hf : Ascends f) (u v : Ulid) :
    u.toText.toList.map f < v.toText.toList.map f ↔ u.value < v.value := by
  have hlt (u : Ulid) : u.value < Nat.pow 32 26 := Nat.lt_trans u.bound (by decide)
  rw [toText, toText, String.toList_ofList, String.toList_ofList, map_digits_lt_iff hf (hlt u) (hlt v)]

end Ulid

namespace Id

variable {k : IdKind} {i j : Id k}

theorem toList_short (i : Id k) : i.short.toList = i.ulid.toText.toList.map Char.toLower := by
  rw [short, Text.lowerAscii, String.toList_ofList]

theorem length_short (i : Id k) : i.short.toList.length = 26 := by
  rw [toList_short, List.length_map, Ulid.toText, String.toList_ofList, Ulid.length_digits]

theorem toText_lt_iff : i.toText < j.toText ↔ i < j := by
  have h := Ulid.map_toText_lt_iff Ulid.ascends_id i.ulid j.ulid
  rw [List.map_id, List.map_id] at h
  rw [String.lt_iff_toList_lt, toList_toText, toList_toText, append_lt_append_left_iff,
    List.cons_lt_cons_self, h]
  rfl

theorem short_lt_iff : i.short < j.short ↔ i < j := by
  rw [String.lt_iff_toList_lt, toList_short, toList_short,
    Ulid.map_toText_lt_iff Ulid.ascends_toLower]
  rfl

theorem eq_of_not_lt (hij : ¬ i < j) (hji : ¬ j < i) : i = j := by
  obtain ⟨⟨v, hv⟩⟩ := i
  obtain ⟨⟨w, hw⟩⟩ := j
  obtain rfl : v = w := Nat.le_antisymm (Nat.not_lt.1 hji) (Nat.not_lt.1 hij)
  rfl

theorem short_inj : i.short = j.short ↔ i = j := by
  constructor
  · intro h
    refine eq_of_not_lt (short_lt_iff.not.1 ?_) (short_lt_iff.not.1 ?_)
    · rw [h]
      exact List.lt_irrefl _
    · rw [h]
      exact List.lt_irrefl _
  · exact congrArg _

end Id

namespace NodeId

variable {i j : NodeId} {p q : String}

theorem toList_nodeName (i : NodeId) (p : String) :
    (i.nodeName p).toList = p.toList ++ '-' :: i.short.toList := by
  simp [nodeName, String.toList_append]

theorem nodeName_lt_iff : i.nodeName p < j.nodeName p ↔ i < j := by
  rw [String.lt_iff_toList_lt, toList_nodeName, toList_nodeName, append_lt_append_left_iff,
    List.cons_lt_cons_self, ← String.lt_iff_toList_lt, Id.short_lt_iff]

/-- The id takes up the same number of characters at the end of each name. -/
theorem nodeName_inj : i.nodeName p = j.nodeName q ↔ p = q ∧ i = j := by
  constructor
  · intro h
    rw [← String.toList_inj, toList_nodeName, toList_nodeName] at h
    obtain ⟨hstem, hrest⟩ := List.append_inj' h (by
      rw [List.length_cons, List.length_cons, Id.length_short, Id.length_short])
    exact ⟨String.toList_inj.1 hstem, Id.short_inj.1 (String.toList_inj.1 (List.cons.inj hrest).2)⟩
  · rintro ⟨rfl, rfl⟩
    rfl

/-- Nodes' ids are in the order of the octets of their texts, and of those of the names that they give under
one stem. A name is that of one id under one stem only. -/
theorem order_of_texts (i j : NodeId) :
    (i < j ↔ Text.Utf8.encode i.toText.toList < Text.Utf8.encode j.toText.toList) ∧
    (∀ p, i < j ↔ Text.Utf8.encode (i.nodeName p).toList < Text.Utf8.encode (j.nodeName p).toList) ∧
    ∀ p q, i.nodeName p = j.nodeName q ↔ p = q ∧ i = j := by
  refine ⟨?_, fun p => ?_, fun p q => nodeName_inj⟩
  · rw [Text.Utf8.encode_lt_encode_iff, ← String.lt_iff_toList_lt, Id.toText_lt_iff]
  · rw [Text.Utf8.encode_lt_encode_iff, ← String.lt_iff_toList_lt, nodeName_lt_iff]

end NodeId

end ContainerFleet
