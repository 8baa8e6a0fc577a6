import ContainerFleet.Text.Utf8
import Mathlib.Tactic.IntervalCases
import Mathlib.Tactic.SplitIfs

namespace ContainerFleet.Text.Utf8

variable {bits n k : Nat} {b low high : UInt8} {bs : List UInt8}

theorem decodeFrom_single (h : shape b = some (0, low, high)) :
    decodeFrom .start (b :: bs) = some (Char.ofNat b.toNat) :: decodeFrom .start bs := by
  simp only [decodeFrom, decodeFrom.lead, h]

theorem decodeFrom_lead (h : shape b = some (n + 1, low, high)) :
    decodeFrom .start (b :: bs) = decodeFrom (.inside (leadBits b (n + 1)) (n + 1) low high) bs := by
  simp only [decodeFrom, decodeFrom.lead, h]

theorem decodeFrom_next (h : low ≤ b ∧ b ≤ high) :
    decodeFrom (.inside bits (n + 2) low high) (b :: bs) =
      decodeFrom (.inside (bits * 64 + b.toNat % 64) (n + 1) 0x80 0xBF) bs := by
  simp [decodeFrom, h]

theorem decodeFrom_last (h : low ≤ b ∧ b ≤ high) :
    decodeFrom (.inside bits 1 low high) (b :: bs) =
      some (Char.ofNat (bits * 64 + b.toNat % 64)) :: decodeFrom .start bs := by
  simp [decodeFrom, h]

theorem continuation (k : Nat) :
    0x80 ≤ UInt8.ofNat (k % 64 + 128) ∧ UInt8.ofNat (k % 64 + 128) ≤ 0xBF := by
  simp only [UInt8.le_iff_toNat_le, UInt8.toNat_ofNat']
  constructor <;> simp <;> omega

theorem continuationBits (k : Nat) : (UInt8.ofNat (k % 64 + 128)).toNat % 64 = k % 64 := by
  rw [UInt8.toNat_ofNat']
  omega

theorem shape_two : ∀ k < 32, 2 ≤ k → shape (UInt8.ofNat (k + 192)) = some (1, 0x80, 0xBF) := by
  decide

theorem leadBits_two : ∀ k < 32, leadBits (UInt8.ofNat (k + 192)) 1 = k := by decide

/-- The first continuation is narrower where fewer octets would do, and for surrogates. -/
theorem shape_three (h : k < 16) : ∃ low high, shape (UInt8.ofNat (k + 224)) = some (2, low, high) ∧
    ∀ m < 64, (k = 0 → 32 ≤ m) → (k = 13 → m < 32) →
      low ≤ UInt8.ofNat (m + 128) ∧ UInt8.ofNat (m + 128) ≤ high := by
  interval_cases k <;> exact ⟨_, _, rfl, by decide⟩

theorem leadBits_three : ∀ k < 16, leadBits (UInt8.ofNat (k + 224)) 2 = k := by decide

theorem shape_four (h : k < 5) : ∃ low high, shape (UInt8.ofNat (k + 240)) = some (3, low, high) ∧
    ∀ m < 64, (k = 0 → 16 ≤ m) → (k = 4 → m < 16) →
      low ≤ UInt8.ofNat (m + 128) ∧ UInt8.ofNat (m + 128) ≤ high := by
  interval_cases k <;> exact ⟨_, _, rfl, by decide⟩

theorem leadBits_four : ∀ k < 8, leadBits (UInt8.ofNat (k + 240)) 3 = k := by decide

theorem decodeFrom_encodeChar (c : Char) (bs : List UInt8) :
    decodeFrom .start (String.utf8EncodeChar c ++ bs) = some c :: decodeFrom .start bs := by
  have hc : Char.ofNat c.toNat = c := Char.ofNat_toNat c
  have hvalid : c.toNat < 0xD800 ∨ 0xDFFF < c.toNat ∧ c.toNat < 0x110000 := c.valid
  have hval : c.val.toNat = c.toNat := rfl
  rw [String.utf8EncodeChar]
  simp only [hval]
  generalize c.toNat = v at hc hvalid
  split_ifs with h1 h2 h3
  · have hb : (UInt8.ofNat v).toNat = v := by
      rw [UInt8.toNat_ofNat']
      omega
    have hshape : shape (UInt8.ofNat v) = some (0, 0x80, 0xBF) := by
      rw [shape, if_pos]
      rw [UInt8.lt_iff_toNat_lt, hb]
      exact Nat.lt_succ_of_le h1
    rw [List.singleton_append, decodeFrom_single hshape, hb, hc]
  · have hlead := shape_two (v / 64 % 32) (by omega) (by omega)
    have hv : v / 64 % 32 * 64 + v % 64 = v := by omega
    rw [List.cons_append, List.singleton_append, decodeFrom_lead hlead, decodeFrom_last (continuation v),
      leadBits_two _ (by omega), continuationBits, hv, hc]
  · obtain ⟨low, high, hlead, hrange⟩ := shape_three (k := v / 4096 % 16) (by omega)
    have hnext := hrange (v / 64 % 64) (by omega) (by omega) (by omega)
    have hv : (v / 4096 % 16 * 64 + v / 64 % 64) * 64 + v % 64 = v := by omega
    rw [List.cons_append, List.cons_append, List.singleton_append, decodeFrom_lead hlead,
      decodeFrom_next hnext, decodeFrom_last (continuation v), leadBits_three _ (by omega),
      continuationBits, continuationBits, hv, hc]
  · obtain ⟨low, high, hlead, hrange⟩ := shape_four (k := v / 262144 % 8) (by omega)
    have hnext := hrange (v / 4096 % 64) (by omega) (by omega) (by omega)
    have hv : ((v / 262144 % 8 * 64 + v / 4096 % 64) * 64 + v / 64 % 64) * 64 + v % 64 = v := by omega
    rw [List.cons_append, List.cons_append, List.cons_append, List.singleton_append,
      decodeFrom_lead hlead, decodeFrom_next hnext, decodeFrom_next (continuation _),
      decodeFrom_last (continuation v), leadBits_four _ (by omega), continuationBits, continuationBits,
      continuationBits, hv, hc]

theorem decodeFrom_encode (cs : List Char) (bs : List UInt8) :
    decodeFrom .start (encode cs ++ bs) = cs.map some ++ decodeFrom .start bs := by
  induction cs with
  | nil => rfl
  | cons c cs ih =>
    rw [encode, List.flatMap_cons, List.append_assoc, decodeFrom_encodeChar]
    exact congrArg _ ih

theorem decodeLossy_encode (cs : List Char) : decodeLossy (encode cs) = cs := by
  have h := decodeFrom_encode cs []
  rw [List.append_nil, decodeFrom, List.append_nil] at h
  rw [decodeLossy, h, List.map_map]
  exact List.map_id cs

end ContainerFleet.Text.Utf8
