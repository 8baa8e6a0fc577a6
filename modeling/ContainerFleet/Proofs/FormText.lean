import ContainerFleet.Proofs.Span
import ContainerFleet.Proofs.Utf8
import ContainerFleet.Uri.Percent
import Mathlib.Data.List.TakeWhile
import Mathlib.Tactic.SplitIfs

namespace ContainerFleet

namespace Text

variable {c : Char} {cs : List Char}

def cutAt (c : Char) (cs : List Char) : List Char × List Char :=
  (cs.takeWhile (· ≠ c), (cs.dropWhile (· ≠ c)).drop 1)

theorem cutAt_append (h : c ∉ cs) (ds : List Char) : cutAt c (cs ++ c :: ds) = (cs, ds) := by
  have hcs : ∀ x ∈ cs, decide (x ≠ c) = true := fun x hx => decide_eq_true fun he => h (he ▸ hx)
  have hc : ∀ x ∈ (c :: ds).head?, decide (x ≠ c) = false := by simp
  rw [cutAt, Span.takeWhile_append hcs hc, Span.dropWhile_append hcs hc, List.drop_one, List.tail_cons]

theorem cutAt_of_not_mem (h : c ∉ cs) : cutAt c cs = (cs, []) := by
  have hcs : ∀ x ∈ cs, decide (x ≠ c) = true := fun x hx => decide_eq_true fun he => h (he ▸ hx)
  rw [cutAt, List.takeWhile_eq_self_iff.2 hcs, List.dropWhile_eq_nil_iff.2 hcs, List.drop_nil]

theorem forall_mem_intercalate {p : Char → Prop} {sep : List Char} {ls : List (List Char)}
    (hsep : ∀ x ∈ sep, p x) (hls : ∀ l ∈ ls, ∀ x ∈ l, p x) : ∀ x ∈ List.intercalate sep ls, p x := by
  induction ls with
  | nil => exact fun x hx => nomatch hx
  | cons l ls ih =>
    obtain ⟨hl, hls⟩ := List.forall_mem_cons.1 hls
    cases ls with
    | nil => simpa using hl
    | cons l' ls =>
      rw [List.intercalate_cons_cons, List.append_assoc]
      exact List.forall_mem_append.2 ⟨hl, List.forall_mem_append.2 ⟨hsep, ih hls⟩⟩

end Text

namespace Percent

variable {b : UInt8} {c : Char} {cs : List Char}

theorem hexValue?_upperHexDigit : ∀ d < 16, Text.hexValue? (upperHexDigit d) = some d := by decide

theorem octets_octet (b : UInt8) (cs : List Char) : octets (octet b ++ cs) = b :: octets cs := by
  have hlt : b.toNat < 256 := b.toNat_lt
  have hhigh := hexValue?_upperHexDigit (b.toNat / 16) (by omega)
  have hlow := hexValue?_upperHexDigit (b.toNat % 16) (by omega)
  have hb : 16 * (b.toNat / 16) + b.toNat % 16 = b.toNat := Nat.div_add_mod ..
  rw [octet, List.cons_append, List.cons_append, List.cons_append, List.nil_append, octets, hhigh, hlow]
  simp only [hb, UInt8.ofNat_toNat]

theorem octets_of_ne (h : c ≠ '%') : octets (c :: cs) = Text.Utf8.encode [c] ++ octets cs := by
  rw [octets]
  rintro _ _ _ rfl
  exact absurd rfl h

theorem octets_octets (bs : List UInt8) (cs : List Char) :
    octets (bs.flatMap octet ++ cs) = bs ++ octets cs := by
  induction bs with
  | nil => rfl
  | cons b bs ih => rw [List.flatMap_cons, List.append_assoc, octets_octet, ih, List.cons_append]

end Percent

namespace Form

variable {c x : Char} {cs : List Char}

def unplus (c : Char) : Char := if c = '+' then ' ' else c

def decode (cs : List Char) : String :=
  String.ofList (Text.Utf8.decodeLossy (Percent.octets (cs.map unplus)))

def readField (cs : List Char) : String × String :=
  (decode (Text.cutAt '=' cs).1, decode (Text.cutAt '=' cs).2)

/-- The fields of a form. Empty ones are skipped. -/
def fields (s : String) : List (String × String) :=
  ((s.toList.splitOn '&').filter (!·.isEmpty)).map readField

def isWritten (c : Char) : Bool := isPlain c || ['+', '%', '&', '='].contains c

theorem range_of_isAlphanum (h : c.isAlphanum = true) : 48 ≤ c.toNat ∧ c.toNat ≤ 122 := by
  have hkinds : (c.isUpper = true ∨ c.isLower = true) ∨ c.isDigit = true := by
    rw [← Bool.or_eq_true, ← Bool.or_eq_true]
    exact h
  have hrange {low high : Char} (hlow : low.val ≤ c.val) (hhigh : c.val ≤ high.val) :
      low.toNat ≤ c.toNat ∧ c.toNat ≤ high.toNat :=
    ⟨UInt32.le_iff_toNat_le.1 hlow, UInt32.le_iff_toNat_le.1 hhigh⟩
  obtain (hupper | hlower) | hdigit := hkinds
  · have hchar : 'A'.val ≤ c.val ∧ c.val ≤ 'Z'.val := of_decide_eq_true hupper
    exact (hrange hchar.1 hchar.2).imp (Nat.le_trans (by decide)) (Nat.le_trans · (by decide))
  · have hchar := Bool.and_eq_true_iff.1 hlower
    exact (hrange (of_decide_eq_true hchar.1) (of_decide_eq_true hchar.2)).imp
      (Nat.le_trans (by decide)) (Nat.le_trans · (by decide))
  · have hchar := Bool.and_eq_true_iff.1 hdigit
    exact (hrange (of_decide_eq_true hchar.1) (of_decide_eq_true hchar.2)).imp
      (Nat.le_trans (by decide)) (Nat.le_trans · (by decide))

theorem range_of_isWritten (h : isWritten c = true) : 33 ≤ c.toNat ∧ c.toNat ≤ 126 := by
  simp only [isWritten, isPlain, Bool.or_eq_true, decide_eq_true_eq, List.contains_iff_mem,
    List.mem_cons, List.not_mem_nil, or_false] at h
  obtain ((((h | rfl) | rfl) | rfl) | rfl) | rfl | rfl | rfl | rfl := h
  · have hrange := range_of_isAlphanum h
    omega
  all_goals decide

theorem isPlain_upperHexDigit : ∀ d < 16, isPlain (Percent.upperHexDigit d) = true := by decide

theorem mem_octet {b : UInt8} (h : x ∈ Percent.octet b) : isPlain x = true ∨ x = '%' := by
  have hlt : b.toNat < 256 := b.toNat_lt
  simp only [Percent.octet, List.mem_cons, List.not_mem_nil, or_false] at h
  obtain rfl | rfl | rfl := h
  · exact .inr rfl
  · exact .inl (isPlain_upperHexDigit _ (by omega))
  · exact .inl (isPlain_upperHexDigit _ (by omega))

theorem encode_single (c : Char) : encode [c] =
    if isPlain c then [c] else if c = ' ' then ['+'] else
      (Text.Utf8.encode [c]).flatMap Percent.octet := by
  simp [encode, Percent.encode]

theorem encode_cons (c : Char) (cs : List Char) : encode (c :: cs) = encode [c] ++ encode cs := by
  simp [encode]

theorem mem_encode (h : x ∈ encode cs) : isPlain x = true ∨ x = '+' ∨ x = '%' := by
  induction cs with
  | nil => cases h
  | cons c cs ih =>
    rw [encode_cons, List.mem_append, encode_single] at h
    obtain h | h := h
    · split_ifs at h with hplain hblank
      · obtain rfl := List.mem_singleton.1 h
        exact .inl hplain
      · exact .inr (.inl (List.mem_singleton.1 h))
      · obtain ⟨b, _, hx⟩ := List.mem_flatMap.1 h
        exact (mem_octet hx).imp id .inr
    · exact ih h

theorem equals_not_mem_encode : '=' ∉ encode cs := by
  intro h
  obtain h | h | h := mem_encode h <;> revert h <;> decide

theorem ampersand_not_mem_encode : '&' ∉ encode cs := by
  intro h
  obtain h | h | h := mem_encode h <;> revert h <;> decide

theorem isWritten_of_mem_encode (h : x ∈ encode cs) : isWritten x = true := by
  obtain h | rfl | rfl := mem_encode h
  · simp [isWritten, h]
  · decide
  · decide

theorem isWritten_of_mem_field {name value : String} (h : x ∈ field name value) :
    isWritten x = true := by
  obtain h | h := List.mem_append.1 h
  · exact isWritten_of_mem_encode h
  · obtain rfl | h := List.mem_cons.1 h
    · decide
    · exact isWritten_of_mem_encode h

theorem isWritten_of_mem_ofFields {fs : List (String × String)} (h : x ∈ (ofFields fs).toList) :
    isWritten x = true := by
  rw [ofFields, String.toList_ofList] at h
  have hsep : ∀ y ∈ ['&'], isWritten y = true := List.forall_mem_singleton.2 (by decide)
  refine Text.forall_mem_intercalate hsep (fun l hl y hy => ?_) x h
  obtain ⟨f, _, rfl⟩ := List.mem_map.1 hl
  exact isWritten_of_mem_field hy

theorem unplus_of_plain (h : isPlain c = true) : unplus c = c := by
  rw [unplus, if_neg]
  rintro rfl
  revert h
  decide

theorem map_unplus_octets (bs : List UInt8) :
    (bs.flatMap Percent.octet).map unplus = bs.flatMap Percent.octet := by
  have h : ∀ x ∈ bs.flatMap Percent.octet, unplus x = id x := by
    intro x hx
    obtain ⟨b, _, hx⟩ := List.mem_flatMap.1 hx
    obtain hplain | rfl := mem_octet hx
    · exact unplus_of_plain hplain
    · rfl
  rw [List.map_congr_left h, List.map_id]

theorem octets_encode_single (c : Char) (cs : List Char) :
    Percent.octets ((encode [c]).map unplus ++ cs) = Text.Utf8.encode [c] ++ Percent.octets cs := by
  rw [encode_single]
  split_ifs with hplain hblank
  · have hpercent : c ≠ '%' := by
      rintro rfl
      revert hplain
      decide
    rw [List.map_singleton, unplus_of_plain hplain, List.singleton_append, Percent.octets_of_ne hpercent]
  · subst hblank
    exact Percent.octets_of_ne (by decide)
  · rw [map_unplus_octets, Percent.octets_octets]

theorem octets_encode (cs : List Char) :
    Percent.octets ((encode cs).map unplus) = Text.Utf8.encode cs := by
  induction cs with
  | nil => rfl
  | cons c cs ih =>
    rw [encode_cons, List.map_append, octets_encode_single, ih]
    simp [Text.Utf8.encode]

theorem decode_encode (s : String) : decode (encode s.toList) = s := by
  rw [decode, octets_encode, Text.Utf8.decodeLossy_encode, String.ofList_toList]

theorem readField_field (name value : String) : readField (field name value) = (name, value) := by
  rw [readField, field, Text.cutAt_append equals_not_mem_encode, decode_encode, decode_encode]

theorem ampersand_not_mem_field (name value : String) : '&' ∉ field name value := by
  simp [field, ampersand_not_mem_encode]

theorem fields_ofFields (fs : List (String × String)) : fields (ofFields fs) = fs := by
  have hread : (readField ∘ fun f => field f.1 f.2) = id :=
    funext fun f => readField_field f.1 f.2
  have hfield : ∀ cs ∈ fs.map fun f => field f.1 f.2, '&' ∉ cs ∧ cs ≠ [] := by
    intro cs hcs
    obtain ⟨f, _, rfl⟩ := List.mem_map.1 hcs
    exact ⟨ampersand_not_mem_field _ _, by simp [field]⟩
  rw [fields, ofFields, String.toList_ofList]
  by_cases hfs : fs = []
  · subst hfs
    rfl
  · rw [List.splitOn_intercalate '&' (fun cs hcs => (hfield cs hcs).1) (by simpa using hfs),
      List.filter_eq_self.2 (fun cs hcs => by simpa using (hfield cs hcs).2), List.map_map, hread,
      List.map_id]

end Form

end ContainerFleet
