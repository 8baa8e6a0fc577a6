import ContainerFleet.Id.Tagged
import ContainerFleet.Proofs.TextOctets

namespace ContainerFleet

namespace Ulid

theorem length_digits (n v : Nat) : (digits n v).length = n := by
  induction n generalizing v with
  | zero => rfl
  | succ n ih => rw [digits, List.length_append, ih, List.length_singleton]

theorem mem_digits {n v : Nat} {c : Char} (h : c ∈ digits n v) : ∃ d < 32, c = digitChar d := by
  induction n generalizing v with
  | zero => cases h
  | succ n ih =>
    obtain h | h := List.mem_append.1 h
    · exact ih h
    · exact ⟨v % 32, Nat.mod_lt _ (by decide), List.mem_singleton.1 h⟩

theorem digit?_digitChar : ∀ d < 32, digit? (digitChar d) = some d := by decide

theorem utf8Size_digitChar : ∀ d < 32, (digitChar d).utf8Size = 1 := by decide

theorem valueOf?_append (v : Nat) (cs ds : List Char) :
    valueOf? v (cs ++ ds) = (valueOf? v cs).bind (valueOf? · ds) := by
  induction cs generalizing v with
  | nil => rfl
  | cons c cs ih => simp only [List.cons_append, valueOf?, ih, Option.bind_assoc]

theorem valueOf?_digits (n v w : Nat) :
    valueOf? v (digits n w) = some (Nat.pow 32 n * v + w % Nat.pow 32 n) := by
  induction n generalizing w with
  | zero => simp [digits, valueOf?, Nat.mod_one]
  | succ n ih =>
    have hd := digit?_digitChar (w % 32) (Nat.mod_lt _ (by decide))
    have hsucc : Nat.pow 32 (n + 1) = 32 * Nat.pow 32 n := Nat.mul_comm ..
    have hpow : Nat.pow 32 (n + 1) * v = 32 * (Nat.pow 32 n * v) := by rw [hsucc, Nat.mul_assoc]
    simp only [digits, valueOf?_append, ih, Option.bind_some, valueOf?, hd, Option.some.injEq]
    rw [hpow, hsucc, Nat.mod_mul]
    omega

theorem utf8ByteSize_digits (n v : Nat) : (String.ofList (digits n v)).utf8ByteSize = n := by
  rw [Text.utf8ByteSize_of_single, length_digits]
  intro c hc
  obtain ⟨d, hd, rfl⟩ := mem_digits hc
  exact utf8Size_digitChar d hd

theorem parse_toText (u : Ulid) : parse u.toText = .ok u := by
  have hlt : u.value < Nat.pow 32 26 := Nat.lt_trans u.bound (by decide)
  have hvalue : valueOf? 0 u.toText.toList = some u.value := by
    rw [toText, String.toList_ofList, valueOf?_digits, Nat.mul_zero, Nat.zero_add,
      Nat.mod_eq_of_lt hlt]
  have hnat : ofNat u.value = u := by
    obtain ⟨v, hv⟩ := u
    simp only [ofNat, Nat.mod_eq_of_lt hv]
  simp only [parse, hvalue, hnat]
  rw [if_neg]
  exact not_not_intro (utf8ByteSize_digits 26 u.value)

end Ulid

namespace Id

variable {k : IdKind}

theorem not_mem_tag (k : IdKind) : ∀ c ∈ k.tag.toList, c ≠ '_' := by
  cases k <;> simp [IdKind.tag]

theorem toList_toText (i : Id k) : i.toText.toList = k.tag.toList ++ '_' :: i.ulid.toText.toList := by
  simp [toText, String.toList_append]

theorem parse_toText (i : Id k) : parse k i.toText = .ok i := by
  have htag : ∀ c ∈ k.tag.toList, decide (c ≠ '_') = true :=
    fun c hc => decide_eq_true (not_mem_tag k c hc)
  simp only [parse, toList_toText, List.takeWhile_append_of_pos htag, List.dropWhile_append_of_pos htag]
  simp [Ulid.parse_toText]

theorem toText_inj {i j : Id k} : i.toText = j.toText ↔ i = j := by
  constructor
  · intro h
    have hi := parse_toText i
    rw [h, parse_toText j] at hi
    exact (Except.ok.inj hi).symm
  · exact congrArg _

end Id

end ContainerFleet
