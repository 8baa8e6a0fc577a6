import ContainerFleet.Proofs.IdText
import ContainerFleet.Proofs.JsonText
import ContainerFleet.Proofs.TextOctets
import Mathlib.Data.Bool.AllAny
import Mathlib.Data.List.Basic
import Mathlib.Data.List.Induction
import Mathlib.Data.String.Basic
import Mathlib.Tactic.Ring

namespace ContainerFleet

namespace Ulid

def figures : List Char := "0123456789ABCDEFGHJKMNPQRSTVWXYZabcdefghjkmnpqrstvwxyz".toList

def place (c : Char) : Nat := alphabet.idxOf c.toUpper

variable {c : Char} {cs : List Char} {v w : Nat}

theorem mem_figures_iff : c ∈ figures ↔ c.toUpper ∈ alphabet := by
  constructor
  · -- The list is run through. Otherwise `decide` might take all characters.
    have hupper : ∀ c ∈ figures, c.toUpper ∈ alphabet :=
      List.all_iff_forall_prop.1 (by decide +kernel)
    exact hupper c
  · intro h
    by_cases hlower : 'a'.val ≤ c.val ∧ c.val ≤ 'z'.val
    · have hlow : 97 ≤ c.toNat := UInt32.le_iff_toNat_le.1 hlower.1
      have hhigh : c.toNat ≤ 122 := UInt32.le_iff_toNat_le.1 hlower.2
      have hletters : ∀ n < 26, (Char.ofNat (97 + n)).toUpper ∈ alphabet →
          Char.ofNat (97 + n) ∈ figures := by
        decide +kernel
      have hc := hletters (c.toNat - 97) (by omega)
      rw [Nat.add_sub_cancel' hlow, Char.ofNat_toNat] at hc
      exact hc h
    · have hupper : c.toUpper = c := dif_neg hlower
      have hcapital : ∀ c ∈ alphabet, c ∈ figures := List.all_iff_forall_prop.1 (by decide +kernel)
      rw [hupper] at h
      exact hcapital c h

theorem utf8Size_of_mem_figures : ∀ c ∈ figures, c.utf8Size = 1 :=
  List.all_iff_forall_prop.1 (by decide +kernel)

theorem digit?_eq (c : Char) : digit? c = if c ∈ figures then some (place c) else none := by
  rw [digit?, place, List.idxOf_eq_getD_idxOf?]
  cases h : alphabet.idxOf? c.toUpper with
  | none => rw [if_neg (mem_figures_iff.not.2 (List.idxOf?_eq_none_iff.1 h))]
  | some d =>
    rw [if_pos (mem_figures_iff.2 (List.isSome_idxOf?.1 (h ▸ rfl)))]
    rfl

theorem place_lt (h : c ∈ figures) : place c < 32 := List.idxOf_lt_length_iff.2 (mem_figures_iff.1 h)

theorem digitChar_place (h : c ∈ figures) : digitChar (place c) = c.toUpper := by
  have hlt : alphabet.idxOf c.toUpper < alphabet.length := place_lt h
  rw [digitChar, place, List.getD_eq_getElem?_getD, List.getElem?_eq_getElem hlt,
    Option.getD_some, List.getElem_idxOf]

theorem toUpper_digitChar : ∀ d < 32, (digitChar d).toUpper = digitChar d := by decide

theorem digitChar_inj {d e : Nat} (hd : d < 32) (he : e < 32) :
    digitChar d = digitChar e ↔ d = e := by
  refine ⟨fun h => ?_, congrArg _⟩
  have hdigit := digit?_digitChar d hd
  rw [h, digit?_digitChar e he] at hdigit
  exact (Option.some.inj hdigit).symm

/-- Digits hold a number below the power of 32, whatever is read before them. -/
theorem valueOf?_of_figures (h : ∀ c ∈ cs, c ∈ figures) :
    ∃ r < 32 ^ cs.length, ∀ v, valueOf? v cs = some (32 ^ cs.length * v + r) := by
  induction cs with
  | nil => exact ⟨0, by simp, fun v => by simp [valueOf?]⟩
  | cons c cs ih =>
    obtain ⟨hc, hcs⟩ := List.forall_mem_cons.1 h
    obtain ⟨r, hr, hvalue⟩ := ih hcs
    refine ⟨32 ^ cs.length * place c + r, ?_, fun v => ?_⟩
    · calc 32 ^ cs.length * place c + r
          < 32 ^ cs.length * place c + 32 ^ cs.length := Nat.add_lt_add_left hr _
        _ = 32 ^ cs.length * (place c + 1) := rfl
        _ ≤ 32 ^ cs.length * 32 := Nat.mul_le_mul_left _ (place_lt hc)
        _ = 32 ^ (c :: cs).length := rfl
    · rw [valueOf?, digit?_eq, if_pos hc, Option.bind_some, hvalue, List.length_cons]
      congr 1
      ring

theorem figures_of_valueOf? (h : valueOf? v cs = some w) : ∀ c ∈ cs, c ∈ figures := by
  induction cs generalizing v with
  | nil => simp
  | cons c cs ih =>
    rw [valueOf?, digit?_eq] at h
    split at h
    · rename_i hc
      exact List.forall_mem_cons.2 ⟨hc, ih h⟩
    · cases h

theorem digits_of_valueOf? (h : valueOf? v cs = some w) :
    digits cs.length w = cs.map Char.toUpper := by
  induction cs using List.reverseRecOn generalizing w with
  | nil => rfl
  | append_singleton cs c ih =>
    have hc := figures_of_valueOf? h c (List.mem_append_right cs List.mem_cons_self)
    rw [valueOf?_append, Option.bind_eq_some_iff] at h
    obtain ⟨w', hw', hw⟩ := h
    rw [valueOf?, digit?_eq, if_pos hc, Option.bind_some, valueOf?] at hw
    obtain rfl := Option.some.inj hw
    have hlt := place_lt hc
    have hdiv : (32 * w' + place c) / 32 = w' := by omega
    have hmod : (32 * w' + place c) % 32 = place c := by omega
    rw [List.length_append, List.length_singleton, digits, hdiv, hmod, ih hw', digitChar_place hc,
      List.map_append, List.map_singleton]

theorem utf8ByteSize_of_figures (h : ∀ c ∈ cs, c ∈ figures) :
    (String.ofList cs).utf8ByteSize = cs.length :=
  Text.utf8ByteSize_of_single fun c hc => utf8Size_of_mem_figures c (h c hc)

/-- Of the digit before 25 others, 128 bits hold the lower three. -/
theorem value_ofNat {r : Nat} (hr : r < 32 ^ 25) (d : Nat) :
    (ofNat (32 ^ 25 * d + r)).value = 32 ^ 25 * (d % 8) + r := by
  have hcount : Word.count 128 = 32 ^ 25 * 8 := by decide
  calc (32 ^ 25 * d + r) % Word.count 128
      = (32 ^ 25 * d + r) % 32 ^ 25 + 32 ^ 25 * ((32 ^ 25 * d + r) / 32 ^ 25 % 8) := by
        rw [hcount, Nat.mod_mul]
    _ = r + 32 ^ 25 * (d % 8) := by
        rw [Nat.mul_add_mod, Nat.mod_eq_of_lt hr, Nat.mul_add_div (by decide), Nat.div_eq_of_lt hr,
          Nat.add_zero]
    _ = 32 ^ 25 * (d % 8) + r := Nat.add_comm ..

/-- A ULID is read from 26 digits. Of the first one the value counts as far as three bits hold it. -/
theorem parse_of_figures (hlength : cs.length = 25) (h : ∀ d ∈ c :: cs, d ∈ figures) :
    ∃ u, parse (String.ofList (c :: cs)) = .ok u ∧
      u.toText = String.ofList (digitChar (place c % 8) :: cs.map Char.toUpper) := by
  obtain ⟨hc, hcs⟩ := List.forall_mem_cons.1 h
  obtain ⟨r, hr, hvalue⟩ := valueOf?_of_figures hcs
  rw [hlength] at hr hvalue
  have hlow : place c % 8 < 32 := by omega
  have hread : valueOf? 0 (c :: cs) = some (32 ^ 25 * place c + r) := by
    rw [valueOf?, digit?_eq, if_pos hc, Option.bind_some, hvalue, Nat.mul_zero, Nat.zero_add]
  have hkept : valueOf? 0 (digitChar (place c % 8) :: cs) = some (32 ^ 25 * (place c % 8) + r) := by
    rw [valueOf?, digit?_digitChar _ hlow, Option.bind_some, hvalue, Nat.mul_zero, Nat.zero_add]
  refine ⟨ofNat (32 ^ 25 * place c + r), ?_, ?_⟩
  · rw [parse, utf8ByteSize_of_figures h, List.length_cons, hlength, String.toList_ofList, hread]
    rfl
  · have hdigits := digits_of_valueOf? hkept
    rw [List.length_cons, hlength, List.map_cons, toUpper_digitChar _ hlow] at hdigits
    rw [toText, value_ofNat hr, hdigits]

theorem figures_of_parse {s : String} {u : Ulid} (h : parse s = .ok u) :
    s.toList.length = 26 ∧ ∀ c ∈ s.toList, c ∈ figures := by
  rw [parse] at h
  split at h
  · cases h
  · rename_i hsize
    split at h
    · cases h
    · rename_i v hvalue
      have hfigures := figures_of_valueOf? hvalue
      have hlength := utf8ByteSize_of_figures hfigures
      rw [String.ofList_toList] at hlength
      exact ⟨hlength ▸ not_not.1 hsize, hfigures⟩

end Ulid

namespace Id

variable {k : IdKind} {s t : String} {c d : Char} {cs ds : List Char}

def tagged (k : IdKind) (cs : List Char) : String := k.tag ++ "_" ++ String.ofList cs

/-- A text of an id, and the characters of its ULID. -/
structure Written (k : IdKind) (s : String) (c : Char) (cs : List Char) : Prop where
  text : s = tagged k (c :: cs)
  length : (c :: cs).length = 26
  figures : ∀ d ∈ c :: cs, d ∈ Ulid.figures

theorem parse_tagged (k : IdKind) (cs : List Char) :
    parse k (tagged k cs) = match Ulid.parse (String.ofList cs) with
      | .error e => .error (.badUlid e)
      | .ok u => .ok ⟨u⟩ := by
  have htext : (tagged k cs).toList = k.tag.toList ++ '_' :: cs := by
    simp [tagged, String.toList_append]
  have htag : ∀ c ∈ k.tag.toList, decide (c ≠ '_') = true :=
    fun c hc => decide_eq_true (not_mem_tag k c hc)
  simp only [parse, htext, List.takeWhile_append_of_pos htag, List.dropWhile_append_of_pos htag]
  cases h : Ulid.parse (String.ofList cs) <;> simp [h]

theorem tagged_of_parse {i : Id k} (h : parse k s = .ok i) :
    ∃ cs, s = tagged k cs ∧ Ulid.parse (String.ofList cs) = .ok i.ulid := by
  cases hrest : s.toList.dropWhile fun c => decide (c ≠ '_') with
  | nil =>
    simp only [parse, hrest] at h
    cases h
  | cons x rest =>
    have hx : x = '_' := by
      have hstop := List.head?_dropWhile_not (fun c => decide (c ≠ '_')) s.toList
      rw [hrest] at hstop
      exact not_not.1 (of_decide_eq_false hstop)
    by_cases htag : s.toList.takeWhile (fun c => decide (c ≠ '_')) = k.tag.toList
    · have hs : s = tagged k rest := by
        rw [← String.toList_inj, ← List.takeWhile_append_dropWhile (l := s.toList), hrest, htag, hx]
        simp [tagged]
      rw [hs, parse_tagged] at h
      cases hu : Ulid.parse (String.ofList rest) with
      | error e =>
        rw [hu] at h
        cases h
      | ok u =>
        rw [hu] at h
        obtain rfl := Except.ok.inj h
        exact ⟨rest, hs, hu⟩
    · simp only [parse, hrest] at h
      rw [if_pos htag] at h
      cases h

theorem Written.read (h : Written k s c cs) : ∃ i, parse k s = .ok i ∧
    i.toText = tagged k (Ulid.digitChar (Ulid.place c % 8) :: cs.map Char.toUpper) := by
  obtain ⟨u, hu, htext⟩ := Ulid.parse_of_figures (Nat.succ.inj h.length) h.figures
  refine ⟨⟨u⟩, ?_, ?_⟩
  · rw [h.text, parse_tagged, hu]
  · rw [toText, htext, tagged]

theorem written_of_parse {i : Id k} (h : parse k s = .ok i) : ∃ c cs, Written k s c cs := by
  obtain ⟨cs, rfl, hcs⟩ := tagged_of_parse h
  obtain ⟨hlength, hfigures⟩ := Ulid.figures_of_parse hcs
  rw [String.toList_ofList] at hlength hfigures
  cases cs with
  | nil => cases hlength
  | cons c cs => exact ⟨c, cs, rfl, hlength, hfigures⟩

theorem tagged_inj : tagged k cs = tagged k ds ↔ cs = ds := by
  rw [tagged, tagged, String.append_right_inj]
  exact String.ofList_inj

theorem Written.same_iff (hs : Written k s c cs) (ht : Written k t d ds) :
    (∃ i, parse k s = .ok i ∧ parse k t = .ok i) ↔
      cs.map Char.toUpper = ds.map Char.toUpper ∧ Ulid.place c % 8 = Ulid.place d % 8 := by
  obtain ⟨i, hi, hitext⟩ := hs.read
  obtain ⟨j, hj, hjtext⟩ := ht.read
  have hsame : (∃ i, parse k s = .ok i ∧ parse k t = .ok i) ↔ i = j := by
    simp [hi, hj, eq_comm]
  rw [hsame, ← toText_inj, hitext, hjtext, tagged_inj, List.cons.injEq, and_comm,
    Ulid.digitChar_inj (by omega) (by omega)]

theorem Written.kept_iff (hs : Written k s c cs) :
    (∃ i, parse k s = .ok i ∧ i.toText = tagged k ((c :: cs).map Char.toUpper)) ↔
      Ulid.place c ≤ 7 := by
  have hc := hs.figures c List.mem_cons_self
  have hlt := Ulid.place_lt hc
  obtain ⟨i, hi, htext⟩ := hs.read
  have hkept : (∃ i, parse k s = .ok i ∧ i.toText = tagged k ((c :: cs).map Char.toUpper)) ↔
      i.toText = tagged k ((c :: cs).map Char.toUpper) := by
    simp [hi]
  rw [hkept, htext, tagged_inj, List.map_cons, List.cons.injEq, ← Ulid.digitChar_place hc,
    Ulid.digitChar_inj (by omega) hlt]
  simp only [and_true]
  omega

theorem ofData?_toData (i : Id k) :
    (Json.ofText? (Json.toText i.toData)).bind (ofData? k) = some i := by
  rw [toData, Json.ofText?_toText, Option.bind_some, ofData?, Data.text?, Option.bind_some, parse_toText]
  rfl

/-- An id is read back from its text and from the literal that stands for it. The texts that are read
are the tag, an underscore and 26 digits. Two of them give the same id exactly if they agree but for the
case of letters and for what the first digit has above its lower three bits. Where three bits hold the
first digit, and only there, the id is written as it was read, in upper case. -/
theorem text_value (k : IdKind) :
    (∀ i : Id k, parse k i.toText = .ok i ∧
      (Json.ofText? (Json.toText i.toData)).bind (ofData? k) = some i) ∧
    (∀ s, (∃ i, parse k s = .ok i) ↔ ∃ c cs, Written k s c cs) ∧
    ∀ s c cs, Written k s c cs →
      (∀ t d ds, Written k t d ds →
        ((∃ i, parse k s = .ok i ∧ parse k t = .ok i) ↔
          cs.map Char.toUpper = ds.map Char.toUpper ∧ Ulid.place c % 8 = Ulid.place d % 8)) ∧
      ((∃ i, parse k s = .ok i ∧ i.toText = tagged k ((c :: cs).map Char.toUpper)) ↔
        Ulid.place c ≤ 7) := by
  refine ⟨fun i => ⟨parse_toText i, ofData?_toData i⟩, fun s => ?_, fun s c cs hs => ?_⟩
  · constructor
    · rintro ⟨i, hi⟩
      exact written_of_parse hi
    · rintro ⟨c, cs, hs⟩
      obtain ⟨i, hi, -⟩ := hs.read
      exact ⟨i, hi⟩
  · exact ⟨fun t d ds ht => hs.same_iff ht, hs.kept_iff⟩

theorem text_value_collision :
    Written .node "node_81HV4Z2WQXKJNM8GPQY6VBKC3D" '8' "1HV4Z2WQXKJNM8GPQY6VBKC3D".toList ∧
    Written .node "node_01hv4z2wqxkjnm8gpqy6vbkc3d" '0' "1hv4z2wqxkjnm8gpqy6vbkc3d".toList ∧
    (∃ i, parse .node "node_81HV4Z2WQXKJNM8GPQY6VBKC3D" = .ok i ∧
      parse .node "node_01hv4z2wqxkjnm8gpqy6vbkc3d" = .ok i) ∧
    (∃ i, parse .node "node_01hv4z2wqxkjnm8gpqy6vbkc3d" = .ok i ∧
      i.toText = "node_01HV4Z2WQXKJNM8GPQY6VBKC3D") ∧
    ¬ ∃ i, parse .node "node_81HV4Z2WQXKJNM8GPQY6VBKC3D" = .ok i ∧
      i.toText = "node_81HV4Z2WQXKJNM8GPQY6VBKC3D" := by
  have h8 : Written .node "node_81HV4Z2WQXKJNM8GPQY6VBKC3D" '8'
      "1HV4Z2WQXKJNM8GPQY6VBKC3D".toList :=
    ⟨by decide, by decide, List.all_iff_forall_prop.1 (by decide +kernel)⟩
  have h0 : Written .node "node_01hv4z2wqxkjnm8gpqy6vbkc3d" '0'
      "1hv4z2wqxkjnm8gpqy6vbkc3d".toList :=
    ⟨by decide, by decide, List.all_iff_forall_prop.1 (by decide +kernel)⟩
  have htext8 : tagged .node (('8' :: "1HV4Z2WQXKJNM8GPQY6VBKC3D".toList).map Char.toUpper) =
      "node_81HV4Z2WQXKJNM8GPQY6VBKC3D" := by decide +kernel
  have htext0 : tagged .node (('0' :: "1hv4z2wqxkjnm8gpqy6vbkc3d".toList).map Char.toUpper) =
      "node_01HV4Z2WQXKJNM8GPQY6VBKC3D" := by decide +kernel
  obtain ⟨-, -, hvalue⟩ := text_value .node
  obtain ⟨hsame, hkept8⟩ := hvalue _ _ _ h8
  obtain ⟨-, hkept0⟩ := hvalue _ _ _ h0
  rw [htext8] at hkept8
  rw [htext0] at hkept0
  refine ⟨h8, h0, (hsame _ _ _ h0).2 (by decide +kernel), hkept0.2 (by decide), ?_⟩
  exact hkept8.not.2 (by decide)

end Id

end ContainerFleet
