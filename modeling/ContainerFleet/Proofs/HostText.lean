import ContainerFleet.Proofs.FormText
import ContainerFleet.Proofs.JsonText
import ContainerFleet.Uri.Host
import Mathlib.Data.List.Basic
import Mathlib.Data.List.TakeWhile
import Mathlib.Tactic.SplitIfs

namespace ContainerFleet

variable {c : Char} {cs : List Char}

theorem Form.isPlain_of_isDigit (h : c.isDigit = true) : Form.isPlain c = true := by
  simp [Form.isPlain, Char.isAlphanum, h]

theorem Form.isPlain_of_mem_toDigits {n : Nat} (h : c ∈ Nat.toDigits 16 n) : Form.isPlain c = true := by
  have hdigit : ∀ d < 16, Form.isPlain d.digitChar = true := by decide
  induction n using Nat.strongRecOn with
  | ind n ih =>
    by_cases hn : n < 16
    · rw [Nat.toDigits_of_lt_base hn, List.mem_singleton] at h
      exact h ▸ hdigit n hn
    · rw [Nat.toDigits_of_base_le (by decide) (by omega), List.mem_append, List.mem_singleton] at h
      obtain h | rfl := h
      · exact ih (n / 16) (by omega) h
      · exact hdigit _ (Nat.mod_lt n (by decide))

theorem DomainName.not_isForbidden_of_isPlain (h : Form.isPlain c = true) : DomainName.isForbidden c = false := by
  rw [← Bool.not_eq_true]
  intro hforbidden
  simp only [DomainName.isForbidden, Percent.isControl, Bool.or_eq_true, decide_eq_true_eq] at hforbidden
  obtain hcontrol | hmark := hforbidden
  · have hrange := Form.range_of_isWritten (c := c) (by rw [Form.isWritten, h, Bool.true_or])
    omega
  · have hmarks : [' ', '%', '#', '/', ':', '<', '>', '?', '@', '[', '\\', ']', '^', '|'].all
        (!Form.isPlain ·) = true := by decide
    have hplain := List.all_eq_true.1 hmarks c (by simpa using hmark)
    rw [h] at hplain
    cases hplain

theorem Host.not_isForbidden_of_domain (h : DomainName.isForbidden c = false) : Host.isForbidden c = false := by
  rw [← Bool.not_eq_true] at h ⊢
  refine mt (fun hforbidden => ?_) h
  simp only [Host.isForbidden, Bool.or_eq_true, decide_eq_true_eq] at hforbidden
  obtain hnul | hmark := hforbidden
  · have hcontrol : Percent.isControl c = true := by simp [Percent.isControl, hnul]
    rw [DomainName.isForbidden, hcontrol, Bool.true_or]
  · have hmarks : ['\t', '\n', '\r', ' ', '#', '/', ':', '<', '>', '?', '@', '[', '\\', ']', '^', '|'].all
        fun x => Percent.isControl x ||
          [' ', '%', '#', '/', ':', '<', '>', '?', '@', '[', '\\', ']', '^', '|'].contains x := by decide
    have hboth := List.all_eq_true.1 hmarks c (by simpa using hmark)
    rw [DomainName.isForbidden, Bool.or_eq_true]
    exact (Bool.or_eq_true_iff.1 hboth).imp id fun hc => by simpa using hc

namespace Punycode

variable {n i bias fuel : Nat} {out shown : List Char}

theorem isPlain_digitChar : ∀ d < 36, Form.isPlain (digitChar d) = true := by decide

theorem isPlain_of_digit? (h : (digit? c).isSome) : Form.isPlain c = true := by
  have hkinds : c.isAlphanum = ((c.isUpper || c.isLower) || c.isDigit) := rfl
  simp only [digit?] at h
  split_ifs at h with hdigit hlower
  · exact Form.isPlain_of_isDigit hdigit
  · by_cases hupper : c.isUpper = true
    · simp [Form.isPlain, hkinds, hupper]
    · have hsame : c.toLower = c := dif_neg fun hrange => hupper (decide_eq_true hrange)
      rw [hsame] at hlower
      simp [Form.isPlain, hkinds, hlower]
  · cases h

theorem isPlain_of_mem_number (place : Nat) (h : c ∈ number bias place n) : Form.isPlain c = true := by
  induction n using Nat.strongRecOn generalizing place with
  | ind n ih =>
    have hpos := threshold_pos bias place
    have hle := threshold_le bias place
    rw [number] at h
    split_ifs at h with hn
    · exact List.mem_singleton.1 h ▸ isPlain_digitChar n (by omega)
    · obtain rfl | h := List.mem_cons.1 h
      · have hmod := Nat.mod_lt (n - threshold bias place) (y := 36 - threshold bias place) (by omega)
        exact isPlain_digitChar _ (by omega)
      · have hdiv := Nat.div_le_self (n - threshold bias place) (36 - threshold bias place)
        exact ih _ (by omega) _ h

theorem isPlain_pass {basic : Nat} {w : Writing} (hw : ∀ x ∈ w.out, Form.isPlain x = true) :
    ∀ x ∈ (pass basic n w c).out, Form.isPlain x = true := by
  rw [pass]
  split_ifs
  · exact hw
  · intro x hx
    obtain hx | hx := List.mem_append.1 hx
    · exact hw x hx
    · exact isPlain_of_mem_number 36 hx
  · exact hw

theorem isPlain_fold {basic : Nat} {w : Writing} (hw : ∀ x ∈ w.out, Form.isPlain x = true) :
    ∀ x ∈ (cs.foldl (pass basic n) w).out, Form.isPlain x = true := by
  induction cs generalizing w with
  | nil => exact hw
  | cons c cs ih => exact ih (isPlain_pass hw)

theorem isPlain_rounds {basic next : Nat} {others : List Nat} {w : Writing}
    (hw : ∀ x ∈ w.out, Form.isPlain x = true) :
    ∀ x ∈ rounds cs basic others next w, Form.isPlain x = true := by
  induction others generalizing next w with
  | nil => exact hw
  | cons n others ih =>
    rw [rounds]
    exact ih (isPlain_fold hw)

theorem mem_encode (h : c ∈ encode cs) : c ∈ cs ∨ Form.isPlain c = true := by
  rw [encode, List.mem_append, List.mem_append] at h
  obtain (h | h) | h := h
  · exact .inl (List.mem_filter.1 h).1
  · split_ifs at h
    · cases h
    · obtain rfl := List.mem_singleton.1 h
      exact .inr (by decide)
  · exact .inr (isPlain_rounds (fun x hx => absurd hx List.not_mem_nil) c h)

theorem readNumber?_eq_some {place weight j : Nat} {rest : List Char}
    (h : readNumber? bias place weight n cs = some (j, rest)) :
    ∃ digits, cs = digits ++ rest ∧ ∀ x ∈ digits, Form.isPlain x = true := by
  induction cs generalizing place weight n with
  | nil => cases h
  | cons c cs ih =>
    simp only [readNumber?, Option.bind_eq_bind, Option.bind_eq_some_iff] at h
    obtain ⟨d, hd, m, _, h⟩ := h
    have hc : Form.isPlain c = true := isPlain_of_digit? (Option.isSome_of_eq_some hd)
    split_ifs at h
    · obtain ⟨rfl, rfl⟩ := Prod.mk.inj (Option.some.inj h)
      exact ⟨[c], rfl, fun x hx => List.mem_singleton.1 hx ▸ hc⟩
    · obtain ⟨_, _, h⟩ := Option.bind_eq_some_iff.1 h
      obtain ⟨digits, rfl, hdigits⟩ := ih h
      exact ⟨c :: digits, rfl, List.forall_mem_cons.2 ⟨hc, hdigits⟩⟩

theorem insertions?_eq_some (h : insertions? fuel n i bias out cs = some shown) :
    (∀ x ∈ out, x ∈ shown) ∧ ∀ x ∈ cs, Form.isPlain x = true := by
  induction fuel generalizing n i bias out cs with
  | zero =>
    cases cs with
    | nil =>
      cases h
      exact ⟨fun x hx => hx, fun x hx => nomatch hx⟩
    | cons c cs => cases h
  | succ fuel ih =>
    cases cs with
    | nil =>
      cases h
      exact ⟨fun x hx => hx, fun x hx => nomatch hx⟩
    | cons c cs =>
      simp only [insertions?, Option.bind_eq_bind, Option.bind_eq_some_iff] at h
      obtain ⟨⟨j, rest⟩, hread, h⟩ := h
      obtain ⟨digits, hcs, hdigits⟩ := readNumber?_eq_some hread
      split_ifs at h
      obtain ⟨hout, hrest⟩ := ih h
      refine ⟨fun x hx => hout x ?_, fun x hx => ?_⟩
      · rw [← List.take_append_drop (j % (out.length + 1)) out, List.mem_append] at hx
        exact List.mem_append.2 (hx.imp id (List.mem_cons_of_mem _))
      · rw [hcs, List.mem_append] at hx
        exact hx.elim (hdigits x) (hrest x)

theorem mem_of_decode? (h : decode? cs = some shown) (hc : c ∈ cs) : c ∈ shown ∨ Form.isPlain c = true := by
  have hcut : cs = (cs.reverse.dropWhile (· ≠ '-')).reverse ++ (cs.reverse.takeWhile (· ≠ '-')).reverse := by
    rw [← List.reverse_append, List.takeWhile_append_dropWhile, List.reverse_reverse]
  rw [decode?] at h
  obtain ⟨hbasic, hrest⟩ := insertions?_eq_some h
  cases hd : cs.reverse.dropWhile (· ≠ '-') with
  | nil =>
    rw [hd] at hrest
    exact .inr (hrest c (by simpa using hc))
  | cons d ds =>
    have hfirst : ∀ x ∈ (cs.reverse.dropWhile (· ≠ '-')).head?, decide (x ≠ '-') = false :=
      Span.head?_dropWhile
    rw [hd] at hfirst hcut
    obtain rfl : d = '-' := by simpa using hfirst d rfl
    rw [List.reverse_cons, List.append_assoc, List.singleton_append] at hcut
    simp only [hd, List.drop_one, List.tail_cons] at hbasic hrest
    rw [hcut, List.mem_append, List.mem_cons] at hc
    obtain hc | rfl | hc := hc
    · exact .inl (hbasic c hc)
    · exact .inr (by decide)
    · refine .inr (hrest c ?_)
      split_ifs
      · rw [hcut]
        exact List.mem_append_right _ (List.mem_cons_of_mem _ hc)
      · rw [hcut, List.drop_append, List.drop_eq_nil_of_le (by omega)]
        simpa using hc

end Punycode

namespace DomainName

open Label

theorem isPlain_mark : ∀ x ∈ mark, Form.isPlain x = true := List.all_eq_true.1 (by decide)

/-- A label with the mark, read and found to be final, holds nothing else that is forbidden. -/
theorem Label.not_isForbidden_of_decode? {shown : List Char} (h : decode? cs = some shown) :
    ∀ c ∈ cs, isForbidden c = false := by
  rw [decode?] at h
  split_ifs at h
  obtain ⟨hshown, hfinal⟩ := Option.filter_eq_some_iff.1 h
  simp only [Bool.and_eq_true] at hfinal
  intro c hc
  obtain hc | hc := Punycode.mem_of_decode? hshown hc
  · have hc := List.all_eq_true.1 hfinal.1.1 c hc
    simpa using (Bool.and_eq_true_iff.1 hc).1
  · exact not_isForbidden_of_isPlain hc

theorem Label.not_isForbidden_of_ofText? {l : Label} (h : ofText? cs = some l) :
    ∀ c ∈ l.written, isForbidden c = false := by
  rw [ofText?] at h
  split_ifs at h with hmark hsound hascii hlong
  · obtain ⟨rest, rfl⟩ := List.isPrefixOf_iff_prefix.1 hmark
    rw [List.drop_left] at h
    obtain ⟨shown, hshown, rfl⟩ := Option.map_eq_some_iff.1 h
    have hrest := Label.not_isForbidden_of_decode? (Option.filter_eq_some_iff.1 hshown).1
    intro c hc
    exact (List.mem_append.1 hc).elim (fun hc => not_isForbidden_of_isPlain (isPlain_mark c hc)) (hrest c)
  · obtain rfl := Option.some.inj h
    simp only [Bool.or_eq_true, not_or, Bool.not_eq_true, List.any_eq_false] at hsound
    exact fun c hc => by simpa using hsound.1 c hc
  · obtain rfl := Option.some.inj h
    simp only [Bool.or_eq_true, not_or, Bool.not_eq_true, List.any_eq_false] at hsound
    intro c hc
    obtain hc | hc := List.mem_append.1 hc
    · exact not_isForbidden_of_isPlain (isPlain_mark c hc)
    · obtain hc | hc := Punycode.mem_encode hc
      · simpa using hsound.1 c hc
      · exact not_isForbidden_of_isPlain hc

theorem not_isForbidden_of_toAscii? {domain : List Char} (h : toAscii? cs = some domain) :
    ∀ c ∈ domain, isForbidden c = false := by
  simp only [toAscii?, Option.bind_eq_bind, Option.bind_eq_some_iff, Option.some.injEq] at h
  obtain ⟨_, _, labels, hlabels, rfl⟩ := h
  simp only [labels?, Option.bind_eq_bind, Option.bind_eq_some_iff] at hlabels
  obtain ⟨_, _, read, hread, hlabels⟩ := hlabels
  split_ifs at hlabels
  obtain rfl := Option.some.inj hlabels
  refine Text.forall_mem_intercalate (p := fun c => isForbidden c = false) ?_ fun written hwritten => ?_
  · exact fun c hc => not_isForbidden_of_isPlain (by obtain rfl := List.mem_singleton.1 hc; decide)
  · obtain ⟨label, hlabel, rfl⟩ := List.mem_map.1 hwritten
    obtain ⟨_, _, htext⟩ := exists_of_mem_mapM hread hlabel
    exact Label.not_isForbidden_of_ofText? htext

end DomainName

namespace Uri

theorem isPlain_ipv4Text {n : Nat} (h : c ∈ (ipv4Text n).toList) : Form.isPlain c = true := by
  have hnumber {k : Nat} (h : c ∈ (toString k).toList) : Form.isPlain c = true :=
    Form.isPlain_of_isDigit (Json.isDigit_toDigits k c (Json.toList_repr k ▸ h))
  have hdot (h : c ∈ (toString ".").toList) : Form.isPlain c = true := by
    obtain rfl : c = '.' := List.mem_singleton.1 h
    decide
  simp only [ipv4Text, String.toList_append, List.mem_append] at h
  obtain (((((h | h) | h) | h) | h) | h) | h := h
  · exact hnumber h
  · exact hdot h
  · exact hnumber h
  · exact hdot h
  · exact hnumber h
  · exact hdot h
  · exact hnumber h

theorem mem_piecesText {ps : List Nat} (h : c ∈ (piecesText ps).toList) : Form.isPlain c = true ∨ c = ':' := by
  rw [piecesText, String.toList_intercalate, List.map_map] at h
  refine Text.forall_mem_intercalate (p := fun c => Form.isPlain c = true ∨ c = ':')
    (fun x hx => .inr (List.mem_singleton.1 hx)) (fun piece hpiece x hx => .inl ?_) c h
  obtain ⟨n, _, rfl⟩ := List.mem_map.1 hpiece
  rw [Function.comp_apply, Text.hex, String.toList_ofList] at hx
  exact Form.isPlain_of_mem_toDigits hx

theorem mem_ipv6Text {ps : List Nat} (h : c ∈ (ipv6Text ps).toList) : Form.isPlain c = true ∨ c = ':' := by
  rw [ipv6Text] at h
  split at h
  · rw [String.toList_append, String.toList_append, List.mem_append, List.mem_append] at h
    obtain (h | h) | h := h
    · exact mem_piecesText h
    · exact .inr (by simpa using h)
    · exact mem_piecesText h
  · exact mem_piecesText h

end Uri

namespace Host

variable {host : Host}

/-- Of the characters that no name holds, the text of a host has the brackets and the colons of an address
only. -/
def Clear (host : Host) : Prop :=
  ∀ c ∈ host.text.toList, isForbidden c = true → c = '[' ∨ c = ':' ∨ c = ']'

theorem not_isForbidden_of_isPlain (h : Form.isPlain c = true) : isForbidden c = false :=
  Host.not_isForbidden_of_domain (DomainName.not_isForbidden_of_isPlain h)

theorem clear_of_not_isForbidden (h : ∀ c ∈ host.text.toList, isForbidden c = false) : host.Clear :=
  fun c hc hforbidden => absurd hforbidden (Bool.eq_false_iff.1 (h c hc))

theorem clear_of_bracketed (h : bracketed cs = .ok host) : host.Clear := by
  rw [bracketed] at h
  split_ifs at h
  split at h
  next pieces hpieces =>
    cases h
    intro c hc hforbidden
    simp only [text, String.toList_append, List.mem_append] at hc
    obtain (hc | hc) | hc := hc
    · exact .inl (List.mem_singleton.1 hc)
    · obtain hc | hc := Uri.mem_ipv6Text hc
      · exact absurd hforbidden (Bool.eq_false_iff.1 (not_isForbidden_of_isPlain hc))
      · exact .inr (.inl hc)
    · exact .inr (.inr (List.mem_singleton.1 hc))
  next => cases h

theorem clear_of_unnamed (h : unnamed cs = .ok host) : host.Clear := by
  unfold unnamed at h
  split at h
  next => exact clear_of_bracketed h
  next =>
    split_ifs at h with hforbidden
    cases h
    refine clear_of_not_isForbidden fun x hx => ?_
    rw [text, String.toList_ofList] at hx
    obtain ⟨y, hy, hx⟩ := List.mem_flatMap.1 hx
    split_ifs at hx
    · obtain ⟨b, _, hx⟩ := List.mem_flatMap.1 hx
      obtain hx | rfl := Form.mem_octet hx
      · exact not_isForbidden_of_isPlain hx
      · simp [isForbidden]
    · obtain rfl := List.mem_singleton.1 hx
      exact Bool.eq_false_iff.2 fun hx => hforbidden (List.any_eq_true.2 ⟨x, hy, hx⟩)

theorem clear_of_internet (h : internet cs = .ok host) : host.Clear := by
  unfold internet at h
  split at h
  next => exact clear_of_bracketed h
  next =>
    split at h
    next => cases h
    next => cases h
    next domain _ hdomain =>
      split_ifs at h
      · split at h
        · cases h
          exact clear_of_not_isForbidden fun x hx => not_isForbidden_of_isPlain (Uri.isPlain_ipv4Text hx)
        · cases h
      · cases h
        refine clear_of_not_isForbidden fun x hx => ?_
        rw [text, String.toList_ofList] at hx
        exact Host.not_isForbidden_of_domain (DomainName.not_isForbidden_of_toAscii? hdomain x hx)

end Host

end ContainerFleet
