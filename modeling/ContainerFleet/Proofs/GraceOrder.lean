import ContainerFleet.Proofs.DriftReport
import ContainerFleet.Proofs.Matching
import ContainerFleet.Proofs.RetentionVerdict
import ContainerFleet.Settings

namespace ContainerFleet

theorem Duration.millis_mono {d e : Duration} (h : d ≤ e) : d.millis ≤ e.millis := Nat.div_le_div_right h

def Correlation.InCalendar (m : Correlation) (now : Timestamp) : Prop :=
  now.InCalendar ∧ ∀ c ∈ m.containers, c.created.InCalendar

namespace CloudSweep

/-- What graces of `2 ^ 63` milliseconds or more are cut to, in milliseconds. -/
def cutMillis : Nat := (Word.count 63 - 1) / 1000

/-- The grace `e` is cut to less than `d`, which is not cut. -/
def FallsBelow (e d : Duration) : Prop :=
  Word.count 63 ≤ e.millis ∧ d.millis < Word.count 63 ∧ cutMillis < d.millis

variable {d e : Duration}

theorem graceSpan_of_lt (h : d.millis < Word.count 63) : graceSpan d = d.millis * 1000000 := if_pos h

theorem graceSpan_of_le (h : Word.count 63 ≤ d.millis) : graceSpan d = cutMillis * 1000000 :=
  if_neg (Nat.not_lt.2 h)

theorem FallsBelow.graceSpan_eq (h : FallsBelow e d) :
    graceSpan e = cutMillis * 1000000 ∧ graceSpan d = d.millis * 1000000 :=
  ⟨graceSpan_of_le h.1, graceSpan_of_lt h.2.1⟩

theorem graceSpan_le_iff (h : d ≤ e) : graceSpan d ≤ graceSpan e ↔ ¬ FallsBelow e d := by
  have hmillis := Duration.millis_mono h
  have hcut : cutMillis < Word.count 63 := by decide
  unfold FallsBelow
  obtain he | he := Nat.lt_or_ge e.millis (Word.count 63)
  · rw [graceSpan_of_lt he, graceSpan_of_lt (Nat.lt_of_le_of_lt hmillis he)]
    omega
  · rw [graceSpan_of_le he]
    obtain hd | hd := Nat.lt_or_ge d.millis (Word.count 63)
    · rw [graceSpan_of_lt hd]
      omega
    · rw [graceSpan_of_le hd]
      omega

/-- In whole seconds the longer grace has `2 ^ 63` milliseconds or more, and the shorter one between a
thousandth of that and that. -/
theorem fallsBelow_ofSecs_iff {n k : Nat} : FallsBelow (.ofSecs k) (.ofSecs n) ↔
    9223372036854776 ≤ k ∧ n < 9223372036854776 ∧ 9223372036854 < n := by
  have hword : Word.count 63 = 9223372036854775808 := rfl
  have hcut : cutMillis = 9223372036854775 := rfl
  simp only [FallsBelow, Duration.millis, Duration.ofSecs, hword, hcut]
  omega

end CloudSweep

namespace Drift

variable {m : Correlation} {live : Dict String} {now : Timestamp} {span span' : Int}

theorem orphans_subset_iff : (between m live now span').orphans ⊆ (between m live now span).orphans ↔
    ∀ c ∈ m.containers, live.contains c.node = false →
      ¬ (span' < now.since c.created ∧ now.since c.created ≤ span) := by
  simp only [List.subset_def, mem_orphans]
  constructor
  · rintro h c hc hloose ⟨hlong, hshort⟩
    exact absurd (h ⟨hc, hloose, hlong⟩).2.2 (Int.not_lt.2 hshort)
  · rintro h c ⟨hc, hloose, hlong⟩
    exact ⟨hc, hloose, Int.not_le.1 fun hshort => h c hc hloose ⟨hlong, hshort⟩⟩

/-- The calendar holds an age just above the span that long graces are cut to. -/
theorem exists_between_cut : ∃ ops now, (Correlation.run ops).InCalendar now ∧
    ∃ c ∈ (Correlation.run ops).containers, now.since c.created = CloudSweep.cutMillis * 1000000 + 1 := by
  let c : Mapped := ⟨"c", "n", "running", .ofSecs Timestamp.firstSecond⟩
  have hcontainers : (Correlation.run [.register c]).containers = [c] := by decide
  let now : Timestamp := ⟨Timestamp.firstSecond * 1000000000 + CloudSweep.cutMillis * 1000000 + 1, false⟩
  refine ⟨[.register c], now, ⟨⟨by decide, by decide⟩, fun x hx => ?_⟩, c, ?_, by decide⟩
  · rw [hcontainers, List.mem_singleton] at hx
    subst hx
    exact ⟨by decide, by decide⟩
  · rw [hcontainers]
    exact List.mem_singleton_self c

end Drift

namespace CloudSweep

open Drift (between)

variable {m : Correlation} {live : Dict String} {now : Timestamp}

theorem orphans_subset_iff (h : d ≤ e) :
    (between m live now (graceSpan e)).orphans ⊆ (between m live now (graceSpan d)).orphans ↔
      ¬ (FallsBelow e d ∧ ∃ c ∈ m.containers, live.contains c.node = false ∧
        cutMillis * 1000000 < now.since c.created ∧ now.since c.created ≤ d.millis * 1000000) := by
  rw [Drift.orphans_subset_iff]
  by_cases hb : FallsBelow e d
  · rw [hb.graceSpan_eq.1, hb.graceSpan_eq.2]
    simp only [hb, true_and, not_exists, not_and]
  · have hle := (graceSpan_le_iff h).2 hb
    refine iff_of_true (fun c _ _ hage => ?_) fun hb' => hb hb'.1
    exact absurd (Int.lt_of_lt_of_le hage.1 hage.2) (Int.not_lt.2 hle)

/-- Of two graces the longer one gives the longer span, and it makes no orphan that the shorter one does not
make, exactly if it does not fall below the shorter one. If it does, it makes more of them just where a
container without a live node is older than the cut and not older than the shorter grace, and the calendar
holds such ages. -/
theorem longer_grace (h : d ≤ e) :
    (graceSpan d ≤ graceSpan e ↔ ¬ FallsBelow e d) ∧
    (∀ m live now,
      (between m live now (graceSpan e)).orphans ⊆ (between m live now (graceSpan d)).orphans ↔
      ¬ (FallsBelow e d ∧ ∃ c ∈ m.containers, live.contains c.node = false ∧
        cutMillis * 1000000 < now.since c.created ∧ now.since c.created ≤ d.millis * 1000000)) ∧
    ((∀ ops live now, (Correlation.run ops).InCalendar now →
      (between (Correlation.run ops) live now (graceSpan e)).orphans ⊆
        (between (Correlation.run ops) live now (graceSpan d)).orphans) ↔
      ¬ FallsBelow e d) := by
  refine ⟨graceSpan_le_iff h, fun m live now => orphans_subset_iff h, fun hall hb => ?_,
    fun hb ops live now _ => (orphans_subset_iff h).2 fun hb' => hb hb'.1⟩
  obtain ⟨ops, now, hcal, c, hc, hage⟩ := Drift.exists_between_cut
  have hcut : (cutMillis : Int) < d.millis := Int.ofNat_lt.2 hb.2.2
  refine (orphans_subset_iff h).1 (hall ops .empty now hcal) ⟨hb, c, hc, rfl, ?_, ?_⟩
  · omega
  · omega

/-- The variable may hold both graces. A container that is a little older than the cut is an orphan under
the longer one only. -/
theorem longer_grace_cut :
    let settings (text : String) := Settings.ofEnvironment (Dict.ofList [(Settings.graceKey, text)])
    ∃ s t ops now, settings "9223372036855" = .ok s ∧ settings "9223372036854776" = .ok t ∧
      s.grace ≤ t.grace ∧ (Correlation.run ops).InCalendar now ∧
      ¬ (between (Correlation.run ops) .empty now (graceSpan t.grace)).orphans ⊆
        (between (Correlation.run ops) .empty now (graceSpan s.grace)).orphans := by
  intro settings
  obtain ⟨ops, now, hcal, c, hc, hage⟩ := Drift.exists_between_cut
  let s : Settings := { grace := .ofSecs 9223372036855 }
  let t : Settings := { grace := .ofSecs 9223372036854776 }
  refine ⟨s, t, ops, now, by decide +kernel, by decide +kernel, by decide, hcal, ?_⟩
  rw [(longer_grace (by decide)).2.1, not_not]
  refine ⟨fallsBelow_ofSecs_iff.2 (by decide), c, hc, rfl, ?_, ?_⟩
  · omega
  · rw [hage]
    decide

end CloudSweep

end ContainerFleet
