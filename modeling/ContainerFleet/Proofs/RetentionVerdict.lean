import ContainerFleet.Node.Retention
import ContainerFleet.Proofs.Age

namespace ContainerFleet

namespace RetentionPolicy

variable {p : RetentionPolicy} {a : Activity} {now : Timestamp} {reason : RetentionReason}
  {m : Nat}

def IsSpent (p : RetentionPolicy) (a : Activity) : Prop := (∃ m, p = once m) ∧ 0 < a.completed

def withMinutes : RetentionPolicy → Nat → RetentionPolicy
  | idle _, m => idle m
  | once _, m => once m

theorem isSpent_iff : p.IsSpent a ↔ p = once p.minutes ∧ 0 < a.completed := by
  refine and_congr_left fun _ => ⟨?_, fun h => ⟨_, h⟩⟩
  rintro ⟨m, rfl⟩
  rfl

theorem isSpent_withMinutes : (p.withMinutes m).IsSpent a ↔ p.IsSpent a := by
  cases p <;> simp [IsSpent, withMinutes]

theorem minutes_withMinutes : (p.withMinutes m).minutes = m := by cases p <;> rfl

theorem idleTimeout_withMinutes (h : m ≤ p.minutes) :
    (p.withMinutes m).idleTimeout.nanos ≤ p.idleTimeout.nanos := by
  simp only [idleTimeout, Duration.ofSecs, minutes_withMinutes]
  omega

theorem verdict_of_busy (h : 0 < a.busy) : p.verdict a now = none := if_pos h

theorem verdict_of_isSpent (hb : a.busy = 0) (hs : p.IsSpent a) :
    p.verdict a now = some .usedOnce := by
  rw [verdict, if_neg (Nat.not_lt.2 (Nat.le_of_eq hb)), if_pos (isSpent_iff.1 hs)]

theorem verdict_of_not_isSpent (hb : a.busy = 0) (hs : ¬ p.IsSpent a) :
    p.verdict a now = some reason ↔
      reason = .idle ∧ ∃ t, a.idleSince = some t ∧ (p.idleTimeout.nanos : Int) < now.since t := by
  rw [verdict, if_neg (Nat.not_lt.2 (Nat.le_of_eq hb)), if_neg (mt isSpent_iff.2 hs)]
  simp only [← Timestamp.lt_elapsed?_iff, bind, Option.bind_eq_some_iff]
  constructor
  · rintro ⟨t, ht, e, he, hr⟩
    split at hr
    · rename_i hlt
      exact ⟨(Option.some.inj hr).symm, t, ht, e, he, hlt⟩
    · cases hr
  · rintro ⟨rfl, t, ht, e, he, hlt⟩
    exact ⟨t, ht, e, he, if_pos hlt⟩

theorem verdict_eq_usedOnce_iff : p.verdict a now = some .usedOnce ↔ a.busy = 0 ∧ p.IsSpent a := by
  obtain hb | hb := Nat.eq_zero_or_pos a.busy
  · by_cases hs : p.IsSpent a
    · simp [verdict_of_isSpent hb hs, hb, hs]
    · simp [verdict_of_not_isSpent hb hs, hs]
  · simp [verdict_of_busy hb, Nat.ne_of_gt hb]

theorem verdict_eq_idle_iff : p.verdict a now = some .idle ↔ a.busy = 0 ∧ ¬ p.IsSpent a ∧
    ∃ t, a.idleSince = some t ∧ (p.idleTimeout.nanos : Int) < now.since t := by
  obtain hb | hb := Nat.eq_zero_or_pos a.busy
  · by_cases hs : p.IsSpent a
    · simp [verdict_of_isSpent hb hs, hs]
    · simp [verdict_of_not_isSpent hb hs, hb, hs]
  · simp [verdict_of_busy hb, Nat.ne_of_gt hb]

theorem verdict_withMinutes (hm : m ≤ p.minutes) (h : p.verdict a now = some reason) :
    (p.withMinutes m).verdict a now = some reason := by
  cases reason with
  | usedOnce => rwa [verdict_eq_usedOnce_iff, isSpent_withMinutes, ← verdict_eq_usedOnce_iff]
  | idle =>
    rw [verdict_eq_idle_iff] at h ⊢
    obtain ⟨hb, hs, t, ht, hlt⟩ := h
    have hle := idleTimeout_withMinutes hm
    exact ⟨hb, mt isSpent_withMinutes.1 hs, t, ht, by omega⟩

/-- The seconds of a timeout are cut off only where no span of the calendar is as long. -/
theorem idleTimeout_lt_since {t : Timestamp} (hnow : now.InCalendar) (ht : t.InCalendar) :
    (p.idleTimeout.nanos : Int) < now.since t ↔
      ((Duration.ofSecs (60 * p.minutes)).nanos : Int) < now.since t := by
  have hspan := hnow.since_lt ht
  simp only [idleTimeout, Duration.ofSecs] at hspan ⊢
  omega

theorem idleTimeout_eq {t : Timestamp} (hnow : now.InCalendar) (ht : t.InCalendar)
    (h : (p.idleTimeout.nanos : Int) < now.since t) : p.idleTimeout = .ofSecs (60 * p.minutes) := by
  have hspan := hnow.since_lt ht
  rw [idleTimeout, Nat.mul_comm, Nat.min_eq_left]
  simp only [idleTimeout, Duration.ofSecs] at hspan h
  omega

/-- Later on a node that was to go still is, unless it has been idle for less long. -/
theorem verdict_later (later : Timestamp) (hnow : now.InCalendar)
    (hidle : ∀ t, a.idleSince = some t → t.InCalendar) (h : p.verdict a now = some reason) :
    (p.verdict a later = some reason ∨ p.verdict a later = none) ∧
    (p.verdict a later = none ↔ reason = .idle ∧ ∃ t, a.idleSince = some t ∧
      t.Rejuvenates now later ∧ later.since t ≤ ((Duration.ofSecs (60 * p.minutes)).nanos : Int)) := by
  cases reason with
  | usedOnce =>
    have hgoes : p.verdict a later = some .usedOnce :=
      verdict_eq_usedOnce_iff.2 (verdict_eq_usedOnce_iff.1 h)
    simp [hgoes]
  | idle =>
    obtain ⟨hb, hs, t, ht, hlt⟩ := verdict_eq_idle_iff.1 h
    -- A timeout that has passed was not cut off, so the minutes can be read off it.
    have htimeout := idleTimeout_eq hnow (hidle t ht) hlt
    have hdrop : later.since t < now.since t ↔ t.Rejuvenates now later :=
      Timestamp.since_lt_since_iff
    by_cases hage : (p.idleTimeout.nanos : Int) < later.since t
    · have hgoes : p.verdict a later = some .idle := verdict_eq_idle_iff.2 ⟨hb, hs, t, ht, hage⟩
      refine ⟨.inl hgoes, iff_of_false (by simp [hgoes]) ?_⟩
      rintro ⟨-, u, hu, -, hle⟩
      obtain rfl := Option.some.inj (ht.symm.trans hu)
      rw [← htimeout] at hle
      omega
    · have hstays : p.verdict a later = none := by
        refine Option.eq_none_iff_forall_ne_some.2 fun r hr => ?_
        obtain ⟨-, u, hu, hlt'⟩ := (verdict_of_not_isSpent hb hs).1 hr
        obtain rfl := Option.some.inj (ht.symm.trans hu)
        exact hage hlt'
      refine ⟨.inr hstays, iff_of_true hstays ⟨rfl, t, ht, hdrop.1 (by omega), ?_⟩⟩
      rw [← htimeout]
      omega

/-- A busy node stays; one that is for a single task goes once it has run it; any other one goes once it has
rested for longer than its timeout, however long that is. A node that is to go stays so under a shorter
timeout, and as time goes by unless an inserted second brings its rest back under the timeout. Between
readings of a clock that shows no inserted seconds, it stays so unless its rest began in such a second and a
midnight passes. -/
theorem verdict_exact (p : RetentionPolicy) (a : Activity) (now : Timestamp) (hnow : now.InCalendar)
    (hidle : ∀ t, a.idleSince = some t → t.InCalendar) :
    (0 < a.busy → p.verdict a now = none) ∧
    (p.verdict a now = some .usedOnce ↔ a.busy = 0 ∧ p.IsSpent a) ∧
    (p.verdict a now = some .idle ↔ a.busy = 0 ∧ ¬ p.IsSpent a ∧
      ∃ t, a.idleSince = some t ∧ ((Duration.ofSecs (60 * p.minutes)).nanos : Int) < now.since t) ∧
    (∀ later reason, now ≤ later → p.verdict a now = some reason →
      (p.verdict a later = some reason ∨ p.verdict a later = none) ∧
      (p.verdict a later = none ↔ reason = .idle ∧ ∃ t, a.idleSince = some t ∧
        t.Rejuvenates now later ∧
          later.since t ≤ ((Duration.ofSecs (60 * p.minutes)).nanos : Int)) ∧
      (now.leap = false → later.leap = false → p.verdict a later = none →
        ∃ t, a.idleSince = some t ∧ t.leap = true ∧ now.CrossesMidnight later)) ∧
    ∀ m reason, m ≤ p.minutes → p.verdict a now = some reason →
      (p.withMinutes m).verdict a now = some reason := by
  refine ⟨verdict_of_busy, verdict_eq_usedOnce_iff, ?_,
    fun later reason hle h => ?_, fun m reason => verdict_withMinutes⟩
  · rw [verdict_eq_idle_iff]
    refine and_congr_right fun _ => and_congr_right fun _ => exists_congr fun t => ?_
    exact and_congr_right fun ht => idleTimeout_lt_since hnow (hidle t ht)
  · obtain ⟨hsame, hnone⟩ := verdict_later later hnow hidle h
    refine ⟨hsame, hnone, fun hordinary hordinary' hgone => ?_⟩
    obtain ⟨-, t, ht, hdrop, -⟩ := hnone.1 hgone
    exact ⟨t, ht, hdrop.at_midnight hordinary hordinary' hle⟩

/-- From the first to the last second of the calendar a node outlasts the longest timeout of 64 bits, but
not one of ten minutes. -/
theorem verdict_exact_ends :
    let first := Timestamp.ofSecs Timestamp.firstSecond
    let last := Timestamp.ofSecs Timestamp.lastSecond
    first.InCalendar ∧ last.InCalendar ∧
      (once (Word.count 64 - 1)).verdict (.idle first) last ≠ some .idle ∧
      (once 10).verdict (.idle first) last = some .idle := by
  intro first last
  have hfirst : first.InCalendar := ⟨by decide, by decide⟩
  have hlast : last.InCalendar := ⟨by decide, by decide⟩
  have hidle : ∀ t, (Activity.idle first).idleSince = some t → t.InCalendar := by
    rintro t ⟨⟩
    exact hfirst
  have hfew : ∀ m, ¬ (once m).IsSpent (.idle first) := fun m h => absurd h.2 (by decide)
  refine ⟨hfirst, hlast, fun h => ?_, ?_⟩
  · obtain ⟨-, -, t, ⟨⟩, hlt⟩ := (verdict_exact _ _ _ hlast hidle).2.2.1.1 h
    exact absurd hlt (by decide)
  · exact (verdict_exact _ _ _ hlast hidle).2.2.1.2 ⟨rfl, hfew 10, first, rfl, by decide⟩

/-- A node idle since the inserted second of the first minute is to go at half a second before midnight and
stays at midnight; one idle since noon is to go at the first minute's end, and stays in the second that is
inserted there. -/
theorem verdict_forgotten :
    let minute : Timestamp := { nanos := 60000000000, leap := true }
    let evening : Timestamp := { nanos := 86399500000000 }
    let midnight : Timestamp := { nanos := 86400000000000 }
    let noon : Timestamp := { nanos := 43259700000000 }
    let before : Timestamp := { nanos := 86459800000000 }
    let inserted : Timestamp := { nanos := 86460500000000, leap := true }
    (evening ≤ midnight ∧
      (RetentionPolicy.idle 1439).verdict (.idle minute) evening = some .idle ∧
      (RetentionPolicy.idle 1439).verdict (.idle minute) midnight = none) ∧
    before ≤ inserted ∧
      (RetentionPolicy.idle 720).verdict (.idle noon) before = some .idle ∧
      (RetentionPolicy.idle 720).verdict (.idle noon) inserted = none := by
  decide

end RetentionPolicy

end ContainerFleet
