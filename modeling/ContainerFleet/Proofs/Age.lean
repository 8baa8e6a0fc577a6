import ContainerFleet.Time.Timestamp
import ContainerFleet.Text.Blank

namespace ContainerFleet.Timestamp

variable {s t now later : Timestamp} {d : Duration}

def InCalendar (t : Timestamp) : Prop := firstSecond ≤ t.second ∧ t.second ≤ lastSecond

instance : LE Timestamp := ⟨fun s t => s.second < t.second ∨ s.second = t.second ∧ s.nanos ≤ t.nanos⟩

instance (s t : Timestamp) : Decidable (s ≤ t) :=
  inferInstanceAs (Decidable (s.second < t.second ∨ s.second = t.second ∧ s.nanos ≤ t.nanos))

def LeapBetween (t s u : Timestamp) : Prop :=
  t.leap = true ∧ s.secondOfDay ≤ t.secondOfDay ∧ t.secondOfDay < u.secondOfDay ∧
    ¬ (s.leap = true ∧ s.secondOfDay = t.secondOfDay)

instance (t s u : Timestamp) : Decidable (LeapBetween t s u) := inferInstanceAs (Decidable (_ ∧ _))

/-- The times of day follow each other round the clock in this order, one of them in an inserted second. -/
def LeapRound (s t u : Timestamp) : Prop := LeapBetween t s u ∨ LeapBetween u t s ∨ LeapBetween s u t

instance (s t u : Timestamp) : Decidable (LeapRound s t u) := inferInstanceAs (Decidable (_ ∨ _))

/-- What an inserted second adds to the time from `t` to `now` and from there to `later`, but not to that
from `t` to `later`. -/
def detour (t now later : Timestamp) : Int :=
  if LeapRound t now later then 1000000000
  else if LeapRound now t later then -1000000000
  else 0

/-- Less time passes from `now` to `later` than an inserted second takes from the age of `t`. -/
def Rejuvenates (t now later : Timestamp) : Prop := later.since now < t.detour now later

instance (t now later : Timestamp) : Decidable (Rejuvenates t now later) :=
  inferInstanceAs (Decidable (_ < _))

/-- A midnight lies between the two, which are less than a second apart. -/
def CrossesMidnight (now later : Timestamp) : Prop :=
  later.nanos < now.nanos + 1000000000 ∧ now.secondOfDay = 86399 ∧ later.secondOfDay = 0

theorem since_swap : s.since t = -t.since s := by
  simp only [since]
  grind

theorem since_add_since : later.since now + now.since t = later.since t + t.detour now later := by
  -- Only the order of the three times of day matters, and which of them are in inserted seconds.
  unfold detour
  split
  · rename_i hround
    simp only [LeapRound, LeapBetween] at hround
    simp only [since]
    grind
  · rename_i hround
    split
    · rename_i hback
      simp only [LeapRound, LeapBetween] at hround hback
      simp only [since]
      grind
    · rename_i hback
      simp only [LeapRound, LeapBetween] at hround hback
      simp only [since]
      grind

theorem since_lt_since_iff : later.since t < now.since t ↔ t.Rejuvenates now later := by
  have hround : later.since now + now.since t = later.since t + t.detour now later := since_add_since
  unfold Rejuvenates
  omega

theorem since_bounds : t.nanos - s.nanos - 1000000000 ≤ t.since s ∧
    t.since s ≤ t.nanos - s.nanos + 1000000000 := by
  unfold since
  split
  · omega
  · split <;> omega

theorem since_of_not_leap (ht : t.leap = false) (hs : s.leap = false) : t.since s = t.nanos - s.nanos := by
  simp [since, ht, hs]

theorem second_of_not_leap (ht : t.leap = false) : t.second = t.nanos / 1000000000 := by
  simp [second, ht]

/-- Between readings of a clock that shows no inserted seconds, an age drops only if it began in one, and only
at midnight. -/
theorem rejuvenates_iff (hnow : now.leap = false) (hlater : later.leap = false) (h : now ≤ later) :
    t.Rejuvenates now later ↔
      t.leap = true ∧ t.secondOfDay < 86399 ∧ now.CrossesMidnight later := by
  have hle : now.second < later.second ∨ now.second = later.second ∧ now.nanos ≤ later.nanos := h
  have hday : ∀ u : Timestamp, u.secondOfDay = u.second % 86400 := fun _ => rfl
  have ha := hday now
  have hb := hday later
  have hc := hday t
  have hn := second_of_not_leap hnow
  have hl := second_of_not_leap hlater
  simp only [Rejuvenates, CrossesMidnight, detour, LeapRound, LeapBetween, hnow, hlater, since_of_not_leap hlater hnow,
    Bool.false_eq_true, false_and, false_or, or_false, not_false_iff, and_true]
  -- The later of two instants has the earlier second of the day only if a midnight lies between them.
  constructor
  · intro hdrop
    split at hdrop
    · rename_i hround
      exact ⟨hround.1, by omega⟩
    · split at hdrop <;> omega
  · rintro ⟨ht, hearly, hclose, hlast, hfirst⟩
    rw [if_pos ⟨ht, by omega⟩]
    omega

theorem Rejuvenates.at_midnight (hdrop : t.Rejuvenates now later) (hnow : now.leap = false)
    (hlater : later.leap = false) (h : now ≤ later) : t.leap = true ∧ now.CrossesMidnight later := by
  obtain ⟨hleap, -, hmidnight⟩ := (rejuvenates_iff hnow hlater h).1 hdrop
  exact ⟨hleap, hmidnight⟩

/-- No two instants are as far apart as the seconds that 64 bits hold. -/
theorem InCalendar.since_lt (ht : t.InCalendar) (hs : s.InCalendar) :
    t.since s < ((Duration.ofSecs (Word.count 64 - 1)).nanos : Int) := by
  have hfirst : firstSecond = -8334601228800 := rfl
  have hlast : lastSecond = 8210266876799 := rfl
  have hword : (Duration.ofSecs (Word.count 64 - 1)).nanos = 18446744073709551615000000000 := by decide
  have hsince := since_bounds (t := t) (s := s)
  simp only [InCalendar, second] at ht hs
  rw [hword]
  split at ht <;> split at hs <;> omega

theorem lt_elapsed?_iff : (∃ e, t.elapsed? s = some e ∧ d < e) ↔ (d.nanos : Int) < t.since s := by
  have hlt : ∀ e : Duration, d < e ↔ d.nanos < e.nanos := fun _ => Iff.rfl
  unfold elapsed?
  split
  · simp only [Option.some.injEq, exists_eq_left', hlt]
    omega
  · simp only [reduceCtorEq, false_and, exists_false, false_iff]
    omega

end ContainerFleet.Timestamp
