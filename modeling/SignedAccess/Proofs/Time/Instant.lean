import SignedAccess.Error
import SignedAccess.Proofs.Result

/-!
# Instants within the calendar

A reading has one in UTC just when its instant lies within the years 1 to 9999, and the two name
the same instant.

    t.utc = .ok u ↔ InCalendar t.micros ∧ u = (that instant in UTC)  (utc_eq_ok_iff)
-/

namespace SignedAccess

/-- Whether an instant, in microseconds from the first midnight of the year 1 in UTC, lies within
the years 1 to 9999. -/
def InCalendar (micros : Int) : Prop := 0 ≤ micros ∧ micros < clockSpan

/-! ## Later readings -/

namespace Moment

variable {m : Moment} {u : DateTime} {micros seconds : Int}

/-- A later reading shows its own time, and the offset that the clock has then. -/
theorem shift?_eq_some_iff : m.shift? micros = some u ↔
    (u.wall : Int) = m.reading.wall + micros ∧ u.offset = m.clock.offsetAt u.wall := by
  refine ⟨shift?_wall, ?_⟩
  obtain ⟨wall, offset, hlt⟩ := u
  rintro ⟨hwall, hoffset⟩
  simp only at hwall hoffset
  subst hoffset
  rw [shift?, dif_pos ⟨by omega, by omega⟩]
  simp only [← hwall, Int.toNat_natCast]

/-- A later reading is the one that shows the later time on the same clock. -/
theorem later_eq_ok_iff : m.later seconds = .ok u ↔
    (u.wall : Int) = m.reading.wall + seconds * microsPerSecond ∧
      u.offset = m.clock.offsetAt u.wall := by
  unfold later
  rw [← shift?_eq_some_iff]
  cases m.shift? (seconds * microsPerSecond) with
  | none => simp [Error.ofTime?]
  | some v => simp [Error.ofTime?]

/-- A later reading exists if the time that it shows lies within the calendar. -/
theorem exists_later (h : InCalendar (m.reading.wall + seconds * microsPerSecond)) :
    ∃ u, m.later seconds = .ok u := by
  have hwall := Int.toNat_of_nonneg h.1
  have hlt : (m.reading.wall + seconds * microsPerSecond : Int).toNat < clockSpan := by
    have hin := h.2
    omega
  exact ⟨⟨_, m.clock.offsetAt _, hlt⟩, later_eq_ok_iff.2 ⟨hwall, rfl⟩⟩

theorem later_eq_error (h : ¬InCalendar (m.reading.wall + seconds * microsPerSecond)) :
    m.later seconds = .error (.time .outOfRange) := by
  have hnone : m.shift? (seconds * microsPerSecond) = none := dif_neg h
  unfold later
  rw [hnone]
  rfl

end Moment

namespace DateTime

/-! ## Readings in UTC -/

theorem micros_inUtc (wall : Nat) (h : wall < clockSpan) : (inUtc wall h).micros = wall := by
  simp [micros, ahead, inUtc]

theorem micros_eq_sub {t : DateTime} {offset : Int} (h : t.offset = some offset) :
    t.micros = t.wall - offset := by
  unfold micros ahead
  rw [h, Option.getD_some]

theorem micros_of_offset {t : DateTime} (h : t.offset = some 0) : t.micros = t.wall := by
  rw [micros_eq_sub h, Int.sub_zero]

/-- A reading has one in UTC just when its instant lies within the calendar. -/
theorem utc_eq_ok_iff {t u : DateTime} :
    t.utc = .ok u ↔ InCalendar t.micros ∧ (u.wall : Int) = t.micros ∧ u.offset = some 0 := by
  unfold DateTime.utc InCalendar
  constructor
  · intro h
    cases hu : t.utc? with
    | none => rw [hu] at h; cases h
    | some u' =>
      rw [hu] at h
      cases h
      have hw := utc?_micros hu
      have hlt := u.wall_lt
      exact ⟨by omega, hw⟩
  · rintro ⟨hin, hwall, hoffset⟩
    have hu : t.utc? = some (inUtc t.micros.toNat (by omega)) := dif_pos hin
    rw [hu, Error.ofTime?]
    obtain ⟨wall, offset, hlt⟩ := u
    simp only at hwall hoffset
    subst hoffset
    simp [inUtc, ← hwall]

theorem exists_utc {t : DateTime} (h : InCalendar t.micros) :
    ∃ u, t.utc = .ok u ∧ u.micros = t.micros ∧ u.offset = some 0 := by
  have hlt : t.micros.toNat < clockSpan := by unfold InCalendar at h; omega
  have hwall : ((inUtc t.micros.toNat hlt).wall : Int) = t.micros := Int.toNat_of_nonneg h.1
  refine ⟨inUtc t.micros.toNat hlt, utc_eq_ok_iff.2 ⟨h, hwall, rfl⟩, ?_, rfl⟩
  rw [micros_inUtc]
  exact hwall

theorem utc_eq_error {t : DateTime} (h : ¬InCalendar t.micros) :
    t.utc = .error (.time .outOfRange) := by
  have hnone : t.utc? = none := dif_neg h
  unfold DateTime.utc
  rw [hnone]
  rfl

/-- A reading in UTC names the same instant. -/
theorem micros_of_utc {t u : DateTime} (h : t.utc = .ok u) : u.micros = t.micros := by
  obtain ⟨-, hwall, hoffset⟩ := utc_eq_ok_iff.1 h
  rw [micros_of_offset hoffset, hwall]

/-- Without its fraction of a second a reading in UTC names the last whole second before its
instant. -/
theorem micros_floorSecond {t : DateTime} (h : t.offset = some 0) :
    t.floorSecond.micros = t.micros - t.micros % microsPerSecond := by
  have hfloor : t.floorSecond.micros = (t.wall - t.wall % microsPerSecond : Nat) :=
    micros_of_offset h
  rw [hfloor, micros_of_offset h]
  unfold microsPerSecond
  omega

/-- On a clock that keeps its offset a later reading has that offset. -/
theorem later_eq_ok_iff_wall {t u : DateTime} {seconds : Int} :
    t.later seconds = .ok u ↔
      (u.wall : Int) = t.wall + seconds * microsPerSecond ∧ u.offset = t.offset := by
  rw [← Clock.offsetAt_steady t.offset u.wall]
  exact Moment.later_eq_ok_iff

/-- On a clock in UTC a later reading exists just when its instant lies within the calendar. -/
theorem later_eq_ok_iff {t u : DateTime} {seconds : Int} (h : t.offset = some 0) :
    t.later seconds = .ok u ↔ InCalendar (t.micros + seconds * microsPerSecond) ∧
      (u.wall : Int) = t.micros + seconds * microsPerSecond ∧ u.offset = some 0 := by
  rw [later_eq_ok_iff_wall, micros_of_offset h, h]
  have hlt := u.wall_lt
  unfold InCalendar
  constructor
  · rintro ⟨hwall, hoffset⟩
    exact ⟨by omega, hwall, hoffset⟩
  · rintro ⟨-, hwall, hoffset⟩
    exact ⟨hwall, hoffset⟩

theorem later_eq_error {t : DateTime} {seconds : Int} (h : t.offset = some 0)
    (hout : ¬InCalendar (t.micros + seconds * microsPerSecond)) :
    t.later seconds = .error (.time .outOfRange) := by
  rw [micros_of_offset h] at hout
  exact Moment.later_eq_error hout

theorem exists_later {t : DateTime} {seconds : Int} (h : t.offset = some 0)
    (hin : InCalendar (t.micros + seconds * microsPerSecond)) :
    ∃ u, t.later seconds = .ok u ∧ u.micros = t.micros + seconds * microsPerSecond := by
  rw [micros_of_offset h] at hin ⊢
  obtain ⟨u, hlater⟩ := @Moment.exists_later t.steady _ hin
  obtain ⟨hwall, hoffset⟩ := later_eq_ok_iff_wall.1 hlater
  refine ⟨u, hlater, ?_⟩
  rw [micros_of_offset (hoffset.trans h)]
  exact hwall

end DateTime

end SignedAccess
