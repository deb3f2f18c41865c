import SignedAccess.Proofs.Number.Digits
import SignedAccess.Proofs.Text.Pieces
import SignedAccess.Time.DateTime

/-!
# Stamps tell instants apart

The date of a day is read back as that day, so that a stamp determines the reading of the clock up
to the fraction of its second.

    Date.toDays (Date.ofDays n) = n                                  (toDays_ofDays)
    t.stamp = u.stamp → t.wall = u.wall     for whole seconds        (wall_eq_of_stamp_eq)
-/

namespace SignedAccess

namespace Date

/-! ## The calendar -/

/-- The days of full years, given as in the count of days from the year 1. -/
theorem daysBefore_eq {q c o y : Nat} (hc : c ≤ 3) (ho : o ≤ 24) (hy : y ≤ 3) :
    daysBefore (q * 400 + c * 100 + o * 4 + y + 1) =
      q * 146097 + c * 36524 + o * 1461 + y * 365 := by
  unfold daysBefore
  rw [Nat.add_sub_cancel]
  have h4 : (q * 400 + c * 100 + o * 4 + y) / 4 = q * 100 + c * 25 + o := by omega
  have h100 : (q * 400 + c * 100 + o * 4 + y) / 100 = q * 4 + c := by omega
  have h400 : (q * 400 + c * 100 + o * 4 + y) / 400 = q := by omega
  rw [h4, h100, h400]
  omega

theorem foldl_add_start (a : Nat) (lengths : List Nat) :
    lengths.foldl (· + ·) a = a + lengths.foldl (· + ·) 0 := by
  induction lengths generalizing a with
  | nil => rfl
  | cons length rest ih =>
    rw [List.foldl_cons, List.foldl_cons, ih (a + length), ih (0 + length)]
    omega

/-- The days in full months and the day of the month make up the day of the year. -/
theorem dayOfMonth_spec (lengths : List Nat) (month n : Nat) :
    1 ≤ (dayOfMonth month lengths n).2 ∧ month ≤ (dayOfMonth month lengths n).1 ∧
      (lengths.take ((dayOfMonth month lengths n).1 - month)).foldl (· + ·) 0
        + ((dayOfMonth month lengths n).2 - 1) = n := by
  induction lengths generalizing month n with
  | nil => simp [dayOfMonth]
  | cons length rest ih =>
    rw [dayOfMonth]
    split
    · simp
    · next hge =>
      obtain ⟨hday, hmonth, hsum⟩ := ih (month + 1) (n - length)
      generalize dayOfMonth (month + 1) rest (n - length) = d at hday hmonth hsum ⊢
      refine ⟨hday, by omega, ?_⟩
      rw [show d.1 - month = d.1 - (month + 1) + 1 by omega, List.take_succ_cons, List.foldl_cons,
        foldl_add_start]
      omega

/-- Whether periods of the calendar make up a day: quadruple centuries, centuries, olympiads, years,
and the days that these leave. -/
structure IsPeriods (n q c o y r : Nat) : Prop where
  centuries : c ≤ 3
  olympiads : o ≤ 24
  years : y ≤ 3
  sum : q * 146097 + c * 36524 + o * 1461 + y * 365 + r = n
  /-- The days that are left are less than 365, or the last one is that of a leap year: of the
  fourth year of an olympiad that is not cut short, or of a quadruple century. -/
  rest : r < 365 ∨ r = 365 ∧ y = 3 ∧ (o < 24 ∨ c = 3)

/-- Each period goes into what the longer ones leave. -/
theorem isPeriods_of_divisions {n q n₁ c n₂ o n₃ y n₄ : Nat} (hq : n / 146097 = q)
    (h₁ : n % 146097 = n₁) (hc : min (n₁ / 36524) 3 = c) (h₂ : n₁ - c * 36524 = n₂)
    (ho : n₂ / 1461 = o) (h₃ : n₂ % 1461 = n₃) (hy : min (n₃ / 365) 3 = y)
    (h₄ : n₃ - y * 365 = n₄) : IsPeriods n q c o y n₄ := by
  have hquad : n₁ < 146097 ∧ q * 146097 + n₁ = n := by omega
  have hcentury : c ≤ 3 ∧ c * 36524 + n₂ = n₁ ∧ n₂ ≤ 36524 ∧ (c = 3 ∨ n₂ < 36524) := by omega
  have holympiad : o ≤ 24 ∧ n₃ < 1461 ∧ o * 1461 + n₃ = n₂ := by omega
  have hyear : y ≤ 3 ∧ y * 365 + n₄ = n₃ := by omega
  refine ⟨hcentury.1, holympiad.1, hyear.1, ?_, by omega⟩
  rw [← hquad.2, ← hcentury.2.1, ← holympiad.2.2, ← hyear.2]
  simp only [Nat.add_assoc]

/-- The date of a day has the year that its periods give, and the month and the day that they
leave. -/
theorem exists_periods_ofDays (n : Nat) : ∃ q c o y r, IsPeriods n q c o y r ∧
    (ofDays n).year = q * 400 + c * 100 + o * 4 + y + 1 ∧
    ((ofDays n).month, (ofDays n).day) =
      dayOfMonth 1 (monthLengths (isLeap (ofDays n).year)) r := by
  rw [ofDays]
  -- the periods become variables, lest their numbers are computed with
  generalize hq : n / 146097 = q
  generalize h₁ : n % 146097 = n₁
  generalize hc : min (n₁ / 36524) 3 = c
  generalize h₂ : n₁ - c * 36524 = n₂
  generalize ho : n₂ / 1461 = o
  generalize h₃ : n₂ % 1461 = n₃
  generalize hy : min (n₃ / 365) 3 = y
  generalize h₄ : n₃ - y * 365 = n₄
  exact ⟨q, c, o, y, n₄, isPeriods_of_divisions hq h₁ hc h₂ ho h₃ hy h₄, rfl, rfl⟩

/-- The date of a day is read back as that day. -/
theorem toDays_ofDays (n : Nat) : toDays (ofDays n) = n := by
  obtain ⟨q, c, o, y, r, hperiods, hyear, hdate⟩ := exists_periods_ofDays n
  obtain ⟨-, -, hsum⟩ := dayOfMonth_spec (monthLengths (isLeap (ofDays n).year)) 1 r
  rw [← hdate] at hsum
  unfold toDays
  rw [Nat.add_assoc, hsum, hyear,
    daysBefore_eq hperiods.centuries hperiods.olympiads hperiods.years]
  exact hperiods.sum

theorem eq_of_fields {d e : Date} (hyear : d.year = e.year) (hmonth : d.month = e.month)
    (hday : d.day = e.day) : d = e := by
  cases d
  cases e
  simp only at hyear hmonth hday
  rw [hyear, hmonth, hday]

theorem ofDays_injective {m n : Nat} (h : ofDays m = ofDays n) : m = n := by
  rw [← toDays_ofDays m, h, toDays_ofDays]

end Date

namespace DateTime

/-! ## Stamps -/

theorem two_injective {m n : Nat} (h : two m = two n) : m = n := by
  have e := congrArg Decimal.value h
  unfold two at e
  rwa [Decimal.value_padZeros, Decimal.value_padZeros, Decimal.value_ofNat,
    Decimal.value_ofNat] at e

theorem not_mem_of_digits {c : Char} {t : Text} (ht : ∀ x ∈ t, x.isDigit = true)
    (hc : c.isDigit = false) : c ∉ t := by
  intro h
  rw [ht c h] at hc
  cases hc

theorem not_mem_ofNat {c : Char} (hc : c.isDigit = false) (n : Nat) : c ∉ Decimal.ofNat n :=
  not_mem_of_digits (fun _ h => Decimal.isDigit_of_mem_ofNat h) hc

theorem not_mem_two {c : Char} (hc : c.isDigit = false) (n : Nat) : c ∉ two n :=
  not_mem_of_digits (fun _ h => Decimal.isDigit_of_mem_padZeros h) hc

/-- The time of day to the second is read off its text. -/
theorem secondOfDay_eq_of_clockText_eq {t u : DateTime} {b b' : Text}
    (h : t.clockText ++ 'Z' :: b = u.clockText ++ 'Z' :: b') : t.secondOfDay = u.secondOfDay := by
  unfold clockText at h
  simp only [List.append_assoc, List.cons_append] at h
  obtain ⟨hours, h⟩ := Text.append_cons_inj (not_mem_two rfl _) (not_mem_two rfl _) h
  obtain ⟨minutes, h⟩ := Text.append_cons_inj (not_mem_two rfl _) (not_mem_two rfl _) h
  obtain ⟨seconds, -⟩ := Text.append_cons_inj (not_mem_two rfl _) (not_mem_two rfl _) h
  have := two_injective hours
  have := two_injective minutes
  have := two_injective seconds
  omega

/-- The parts of a stamp, bracketed from the right. -/
theorem append_stamp_parts (year month day clock : Text) :
    year ++ '-' :: (month ++ ['-'] ++ day) ++ 'T' :: clock ++ ['Z'] =
      year ++ '-' :: (month ++ '-' :: (day ++ 'T' :: (clock ++ 'Z' :: []))) := by
  simp only [List.append_assoc, List.cons_append, List.nil_append]

theorem stamp_eq (t : DateTime) : t.stamp = Decimal.ofNat t.date.year ++ '-' ::
    (two t.date.month ++ '-' :: (two t.date.day ++ 'T' :: (t.clockText ++ 'Z' :: []))) := by
  unfold stamp monthDay
  exact append_stamp_parts _ _ _ _

/-- A stamp begins with its date. -/
theorem before_stamp (t : DateTime) : Text.before 'T' t.stamp =
    Decimal.ofNat t.date.year ++ '-' :: (two t.date.month ++ '-' :: two t.date.day) := by
  have hdate : 'T' ∉ Decimal.ofNat t.date.year ++ '-' :: (two t.date.month ++ '-' ::
      two t.date.day) := by
    simp [not_mem_ofNat, not_mem_two]
  rw [stamp_eq, ← Text.before_append hdate (t.clockText ++ ['Z'])]
  simp only [List.append_assoc, List.cons_append]

/-- The day without separators is the date of the stamp without its dashes. -/
theorem dayStamp_eq (t : DateTime) :
    t.dayStamp = (Text.before 'T' t.stamp).filter (· ≠ '-') := by
  have hdigits {text : Text} (h : '-' ∉ text) : text.filter (· ≠ '-') = text := by
    refine List.filter_eq_self.2 fun c hc => ?_
    have hne : c ≠ '-' := fun e => h (e ▸ hc)
    exact decide_eq_true hne
  have hdash (text : Text) : ('-' :: text).filter (· ≠ '-') = text.filter (· ≠ '-') :=
    List.filter_cons_of_neg (by simp)
  unfold dayStamp monthDay
  rw [before_stamp, List.filter_append, hdash, List.filter_append, hdash,
    hdigits (not_mem_ofNat rfl _), hdigits (not_mem_two rfl _), hdigits (not_mem_two rfl _),
    List.append_nil]

/-- Date and time of day are read off a stamp. -/
theorem date_eq_of_stamp_eq {t u : DateTime} (h : t.stamp = u.stamp) :
    t.date = u.date ∧ t.secondOfDay = u.secondOfDay := by
  rw [stamp_eq, stamp_eq] at h
  obtain ⟨year, h⟩ := Text.append_cons_inj (not_mem_ofNat rfl _) (not_mem_ofNat rfl _) h
  obtain ⟨month, h⟩ := Text.append_cons_inj (not_mem_two rfl _) (not_mem_two rfl _) h
  obtain ⟨day, h⟩ := Text.append_cons_inj (not_mem_two rfl _) (not_mem_two rfl _) h
  refine ⟨?_, secondOfDay_eq_of_clockText_eq h⟩
  exact Date.eq_of_fields (Decimal.ofNat_injective year) (two_injective month) (two_injective day)

/-- Readings of whole seconds are told apart by their stamps. -/
theorem wall_eq_of_stamp_eq {t u : DateTime} (ht : t.wall % microsPerSecond = 0)
    (hu : u.wall % microsPerSecond = 0) (h : t.stamp = u.stamp) : t.wall = u.wall := by
  obtain ⟨hdate, hsecond⟩ := date_eq_of_stamp_eq h
  have hday : t.wall / microsPerDay = u.wall / microsPerDay := Date.ofDays_injective hdate
  have hdvd : microsPerSecond ∣ microsPerDay := ⟨86400, Nat.mul_comm _ _⟩
  refine Nat.ext_div_mod hday (Nat.ext_div_mod hsecond ?_)
  rw [Nat.mod_mod_of_dvd _ hdvd, Nat.mod_mod_of_dvd _ hdvd, ht, hu]

end DateTime

end SignedAccess
