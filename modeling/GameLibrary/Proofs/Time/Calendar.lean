import GameLibrary.Time.Timestamp

/-!
# The calendar and its day numbers

Every day number is that of the date that belongs to it (`day_number_of_day_number`), which exists
within the years that are covered (`exists_of_day_number`).
-/

namespace GameLibrary.CivilDate

/-- The year of a day within its cycle of four hundred years, which begin with March. -/
def yearOfCycle (day : Int) : Int := (day - day / 1460 + day / 36524 - day / 146096) / 365

/-- The place of a day in its cycle: a year, and a day of that year. -/
structure CyclePlace (day year dayOfYear : Int) : Prop where
  inCycle : 0 ≤ year ∧ year < 400
  inYear : 0 ≤ dayOfYear ∧ dayOfYear ≤ 365
  sum : day = 365 * year + year / 4 - year / 100 + dayOfYear
  leap : dayOfYear = 365 → (year + 1) % 4 = 0 ∧ ((year + 1) % 100 ≠ 0 ∨ year = 399)

/-- A day is counted in centuries, in groups of four years with a leap day at their end, and in
years. -/
theorem cycle_place_of_parts {b q k s : Int} (hb : 0 ≤ b ∧ b ≤ 3) (hq : 0 ≤ q ∧ q ≤ 24)
    (hk : 0 ≤ k ∧ k ≤ 3) (hs : 365 * k ≤ s ∧ (s < 365 * k + 365 ∨ k = 3 ∧ s = 1460 ∧ q < 24)) :
    yearOfCycle (36524 * b + 1461 * q + s) = 100 * b + 4 * q + k ∧
      CyclePlace (36524 * b + 1461 * q + s) (100 * b + 4 * q + k) (s - 365 * k) := by
  constructor
  · unfold yearOfCycle
    have hlast : (36524 * b + 1461 * q + s) / 146096 = 0 := by omega
    have hcentury : (36524 * b + 1461 * q + s) / 36524 = b := by omega
    rw [hlast, hcentury]
    by_cases hmore : 24 * b + q + s < 1460
    · have hgroup : (36524 * b + 1461 * q + s) / 1460 = 25 * b + q := by omega
      rw [hgroup]
      omega
    · have hgroup : (36524 * b + 1461 * q + s) / 1460 = 25 * b + q + 1 := by omega
      rw [hgroup]
      omega
  · refine ⟨by omega, by omega, by omega, by omega⟩

/-- Every day of a cycle has its place. -/
theorem cycle_place {day : Int} (hlow : 0 ≤ day) (hhigh : day < 146097) :
    CyclePlace day (yearOfCycle day)
      (day - (365 * yearOfCycle day + yearOfCycle day / 4 - yearOfCycle day / 100)) := by
  by_cases hlast : day = 146096
  · subst hlast
    exact ⟨by decide, by decide, by decide, by decide⟩
  · have hparts : ∃ b q k s : Int, day = 36524 * b + 1461 * q + s ∧ (0 ≤ b ∧ b ≤ 3) ∧
        (0 ≤ q ∧ q ≤ 24) ∧ (0 ≤ k ∧ k ≤ 3) ∧
        365 * k ≤ s ∧ (s < 365 * k + 365 ∨ k = 3 ∧ s = 1460 ∧ q < 24) := by
      refine ⟨day / 36524, day % 36524 / 1461, min (day % 36524 % 1461 / 365) 3,
        day % 36524 % 1461, ?_⟩
      omega
    obtain ⟨b, q, k, s, rfl, hb, hq, hk, hs⟩ := hparts
    obtain ⟨hyear, hplace⟩ := cycle_place_of_parts hb hq hk hs
    rw [hyear]
    have hday := hplace.sum
    have hdayOfYear : 36524 * b + 1461 * q + s - (365 * (100 * b + 4 * q + k) +
        (100 * b + 4 * q + k) / 4 - (100 * b + 4 * q + k) / 100) = s - 365 * k := by omega
    rw [hdayOfYear]
    exact hplace

/-- The month of a day of a year that begins with March. -/
structure MonthPlace (dayOfYear month day : Int) : Prop where
  inYear : 0 ≤ month ∧ month ≤ 11
  first : 1 ≤ day
  sum : dayOfYear = (153 * month + 2) / 5 + day - 1
  /-- The second month of the calendar is the last of the year, and the months of thirty days are
  the second, the fourth, the seventh and the ninth. -/
  last : month = 11 ∧ day + 336 = dayOfYear ∨
    (month = 1 ∨ month = 3 ∨ month = 6 ∨ month = 8) ∧ day ≤ 30 ∨ month ≠ 11 ∧ day ≤ 31 ∧
      ¬ (month = 1 ∨ month = 3 ∨ month = 6 ∨ month = 8)

theorem month_place {dayOfYear : Int} (hlow : 0 ≤ dayOfYear) (hhigh : dayOfYear ≤ 365) :
    MonthPlace dayOfYear ((5 * dayOfYear + 2) / 153)
      (dayOfYear - (153 * ((5 * dayOfYear + 2) / 153) + 2) / 5 + 1) := by
  generalize hmonth : (5 * dayOfYear + 2) / 153 = month
  have hmonths : month = 0 ∨ month = 1 ∨ month = 2 ∨ month = 3 ∨ month = 4 ∨ month = 5 ∨
      month = 6 ∨ month = 7 ∨ month = 8 ∨ month = 9 ∨ month = 10 ∨ month = 11 := by omega
  refine ⟨by omega, by omega, by omega, ?_⟩
  rcases hmonths with rfl | rfl | rfl | rfl | rfl | rfl | rfl | rfl | rfl | rfl | rfl | rfl <;>
    omega

/-- What is known of the date of a day number. -/
structure DateOf (number : Int) (date : CivilDate) : Prop where
  month : 1 ≤ date.month ∧ date.month ≤ 12
  day : 1 ≤ date.day ∧ date.day ≤ daysInMonth date.year date.month
  number : dayNumber date = number

theorem date_of_of_day_number (number : Int) : DateOf number (ofDayNumber number) := by
  have hcycle : (number + 719468).fdiv 146097 = (number + 719468) / 146097 :=
    Int.fdiv_eq_ediv_of_nonneg _ (by decide)
  unfold ofDayNumber
  dsimp only
  rw [hcycle]
  generalize hc : (number + 719468) / 146097 = cycle
  generalize hd : number + 719468 - cycle * 146097 = day
  have hplace : CyclePlace day (yearOfCycle day) _ := cycle_place (by omega) (by omega)
  unfold yearOfCycle at hplace
  generalize (day - day / 1460 + day / 36524 - day / 146096) / 365 = year at hplace ⊢
  generalize hdoy : day - (365 * year + year / 4 - year / 100) = dayOfYear at hplace ⊢
  have hmonth := month_place hplace.inYear.1 hplace.inYear.2
  generalize (5 * dayOfYear + 2) / 153 = march at hmonth ⊢
  generalize dayOfYear - (153 * march + 2) / 5 + 1 = dayOfMonth at hmonth ⊢
  obtain ⟨hinCycle, hinYear, hday, hleap⟩ := hplace
  obtain ⟨hinMonths, hfirst, hdayOfYear, hlast⟩ := hmonth
  -- The month and the day as natural numbers.
  obtain ⟨m, hm, hm', hmarch, hjanuary⟩ : ∃ m : Nat,
      (if march < 10 then march + 3 else march - 9) = m ∧
      (1 ≤ m ∧ m ≤ 12) ∧ ((m : Int) + 9) % 12 = march ∧ (m ≤ 2 ↔ 10 ≤ march) := by
    refine ⟨(if march < 10 then march + 3 else march - 9).toNat, ?_⟩
    split <;> omega
  obtain ⟨k, rfl⟩ : ∃ k : Nat, dayOfMonth = k := ⟨dayOfMonth.toNat, by omega⟩
  rw [hm, Int.toNat_natCast, Int.toNat_natCast]
  have hyear : (if ((m : Int) ≤ 2) then (1 : Int) else 0) = if 10 ≤ march then 1 else 0 := by
    split <;> split <;> omega
  rw [hyear]
  refine ⟨hm', ⟨show 1 ≤ k by omega, ?_⟩, ?_⟩
  · unfold daysInMonth
    dsimp only
    rcases hlast with ⟨hfebruary, hlength⟩ | ⟨hshort, hlength⟩ | ⟨hfebruary, hlength, hshort⟩
    · rw [if_pos (show m = 2 by omega), if_pos (show 10 ≤ march by omega)]
      unfold isLeapYear
      split
      · omega
      · rename_i hcommon
        have hno : ¬ dayOfYear = 365 := by
          intro hlastDay
          obtain ⟨hfour, hcentury⟩ := hleap hlastDay
          refine hcommon ?_
          simp only [Bool.and_eq_true, Bool.or_eq_true, decide_eq_true_eq]
          omega
        omega
    · rw [if_neg (show m ≠ 2 by omega), if_pos (by omega)]
      omega
    · rw [if_neg (show m ≠ 2 by omega), if_neg (by omega)]
      omega
  · have hmarchYear : (if m ≤ 2 then year + cycle * 400 + (if 10 ≤ march then 1 else 0) - 1
        else year + cycle * 400 + (if 10 ≤ march then 1 else 0)) = year + cycle * 400 := by
      split <;> split <;> omega
    have hcycle' : (year + cycle * 400).fdiv 400 = cycle := by
      rw [Int.fdiv_eq_ediv_of_nonneg _ (by decide)]
      omega
    unfold dayNumber
    dsimp only
    rw [hmarchYear, hmarch, hcycle', Int.add_sub_cancel]
    omega

/-- The days before the first of March of a year. -/
def daysBefore (year : Int) : Int := 365 * year + year / 4 - year / 100 + year / 400

theorem days_before_mono {year later : Int} (h : year ≤ later) :
    daysBefore year ≤ daysBefore later := by
  obtain ⟨more, rfl⟩ := Int.le.dest h
  induction more with
  | zero => exact Int.le_of_eq (congrArg daysBefore (Int.add_zero year).symm)
  | succ more ih =>
      refine Int.le_trans (ih (by omega)) ?_
      unfold daysBefore
      omega

/-- No month has more than thirty-one days. -/
theorem days_in_month_le (year : Int) (month : Nat) : daysInMonth year month ≤ 31 := by
  unfold daysInMonth
  split
  · split <;> decide
  · split <;> decide

/-- A day number counts the days before a first of March, and those from then on. January and
February end a year that began with March. -/
theorem DateOf.since_march {number : Int} {date : CivilDate} (h : DateOf number date) :
    ∃ march before : Int, number = daysBefore march + before + date.day - 719469 ∧
      (date.month ≤ 2 ∧ march = date.year - 1 ∧ 306 ≤ before ∧ before ≤ 337 ∨
        2 < date.month ∧ march = date.year ∧ 0 ≤ before ∧ before ≤ 275) := by
  obtain ⟨year, month, day⟩ := date
  obtain ⟨hmonth, -, hnumber⟩ := h
  obtain ⟨march, hmarchYear⟩ : ∃ march, (if month ≤ 2 then year - 1 else year) = march := ⟨_, rfl⟩
  have hdays : (march.fdiv 400) * 146097 + ((march - march.fdiv 400 * 400) * 365 +
      (march - march.fdiv 400 * 400) / 4 - (march - march.fdiv 400 * 400) / 100) =
        daysBefore march := by
    rw [Int.fdiv_eq_ediv_of_nonneg _ (by decide)]
    unfold daysBefore
    omega
  refine ⟨march, (153 * (((month : Int) + 9) % 12) + 2) / 5, ?_, ?_⟩
  · unfold dayNumber at hnumber
    dsimp only at hnumber ⊢
    rw [hmarchYear] at hnumber
    omega
  · dsimp only at hmonth ⊢
    split at hmarchYear <;> omega

/-- The day numbers of the years that are covered. -/
theorem year_of_day_number {number : Int} {date : CivilDate} (h : DateOf number date)
    (hlow : (CivilDate.mk (-262143) 1 1).dayNumber ≤ number)
    (hhigh : number ≤ (CivilDate.mk 262142 12 31).dayNumber) :
    -262143 ≤ date.year ∧ date.year ≤ 262142 := by
  have hfirst : (CivilDate.mk (-262143) 1 1).dayNumber = -96465292 := by decide
  have hlast : (CivilDate.mk 262142 12 31).dayNumber = 95026236 := by decide
  rw [hfirst] at hlow
  rw [hlast] at hhigh
  have hday := h.day
  have hlength := days_in_month_le date.year date.month
  obtain ⟨march, before, hnumber, hplace⟩ := h.since_march
  have hfrom : -262144 ≤ march := by
    refine Int.not_lt.1 fun hearly => ?_
    have hmono : daysBefore march ≤ daysBefore (-262145) := days_before_mono (by omega)
    have hdaysBefore : daysBefore (-262145) = -95746496 := by decide
    omega
  have hto : march ≤ 262142 := by
    refine Int.not_lt.1 fun hlate => ?_
    have hmono : daysBefore 262143 ≤ daysBefore march := days_before_mono (by omega)
    have hdaysBefore : daysBefore 262143 = 95745764 := by decide
    omega
  -- The first year begins with its January, the last one ends with its December.
  have hfirstMarch : march = -262144 → date.month ≤ 2 := by
    rintro rfl
    have hdaysBefore : daysBefore (-262144) = -95746130 := by decide
    omega
  have hlastMarch : march = 262142 → 2 < date.month := by
    rintro rfl
    have hdaysBefore : daysBefore 262142 = 95745399 := by decide
    omega
  omega

/-- Days are counted from the beginning of 1970. -/
theorem year_of_nonneg {number : Int} {date : CivilDate} (h : DateOf number date)
    (hnumber : 0 ≤ number) : 1970 ≤ date.year := by
  have hday := h.day
  have hlength := days_in_month_le date.year date.month
  obtain ⟨march, before, hcount, hplace⟩ := h.since_march
  refine Int.not_lt.1 fun hearly => ?_
  have hmono : daysBefore march ≤ daysBefore 1969 := days_before_mono (by omega)
  have hdaysBefore : daysBefore 1969 = 719162 := by decide
  rcases hplace with ⟨-, hmarch, hbefore⟩ | ⟨-, hmarch, hbefore⟩
  · have hmono : daysBefore march ≤ daysBefore 1968 := days_before_mono (by omega)
    have hdaysBefore : daysBefore 1968 = 718797 := by decide
    omega
  · omega

/-- The day numbers of the years of four digits. -/
theorem day_number_of_year {number : Int} {date : CivilDate} (h : DateOf number date)
    (hlow : 0 ≤ date.year) (hhigh : date.year ≤ 9999) : -719528 ≤ number ∧ number ≤ 2932896 := by
  have hday := h.day
  have hlength := days_in_month_le date.year date.month
  obtain ⟨march, before, hnumber, hplace⟩ := h.since_march
  have hfirst : daysBefore (-1) = -366 := by decide
  have hsecond : daysBefore 0 = 0 := by decide
  have hlast : daysBefore 9999 = 3652059 := by decide
  have hlastButOne : daysBefore 9998 = 3651694 := by decide
  rcases hplace with ⟨-, rfl, hbefore⟩ | ⟨-, rfl, hbefore⟩
  · have hafter : daysBefore (-1) ≤ daysBefore (date.year - 1) := days_before_mono (by omega)
    have huntil : daysBefore (date.year - 1) ≤ daysBefore 9998 := days_before_mono (by omega)
    omega
  · have hafter : daysBefore 0 ≤ daysBefore date.year := days_before_mono hlow
    have huntil : daysBefore date.year ≤ daysBefore 9999 := days_before_mono hhigh
    omega

/-- The date of a day number of the years that are covered exists. -/
theorem exists_of_day_number {number : Int}
    (hlow : (CivilDate.mk (-262143) 1 1).dayNumber ≤ number)
    (hhigh : number ≤ (CivilDate.mk 262142 12 31).dayNumber) :
    (ofDayNumber number).exists? = true := by
  have hdate := date_of_of_day_number number
  have hyear := year_of_day_number hdate hlow hhigh
  obtain ⟨hmonth, hday, -⟩ := hdate
  unfold exists?
  simp only [Bool.and_eq_true, decide_eq_true_eq]
  exact ⟨⟨⟨⟨⟨hyear.1, hyear.2⟩, hmonth.1⟩, hmonth.2⟩, hday.1⟩, hday.2⟩

theorem day_number_of_day_number (number : Int) : (ofDayNumber number).dayNumber = number :=
  (date_of_of_day_number number).number

end GameLibrary.CivilDate
