import GameLibrary.Proofs.Text.Decimal
import GameLibrary.Proofs.Time.Calendar
import GameLibrary.Time.Reading

/-!
# Written timestamps

A timestamp of the calendar is read from its own text (`of_text_text`): as itself, unless it has a
leap second that is not the last second of its minute. Such a timestamp is written like the second
after it, and is read as that one.
-/

namespace GameLibrary.Timestamp

open Text (decimalDigits digitChars isBlank)

section Digits

variable {digits : List Nat} {rest : List Char}

/-- A digit is read as a digit and is not blank. -/
theorem digit_char_read {d : Nat} (hd : d < 10) : Reading.isDigit (Nat.digitChar d) = true ∧
    (Nat.digitChar d).toNat - '0'.toNat = d ∧ isBlank (Nat.digitChar d) = false := by
  have hall : ∀ d : Fin 10, Reading.isDigit (Nat.digitChar d) = true ∧
      (Nat.digitChar d).toNat - '0'.toNat = d.val ∧ isBlank (Nat.digitChar d) = false := by decide
  exact hall ⟨d, hd⟩

theorem value_of_digit_chars (hdigits : ∀ d ∈ digits, d < 10) :
    Reading.valueOf (digitChars digits) = Json.valueOfDigits digits := by
  have hfold : ∀ (digits : List Nat) (n : Nat), (∀ d ∈ digits, d < 10) →
      (digitChars digits).foldl (fun n c => n * 10 + (c.toNat - '0'.toNat)) n =
        digits.foldl (fun n d => n * 10 + d) n := by
    intro digits
    induction digits with
    | nil => exact fun _ _ => rfl
    | cons d more ih =>
        intro n hdigits
        have hd := (digit_char_read (hdigits d List.mem_cons_self)).2.1
        have hmore := ih (n * 10 + d) fun d hmem => hdigits d (List.mem_cons_of_mem _ hmem)
        show (digitChars more).foldl _ (n * 10 + ((Nat.digitChar d).toNat - '0'.toNat)) = _
        rw [hd]
        exact hmore
  exact hfold digits 0 hdigits

/-- What follows the digits of a number begins with no digit. -/
def Stops (rest : List Char) : Prop := rest.head?.all fun c => !Reading.isDigit c

/-- Digits are read as far as they go. -/
theorem digits_read {width : Nat} (hdigits : ∀ d ∈ digits, d < 10) (hne : digits ≠ [])
    (hwidth : digits.length ≤ width) (hstops : digits.length = width ∨ Stops rest) :
    Reading.digits width (digitChars digits ++ rest) = some (digitChars digits, rest) := by
  have hlength : (digitChars digits).length = digits.length := List.length_map _
  have hall : ∀ c ∈ digitChars digits, Reading.isDigit c = true := by
    intro c hc
    obtain ⟨d, hd, rfl⟩ := List.mem_map.1 hc
    exact (digit_char_read (hdigits d hd)).1
  have hfound : ((digitChars digits ++ rest).take width).takeWhile Reading.isDigit =
      digitChars digits := by
    rw [List.take_append, List.take_of_length_le (by omega), List.takeWhile_append_of_pos hall]
    have hnone : (rest.take (width - (digitChars digits).length)).takeWhile Reading.isDigit = [] := by
      rcases hstops with hfull | hstops
      · rw [hlength, hfull, Nat.sub_self, List.take_zero, List.takeWhile_nil]
      · cases rest with
        | nil => rw [List.take_nil, List.takeWhile_nil]
        | cons c more =>
            have hc : Reading.isDigit c = false := by simpa [Stops] using hstops
            cases width - (digitChars digits).length with
            | zero => rfl
            | succ k => simp [hc]
    rw [hnone, List.append_nil]
  have hsome : digitChars digits ≠ [] := by
    unfold digitChars
    rwa [ne_eq, List.map_eq_nil_iff]
  unfold Reading.digits
  dsimp only
  rw [hfound, if_neg hsome, List.drop_left]

/-- The digits of a number with zeros before them. -/
def paddedDigits (width n : Nat) : List Nat :=
  List.replicate (width - (decimalDigits n).length) 0 ++ decimalDigits n

theorem to_list_padded (width n : Nat) :
    (padded width n).toList = digitChars (paddedDigits width n) := by
  have hlength : (digitChars (decimalDigits n)).length = (decimalDigits n).length :=
    List.length_map _
  unfold padded paddedDigits
  dsimp only
  rw [String.toList_ofList, Text.to_list_to_string_nat, hlength]
  unfold digitChars
  rw [List.map_append, List.map_replicate]
  rfl

/-- What is known of the digits of a number with zeros before them. -/
structure Padded (width n : Nat) (digits : List Nat) : Prop where
  digit : ∀ d ∈ digits, d < 10
  some : digits ≠ []
  value : Json.valueOfDigits digits = n
  length : n < 10 ^ width → 0 < width → digits.length = width

theorem padded_digits (width n : Nat) : Padded width n (paddedDigits width n) := by
  refine ⟨fun d hd => ?_, ?_, ?_, fun hlt hpos => ?_⟩
  · rcases List.mem_append.1 hd with hd | hd
    · rw [List.eq_of_mem_replicate hd]
      decide
    · exact Text.lt_ten_of_mem d hd
  · exact List.append_ne_nil_of_right_ne_nil _ (Text.decimal_digits_ne_nil n)
  · have hzeros : ∀ k, (List.replicate k 0).foldl (fun n d => n * 10 + d) 0 = 0 := by
      intro k
      induction k with
      | zero => rfl
      | succ k ih => exact ih
    unfold paddedDigits
    have hvalue := Text.value_decimal_digits n
    unfold Json.valueOfDigits at hvalue ⊢
    rw [List.foldl_append, hzeros, hvalue]
  · have hle := (Text.length_decimal_digits_le hpos).2 hlt
    unfold paddedDigits
    rw [List.length_append, List.length_replicate]
    omega

/-- Blanks are skipped where there are none. -/
theorem skip_blanks_digit_chars (hdigits : ∀ d ∈ digits, d < 10) (hne : digits ≠ []) :
    Reading.skipBlanks (digitChars digits ++ rest) = digitChars digits ++ rest := by
  cases digits with
  | nil => exact absurd rfl hne
  | cons d more =>
      have hd := (digit_char_read (hdigits d List.mem_cons_self)).2.2
      exact List.dropWhile_cons_of_neg (by simp [hd])

theorem skip_blanks_cons {c : Char} (hc : isBlank c = false) :
    Reading.skipBlanks (c :: rest) = c :: rest :=
  List.dropWhile_cons_of_neg (by simp [hc])

/-- A number is read from its digits with zeros before them. -/
theorem number_read {width low high n : Nat} (hwidth : 0 < width) (hfits : n < 10 ^ width)
    (hlow : low ≤ n) (hhigh : n ≤ high) :
    Reading.number width low high ((padded width n).toList ++ rest) = some (n, rest) := by
  have hpadded := padded_digits width n
  have hlength := hpadded.length hfits hwidth
  unfold Reading.number
  rw [to_list_padded, skip_blanks_digit_chars hpadded.digit hpadded.some,
    digits_read hpadded.digit hpadded.some (Nat.le_of_eq hlength) (.inl hlength)]
  simp [value_of_digit_chars hpadded.digit, hpadded.value, hlow, hhigh]

/-- A mark is read between numbers. -/
theorem separator_read {mark : Char} (hmark : isBlank mark = false) (width n : Nat) :
    Reading.separator mark (mark :: ((padded width n).toList ++ rest)) =
      some ((), (padded width n).toList ++ rest) := by
  have hpadded := padded_digits width n
  unfold Reading.separator
  rw [skip_blanks_cons hmark, to_list_padded]
  dsimp only
  rw [if_pos rfl, skip_blanks_digit_chars hpadded.digit hpadded.some]

end Digits

section Parts

variable {rest : List Char}

/-- The digits of a signed year are read as far as they go. -/
theorem year_digits (n : Nat) (hstops : Stops rest) :
    Reading.digits ((padded 4 n).toList ++ rest).length ((padded 4 n).toList ++ rest) =
      some ((padded 4 n).toList, rest) ∧ Reading.valueOf (padded 4 n).toList = n := by
  have hpadded := padded_digits 4 n
  have hlength : (paddedDigits 4 n).length ≤ (digitChars (paddedDigits 4 n) ++ rest).length := by
    rw [List.length_append, digitChars, List.length_map]
    exact Nat.le_add_right _ _
  rw [to_list_padded]
  exact ⟨digits_read hpadded.digit hpadded.some hlength (.inr hstops),
    (value_of_digit_chars hpadded.digit).trans hpadded.value⟩

theorem year_minus (text : List Char) : Reading.year ("-".toList ++ text) =
    (Reading.digits text.length text).map fun (found, rest) =>
      (-(Reading.valueOf found : Int), rest) := by
  have hskip : Reading.skipBlanks ("-".toList ++ text) = '-' :: text := skip_blanks_cons (by decide)
  unfold Reading.year
  rw [hskip]
  simp only
  cases Reading.digits text.length text <;> rfl

theorem year_plus (text : List Char) : Reading.year ("+".toList ++ text) =
    (Reading.digits text.length text).map fun (found, rest) =>
      ((Reading.valueOf found : Int), rest) := by
  have hskip : Reading.skipBlanks ("+".toList ++ text) = '+' :: text := skip_blanks_cons (by decide)
  unfold Reading.year
  rw [hskip]
  simp only
  cases Reading.digits text.length text <;> rfl

/-- A year is read from its text. -/
theorem year_read (year : Int) (hstops : Stops rest) :
    Reading.year ((yearText year).toList ++ rest) = some (year, rest) := by
  unfold yearText
  by_cases hplain : 0 ≤ year ∧ year ≤ 9999
  · rw [if_pos hplain]
    have hpadded := padded_digits 4 year.toNat
    have hlength := hpadded.length (by omega) (by decide)
    have hread : Reading.digits 4 (digitChars (paddedDigits 4 year.toNat) ++ rest) =
        some (digitChars (paddedDigits 4 year.toNat), rest) :=
      digits_read hpadded.digit hpadded.some (Nat.le_of_eq hlength) (.inl hlength)
    have hvalue : ((year.toNat : Nat) : Int) = year := by omega
    have hfirst : ∀ {c more}, digitChars (paddedDigits 4 year.toNat) ++ rest = c :: more →
        Reading.isDigit c = true := by
      intro c more hcons
      cases hdigits : paddedDigits 4 year.toNat with
      | nil => exact absurd hdigits hpadded.some
      | cons d others =>
          rw [hdigits] at hcons
          rw [← (List.cons.inj hcons).1]
          exact (digit_char_read (hpadded.digit d (hdigits ▸ List.mem_cons_self))).1
    unfold Reading.year
    rw [to_list_padded, skip_blanks_digit_chars hpadded.digit hpadded.some]
    split
    · rename_i heq
      exact absurd (hfirst heq) (by decide)
    · rename_i heq
      exact absurd (hfirst heq) (by decide)
    · rw [hread]
      simp [value_of_digit_chars hpadded.digit, hpadded.value, hvalue]
  · obtain ⟨hread, hvalue⟩ := year_digits year.natAbs hstops
    have hsign : ∀ sign : String, (sign ++ padded 4 year.natAbs).toList ++ rest =
        sign.toList ++ ((padded 4 year.natAbs).toList ++ rest) := by
      intro sign
      rw [String.toList_append, List.append_assoc]
    rw [if_neg hplain, hsign]
    by_cases hneg : year < 0
    · have hyear : -(year.natAbs : Int) = year := by omega
      rw [if_pos hneg, year_minus, hread]
      simp only [Option.map_some, hvalue, hyear]
    · have hyear : (year.natAbs : Int) = year := by omega
      rw [if_neg hneg, year_plus, hread]
      simp only [Option.map_some, hvalue, hyear]

theorem join_read : Reading.join ('T' :: rest) = some ((), rest) := by
  simp only [Reading.join]

theorem zone_read : Reading.zone ['Z'] = some (0, []) := by
  simp only [Reading.zone]

/-- Digits behind a point count from the left. -/
theorem fraction_digits {places n : Nat} (hpos : 0 < places) (hplaces : places ≤ 9)
    (hlt : n < 10 ^ places) :
    Reading.fraction ('.' :: ((padded places n).toList ++ ['Z'])) =
      some (n * 10 ^ (9 - places), ['Z']) := by
  have hpadded := padded_digits places n
  have hlength := hpadded.length hlt hpos
  have hchars : (digitChars (paddedDigits places n)).length = places := by
    rw [digitChars, List.length_map, hlength]
  have hread : Reading.digits 9 (digitChars (paddedDigits places n) ++ ['Z']) =
      some (digitChars (paddedDigits places n), ['Z']) :=
    digits_read hpadded.digit hpadded.some (by omega) (.inr rfl)
  unfold Reading.fraction
  rw [to_list_padded]
  simp only [hread, Option.pure_def, Option.bind_eq_bind, Option.bind_some,
    value_of_digit_chars hpadded.digit, hpadded.value, hchars]
  rfl

/-- A fraction of a second is read from its text. -/
theorem fraction_read {nanoseconds : Nat} (hlt : nanoseconds < 1000000000) :
    Reading.fraction ((fractionText nanoseconds).toList ++ ['Z']) = some (nanoseconds, ['Z']) := by
  have hpoint : ∀ text : String, ("." ++ text).toList ++ ['Z'] = '.' :: (text.toList ++ ['Z']) := by
    intro text
    rw [String.toList_append]
    rfl
  unfold fractionText
  split
  · rename_i hzero
    rw [hzero]
    rfl
  · split
    · rw [hpoint, fraction_digits (by decide) (by decide) (by omega)]
      have hvalue : nanoseconds / 1000000 * 10 ^ (9 - 3) = nanoseconds := by omega
      rw [hvalue]
    · split
      · rw [hpoint, fraction_digits (by decide) (by decide) (by omega)]
        have hvalue : nanoseconds / 1000 * 10 ^ (9 - 6) = nanoseconds := by omega
        rw [hvalue]
      · rw [hpoint, fraction_digits (by decide) (by decide) (by omega)]
        have hvalue : nanoseconds * 10 ^ (9 - 9) = nanoseconds := by omega
        rw [hvalue]

end Parts

/-- The timestamps of the calendar: a day of its years, and less than two seconds of nanoseconds. -/
structure InCalendar (t : Timestamp) : Prop where
  first : (CivilDate.mk firstYear 1 1).dayNumber ≤ t.seconds.fdiv secondsPerDay
  last : t.seconds.fdiv secondsPerDay ≤ (CivilDate.mk lastYear 12 31).dayNumber
  nanoseconds : t.nanoseconds < 2000000000

/-- What the text of a timestamp denotes: the second after it in place of a leap second within a
minute. -/
def asRead (t : Timestamp) : Timestamp :=
  if 1000000000 ≤ t.nanoseconds ∧ t.seconds % 60 ≠ 59 then
    ⟨t.seconds + 1, t.nanoseconds - 1000000000⟩
  else t

/-- The characters of a timestamp. -/
theorem to_list_text (t : Timestamp) :
    let date := CivilDate.ofDayNumber (t.seconds.fdiv secondsPerDay)
    let second := t.secondOfDay.toNat
    t.text.toList = (yearText date.year).toList ++ '-' :: ((padded 2 date.month).toList ++
      '-' :: ((padded 2 date.day).toList ++ 'T' :: ((padded 2 (second / 3600)).toList ++
        ':' :: ((padded 2 (second / 60 % 60)).toList ++
          ':' :: ((padded 2 (second % 60 + t.nanoseconds / 1000000000)).toList ++
            ((fractionText (t.nanoseconds % 1000000000)).toList ++ ['Z'])))))) := by
  unfold text
  simp

/-- What is read has the day, the seconds and the fraction that were written; a sixtieth second
counts for the one before it. -/
theorem as_read_parts {t : Timestamp} {number : Int} {second : Nat}
    (hnumber : t.seconds.fdiv secondsPerDay = number) (hsecond : t.secondOfDay.toNat = second)
    (hnanoseconds : t.nanoseconds < 2000000000) :
    number * secondsPerDay + ((second / 3600 : Nat) : Int) * 3600 +
        ((second / 60 % 60 : Nat) : Int) * 60 +
        (((second % 60 + t.nanoseconds / 1000000000 : Nat) : Int) -
          (((second % 60 + t.nanoseconds / 1000000000) / 60 : Nat) : Int)) - 0 =
      t.asRead.seconds ∧
    t.nanoseconds % 1000000000 +
        (second % 60 + t.nanoseconds / 1000000000) / 60 * 1000000000 = t.asRead.nanoseconds ∧
    t.asRead.seconds / secondsPerDay = number := by
  rw [Int.fdiv_eq_ediv_of_nonneg _ (by decide)] at hnumber
  unfold secondOfDay at hsecond
  unfold secondsPerDay at *
  unfold asRead
  split
  · dsimp only
    omega
  · omega

/-- A timestamp of the calendar is read from its own text. -/
theorem of_text_text {t : Timestamp} (h : t.InCalendar) : ofText? t.text = some t.asRead := by
  obtain ⟨hfirst, hlast, hnanoseconds⟩ := h
  obtain ⟨hmonth, hday, hnumber⟩ := CivilDate.date_of_of_day_number (t.seconds.fdiv secondsPerDay)
  have hexists := CivilDate.exists_of_day_number hfirst hlast
  have hyear := CivilDate.year_of_day_number ⟨hmonth, hday, hnumber⟩ hfirst hlast
  have hlength := CivilDate.days_in_month_le
    (CivilDate.ofDayNumber (t.seconds.fdiv secondsPerDay)).year
    (CivilDate.ofDayNumber (t.seconds.fdiv secondsPerDay)).month
  have hsecond : t.secondOfDay.toNat < 86400 := by
    unfold secondOfDay secondsPerDay
    omega
  have htext := to_list_text t
  dsimp only at htext
  generalize CivilDate.ofDayNumber (t.seconds.fdiv secondsPerDay) = date at *
  generalize hs : t.secondOfDay.toNat = second at *
  generalize hn : t.seconds.fdiv secondsPerDay = number at *
  unfold ofText?
  rw [htext]
  dsimp only [Option.bind_eq_bind]
  have hdigit : Stops ('-' :: ((padded 2 date.month).toList ++ '-' ::
    ((padded 2 date.day).toList ++ 'T' :: ((padded 2 (second / 3600)).toList ++
      ':' :: ((padded 2 (second / 60 % 60)).toList ++
        ':' :: ((padded 2 (second % 60 + t.nanoseconds / 1000000000)).toList ++
          ((fractionText (t.nanoseconds % 1000000000)).toList ++ ['Z']))))))) := rfl
  rw [year_read _ hdigit, Option.bind_some]
  dsimp only
  rw [separator_read (by decide), Option.bind_some]
  dsimp only
  rw [number_read (by decide) (by omega) hmonth.1 hmonth.2, Option.bind_some]
  dsimp only
  rw [separator_read (by decide), Option.bind_some]
  dsimp only
  rw [number_read (by decide) (by omega) hday.1 (by omega), Option.bind_some]
  dsimp only
  rw [join_read, Option.bind_some]
  dsimp only
  rw [number_read (by decide) (by omega) (Nat.zero_le _) (by omega), Option.bind_some]
  dsimp only
  rw [separator_read (by decide), Option.bind_some]
  dsimp only
  rw [number_read (by decide) (by omega) (Nat.zero_le _) (by omega), Option.bind_some]
  dsimp only
  rw [separator_read (by decide), Option.bind_some]
  dsimp only
  rw [number_read (by decide) (by omega) (Nat.zero_le _) (by omega), Option.bind_some]
  dsimp only
  rw [fraction_read (by omega), Option.bind_some]
  dsimp only
  rw [skip_blanks_cons (by decide), zone_read, Option.bind_some]
  dsimp only
  rw [hnumber]
  -- What was read is a day that exists, at the prime meridian.
  have haccepted : ¬ (Reading.skipBlanks [] ≠ [] ∨
      (!(CivilDate.mk date.year date.month date.day).exists?) = true ∨
      secondsPerDay ≤ ((0 : Int).natAbs : Int) ∨ date.year < firstYear ∨ lastYear < date.year) := by
    rintro (hrest | hmissing | hfar | hearly | hlate)
    · exact hrest rfl
    · simp [hexists] at hmissing
    · exact absurd hfar (by decide)
    · exact absurd hyear.1 (Int.not_le.2 hearly)
    · exact absurd hyear.2 (Int.not_le.2 hlate)
  obtain ⟨hseconds, hfraction, hsameDay⟩ := as_read_parts hn hs hnanoseconds
  rw [if_neg haccepted, hseconds, hfraction, Int.fdiv_eq_ediv_of_nonneg _ (by decide), hsameDay,
    if_pos ⟨hfirst, hlast⟩]

/-- Without a leap second inside a minute a timestamp is read as itself. -/
theorem as_read_eq_self {t : Timestamp} (h : t.nanoseconds < 1000000000 ∨ t.seconds % 60 = 59) :
    t.asRead = t := by
  unfold asRead
  rw [if_neg]
  omega

/-- The year of a timestamp. -/
def year (t : Timestamp) : Int := (CivilDate.ofDayNumber (t.seconds.fdiv secondsPerDay)).year

/-- The timestamps of the years of four digits that are not leap seconds. -/
structure Ordinary (t : Timestamp) : Prop where
  year : 0 ≤ t.year ∧ t.year ≤ 9999
  nanoseconds : t.nanoseconds < 1000000000

theorem Ordinary.in_calendar {t : Timestamp} (h : t.Ordinary) : t.InCalendar := by
  have hdate := CivilDate.date_of_of_day_number (t.seconds.fdiv secondsPerDay)
  obtain ⟨hfirst, hlast⟩ := CivilDate.day_number_of_year hdate h.year.1 h.year.2
  have hmost := h.nanoseconds
  refine ⟨Int.le_trans ?_ hfirst, Int.le_trans hlast ?_, by omega⟩
  · decide
  · decide

/-- A timestamp of a year of four digits is read from its own text. -/
theorem Ordinary.read_back {t : Timestamp} (h : t.Ordinary) : ofText? t.text = some t := by
  rw [of_text_text h.in_calendar, as_read_eq_self (.inl h.nanoseconds)]

end GameLibrary.Timestamp
