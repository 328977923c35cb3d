import GameLibrary.Text.Blank
import GameLibrary.Text.Lowercase

/-!
# Small forms of characters

What the tables of letter case have to satisfy is checked on the tables themselves, without searching
them letter by letter: no small letter is itself a capital (`CapitalRun.small_eq_none`), and neither
capitals nor small letters are blank. So the small form of a character is small
(`is_small_of_mem_small_form`), and it is blank if and only if the character is
(`is_blank_of_mem_small_form`).
-/

namespace GameLibrary.Text

/-- Whether a character is its own small form. -/
def IsSmall (c : Char) : Prop := smallForm c = [c]

instance (c : Char) : Decidable (IsSmall c) := inferInstanceAs (Decidable (_ = _))

/-! ## Sets of numbers as numbers -/

/-- The number whose binary digits tell which numbers the list has. -/
def digitsOf : List Nat → Nat
  | [] => 0
  | n :: rest => 1 <<< n ||| digitsOf rest

theorem test_bit_digits_of (n : Nat) (ns : List Nat) :
    (digitsOf ns).testBit n = true ↔ n ∈ ns := by
  induction ns with
  | nil => simp [digitsOf]
  | cons m ns ih =>
      rw [digitsOf, Nat.testBit_or, Bool.or_eq_true, ih, List.mem_cons, Nat.one_shiftLeft,
        Nat.testBit_two_pow, decide_eq_true_iff, eq_comm]

/-- Two lists whose numbers have no digit in common have no member in common. -/
theorem not_mem_of_digits {ms ns : List Nat} (h : digitsOf ms &&& digitsOf ns = 0) {n : Nat}
    (hm : n ∈ ms) : n ∉ ns := by
  intro hn
  have hboth : (digitsOf ms &&& digitsOf ns).testBit n = true := by
    rw [Nat.testBit_and, (test_bit_digits_of n ms).2 hm, (test_bit_digits_of n ns).2 hn]
    rfl
  rw [h, Nat.zero_testBit] at hboth
  cases hboth

/-! ## The runs of capitals -/

namespace CapitalRun

/-- The last small letter of a run. -/
def smallLast (run : CapitalRun) : Nat := run.small + (run.last - run.first)

/-- The places of a run, counted from its first capital or from its first small letter. -/
def places (run : CapitalRun) (start : Nat) : List Nat :=
  (List.range ((run.last - run.first) / run.stride + 1)).map (start + run.stride * ·)

/-- The code points of the small letters are those of characters. -/
theorem small_valid : ∀ run ∈ capitalRuns,
    run.smallLast < 0xd800 ∨ 0xdfff < run.small ∧ run.smallLast < 0x110000 := by decide +kernel

/-- No run has the dotted capital I, which has two small letters, as a small letter. -/
theorem small_ne_dotted : ∀ run ∈ capitalRuns, run.smallLast < 0x130 ∨ 0x130 < run.small := by
  decide +kernel

/-- No capital is a small letter too. -/
theorem all_apart :
    digitsOf (capitalRuns.flatMap fun run => run.places run.first) &&&
      digitsOf (capitalRuns.flatMap fun run => run.places run.small) = 0 := by
  decide +kernel

/-- Neither capitals nor their small letters are blank. -/
theorem not_blank : ∀ run ∈ capitalRuns, ∀ range ∈ blankRanges,
    (range.2 < run.first ∨ run.last < range.1) ∧
      (range.2 < run.small ∨ run.smallLast < range.1) := by decide +kernel

variable {run other : CapitalRun} {code small : Nat}

/-- The capitals of a run, and where their small letters are. -/
theorem small_eq_some (h : run.small? code = some small) :
    run.first ≤ code ∧ code ≤ run.last ∧ (code - run.first) % run.stride = 0 ∧
      small = run.small + (code - run.first) := by
  unfold small? at h
  split at h
  · rename_i hcapital
    cases h
    exact ⟨hcapital.1, hcapital.2.1, hcapital.2.2, rfl⟩
  · cases h

/-- A small letter lies between the first one and the last one. -/
theorem small_bounds (h : run.small? code = some small) :
    run.small ≤ small ∧ small ≤ run.smallLast := by
  obtain ⟨hfirst, hlast, -, rfl⟩ := small_eq_some h
  unfold smallLast
  omega

/-- A capital and its small letter have the same place in their run. -/
theorem mem_places (h : run.small? code = some small) :
    code ∈ run.places run.first ∧ small ∈ run.places run.small := by
  obtain ⟨hfirst, hlast, hstride, rfl⟩ := small_eq_some h
  have hplace : (code - run.first) / run.stride < (run.last - run.first) / run.stride + 1 :=
    Nat.lt_succ_of_le (Nat.div_le_div_right (Nat.sub_le_sub_right hlast _))
  have hcode : run.stride * ((code - run.first) / run.stride) = code - run.first :=
    Nat.mul_div_cancel' (Nat.dvd_of_mod_eq_zero hstride)
  refine ⟨List.mem_map.2 ⟨_, List.mem_range.2 hplace, ?_⟩,
    List.mem_map.2 ⟨_, List.mem_range.2 hplace, ?_⟩⟩
  · rw [hcode, Nat.add_sub_cancel' hfirst]
  · rw [hcode]

/-- A small letter of a run is no capital. -/
theorem small_eq_none (hrun : run ∈ capitalRuns) (hother : other ∈ capitalRuns)
    (h : run.small? code = some small) : other.small? small = none := by
  rw [Option.eq_none_iff_forall_ne_some]
  intro next hnext
  exact not_mem_of_digits all_apart
    (List.mem_flatMap.2 ⟨other, hother, (mem_places hnext).1⟩)
    (List.mem_flatMap.2 ⟨run, hrun, (mem_places h).2⟩)

end CapitalRun

/-! ## The forms of characters -/

variable {c d : Char}

/-- The four kinds of characters: those with codes below 128, the dotted capital I, the capitals of
the runs, and the rest, which are small. -/
theorem small_form_cases (c : Char) :
    (c.toNat < 0x80 ∧ smallForm c = [c.toLower]) ∨
    (c = 'İ' ∧ smallForm c = ['i', '\u0307']) ∨
    (∃ run ∈ capitalRuns, ∃ small, run.small? c.toNat = some small ∧
      smallForm c = [Char.ofNat small]) ∨
    (0x80 ≤ c.toNat ∧ IsSmall c) := by
  by_cases hascii : c.toNat < 0x80
  · exact .inl ⟨hascii, if_pos hascii⟩
  · by_cases hdotted : c = 'İ'
    · subst hdotted
      exact .inr (.inl ⟨rfl, rfl⟩)
    · have hform : smallForm c =
          [((capitalRuns.findSome? (·.small? c.toNat)).map Char.ofNat).getD c] := by
        unfold smallForm
        rw [if_neg hascii, if_neg hdotted]
      cases hfind : capitalRuns.findSome? (·.small? c.toNat) with
      | some small =>
          obtain ⟨run, hrun, hsmall⟩ := List.exists_of_findSome?_eq_some hfind
          rw [hfind] at hform
          exact .inr (.inr (.inl ⟨run, hrun, small, hsmall, hform⟩))
      | none =>
          rw [hfind] at hform
          exact .inr (.inr (.inr ⟨Nat.le_of_not_lt hascii, hform⟩))

/-- The characters with codes below 128 are checked one by one: their small forms are small, blank
exactly if they are, and their own where they are no capitals, which are the first run. -/
theorem ascii_facts : ∀ n : Fin 0x80,
    IsSmall (Char.ofNat n).toLower ∧
      isBlank (Char.ofNat n).toLower = isBlank (Char.ofNat n) ∧
      (CapitalRun.small? ⟨0x41, 0x5a, 1, 0x61⟩ n = none →
        (Char.ofNat n).toLower = Char.ofNat n) := by decide +kernel

/-- A character that is in no run is small, except for the dotted capital I. -/
theorem is_small_of_no_run (hdotted : c ≠ 'İ')
    (hnone : ∀ run ∈ capitalRuns, run.small? c.toNat = none) : IsSmall c := by
  rcases small_form_cases c with ⟨hascii, hform⟩ | ⟨hdotted', -⟩ | ⟨run, hrun, small, hsmall, -⟩ |
    ⟨-, hsmall⟩
  · have hlower := (ascii_facts ⟨c.toNat, hascii⟩).2.2 (hnone _ List.mem_cons_self)
    rw [Char.ofNat_toNat] at hlower
    rw [IsSmall, hform, hlower]
  · exact absurd hdotted' hdotted
  · rw [hnone run hrun] at hsmall
    cases hsmall
  · exact hsmall

/-- The code point of a small letter of a run. -/
theorem to_nat_of_nat_small {run : CapitalRun} (hrun : run ∈ capitalRuns) {code small : Nat}
    (h : run.small? code = some small) : (Char.ofNat small).toNat = small := by
  obtain ⟨hlow, hhigh⟩ := CapitalRun.small_bounds h
  have hvalid : small.isValidChar := by
    rcases CapitalRun.small_valid run hrun with hbelow | ⟨hbehind, hbound⟩
    · exact .inl (by omega)
    · exact .inr ⟨by omega, by omega⟩
  unfold Char.ofNat
  rw [dif_pos hvalid]
  rfl

/-- The small form of a character is small. -/
theorem is_small_of_mem_small_form (h : d ∈ smallForm c) : IsSmall d := by
  rcases small_form_cases c with ⟨hascii, hform⟩ | ⟨-, hform⟩ | ⟨run, hrun, small, hsmall, hform⟩ |
    ⟨-, hform⟩ <;> rw [hform] at h
  · have hlower := (ascii_facts ⟨c.toNat, hascii⟩).1
    rw [Char.ofNat_toNat] at hlower
    rw [List.mem_singleton.1 h]
    exact hlower
  · simp only [List.mem_cons, List.not_mem_nil, or_false] at h
    rcases h with rfl | rfl <;> rfl
  · rw [List.mem_singleton.1 h]
    have hcode := to_nat_of_nat_small hrun hsmall
    refine is_small_of_no_run ?_ fun other hother => ?_
    · intro hdotted
      rw [hdotted] at hcode
      have hbounds := CapitalRun.small_bounds hsmall
      have hapart := CapitalRun.small_ne_dotted run hrun
      rw [← hcode] at hbounds
      change (0x130 ≥ _ ∧ 0x130 ≤ _) at hbounds
      omega
    · rw [hcode]
      exact CapitalRun.small_eq_none hrun hother hsmall
  · rw [List.mem_singleton.1 h]
    exact hform

/-- A small form has at least one character. -/
theorem small_form_ne_nil (c : Char) : smallForm c ≠ [] := by
  unfold smallForm
  split
  · exact List.cons_ne_nil _ _
  · split <;> exact List.cons_ne_nil _ _

/-- A blank character is in one of the ranges. -/
theorem is_blank_iff : isBlank c = true ↔
    ∃ range ∈ blankRanges, range.1 ≤ c.toNat ∧ c.toNat ≤ range.2 := by
  unfold isBlank covers
  simp

/-- Exactly the blank characters have blanks in their small form. -/
theorem is_blank_of_mem_small_form (h : d ∈ smallForm c) : isBlank d = isBlank c := by
  rcases small_form_cases c with ⟨hascii, hform⟩ | ⟨rfl, hform⟩ | ⟨run, hrun, small, hsmall, hform⟩ |
    ⟨-, hform⟩ <;> rw [hform] at h
  · have hblank := (ascii_facts ⟨c.toNat, hascii⟩).2.1
    rw [Char.ofNat_toNat] at hblank
    rw [List.mem_singleton.1 h]
    exact hblank
  · simp only [List.mem_cons, List.not_mem_nil, or_false] at h
    rcases h with rfl | rfl <;> rfl
  · -- Neither the capital nor its small letter is in a range of blanks.
    rw [List.mem_singleton.1 h, Bool.eq_iff_iff, is_blank_iff, is_blank_iff,
      to_nat_of_nat_small hrun hsmall]
    obtain ⟨hfirst, hlast, -⟩ := CapitalRun.small_eq_some hsmall
    have hbounds := CapitalRun.small_bounds hsmall
    constructor <;> rintro ⟨range, hrange, hlow, hhigh⟩ <;>
      · have hapart := CapitalRun.not_blank run hrun range hrange
        omega
  · rw [List.mem_singleton.1 h]

/-- Blanks are small. -/
theorem is_small_of_blank (h : isBlank c = true) : IsSmall c := by
  refine is_small_of_no_run ?_ fun run hrun => ?_
  · rintro rfl
    revert h
    decide
  · obtain ⟨range, hrange, hlow, hhigh⟩ := is_blank_iff.1 h
    have hapart := CapitalRun.not_blank run hrun range hrange
    unfold CapitalRun.small?
    rw [if_neg]
    omega

end GameLibrary.Text
