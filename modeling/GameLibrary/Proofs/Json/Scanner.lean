import GameLibrary.Json.Printer
import GameLibrary.Proofs.Text.Decimal

/-!
# Scanning what was printed

`Scan.Reads` says where some characters take the scanner and which tokens they complete on the way.
A string that was printed is scanned as the string it was (`reads_string`), and a number that is
written as numbers are as its digits (`reads_literal`). `Spells` says that characters are those of
some tokens, whatever comes after them.
-/

namespace GameLibrary.Json

open Text (digitChars)

/-- The characters take the scanner from one place to another one and complete the tokens. -/
inductive Scan.Reads : Scan → List Char → List Token → Scan → Prop where
  | nil {scan} : Reads scan [] [] scan
  | cons {scan next last c rest made more} : Scan.step scan (some c) = some (next, made) →
      Reads next rest more last → Reads scan (c :: rest) (made ++ more) last

open Scan (Reads)

section Reads

variable {scan next last : Scan} {chars more : List Char} {made others : List Token} {c : Char}

/-- One character. -/
theorem Scan.Reads.single (h : Scan.step scan (some c) = some (next, made)) :
    Reads scan [c] made next := by
  have hreads := Reads.cons h .nil
  rwa [List.append_nil] at hreads

/-- One more character, which completes no token. -/
theorem Scan.Reads.silent (h : Scan.step scan (some c) = some (next, []))
    (hrest : Reads next chars others last) : Reads scan (c :: chars) others last :=
  .cons h hrest

/-- One more character, which completes a token. -/
theorem Scan.Reads.speaks {token : Token} (h : Scan.step scan (some c) = some (next, [token]))
    (hrest : Reads next chars others last) : Reads scan (c :: chars) (token :: others) last :=
  .cons h hrest

/-- Some characters and then some more. -/
theorem Scan.Reads.append (h : Reads scan chars made next) (hmore : Reads next more others last) :
    Reads scan (chars ++ more) (made ++ others) last := by
  induction h with
  | nil => exact hmore
  | cons hstep _ ih =>
      rw [List.append_assoc]
      exact .cons hstep (ih hmore)

/-- The scanner behind one more character, and the tokens so far, the last first. -/
def readCell (state : Scan × List Token) (cell : Option Char) : Option (Scan × List Token) :=
  (Scan.step state.1 cell).bind fun next => some (next.1, next.2.reverse ++ state.2)

theorem tokens_eq (document : List (Option Char)) : tokens document =
    (document.foldlM readCell (.between, [])).bind fun state =>
      state.1.finish.bind fun pending => some (state.2.reverse ++ pending) := rfl

/-- The tokens that characters complete are put before those so far. -/
theorem Scan.Reads.fold (h : Reads scan chars made last) (before : List Token) :
    (chars.map some).foldlM readCell (scan, before) = some (last, made.reverse ++ before) := by
  induction h generalizing before with
  | nil => rfl
  | cons hstep _ ih =>
      rw [List.map_cons, List.foldlM_cons]
      unfold readCell
      rw [hstep, Option.bind_some]
      refine (ih _).trans ?_
      rw [List.reverse_append, List.append_assoc]

/-- The tokens of a document are those that its characters and its end complete. -/
theorem tokens_of_reads {pending : List Token} (h : Reads .between chars made last)
    (hfinish : last.finish = some pending) : tokens (chars.map some) = some (made ++ pending) := by
  rw [tokens_eq, h.fold, Option.bind_some, hfinish, Option.bind_some, List.append_nil,
    List.reverse_reverse]

end Reads

section Strings

/-- What the scanner makes of a character of a string. -/
def pieceOf (c : Char) : Piece :=
  if c.toNat < 0x20 ∧ c ∉ ['\x08', '\x0c', '\n', '\r', '\t'] then .unit c.toNat else .char c

/-- The pieces of a text denote the text. -/
theorem text_of_pieces (text : List Char) : textOfPieces (text.map pieceOf) = some text := by
  induction text with
  | nil => rfl
  | cons c rest ih =>
      by_cases hcontrol : c.toNat < 0x20 ∧ c ∉ ['\x08', '\x0c', '\n', '\r', '\t']
      · -- A control character is no half of a pair.
        have hplain : ¬ (0xD800 ≤ c.toNat ∧ c.toNat ≤ 0xDBFF) := by omega
        have hplain' : ¬ (0xDC00 ≤ c.toNat ∧ c.toNat ≤ 0xDFFF) := by omega
        have hplain'' : ¬ (0xD800 ≤ c.toNat ∧ c.toNat ≤ 0xDFFF) := by omega
        have hpiece : pieceOf c = .unit c.toNat := if_pos hcontrol
        rw [List.map_cons, hpiece]
        generalize rest.map pieceOf = pieces at ih ⊢
        unfold textOfPieces
        split
        · rename_i h
          cases h
        · rename_i h
          cases h
        · rename_i h
          cases h
        · rename_i h
          cases h
          rw [if_neg hplain, if_neg hplain', ih, Option.map_some, Char.ofNat_toNat]
        · rename_i h
          cases h
          rw [if_neg hplain'', ih, Option.map_some, Char.ofNat_toNat]
      · have hpiece : pieceOf c = .char c := if_neg hcontrol
        rw [List.map_cons, hpiece, textOfPieces, ih, Option.map_some]

/-- A digit has its value. -/
theorem hex_value_hex_digit {d : Nat} (hd : d < 16) : Text.hexValue? (Text.hexDigit d) = some d := by
  have hall : ∀ d : Fin 16, Text.hexValue? (Text.hexDigit d) = some d.val := by decide
  exact hall ⟨d, hd⟩

/-- Four digits give a unit. -/
theorem reads_unit (pieces : List Piece) {a b c d : Char} {va vb vc vd : Nat}
    (ha : Text.hexValue? a = some va) (hb : Text.hexValue? b = some vb)
    (hc : Text.hexValue? c = some vc) (hd : Text.hexValue? d = some vd) :
    Reads (.unit pieces 4 0) [a, b, c, d] []
      (.quoted (.unit ((((0 * 16 + va) * 16 + vb) * 16 + vc) * 16 + vd) :: pieces)) := by
  have hmore : ∀ {remaining value digit digitValue}, Text.hexValue? digit = some digitValue →
      Scan.step (.unit pieces (remaining + 2) value) (some digit) =
        some (.unit pieces (remaining + 1) (value * 16 + digitValue), []) := by
    intro remaining value digit digitValue hdigit
    simp [Scan.step, hdigit]
  have hlast : ∀ {value digit digitValue}, Text.hexValue? digit = some digitValue →
      Scan.step (.unit pieces 1 value) (some digit) =
        some (.quoted (.unit (value * 16 + digitValue) :: pieces), []) := by
    intro value digit digitValue hdigit
    simp [Scan.step, hdigit]
  exact .silent (hmore ha) (.silent (hmore hb) (.silent (hmore hc) (.single (hlast hd))))

/-- An escaped character is scanned as the character it was. -/
theorem reads_escaped (pieces : List Piece) (c : Char) :
    Reads (.quoted pieces) (escapedChar c) [] (.quoted (pieceOf c :: pieces)) := by
  unfold escapedChar
  split
  case h_8 =>
    rename_i hquote hslash hb hf hn hr ht
    split
    · rename_i hcontrol
      have hpiece : pieceOf c = .unit c.toNat := by
        refine if_pos ⟨hcontrol, ?_⟩
        simp only [List.mem_cons, List.not_mem_nil, or_false, not_or]
        exact ⟨hb, hf, hn, hr, ht⟩
      have hhigh : Text.hexValue? (Text.hexDigit (c.toNat / 16)) = some (c.toNat / 16) :=
        hex_value_hex_digit (by omega)
      have hlow : Text.hexValue? (Text.hexDigit (c.toNat % 16)) = some (c.toNat % 16) :=
        hex_value_hex_digit (by omega)
      have hvalue : ((0 * 16 + 0) * 16 + 0) * 16 + c.toNat / 16 = c.toNat / 16 := by omega
      have hunit := reads_unit pieces (show Text.hexValue? '0' = some 0 by decide)
        (show Text.hexValue? '0' = some 0 by decide) hhigh hlow
      rw [hvalue, Nat.div_add_mod'] at hunit
      rw [hpiece]
      exact .silent rfl (.silent rfl hunit)
    · rename_i hprintable
      have hpiece : pieceOf c = .char c := if_neg fun h => hprintable h.1
      rw [hpiece]
      refine .single ?_
      unfold Scan.step
      dsimp only
      rw [if_neg hquote, if_neg hslash, if_neg hprintable]
  all_goals exact .silent rfl (.single rfl)

/-- A string that was printed is scanned as the string it was. -/
theorem reads_string (text : String) :
    Reads .between (stringChars text) [.string (some text)] .between := by
  have hbody : ∀ pieces, Reads (.quoted pieces) (text.toList.flatMap escapedChar) []
      (.quoted ((text.toList.map pieceOf).reverse ++ pieces)) := by
    generalize text.toList = chars
    induction chars with
    | nil => exact fun _ => .nil
    | cons c rest ih =>
        intro pieces
        rw [List.flatMap_cons, List.map_cons, List.reverse_cons, List.append_assoc]
        exact (reads_escaped pieces c).append (ih _)
  refine .silent rfl ((hbody []).append (.single ?_))
  rw [List.append_nil]
  show some (Scan.between, [Token.string ((textOfPieces
    (text.toList.map pieceOf).reverse.reverse).map String.ofList)]) = _
  rw [List.reverse_reverse, text_of_pieces, Option.map_some, String.ofList_toList]

end Strings

section Numbers

/-- The digits before a point: a single zero, or some digits of which the first is no zero. -/
structure IsWhole (digits : List Nat) : Prop where
  digit : ∀ d ∈ digits, d < 10
  first : digits = [0] ∨ ∃ d rest, digits = d :: rest ∧ d ≠ 0

/-- A literal as numbers are written. -/
structure Literal.WellFormed (l : Literal) : Prop where
  whole : IsWhole l.whole
  fraction : ∀ d ∈ l.fraction, d < 10
  power : ∀ {sign digits}, l.power = some (sign, digits) → digits ≠ [] ∧ ∀ d ∈ digits, d < 10

/-- The characters behind the digits before the point. -/
def Literal.fractionChars (l : Literal) : List Char :=
  if l.fraction = [] then [] else '.' :: digitChars l.fraction

/-- The characters of a power of ten. -/
def Literal.powerChars (l : Literal) : List Char :=
  match l.power with
  | none => []
  | some (negative, digits) => 'e' :: (if negative then '-' else '+') :: digitChars digits

/-- The characters of a literal. -/
def Literal.chars (l : Literal) : List Char :=
  (if l.negative then ['-'] else []) ++ digitChars l.whole ++ l.fractionChars ++ l.powerChars

/-- The characters that a digit is not, and what it is. -/
structure DigitChar (d : Nat) (c : Char) : Prop where
  ne_point : c ≠ '.'
  ne_small : c ≠ 'e'
  ne_large : c ≠ 'E'
  ne_plus : c ≠ '+'
  ne_minus : c ≠ '-'
  value : Scan.digit? c = some d

theorem digit_char {d : Nat} (hd : d < 10) : DigitChar d (Nat.digitChar d) := by
  have hall : ∀ d : Fin 10, Nat.digitChar d ≠ '.' ∧ Nat.digitChar d ≠ 'e' ∧
      Nat.digitChar d ≠ 'E' ∧ Nat.digitChar d ≠ '+' ∧ Nat.digitChar d ≠ '-' ∧
      Scan.digit? (Nat.digitChar d) = some d.val := by decide
  obtain ⟨hpoint, hsmall, hlarge, hplus, hminus, hvalue⟩ := hall ⟨d, hd⟩
  exact ⟨hpoint, hsmall, hlarge, hplus, hminus, hvalue⟩

/-- A number begins with a digit that is no zero. -/
theorem start_digit {d : Nat} (hd : d ≠ 0) (hlt : d < 10) :
    Scan.start (Nat.digitChar d) = some (.whole false [d], none) := by
  match d, hd, hlt with
  | 1, _, _ | 2, _, _ | 3, _, _ | 4, _, _ | 5, _, _ | 6, _, _ | 7, _, _ | 8, _, _ | 9, _, _ => rfl

variable {scan next : Scan} {c : Char}

/-- A character that continues a number completes no token. -/
theorem step_of_continued (h : scan.continued? c = some next) :
    Scan.step scan (some c) = some (next, []) := by
  cases scan with
  | between | word | quoted | escape | unit => cases h
  | minus | zero | whole | fraction | letter | power =>
      unfold Scan.step
      simp [h]

/-- Digits go where each of them goes. -/
theorem reads_digits (place : List Nat → Scan)
    (hplace : ∀ {d before}, d < 10 →
      (place before).continued? (Nat.digitChar d) = some (place (d :: before)))
    {digits : List Nat} (hdigits : ∀ d ∈ digits, d < 10) (before : List Nat) :
    Reads (place before) (digitChars digits) [] (place (digits.reverse ++ before)) := by
  induction digits generalizing before with
  | nil => exact .nil
  | cons d rest ih =>
      have hd := hdigits d List.mem_cons_self
      have hrest := ih (fun d hmem => hdigits d (List.mem_cons_of_mem _ hmem)) (d :: before)
      rw [List.reverse_cons, List.append_assoc]
      exact .silent (step_of_continued (hplace hd)) hrest

variable {negative : Bool} {digits : List Nat}

/-- Where the scanner stands behind the digits before the point. -/
def wholeScan (negative : Bool) (digits : List Nat) : Scan :=
  if digits = [0] then .zero negative else .whole negative digits.reverse

theorem reads_more_whole (hdigits : ∀ d ∈ digits, d < 10) (before : List Nat) :
    Reads (.whole negative before) (digitChars digits) [] (.whole negative
      (digits.reverse ++ before)) := by
  refine reads_digits (.whole negative) (fun hd => ?_) hdigits before
  have hc := digit_char hd
  simp [Scan.continued?, hc.ne_point, hc.ne_small, hc.ne_large, hc.value]

/-- The digits before the point are scanned as such, at the beginning of a number and behind a minus
sign. -/
theorem reads_whole (h : IsWhole digits) :
    Reads .between (digitChars digits) [] (wholeScan false digits) ∧
      Reads .minus (digitChars digits) [] (wholeScan true digits) := by
  rcases h.first with rfl | ⟨d, rest, rfl, hd⟩
  · exact ⟨.single rfl, .single rfl⟩
  · have hlt := h.digit d List.mem_cons_self
    have hmore : ∀ negative, Reads (.whole negative [d]) (digitChars rest) []
        (wholeScan negative (d :: rest)) := by
      intro negative
      have hne : d :: rest ≠ [0] := fun heq => hd (List.cons.inj heq).1
      unfold wholeScan
      rw [if_neg hne, List.reverse_cons]
      exact reads_more_whole (fun d hmem => h.digit d (List.mem_cons_of_mem _ hmem)) [d]
    refine ⟨.silent ?_ (hmore false), .silent (step_of_continued ?_) (hmore true)⟩
    · unfold Scan.step
      simp [start_digit hd hlt]
    · simp [Scan.continued?, (digit_char hlt).value, hd]

theorem reads_fraction (hdigits : ∀ d ∈ digits, d < 10) (integral : List Nat) :
    Reads (.fraction negative integral []) (digitChars digits) []
      (.fraction negative integral digits.reverse) := by
  have hreads := reads_digits (.fraction negative integral) (fun hd => ?_) hdigits []
  · rwa [List.append_nil] at hreads
  · have hc := digit_char hd
    simp [Scan.continued?, hc.ne_small, hc.ne_large, hc.value]

theorem reads_power (hdigits : ∀ d ∈ digits, d < 10) (integral decimals : List Nat)
    (powerNegative : Bool) :
    Reads (.power negative integral decimals powerNegative []) (digitChars digits) []
      (.power negative integral decimals powerNegative digits.reverse) := by
  have hreads :=
    reads_digits (.power negative integral decimals powerNegative) (fun hd => ?_) hdigits []
  · rwa [List.append_nil] at hreads
  · simp [Scan.continued?, (digit_char hd).value]

/-- Where the scanner stands behind a literal. -/
def Literal.place (l : Literal) : Scan :=
  match l.power with
  | some (powerNegative, digits) =>
      .power l.negative l.whole l.fraction powerNegative digits.reverse
  | none =>
      if l.fraction = [] then wholeScan l.negative l.whole
      else .fraction l.negative l.whole l.fraction.reverse

/-- A point or a letter behind the digits before the point. -/
theorem step_whole_scan (negative : Bool) (digits : List Nat) :
    Scan.step (wholeScan negative digits) (some '.') =
        some (.fraction negative digits [], []) ∧
      Scan.step (wholeScan negative digits) (some 'e') =
        some (.letter negative digits [], []) := by
  unfold wholeScan
  split
  · rename_i hzero
    rw [hzero]
    exact ⟨rfl, rfl⟩
  · constructor
    all_goals
      refine step_of_continued ?_
      simp [Scan.continued?]

variable {l : Literal}

/-- A literal is scanned as its digits. -/
theorem reads_literal (h : l.WellFormed) : Reads .between l.chars [] l.place := by
  have hwhole : Reads .between ((if l.negative then ['-'] else []) ++ digitChars l.whole) []
      (wholeScan l.negative l.whole) := by
    obtain ⟨hplus, hminus⟩ := reads_whole h.whole
    cases l.negative with
    | false => exact hplus
    | true => exact .silent rfl hminus
  have hfraction : l.fraction ≠ [] → Reads (wholeScan l.negative l.whole) l.fractionChars []
      (.fraction l.negative l.whole l.fraction.reverse) := by
    intro hsome
    unfold Literal.fractionChars
    rw [if_neg hsome]
    exact .silent (step_whole_scan _ _).1 (reads_fraction h.fraction _)
  unfold Literal.chars Literal.powerChars Literal.place
  cases hpower : l.power with
  | none =>
      rw [List.append_nil]
      dsimp only
      by_cases hnone : l.fraction = []
      · unfold Literal.fractionChars
        rw [if_pos hnone, if_pos hnone, List.append_nil]
        exact hwhole
      · rw [if_neg hnone]
        exact hwhole.append (hfraction hnone)
  | some power =>
      obtain ⟨powerNegative, digits⟩ := power
      have hdigits := (h.power hpower).2
      have hsign : Reads (.letter l.negative l.whole l.fraction)
          ((if powerNegative then '-' else '+') :: digitChars digits) []
          (.power l.negative l.whole l.fraction powerNegative digits.reverse) := by
        refine .silent ?_ (reads_power hdigits _ _ _)
        cases powerNegative <;> rfl
      by_cases hnone : l.fraction = []
      · have hletter := (step_whole_scan l.negative l.whole).2
        rw [← hnone] at hletter
        have hempty : l.fractionChars = [] := if_pos hnone
        rw [hempty, List.append_nil]
        exact hwhole.append (.silent hletter hsign)
      · have hletter : Scan.step (.fraction l.negative l.whole l.fraction.reverse) (some 'e') =
            some (.letter l.negative l.whole l.fraction, []) := by
          refine step_of_continued ?_
          simp [Scan.continued?, hnone]
        exact (hwhole.append (hfraction hnone)).append (.silent hletter hsign)

/-- A literal may end where it ends. -/
theorem finish_literal (h : l.WellFormed) : l.place.finish = some [.number l] := by
  obtain ⟨negative, whole, fraction, power⟩ := l
  unfold Literal.place
  cases power with
  | some power =>
      obtain ⟨powerNegative, digits⟩ := power
      obtain ⟨hsome, -⟩ := h.power rfl
      cases hreverse : digits.reverse with
      | nil => exact absurd (List.reverse_eq_nil_iff.1 hreverse) hsome
      | cons d more =>
          dsimp only
          rw [hreverse]
          show some [Token.number ⟨negative, whole, fraction,
            some (powerNegative, (d :: more).reverse)⟩] = _
          rw [← hreverse, List.reverse_reverse]
  | none =>
      dsimp only
      split
      · rename_i hnone
        subst hnone
        unfold wholeScan
        split
        · rename_i hzero
          subst hzero
          rfl
        · show some [Token.number ⟨negative, whole.reverse.reverse, [], none⟩] = _
          rw [List.reverse_reverse]
      · rename_i hsome
        cases hreverse : fraction.reverse with
        | nil => exact absurd (List.reverse_eq_nil_iff.1 hreverse) hsome
        | cons d more =>
            show some [Token.number ⟨negative, whole, (d :: more).reverse, none⟩] = _
            rw [← hreverse, List.reverse_reverse]

end Numbers

section Spelling

/-- A character that stands between values, with its token. -/
inductive Delimits : Char → Token → Prop where
  | comma : Delimits ',' .comma
  | colon : Delimits ':' .colon
  | arrayClose : Delimits ']' .arrayClose
  | objectClose : Delimits '\x7d' .objectClose

/-- The characters are those of the tokens, if a delimiter or the end of the document follows. -/
def Spells (chars : List Char) (made : List Token) : Prop :=
  ∃ last before pending, Reads .between chars before last ∧ last.finish = some pending ∧
    made = before ++ pending

variable {chars : List Char} {made : List Token} {c : Char} {token : Token}

/-- A delimiter ends what stands before it. -/
theorem step_delimiter {scan : Scan} {pending : List Token} (hfinish : scan.finish = some pending)
    (hc : Delimits c token) :
    Scan.step scan (some c) = some (.between, pending ++ [token]) := by
  have hstart : Scan.start c = some (.between, some token) := by
    cases hc <;> rfl
  have hdigit : Scan.digit? c = none ∧ c ≠ '.' ∧ c ≠ 'e' ∧ c ≠ 'E' := by
    cases hc <;> decide
  obtain ⟨hdigit, hpoint, hsmall, hlarge⟩ := hdigit
  cases scan with
  | between =>
      cases hfinish
      unfold Scan.step
      simp [hstart]
  | word | minus | letter | quoted | escape | unit => cases hfinish
  | zero negative =>
      cases hfinish
      unfold Scan.step
      simp [Scan.continued?, Scan.ended?, hstart, hpoint, hsmall, hlarge]
  | whole negative digits =>
      cases hfinish
      unfold Scan.step
      simp [Scan.continued?, Scan.ended?, hstart, hpoint, hsmall, hlarge, hdigit]
  | fraction negative integral digits =>
      cases digits with
      | nil => cases hfinish
      | cons d more =>
          cases hfinish
          unfold Scan.step
          simp [Scan.continued?, Scan.ended?, hstart, hsmall, hlarge, hdigit]
  | power negative integral decimals powerNegative digits =>
      cases digits with
      | nil => cases hfinish
      | cons d more =>
          cases hfinish
          unfold Scan.step
          simp [Scan.continued?, Scan.ended?, hstart, hdigit]

/-- What is spelled is spelled before a delimiter as well. -/
theorem Spells.delimited (h : Spells chars made) (hc : Delimits c token) :
    Reads .between (chars ++ [c]) (made ++ [token]) .between := by
  obtain ⟨last, before, pending, hreads, hfinish, rfl⟩ := h
  rw [List.append_assoc]
  exact hreads.append (.single (step_delimiter hfinish hc))

/-- What is scanned up to the end of a token is spelled. -/
theorem spells_of_reads (h : Reads .between chars made .between) : Spells chars made :=
  ⟨.between, made, [], h, rfl, (List.append_nil made).symm⟩

/-- A literal is spelled with its characters. -/
theorem spells_literal {l : Literal} (h : l.WellFormed) : Spells l.chars [.number l] :=
  ⟨l.place, [], [.number l], reads_literal h, finish_literal h, rfl⟩

/-- A document has the tokens that its characters spell. -/
theorem tokens_of_spells (h : Spells chars made) : tokens (chars.map some) = some made := by
  obtain ⟨last, before, pending, hreads, hfinish, rfl⟩ := h
  exact tokens_of_reads hreads hfinish

end Spelling

end GameLibrary.Json
