/-
  What the plain decimals `FixedDecimal::parse` accepts denote, and that a `FixedDecimal` is exactly
  the number its text denotes.

  `denoted` reads a text by the places of its digits and knows nothing of coefficients and scales.
  `Spelled` says what an accepted text is made of.
-/

import LobReplay.Book.Decimal
import Mathlib.Algebra.Order.Ring.Rat
import Mathlib.Data.List.Induction
import Mathlib.Data.Rat.Cast.Order
import Mathlib.Tactic.FieldSimp

namespace LobReplay.Book.FixedDecimal

open Foundation

/-! ## What a text denotes -/

def digitValue (c : Char) : Nat := c.toNat - 48

/-- The digits in front of the point: a digit counts ten of the one behind it. -/
def wholeValue (digits : List Char) : ℚ :=
  digits.foldl (fun value c => 10 * value + digitValue c) 0

/-- The digits behind the point: a digit counts a tenth of the one in front of it. -/
def fractionValue : List Char → ℚ
  | [] => 0
  | c :: rest => (digitValue c + fractionValue rest) / 10

/-- The rational number a plain decimal denotes. -/
def denoted (text : String) : ℚ :=
  let chars := text.toList
  let negative : Bool := chars.head? = some '-'
  let unsigned := if negative then chars.tail else chars
  let value := wholeValue (unsigned.takeWhile (· ≠ '.'))
    + fractionValue (unsigned.dropWhile (· ≠ '.')).tail
  if negative then -value else value

/-- The rational number a decimal is. -/
def value (d : FixedDecimal) : ℚ := d.coefficient / 10 ^ d.scale

/-! ## Places -/

theorem digitsValue_append (a b : List Char) :
    digitsValue (a ++ b) = 10 ^ b.length * digitsValue a + digitsValue b := by
  show Nat.ofDigitChars 10 (a ++ b) 0 = 10 ^ b.length * Nat.ofDigitChars 10 a 0
    + Nat.ofDigitChars 10 b 0
  rw [Nat.ofDigitChars_append, Nat.ofDigitChars_eq_ofDigitChars_zero]

theorem wholeValue_eq (digits : List Char) : wholeValue digits = (digitsValue digits : ℚ) := by
  induction digits using List.reverseRecOn with
  | nil => rfl
  | append_singleton front c ih =>
    have hstep : wholeValue (front ++ [c]) = 10 * wholeValue front + digitValue c := by
      simp [wholeValue]
    have hsingle : digitsValue [c] = digitValue c := by simp [digitsValue, digitValue]
    rw [hstep, ih, digitsValue_append, hsingle, List.length_singleton]
    push_cast
    ring

theorem fractionValue_eq (digits : List Char) :
    fractionValue digits = (digitsValue digits : ℚ) / 10 ^ digits.length := by
  induction digits with
  | nil => simp [fractionValue, digitsValue]
  | cons c rest ih =>
    have hsingle : digitsValue [c] = digitValue c := by simp [digitsValue, digitValue]
    have hcons : digitsValue (c :: rest) = 10 ^ rest.length * digitValue c + digitsValue rest := by
      rw [← hsingle, ← digitsValue_append]
      rfl
    have hpow : (10 : ℚ) ^ rest.length ≠ 0 := by positivity
    rw [fractionValue, ih, hcons, List.length_cons, pow_succ]
    push_cast
    field_simp

/-- The digits on both sides of the point, read as one number at the place of the last. -/
theorem whole_add_fraction (whole fraction : List Char) :
    wholeValue whole + fractionValue fraction
      = (digitsValue (whole ++ fraction) : ℚ) / 10 ^ fraction.length := by
  have hpow : (10 : ℚ) ^ fraction.length ≠ 0 := by positivity
  rw [wholeValue_eq, fractionValue_eq, digitsValue_append]
  push_cast
  field_simp

/-! ## Accepted texts -/

/-- A text of a sign, digits and, behind a point, at most 18 digits more. -/
structure Spelled (text : String) (negative : Bool) (whole fraction : List Char) : Prop where
  chars : text.toList = (if negative then ['-'] else []) ++
    (whole ++ if fraction = [] then [] else '.' :: fraction)
  whole_ne : whole ≠ []
  whole_digits : ∀ c ∈ whole, isAsciiDigit c = true
  whole_head : 1 < whole.length → whole.head? ≠ some '0'
  fraction_digits : ∀ c ∈ fraction, isAsciiDigit c = true
  fraction_le : fraction.length ≤ 18

variable {c : Char} {text : String} {negative : Bool} {whole fraction : List Char}
  {d : FixedDecimal} {debug : String → String} {n : Nat}

theorem isAsciiDigit_ne (h : isAsciiDigit c = true) :
    c ≠ '.' ∧ c ≠ '-' ∧ c ≠ '+' ∧ c ≠ 'e' ∧ c ≠ 'E' := by
  refine ⟨?_, ?_, ?_, ?_, ?_⟩ <;>
  · rintro rfl
    exact absurd h (by decide)

/-- The characters of an accepted text that begins no sign. -/
theorem Spelled.unsigned (h : Spelled text negative whole fraction) :
    (text.toList.head? = some '-' ↔ negative = true) ∧
      (if text.toList.head? = some '-' then text.toList.tail else text.toList)
        = whole ++ if fraction = [] then [] else '.' :: fraction := by
  obtain ⟨first, rest, rfl⟩ := List.exists_cons_of_ne_nil h.whole_ne
  have hfirst := (isAsciiDigit_ne (h.whole_digits first List.mem_cons_self)).2.1
  rw [h.chars]
  cases negative <;> simp [hfirst]

/-- **What an accepted text denotes.** -/
theorem Spelled.denoted_eq (h : Spelled text negative whole fraction) :
    denoted text = (if negative then -1 else 1) *
      ((digitsValue (whole ++ fraction) : ℚ) / 10 ^ fraction.length) := by
  obtain ⟨hsign, hunsigned⟩ := h.unsigned
  have hdot : ∀ c ∈ whole, (decide (c ≠ '.')) = true := fun c hc => by
    simpa using (isAsciiDigit_ne (h.whole_digits c hc)).1
  have htake : (whole ++ if fraction = [] then [] else '.' :: fraction).takeWhile (· ≠ '.')
      = whole := by
    rw [List.takeWhile_append_of_pos hdot]
    split <;> simp
  have hdrop : ((whole ++ if fraction = [] then [] else '.' :: fraction).dropWhile (· ≠ '.')).tail
      = fraction := by
    rw [List.dropWhile_append_of_pos hdot]
    split
    · next hnil => simp [hnil]
    · simp
  unfold denoted
  cases negative with
  | true =>
    have hhead : text.toList.head? = some '-' := hsign.mpr rfl
    rw [if_pos hhead] at hunsigned
    simp only [hhead, decide_true, if_true, hunsigned, htake, hdrop, whole_add_fraction]
    ring
  | false =>
    have hhead : ¬ text.toList.head? = some '-' := fun h => by cases hsign.mp h
    rw [if_neg hhead] at hunsigned
    rw [hunsigned] at hhead
    simp only [hhead, decide_false, Bool.false_eq_true, if_false, hunsigned, htake, hdrop,
      whole_add_fraction]
    ring

/-! ## Parsing -/

/-- What `split('.')` makes of a text: nothing is split off a text without a point. -/
theorem splitOn_cases (chars : List Char) :
    ∃ whole rest, chars.splitOn '.' = whole :: rest ∧
      ((rest = [] ∧ chars = whole) ∨
        ∃ fraction, rest = fraction.splitOn '.' ∧ chars = whole ++ '.' :: fraction) := by
  by_cases hmem : '.' ∈ chars
  · obtain ⟨whole, fraction, rfl, hnot⟩ := List.eq_append_cons_of_mem hmem
    refine ⟨whole, fraction.splitOn '.', ?_, Or.inr ⟨fraction, rfl, rfl⟩⟩
    rw [List.splitOn_append_cons_self, List.splitOn_eq_singleton hnot]
    rfl
  · exact ⟨chars, [], List.splitOn_eq_singleton hmem, Or.inl ⟨rfl, rfl⟩⟩

theorem splitOn_pieces {chars : List Char} {rest : List (List Char)}
    (h : chars.splitOn '.' = whole :: rest) (hrest : rest.length ≤ 1) :
    (rest = [] ∧ chars = whole) ∨
      ∃ fraction, rest = [fraction] ∧ chars = whole ++ '.' :: fraction := by
  obtain ⟨whole', rest', hsplit, hcases⟩ := splitOn_cases chars
  obtain ⟨rfl, rfl⟩ : whole = whole' ∧ rest = rest' := by
    rw [hsplit] at h
    simpa [eq_comm] using h
  rcases hcases with hnone | ⟨fraction, rfl, hchars⟩
  · exact Or.inl hnone
  · obtain ⟨piece, more, hpieces, hmore⟩ := splitOn_cases fraction
    rw [hpieces] at hrest ⊢
    obtain rfl : more = [] := List.eq_nil_of_length_eq_zero (by simpa using hrest)
    rcases hmore with ⟨-, rfl⟩ | ⟨fraction', hnil, -⟩
    · exact Or.inr ⟨fraction, rfl, hchars⟩
    · exact absurd hnil.symm (List.splitOn_ne_nil '.' fraction')

/-- **Accepted texts** are spelled, and their digits are in range. -/
theorem spelled_of_parse (h : parse debug text = .ok d) :
    ∃ negative whole fraction hscale, Spelled text negative whole fraction ∧
      ofDigits negative (whole ++ fraction) fraction.length hscale = .ok d := by
  obtain ⟨hplain, h⟩ := ite_err_eq_ok.mp h
  obtain ⟨negative, hnegative⟩ :
      ∃ negative : Bool, negative = decide (text.toList.head? = some '-') :=
    ⟨_, rfl⟩
  obtain ⟨unsigned, hunsigned⟩ : ∃ unsigned : List Char,
      unsigned = if text.toList.head? = some '-' then text.toList.tail else text.toList := ⟨_, rfl⟩
  have hchars : text.toList = (if negative then ['-'] else []) ++ unsigned := by
    rw [hunsigned, hnegative]
    by_cases hhead : text.toList.head? = some '-'
    · obtain ⟨rest, hrest⟩ := List.head?_eq_some_iff.mp hhead
      simp [hrest]
    · simp [hhead]
  simp only [← hnegative, ← hunsigned] at h
  obtain ⟨whole, rest, hsplit, -⟩ := splitOn_cases unsigned
  rw [hsplit] at h
  obtain ⟨hwhole, h⟩ := ite_err_eq_ok.mp h
  simp only [not_or, not_lt, not_not, not_and] at hwhole
  obtain ⟨hrest, hne, hdigits, hhead⟩ := hwhole
  split at h
  · cases h
  next hscale =>
  obtain ⟨hfraction, h⟩ := ite_err_eq_ok.mp h
  simp only [not_or, not_and, not_not] at hfraction
  obtain ⟨hpoint, hfractionDigits⟩ := hfraction
  refine ⟨negative, whole, rest.head?.getD [], Nat.le_of_not_lt hscale,
    ⟨?_, hne, List.all_eq_true.mp hdigits, hhead, List.all_eq_true.mp hfractionDigits,
      Nat.le_of_not_lt hscale⟩, h⟩
  rw [hchars]
  congr 1
  rcases splitOn_pieces hsplit hrest with ⟨rfl, rfl⟩ | ⟨fraction, rfl, rfl⟩
  · simp
  · have hmem : '.' ∈ text.toList := by
      rw [hchars]
      simp
    rw [if_neg (hpoint hmem)]
    rfl

theorem Spelled.parse_eq (h : Spelled text negative whole fraction) (debug : String → String) :
    parse debug text = ofDigits negative (whole ++ fraction) fraction.length h.fraction_le := by
  obtain ⟨hsign, hunsigned⟩ := h.unsigned
  have hwhole : ∀ c ∈ whole, c ≠ '.' ∧ c ≠ '-' ∧ c ≠ '+' ∧ c ≠ 'e' ∧ c ≠ 'E' :=
    fun c hc => isAsciiDigit_ne (h.whole_digits c hc)
  have hfraction : ∀ c ∈ fraction, c ≠ '.' ∧ c ≠ '-' ∧ c ≠ '+' ∧ c ≠ 'e' ∧ c ≠ 'E' :=
    fun c hc => isAsciiDigit_ne (h.fraction_digits c hc)
  have hplain : ¬ (text.toList = [] ∨ text.toList.head? = some '+' ∨ 'e' ∈ text.toList ∨
      'E' ∈ text.toList) := by
    have hmem : ∀ c ∈ text.toList, c = '-' ∨ c ∈ whole ∨ c = '.' ∨ c ∈ fraction := by
      intro c hc
      rw [h.chars] at hc
      rcases List.mem_append.mp hc with hc | hc
      · split at hc <;> simp_all
      · rcases List.mem_append.mp hc with hc | hc
        · exact Or.inr (Or.inl hc)
        · split at hc <;> simp_all
    have hnot : ∀ c, c ≠ '-' → c ≠ '.' → (c = '+' ∨ c = 'e' ∨ c = 'E') → c ∉ text.toList := by
      intro c hminus hdot hc hin
      rcases hmem c hin with rfl | hin | rfl | hin
      · exact hminus rfl
      · have := hwhole c hin
        tauto
      · exact hdot rfl
      · have := hfraction c hin
        tauto
    rintro (hnil | hplus | he | hE)
    · have hlength := congrArg List.length h.chars
      rw [hnil, List.length_append, List.length_append] at hlength
      have hpos := List.length_pos_iff.mpr h.whole_ne
      simp only [List.length_nil] at hlength
      omega
    · exact hnot '+' (by decide) (by decide) (by decide) (List.mem_of_head? hplus)
    · exact hnot 'e' (by decide) (by decide) (by decide) he
    · exact hnot 'E' (by decide) (by decide) (by decide) hE
  have hsplit : (whole ++ if fraction = [] then [] else '.' :: fraction).splitOn '.'
      = whole :: if fraction = [] then [] else [fraction] := by
    have hnot : '.' ∉ whole := fun hmem => (hwhole '.' hmem).1 rfl
    have hnot' : '.' ∉ fraction := fun hmem => (hfraction '.' hmem).1 rfl
    split
    · rw [List.append_nil, List.splitOn_eq_singleton hnot]
    · rw [List.splitOn_append_cons_self, List.splitOn_eq_singleton hnot,
        List.splitOn_eq_singleton hnot']
      rfl
  have hpiece : (if fraction = [] then [] else [fraction]).head?.getD [] = fraction := by
    split
    · next hnil => simp [hnil]
    · rfl
  have hall : whole.all isAsciiDigit = true := List.all_eq_true.mpr h.whole_digits
  have hall' : fraction.all isAsciiDigit = true := List.all_eq_true.mpr h.fraction_digits
  have hpoint : ¬ ('.' ∈ text.toList ∧ fraction = []) := by
    rintro ⟨hmem, rfl⟩
    rw [h.chars] at hmem
    rcases List.mem_append.mp hmem with hmem | hmem
    · split at hmem <;> simp at hmem
    · simp only [if_true, List.append_nil] at hmem
      exact (hwhole '.' hmem).1 rfl
  have hone : ¬ 1 < (if fraction = [] then [] else [fraction]).length := by
    split <;> simp
  have hnegative : decide (text.toList.head? = some '-') = negative :=
    Bool.eq_iff_iff.mpr (by rw [decide_eq_true_eq, hsign])
  unfold parse
  simp only [if_neg hplain, hunsigned, hsplit, hpiece, hnegative]
  rw [if_neg, dif_neg (Nat.not_lt.mpr h.fraction_le), if_neg]
  · simp only [hall', not_true_eq_false, or_false]
    exact hpoint
  · simp only [hall, not_true_eq_false, false_or, not_or, not_and]
    exact ⟨hone, h.whole_ne, h.whole_head⟩

/-! ## Values -/

theorem canonical_value (c : Int) (scale : Nat) (hscale : scale ≤ 18)
    (hsafe : c.natAbs ≤ maxSafeCoefficient) :
    (canonical c scale hscale hsafe).value = (c : ℚ) / 10 ^ scale := by
  induction scale generalizing c with
  | zero => rfl
  | succ scale ih =>
    rw [canonical]
    split
    · next hdigit =>
      -- the last digit is 0: the tenth of the coefficient at one place less
      obtain ⟨q, rfl⟩ : ∃ q, c = 10 * q := ⟨c / 10, by omega⟩
      rw [ih, Int.mul_ediv_cancel_left q (by decide), pow_succ]
      push_cast
      field_simp
    · rfl

theorem value_eq_units (d : FixedDecimal) : d.value = (d.units : ℚ) / 10 ^ 18 := by
  have hpow : (10 : ℚ) ^ 18 = 10 ^ d.scale * 10 ^ (18 - d.scale) := by
    rw [← pow_add]
    congr 1
    have := d.scale_le
    omega
  rw [value, units, hpow]
  push_cast
  field_simp

theorem cmp_eq_value (a b : FixedDecimal) : cmp a b = compare a.value b.value := by
  have hpos : (0 : ℚ) < 10 ^ 18 := by positivity
  have hlt : ∀ x y : FixedDecimal, x.value < y.value ↔ x.units < y.units := fun x y => by
    rw [value_eq_units, value_eq_units, div_lt_div_iff_of_pos_right hpos, Int.cast_lt]
  rw [cmp_eq]
  rcases lt_trichotomy a.units b.units with h | h | h
  · rw [compare_lt_iff_lt.mpr h, compare_lt_iff_lt.mpr ((hlt a b).mpr h)]
  · rw [units_injective h, compare_eq_iff_eq.mpr rfl, compare_eq_iff_eq.mpr rfl]
  · rw [compare_gt_iff_gt.mpr h, compare_gt_iff_gt.mpr ((hlt b a).mpr h)]

theorem ofDigits_eq_ok {digits : List Char} {scale : Nat} {hscale : scale ≤ 18}
    (h : ofDigits negative digits scale hscale = .ok d) :
    d.value = (if negative then -1 else 1) * ((digitsValue digits : ℚ) / 10 ^ scale) := by
  obtain ⟨-, h⟩ := ite_err_eq_ok.mp h
  split at h
  · cases h
  · obtain rfl := Except.ok.inj h
    rw [canonical_value]
    cases negative <;> simp [neg_div]

/-- **A decimal is the number its text denotes.** -/
theorem value_of_parse (h : parse debug text = .ok d) : d.value = denoted text := by
  obtain ⟨negative, whole, fraction, hscale, hspelled, hdigits⟩ := spelled_of_parse h
  rw [hspelled.denoted_eq, ofDigits_eq_ok hdigits]

/-! ## Printing -/

theorem isAsciiDigit_of_mem_toDigits (h : c ∈ Nat.toDigits 10 n) : isAsciiDigit c = true := by
  have hdigit := Nat.isDigit_of_mem_toDigits (by decide) (by decide) h
  simpa [Char.isDigit, isAsciiDigit, UInt32.le_iff_toNat_le] using hdigit

/-- A number of several digits does not begin with 0. -/
theorem head_toDigits (h : 0 < n) : (Nat.toDigits 10 n).head? ≠ some '0' := by
  induction n using Nat.strongRecOn with
  | _ n ih =>
    rw [Nat.toDigits_eq_if (by decide)]
    split
    · simp only [List.head?_cons, ne_eq, Option.some.injEq, Nat.digitChar_eq_zero]
      omega
    · rw [List.head?_append_of_ne_nil _ Nat.toDigits_ne_nil]
      exact ih (n / 10) (by omega) (by omega)

theorem getLast_toDigits (n : Nat) :
    (Nat.toDigits 10 n).getLast? = some (Nat.digitChar (n % 10)) := by
  rw [Nat.toDigits_eq_if (by decide)]
  split
  · next hlt => rw [Nat.mod_eq_of_lt hlt, List.getLast?_singleton]
  · rw [List.getLast?_append, List.getLast?_singleton, Option.some_or]

/-- The digits `Display` writes: at least one in front of the point. -/
def shownDigits (d : FixedDecimal) : List Char :=
  let digits := Nat.toDigits 10 d.coefficient.natAbs
  List.replicate (d.scale + 1 - digits.length) '0' ++ digits

/-- The shown digits in front of the point. -/
def shownWhole (d : FixedDecimal) : List Char :=
  d.shownDigits.take (d.shownDigits.length - d.scale)

/-- The shown digits behind the point. -/
def shownFraction (d : FixedDecimal) : List Char :=
  d.shownDigits.drop (d.shownDigits.length - d.scale)

theorem scale_lt_shownDigits (d : FixedDecimal) : d.scale < d.shownDigits.length := by
  unfold shownDigits
  rw [List.length_append, List.length_replicate]
  omega

theorem shownFraction_length (d : FixedDecimal) : d.shownFraction.length = d.scale := by
  have := d.scale_lt_shownDigits
  rw [shownFraction, List.length_drop]
  omega

theorem shownWhole_length (d : FixedDecimal) :
    d.shownWhole.length = d.shownDigits.length - d.scale := by
  rw [shownWhole, List.length_take]
  omega

theorem shownWhole_append (d : FixedDecimal) : d.shownWhole ++ d.shownFraction = d.shownDigits :=
  List.take_append_drop _ _

theorem digitsValue_shown (d : FixedDecimal) :
    digitsValue (d.shownWhole ++ d.shownFraction) = d.coefficient.natAbs := by
  rw [shownWhole_append]
  show Nat.ofDigitChars 10 d.shownDigits 0 = _
  rw [shownDigits, Nat.ofDigitChars_append, Nat.ofDigitChars_replicate_zero, Nat.mul_zero,
    Nat.ofDigitChars_ten_toDigits]

theorem isAsciiDigit_shown (h : c ∈ d.shownDigits) : isAsciiDigit c = true := by
  rcases List.mem_append.mp h with h | h
  · rw [List.eq_of_mem_replicate h]
    decide
  · exact isAsciiDigit_of_mem_toDigits h

/-- The characters of a printed decimal. -/
theorem display_toList (d : FixedDecimal) :
    d.display.toList = (if decide (d.coefficient < 0) then ['-'] else []) ++
      (d.shownWhole ++ if d.shownFraction = [] then [] else '.' :: d.shownFraction) := by
  have hnil : d.shownFraction = [] ↔ d.scale = 0 := by
    rw [← List.length_eq_zero_iff, shownFraction_length]
  have hsign : (if d.coefficient < 0 then "-" else "").toList
      = if decide (d.coefficient < 0) then ['-'] else [] := by
    by_cases h : d.coefficient < 0 <;> simp [h]
  have hdigits : (toString d.coefficient.natAbs).toList = Nat.toDigits 10 d.coefficient.natAbs :=
    Nat.toList_repr
  unfold display
  simp only [hdigits, hnil]
  by_cases hscale : d.scale = 0
  · have hpos : 0 < (Nat.toDigits 10 d.coefficient.natAbs).length := Nat.length_toDigits_pos
    have hpad : 0 + 1 - (Nat.toDigits 10 d.coefficient.natAbs).length = 0 := by omega
    have hwhole : d.shownWhole = Nat.toDigits 10 d.coefficient.natAbs := by
      rw [shownWhole, hscale, Nat.sub_zero, List.take_length, shownDigits, hscale, hpad]
      rfl
    rw [if_pos hscale, if_pos hscale, String.toList_append, hsign, hwhole, String.toList_ofList,
      List.append_nil]
  · rw [if_neg hscale, if_neg hscale]
    simp only [String.toList_append, hsign, String.toList_ofList, List.append_assoc]
    rfl

/-- **A printed decimal is spelled.** -/
theorem display_spelled (d : FixedDecimal) :
    Spelled d.display (decide (d.coefficient < 0)) d.shownWhole d.shownFraction where
  chars := d.display_toList
  whole_ne := by
    have := d.scale_lt_shownDigits
    rw [← List.length_pos_iff, shownWhole_length]
    omega
  whole_digits c hc := isAsciiDigit_shown (List.mem_of_mem_take hc)
  whole_head hlength := by
    -- several digits in front of the point: nothing was padded
    rw [shownWhole_length] at hlength
    have hpad : d.scale + 1 - (Nat.toDigits 10 d.coefficient.natAbs).length = 0 := by
      rw [shownDigits, List.length_append, List.length_replicate] at hlength
      omega
    have hshown : d.shownDigits = Nat.toDigits 10 d.coefficient.natAbs := by
      rw [shownDigits, hpad]
      rfl
    have hpos : 0 < d.coefficient.natAbs := by
      by_contra hzero
      rw [hshown, Nat.eq_zero_of_not_pos hzero, Nat.toDigits_zero] at hlength
      simp only [List.length_singleton] at hlength
      omega
    rw [shownWhole, List.head?_take, if_neg (by omega), hshown]
    exact head_toDigits hpos
  fraction_digits c hc := isAsciiDigit_shown (List.mem_of_mem_drop hc)
  fraction_le := by
    rw [shownFraction_length]
    exact d.scale_le

theorem canonical_self (d : FixedDecimal) :
    canonical d.coefficient d.scale d.scale_le d.safe = d := by
  obtain ⟨c, scale, hscale, hsafe, hform⟩ := d
  cases scale with
  | zero => rfl
  | succ scale =>
    rw [canonical, dif_neg (hform.resolve_left (Nat.succ_ne_zero scale))]

/-- **Round trip.** A printed decimal is parsed as itself. -/
theorem parse_display (debug : String → String) (d : FixedDecimal) :
    parse debug d.display = .ok d := by
  have hsafe := d.safe
  have hmax : maxSafeCoefficient ≤ i128Max := Nat.div_le_self _ _
  rw [d.display_spelled.parse_eq, ofDigits]
  simp only [digitsValue_shown]
  rw [if_neg (by omega), dif_neg (by omega)]
  congr 1
  conv_rhs => rw [← canonical_self d]
  have hcoefficient : (if decide (d.coefficient < 0) = true then -(d.coefficient.natAbs : Int)
      else d.coefficient.natAbs) = d.coefficient := by
    by_cases hneg : d.coefficient < 0
    · rw [if_pos (decide_eq_true hneg)]
      omega
    · rw [if_neg (by simpa using hneg)]
      omega
  congr 1
  exact d.shownFraction_length

theorem getLast_shownDigits (d : FixedDecimal) :
    d.shownDigits.getLast? = some (Nat.digitChar (d.coefficient.natAbs % 10)) := by
  rw [shownDigits, List.getLast?_append, getLast_toDigits, Option.some_or]

/-- A printed decimal does not end in a fractional 0. -/
theorem display_last (d : FixedDecimal) (h : '.' ∈ d.display.toList) :
    d.display.toList.getLast? ≠ some '0' := by
  have hfraction : d.shownFraction ≠ [] := by
    intro hnil
    rw [display_toList, if_pos hnil, List.append_nil] at h
    rcases List.mem_append.mp h with h | h
    · split at h <;> simp at h
    · exact (isAsciiDigit_ne (isAsciiDigit_shown (List.mem_of_mem_take h))).1 rfl
  have hscale : d.scale ≠ 0 := by
    rw [← shownFraction_length]
    exact fun hzero => hfraction (List.length_eq_zero_iff.mp hzero)
  -- the text ends as its digits do
  have hlast : d.display.toList.getLast? = d.shownDigits.getLast? := by
    obtain ⟨c, hc⟩ := Option.ne_none_iff_exists'.mp (mt List.getLast?_eq_none_iff.mp hfraction)
    rw [← shownWhole_append, display_toList, if_neg hfraction]
    simp [List.getLast?_append, List.getLast?_cons, hc]
  rw [hlast, getLast_shownDigits]
  simp only [ne_eq, Option.some.injEq, Nat.digitChar_eq_zero]
  have hdigit := d.canonical_form.resolve_left hscale
  omega

/-- Only a negative number is printed with a sign. -/
theorem display_sign (d : FixedDecimal) :
    d.display.toList.head? = some '-' ↔ d.value < 0 := by
  have hpos : (0 : ℚ) < 10 ^ d.scale := by positivity
  rw [d.display_spelled.unsigned.1, decide_eq_true_eq, value, div_lt_iff₀ hpos, zero_mul]
  exact Int.cast_lt_zero.symm

/-! ## The theorem -/

/-- **A `FixedDecimal` is an exact ordered decimal**: accepted texts compare as the numbers they
    denote, and a printed decimal is parsed as itself. -/
theorem parsed_decimals_are_exact (debug : String → String) {s t : String} {a b : FixedDecimal}
    (hs : parse debug s = .ok a) (ht : parse debug t = .ok b) :
    ((aligned a b).1.natAbs ≤ i128Max ∧ (aligned a b).2.natAbs ≤ i128Max) ∧
      cmp a b = compare (denoted s) (denoted t) ∧
      (cmp a b = .eq ↔ a.coefficient = b.coefficient ∧ a.scale = b.scale) ∧
      parse debug a.display = .ok a ∧
      denoted a.display = denoted s ∧
      ('.' ∈ a.display.toList → a.display.toList.getLast? ≠ some '0') ∧
      (a.display.toList.head? = some '-' → denoted a.display ≠ 0) := by
  have hscale : max a.scale b.scale ≤ 18 := max_le a.scale_le b.scale_le
  have hshown : denoted a.display = a.value := (value_of_parse (parse_display debug a)).symm
  refine ⟨⟨aligned_safe a hscale, aligned_safe b hscale⟩, ?_, ?_, parse_display debug a, ?_,
    display_last a, ?_⟩
  · rw [cmp_eq_value, value_of_parse hs, value_of_parse ht]
  · rw [cmp_eq, compare_eq_iff_eq]
    constructor
    · intro h
      rw [units_injective h]
      exact ⟨rfl, rfl⟩
    · rintro ⟨hcoefficient, hscale⟩
      rw [units, units, hcoefficient, hscale]
  · rw [hshown, value_of_parse hs]
  · intro h
    rw [hshown]
    exact ne_of_lt ((display_sign a).mp h)

/-- A negative text with trailing zeros, and one of another scale. -/
theorem sample_decimals_are_exact :
    ∃ a b : FixedDecimal, parse id "-0.50" = .ok a ∧ parse id "12" = .ok b ∧
      cmp a b = compare (denoted "-0.50") (denoted "12") ∧ denoted a.display = denoted "-0.50" := by
  have hs : (parse id "-0.50").isOk = true := by decide +kernel
  have ht : (parse id "12").isOk = true := by decide +kernel
  obtain ⟨a, ha⟩ := isOk_eq_true.mp hs
  obtain ⟨b, hb⟩ := isOk_eq_true.mp ht
  have h := parsed_decimals_are_exact id ha hb
  exact ⟨a, b, ha, hb, h.2.1, h.2.2.2.2.1⟩

end LobReplay.Book.FixedDecimal
