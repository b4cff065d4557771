/-
  When the aggregation of decimals is exact. Every sum, ratio and imbalance that is returned is the
  exact one (`sumDecimals_value`, `ratioPpm_cases`), and what does not fit is refused, except where
  two coefficients are aligned: the product there is not checked, and the process aborts when a sum
  is too large for the scale of the next value.
-/

import LobReplay.Book.Amount
import LobReplay.Foundation.Machine
import Mathlib.Algebra.Order.Floor.Ring
import Mathlib.Data.Rat.Floor
import Mathlib.Order.Lattice.Nat

namespace LobReplay.Book

open Foundation

/-! ## Ranges and digits of rational numbers -/

/-- The number lies in the range of an `i128`. -/
def FitsI128 (q : ℚ) : Prop := -2 ^ 127 ≤ q ∧ q ≤ 2 ^ 127 - 1

/-- The digits behind the point a decimal number is written with. -/
noncomputable def fractionDigits (q : ℚ) : Nat := sInf {n | ∃ k : ℤ, q * 10 ^ n = k}

theorem fitsI128_intCast (n : ℤ) : FitsI128 n ↔ InI128 n := by
  unfold FitsI128 InI128
  constructor
  · rintro ⟨hlow, hhigh⟩
    exact ⟨by exact_mod_cast hlow, by exact_mod_cast hhigh⟩
  · rintro ⟨hlow, hhigh⟩
    exact ⟨by exact_mod_cast hlow, by exact_mod_cast hhigh⟩

theorem FitsI128.shrink {q : ℚ} {m n : Nat} (h : FitsI128 (q * 10 ^ m)) (hle : n ≤ m) :
    FitsI128 (q * 10 ^ n) := by
  have hpow : (10 : ℚ) ^ n ≤ 10 ^ m := pow_le_pow_right₀ (by norm_num) hle
  have hpos : (0 : ℚ) ≤ 10 ^ n := by positivity
  obtain ⟨hlow, hhigh⟩ := h
  unfold FitsI128
  rcases le_total 0 q with hq | hq
  · have hup : q * 10 ^ n ≤ q * 10 ^ m := mul_le_mul_of_nonneg_left hpow hq
    have hzero : 0 ≤ q * 10 ^ n := mul_nonneg hq hpos
    constructor <;> linarith
  · have hdown : q * 10 ^ m ≤ q * 10 ^ n := mul_le_mul_of_nonpos_left hpow hq
    have hzero : q * 10 ^ n ≤ 0 := mul_nonpos_of_nonpos_of_nonneg hq hpos
    constructor <;> linarith

/-! ## Amounts -/

namespace Amount

/-- The rational number an amount is. -/
def value (a : Amount) : ℚ := a.coefficient / 10 ^ a.scale

/-- No digit behind the point is a trailing 0. -/
def Canonical (a : Amount) : Prop := a.scale = 0 ∨ a.coefficient % 10 ≠ 0

theorem canonical_spec (c : Int) (scale : Nat) (hscale : scale ≤ 18) (hrange : InI128 c) :
    (canonical c scale hscale hrange).value = (c : ℚ) / 10 ^ scale ∧
      (canonical c scale hscale hrange).Canonical := by
  induction scale generalizing c with
  | zero => exact ⟨rfl, Or.inl rfl⟩
  | succ scale ih =>
    rw [canonical]
    split
    · next hdigit =>
      obtain ⟨q, rfl⟩ : ∃ q, c = 10 * q := ⟨c / 10, by omega⟩
      obtain ⟨hvalue, hform⟩ := ih (10 * q / 10) (Nat.le_of_succ_le hscale) (inI128_div_ten hrange)
      refine ⟨?_, hform⟩
      rw [hvalue, Int.mul_ediv_cancel_left q (by decide), pow_succ]
      push_cast
      field_simp
    · next hdigit => exact ⟨rfl, Or.inr hdigit⟩

variable {scale : Nat}

theorem coefficient_aligned (a : Amount) (hle : a.scale ≤ scale) :
    ((a.coefficient * 10 ^ (scale - a.scale) : ℤ) : ℚ) = a.value * 10 ^ scale := by
  have hsplit : (10 : ℚ) ^ scale = 10 ^ a.scale * 10 ^ (scale - a.scale) := by
    rw [← pow_add]
    congr 1
    omega
  rw [value, hsplit]
  push_cast
  field_simp

theorem Canonical.fractionDigits_eq {a : Amount} (h : a.Canonical) :
    fractionDigits a.value = a.scale := by
  have hmem : a.scale ∈ {n | ∃ k : ℤ, a.value * 10 ^ n = k} :=
    ⟨a.coefficient, by rw [← a.coefficient_aligned le_rfl, Nat.sub_self, pow_zero, mul_one]⟩
  refine le_antisymm (Nat.sInf_le hmem) ?_
  by_contra hlt
  obtain ⟨k, hk⟩ := Nat.sInf_mem ⟨_, hmem⟩
  change a.value * 10 ^ fractionDigits a.value = k at hk
  -- the coefficient would end in 0
  have hcoefficient : a.coefficient = k * 10 ^ (a.scale - fractionDigits a.value) := by
    have hsplit : a.scale = fractionDigits a.value + (a.scale - fractionDigits a.value) := by omega
    have hvalue := a.coefficient_aligned le_rfl
    rw [Nat.sub_self, pow_zero, mul_one] at hvalue
    have : (a.coefficient : ℚ) = k * 10 ^ (a.scale - fractionDigits a.value) := by
      rw [hvalue, ← hk, mul_assoc, ← pow_add, ← hsplit]
    exact_mod_cast this
  have hexp : a.scale - fractionDigits a.value = a.scale - fractionDigits a.value - 1 + 1 := by omega
  rw [hexp, pow_succ, ← mul_assoc] at hcoefficient
  rcases h with hzero | hdigit
  · omega
  · rw [hcoefficient, Int.mul_emod_left] at hdigit
    exact hdigit rfl

theorem powI128_eq {exponent : Nat} (h : exponent ≤ 18) :
    powI128 exponent = .ok (10 ^ exponent) := by
  have hpow : (10 : ℤ) ^ exponent ≤ 10 ^ 18 := pow_le_pow_right₀ (by norm_num) h
  have hpos : (0 : ℤ) < 10 ^ exponent := by positivity
  refine if_pos ⟨?_, ?_⟩ <;> linarith

theorem align_cases (a : Amount) (hle : a.scale ≤ scale) (hscale : scale ≤ 18) :
    (FitsI128 (a.value * 10 ^ scale) ∧ ∃ c : ℤ, (c : ℚ) = a.value * 10 ^ scale ∧
      (powI128 (scale - a.scale) >>= fun power => mulI128 a.coefficient power) = .ok c) ∨
    (¬ FitsI128 (a.value * 10 ^ scale) ∧
      (powI128 (scale - a.scale) >>= fun power => mulI128 a.coefficient power) = .error .abort) := by
  have hcast := a.coefficient_aligned hle
  have hstep : (powI128 (scale - a.scale) >>= fun power => mulI128 a.coefficient power)
      = mulI128 a.coefficient (10 ^ (scale - a.scale)) := by
    rw [powI128_eq (by omega)]
    rfl
  rw [hstep, mulI128, ← hcast, fitsI128_intCast]
  by_cases hfits : InI128 (a.coefficient * 10 ^ (scale - a.scale))
  · exact Or.inl ⟨hfits, _, rfl, if_pos hfits⟩
  · exact Or.inr ⟨hfits, if_neg hfits⟩

theorem fits_max (a : Amount) (scale : Nat) :
    FitsI128 (a.value * 10 ^ max a.scale scale) ↔ FitsI128 (a.value * 10 ^ scale) := by
  refine ⟨fun h => h.shrink (le_max_right _ _), fun h => ?_⟩
  rcases le_total a.scale scale with hle | hle
  · rwa [max_eq_right hle]
  · rw [max_eq_left hle, ← a.coefficient_aligned le_rfl, Nat.sub_self, pow_zero, mul_one,
      fitsI128_intCast]
    exact a.range

/-- **Aligning two amounts**: it aborts unless each fits at the scale of the other. -/
theorem aligned_cases (a b : Amount) :
    (FitsI128 (a.value * 10 ^ b.scale) ∧ FitsI128 (b.value * 10 ^ a.scale) ∧
      ∃ left right : ℤ, a.aligned b = .ok (left, right) ∧
        (left : ℚ) = a.value * 10 ^ max a.scale b.scale ∧
        (right : ℚ) = b.value * 10 ^ max a.scale b.scale) ∨
    (¬ (FitsI128 (a.value * 10 ^ b.scale) ∧ FitsI128 (b.value * 10 ^ a.scale)) ∧
      a.aligned b = .error .abort) := by
  have hscale := max_le a.scale_le b.scale_le
  have hb := b.fits_max a.scale
  rw [max_comm] at hb
  rw [← a.fits_max, ← hb]
  have haligned : a.aligned b
      = ((powI128 (max a.scale b.scale - a.scale) >>= fun power => mulI128 a.coefficient power)
        >>= fun left =>
          (powI128 (max a.scale b.scale - b.scale) >>= fun power => mulI128 b.coefficient power)
            >>= fun right => .ok (left, right)) := by
    simp only [aligned, bind_assoc]
  rw [haligned]
  rcases a.align_cases (le_max_left a.scale b.scale) hscale with ⟨hl, left, hleft, hstep⟩ |
    ⟨hl, hstep⟩
  · rcases b.align_cases (le_max_right a.scale b.scale) hscale with ⟨hr, right, hright, hstep'⟩ |
      ⟨hr, hstep'⟩
    · exact Or.inl ⟨hl, hr, left, right, by rw [hstep, hstep']; rfl, hleft, hright⟩
    · exact Or.inr ⟨fun h => hr h.2, by rw [hstep, hstep']; rfl⟩
  · exact Or.inr ⟨fun h => hl h.1, by rw [hstep]; rfl⟩

/-- The checked result: the exact one, or refused. -/
theorem checkedOf_cases {c : ℤ} (hscale : scale ≤ 18) (message : String) {q : ℚ}
    (hc : (c : ℚ) = q * 10 ^ scale) :
    (FitsI128 (q * 10 ^ scale) ∧ ∃ a, checkedOf c scale hscale message = .ok a ∧ a.value = q ∧
      a.Canonical) ∨
    (¬ FitsI128 (q * 10 ^ scale) ∧ checkedOf c scale hscale message = err message) := by
  rw [← hc, fitsI128_intCast, checkedOf]
  by_cases hrange : InI128 c
  · obtain ⟨hvalue, hform⟩ := canonical_spec c scale hscale hrange
    refine Or.inl ⟨hrange, _, dif_pos hrange, ?_, hform⟩
    rw [hvalue, hc]
    field_simp
  · exact Or.inr ⟨hrange, dif_neg hrange⟩

/-- An operation aborts where the amounts cannot be aligned, and is exact or refused where they
    can. -/
def ExactWhereAligned (a b : Amount) (exact : ℚ) (result : Result Amount) : Prop :=
  (FitsI128 (a.value * 10 ^ b.scale) ∧ FitsI128 (b.value * 10 ^ a.scale) ∧
    ((FitsI128 (exact * 10 ^ max a.scale b.scale) ∧
        ∃ c, result = .ok c ∧ c.value = exact ∧ c.Canonical) ∨
      (¬ FitsI128 (exact * 10 ^ max a.scale b.scale) ∧ ∃ message, result = err message))) ∨
  (¬ (FitsI128 (a.value * 10 ^ b.scale) ∧ FitsI128 (b.value * 10 ^ a.scale)) ∧
    result = .error .abort)

theorem checked_cases (a b : Amount) (op : ℤ → ℤ → ℤ) {exact : ℚ} (message : String)
    (hexact : ∀ left right : ℤ, (left : ℚ) = a.value * 10 ^ max a.scale b.scale →
      (right : ℚ) = b.value * 10 ^ max a.scale b.scale →
      ((op left right : ℤ) : ℚ) = exact * 10 ^ max a.scale b.scale) :
    ExactWhereAligned a b exact (a.aligned b >>= fun sides => checkedOf (op sides.1 sides.2)
      (max a.scale b.scale) (max_le a.scale_le b.scale_le) message) := by
  rcases a.aligned_cases b with ⟨ha, hb, left, right, haligned, hleft, hright⟩ | ⟨hnot, haligned⟩
  · refine Or.inl ⟨ha, hb, ?_⟩
    rw [haligned]
    rcases checkedOf_cases (max_le a.scale_le b.scale_le) message
      (hexact left right hleft hright) with ⟨hfits, hok⟩ | ⟨hfits, herr⟩
    · exact Or.inl ⟨hfits, hok⟩
    · exact Or.inr ⟨hfits, _, herr⟩
  · exact Or.inr ⟨hnot, by rw [haligned]; rfl⟩

theorem checkedAdd_cases (a b : Amount) :
    ExactWhereAligned a b (a.value + b.value) (a.checkedAdd b) :=
  checked_cases a b (· + ·) _ fun left right hleft hright => by
    push_cast
    rw [hleft, hright]
    ring

theorem checkedSub_cases (a b : Amount) :
    ExactWhereAligned a b (a.value - b.value) (a.checkedSub b) :=
  checked_cases a b (· - ·) _ fun left right hleft hright => by
    push_cast
    rw [hleft, hright]
    ring

theorem ofDecimal_fits (d : FixedDecimal) (hscale : scale ≤ 18) :
    FitsI128 ((ofDecimal d).value * 10 ^ scale) := by
  have hmax : max d.scale scale ≤ 18 := max_le d.scale_le hscale
  rw [← fits_max, ← coefficient_aligned _ (le_max_left _ _), fitsI128_intCast]
  have hsafe := FixedDecimal.aligned_safe d hmax
  have hi128 : (i128Max : ℤ) = 2 ^ 127 - 1 := by decide
  constructor <;> simp only [ofDecimal] <;> omega

end Amount

/-! ## Sums -/

/-- The call returned the exact result or an error; it did not abort. -/
def ExactOrErr {α : Type} (x : Result α) (exact : α → Prop) : Prop :=
  (∃ a, x = .ok a ∧ exact a) ∨ ∃ message, x = err message

def total (values : List FixedDecimal) : ℚ := (values.map FixedDecimal.value).sum

/-- The sum so far fits at the scale of the next value. -/
def Aligns (before : List FixedDecimal) (value : FixedDecimal) : Prop :=
  FitsI128 (total before * 10 ^ value.scale)

/-- The sum with the next value is not refused: it fits at the larger of the two scales. -/
def Adds (before : List FixedDecimal) (value : FixedDecimal) : Prop :=
  FitsI128 (total (before ++ [value]) * 10 ^ max (fractionDigits (total before)) value.scale)

/-- No value is refused. -/
def Summable (values : List FixedDecimal) : Prop := AtEach Adds values

/-- Each value meets a sum that fits at its scale, up to the first that is refused. -/
def SumAligns (values : List FixedDecimal) : Prop :=
  AtEach (fun before value => Summable before → Aligns before value) values

theorem total_concat (before : List FixedDecimal) (value : FixedDecimal) :
    total (before ++ [value]) = total before + value.value := by
  simp [total]

theorem sumDecimals_concat (before : List FixedDecimal) (value : FixedDecimal) :
    sumDecimals (before ++ [value])
      = (sumDecimals before >>= fun sum => sum.checkedAdd (.ofDecimal value)) := by
  simp [sumDecimals, List.foldlM_append]

inductive SumCase (values : List FixedDecimal) : Prop
  | exact {sum : Amount} (hsum : sumDecimals values = .ok sum) (hvalue : sum.value = total values)
      (hform : sum.Canonical) (hsummable : Summable values) (haligns : SumAligns values)
  | refused {message : String} (hsum : sumDecimals values = err message)
      (hnot : ¬ Summable values) (haligns : SumAligns values)
  | aborted (hsum : sumDecimals values = .error .abort) (hnot : ¬ SumAligns values)

/-- **Sums** are exact, refused or aborted. -/
theorem sum_cases (values : List FixedDecimal) : SumCase values := by
  induction values using List.reverseRecOn with
  | nil =>
    exact .exact rfl (by simp [Amount.zero, Amount.value, total]) (Or.inl rfl) atEach_nil
      atEach_nil
  | append_singleton before value ih =>
    have hconcat := sumDecimals_concat before value
    cases ih with
    | exact hsum hvalue hform hsummable haligns =>
      rename_i sum
      rw [hsum] at hconcat
      change _ = sum.checkedAdd (.ofDecimal value) at hconcat
      have hdigits : fractionDigits (total before) = sum.scale := by
        rw [← hvalue, hform.fractionDigits_eq]
      have hfits : FitsI128 ((Amount.ofDecimal value).value * 10 ^ sum.scale) :=
        Amount.ofDecimal_fits value sum.scale_le
      rcases sum.checkedAdd_cases (.ofDecimal value) with ⟨halign, -, hadd⟩ | ⟨hnot, habort⟩
      · have haligns' : SumAligns (before ++ [value]) :=
          atEach_concat.mpr ⟨haligns, fun _ => by rw [Aligns, ← hvalue]; exact halign⟩
        have hadds : Adds before value ↔
            FitsI128 ((sum.value + (Amount.ofDecimal value).value) *
              10 ^ max sum.scale (Amount.ofDecimal value).scale) := by
          rw [Adds, total_concat, hdigits, hvalue]
          rfl
        rcases hadd with ⟨hadd, c, hc, hcvalue, hcform⟩ | ⟨hadd, message, herr⟩
        · exact .exact (hconcat.trans hc) (by rw [hcvalue, hvalue, total_concat]; rfl) hcform
            (atEach_concat.mpr ⟨hsummable, hadds.mpr hadd⟩) haligns'
        · exact .refused (hconcat.trans herr) (fun h => hadd (hadds.mp (atEach_concat.mp h).2))
            haligns'
      · refine .aborted (hconcat.trans habort) fun h => hnot ⟨?_, hfits⟩
        have := (atEach_concat.mp h).2 hsummable
        rwa [Aligns, ← hvalue] at this
    | refused hsum hnot haligns =>
      refine .refused (by rw [hconcat, hsum]; rfl) (fun h => hnot (atEach_concat.mp h).1) ?_
      exact atEach_concat.mpr ⟨haligns, fun h => absurd h hnot⟩
    | aborted hsum hnot =>
      exact .aborted (by rw [hconcat, hsum]; rfl) fun h => hnot (atEach_concat.mp h).1

/-! ## Ratios -/

/-- The number without its fraction. -/
def truncated (q : ℚ) : ℤ := if 0 ≤ q then ⌊q⌋ else ⌈q⌉

/-- `/` truncates the exact quotient. -/
theorem truncated_div (n : ℤ) {d : ℤ} (hd : 0 < d) : truncated ((n : ℚ) / d) = n.tdiv d := by
  obtain ⟨k, rfl⟩ := Int.eq_ofNat_of_zero_le hd.le
  have hk : (0 : ℚ) < (k : ℤ) := by exact_mod_cast hd
  have hfloor : ∀ c : ℤ, ⌊(c : ℚ) / (k : ℤ)⌋ = c / (k : ℤ) := fun c => by
    rw [Int.cast_natCast, Rat.floor_intCast_div_natCast]
  unfold truncated
  by_cases hn : 0 ≤ n
  · rw [if_pos (div_nonneg (by exact_mod_cast hn) hk.le), hfloor, Int.tdiv_eq_ediv_of_nonneg hn]
  · have hneg : ¬ (0 : ℚ) ≤ n / (k : ℤ) := by
      rw [not_le, div_lt_iff₀ hk, zero_mul]
      exact_mod_cast not_le.mp hn
    have hflip : (n : ℚ) / (k : ℤ) = -(((-n : ℤ) : ℚ) / (k : ℤ)) := by
      push_cast
      ring
    rw [if_neg hneg, hflip, Int.ceil_neg, hfloor, ← Int.tdiv_eq_ediv_of_nonneg (by omega),
      Int.neg_tdiv, neg_neg]

/-- Where the numerator is not refused, the denominator fits at its scale. -/
def RatioAligns (numerator denominator : ℚ) : Prop :=
  0 < denominator →
    FitsI128
      (numerator * 10 ^ max (fractionDigits numerator) (fractionDigits denominator) * 10 ^ 6) →
    FitsI128 (denominator * 10 ^ fractionDigits numerator)

/-- The ratio in millionths. -/
def exactPpm (numerator denominator : ℚ) : ℤ := truncated (numerator / denominator * 10 ^ 6)

/-- The checked products of the numerator. -/
theorem dividend_cases (a : Amount) {scale : Nat} (hle : a.scale ≤ scale) :
    (FitsI128 (a.value * 10 ^ scale * 10 ^ 6) ∧ ∃ c : ℤ, (c : ℚ) = a.value * 10 ^ scale * 10 ^ 6 ∧
      ((checkedMul a.coefficient (10 ^ (scale - a.scale))).bind fun value =>
        checkedMul value ppmScale) = some c) ∨
    (¬ FitsI128 (a.value * 10 ^ scale * 10 ^ 6) ∧
      ((checkedMul a.coefficient (10 ^ (scale - a.scale))).bind fun value =>
        checkedMul value ppmScale) = none) := by
  have hcast : ((a.coefficient * 10 ^ (scale - a.scale) * ppmScale : ℤ) : ℚ)
      = a.value * 10 ^ scale * 10 ^ 6 := by
    rw [Int.cast_mul, a.coefficient_aligned hle]
    norm_num [ppmScale]
  rw [← hcast, fitsI128_intCast]
  simp only [checkedMul]
  by_cases hfirst : InI128 (a.coefficient * 10 ^ (scale - a.scale))
  · rw [if_pos hfirst, Option.bind_some]
    by_cases hsecond : InI128 (a.coefficient * 10 ^ (scale - a.scale) * ppmScale)
    · exact Or.inl ⟨hsecond, _, rfl, if_pos hsecond⟩
    · exact Or.inr ⟨hsecond, if_neg hsecond⟩
  · rw [if_neg hfirst]
    refine Or.inr ⟨fun h => hfirst ?_, rfl⟩
    obtain ⟨hlow, hhigh⟩ := h
    simp only [ppmScale] at hlow hhigh
    constructor <;> omega

/-- **Ratios** are exact or refused exactly where the denominator can be aligned. -/
theorem ratioPpm_iff {numerator denominator : Amount} (hnumerator : numerator.Canonical)
    (hdenominator : denominator.Canonical) :
    ExactOrErr (ratioPpm numerator denominator)
        (fun ppm => ppm = exactPpm numerator.value denominator.value) ↔
      RatioAligns numerator.value denominator.value := by
  have hpos : ∀ n : ℕ, (0 : ℚ) < 10 ^ n := fun n => by positivity
  have hsign : 0 < denominator.value ↔ ¬ denominator.coefficient ≤ 0 := by
    rw [Amount.value, div_pos_iff_of_pos_right (hpos _), Int.cast_pos, not_le]
  have hscale := max_le numerator.scale_le denominator.scale_le
  rw [RatioAligns, hnumerator.fractionDigits_eq, hdenominator.fractionDigits_eq, hsign, ratioPpm]
  by_cases hneg : denominator.coefficient ≤ 0
  · rw [if_pos hneg]
    exact iff_of_true (Or.inr ⟨_, rfl⟩) fun h => absurd hneg h
  rw [if_neg hneg]
  dsimp only
  rw [Amount.powI128_eq (by omega)]
  have hmax := denominator.fits_max numerator.scale
  rw [max_comm] at hmax
  rcases dividend_cases numerator (le_max_left numerator.scale denominator.scale) with
    ⟨hfits, dividend, hdividend, hstep⟩ | ⟨hfits, hstep⟩
  swap
  · refine iff_of_true (Or.inr ⟨"ppm numerator overflow", ?_⟩) fun _ h => absurd h hfits
    show okOr _ _ >>= _ = _
    rw [hstep]
    rfl
  show ExactOrErr (okOr _ _ >>= _) _ ↔ _
  rw [hstep]
  show ExactOrErr (powI128 _ >>= fun power => mulI128 _ power >>= _) _ ↔ _
  rw [← bind_assoc]
  rcases denominator.align_cases (le_max_right numerator.scale denominator.scale) hscale with
    ⟨hfits', divisor, hdivisor, hstep'⟩ | ⟨hfits', hstep'⟩
  · rw [hstep']
    refine iff_of_true ?_ fun _ _ => hmax.mp hfits'
    have hdivisorPos : 0 < divisor := by
      have : (0 : ℚ) < divisor := by
        rw [hdivisor]
        exact mul_pos (hsign.mpr hneg) (hpos _)
      exact_mod_cast this
    have hquotient : dividend.tdiv divisor = exactPpm numerator.value denominator.value := by
      rw [← truncated_div dividend hdivisorPos, hdividend, hdivisor, exactPpm]
      congr 1
      have := (hpos (max numerator.scale denominator.scale)).ne'
      field_simp
    show ExactOrErr (okOr (i64TryFrom (dividend.tdiv divisor)) _) _
    rw [hquotient, i64TryFrom]
    split
    · exact Or.inl ⟨_, rfl, rfl⟩
    · exact Or.inr ⟨_, rfl⟩
  · rw [hstep']
    refine iff_of_false ?_ fun h => hfits' (hmax.mpr (h hneg hfits))
    rintro (⟨a, ha, -⟩ | ⟨message, hmessage⟩)
    · cases ha
    · cases hmessage

/-- The sums fit at each other's scale, and so do their difference and their sum as a ratio. -/
def ImbalanceAligns (left right : ℚ) : Prop :=
  FitsI128 (left * 10 ^ fractionDigits right) ∧ FitsI128 (right * 10 ^ fractionDigits left) ∧
    (FitsI128 ((left - right) * 10 ^ max (fractionDigits left) (fractionDigits right)) →
      FitsI128 ((left + right) * 10 ^ max (fractionDigits left) (fractionDigits right)) →
      RatioAligns (left - right) (left + right))

theorem not_exactOrErr_abort {α : Type} {exact : α → Prop} :
    ¬ ExactOrErr (.error .abort : Result α) exact := by
  rintro (⟨a, ha, -⟩ | ⟨message, hmessage⟩)
  · cases ha
  · cases hmessage

/-- **Imbalances.** -/
theorem imbalancePpm_iff {left right : Amount} (hleft : left.Canonical)
    (hright : right.Canonical) :
    ExactOrErr (imbalancePpm left right)
        (fun ppm => ppm = exactPpm (left.value - right.value) (left.value + right.value)) ↔
      ImbalanceAligns left.value right.value := by
  rw [ImbalanceAligns, hleft.fractionDigits_eq, hright.fractionDigits_eq, imbalancePpm]
  rcases left.checkedSub_cases right with ⟨hl, hr, hsub⟩ | ⟨hnot, hsub⟩
  swap
  · rw [hsub]
    exact iff_of_false not_exactOrErr_abort fun h => hnot ⟨h.1, h.2.1⟩
  rcases hsub with ⟨hsub, difference, hdifference, hvalue, hform⟩ | ⟨hsub, message, hmessage⟩
  swap
  · rw [hmessage]
    exact iff_of_true (Or.inr ⟨message, rfl⟩) ⟨hl, hr, fun h => absurd h hsub⟩
  rw [hdifference]
  show ExactOrErr (left.checkedAdd right >>= _) _ ↔ _
  rcases left.checkedAdd_cases right with ⟨-, -, hadd⟩ | ⟨hnot, -⟩
  swap
  · exact absurd ⟨hl, hr⟩ hnot
  rcases hadd with ⟨hadd, total, htotal, hvalue', hform'⟩ | ⟨hadd, message, hmessage⟩
  swap
  · rw [hmessage]
    exact iff_of_true (Or.inr ⟨message, rfl⟩) ⟨hl, hr, fun _ h => absurd h hadd⟩
  rw [htotal, ← hvalue, ← hvalue']
  show ExactOrErr (ratioPpm difference total) _ ↔ _
  rw [ratioPpm_iff hform hform']
  rw [← hvalue] at hsub
  rw [← hvalue'] at hadd
  exact ⟨fun h => ⟨hl, hr, fun _ _ => h⟩, fun h => h.2.2 hsub hadd⟩

/-! ## The theorem -/

/-- The sums of both lists are exact or refused, and so are their ratio and imbalance. -/
def AggregatesExactly (left right : List FixedDecimal) : Prop :=
  ExactOrErr (sumDecimals left) (fun sum => sum.value = total left) ∧
  ExactOrErr (sumDecimals right) (fun sum => sum.value = total right) ∧
  ∀ l r, sumDecimals left = .ok l → sumDecimals right = .ok r →
    ExactOrErr (ratioPpm l r) (fun ppm => ppm = exactPpm (total left) (total right)) ∧
    ExactOrErr (imbalancePpm l r)
      (fun ppm => ppm = exactPpm (total left - total right) (total left + total right))

/-- Every two numbers that are aligned fit at their larger scale. -/
def AggregatesAlign (left right : List FixedDecimal) : Prop :=
  SumAligns left ∧ SumAligns right ∧
    (Summable left → Summable right →
      RatioAligns (total left) (total right) ∧ ImbalanceAligns (total left) (total right))

theorem sum_exactOrErr_iff (values : List FixedDecimal) :
    ExactOrErr (sumDecimals values) (fun sum => sum.value = total values) ↔ SumAligns values := by
  cases sum_cases values with
  | exact hsum hvalue _ _ haligns => exact iff_of_true (Or.inl ⟨_, hsum, hvalue⟩) haligns
  | refused hsum _ haligns => exact iff_of_true (Or.inr ⟨_, hsum⟩) haligns
  | aborted hsum hnot =>
    rw [hsum]
    exact iff_of_false not_exactOrErr_abort hnot

variable {values : List FixedDecimal}

/-- A sum is returned exactly where every value meets a sum that fits and none is refused. -/
theorem sum_ok {sum : Amount} (h : sumDecimals values = .ok sum) :
    sum.value = total values ∧ sum.Canonical ∧ Summable values := by
  cases sum_cases values with
  | exact hsum hvalue hform hsummable _ =>
    obtain rfl := Except.ok.inj (hsum.symm.trans h)
    exact ⟨hvalue, hform, hsummable⟩
  | refused hsum _ _ =>
    rw [hsum] at h
    cases h
  | aborted hsum _ =>
    rw [hsum] at h
    cases h

theorem sum_of_summable (haligns : SumAligns values) (hsummable : Summable values) :
    ∃ sum, sumDecimals values = .ok sum := by
  cases sum_cases values with
  | exact hsum _ _ _ _ => exact ⟨_, hsum⟩
  | refused _ hnot _ => exact absurd hsummable hnot
  | aborted _ hnot => exact absurd haligns hnot

/-- **Aggregation is exact or refused exactly where every alignment fits an `i128`.** -/
theorem aggregates_exactly_iff (left right : List FixedDecimal) :
    AggregatesExactly left right ↔ AggregatesAlign left right := by
  rw [AggregatesExactly, AggregatesAlign, sum_exactOrErr_iff, sum_exactOrErr_iff]
  refine and_congr_right fun hleft => and_congr_right fun hright => ?_
  constructor
  · intro h hl hr
    obtain ⟨l, hsum⟩ := sum_of_summable hleft hl
    obtain ⟨r, hsum'⟩ := sum_of_summable hright hr
    obtain ⟨hvalue, hform, -⟩ := sum_ok hsum
    obtain ⟨hvalue', hform', -⟩ := sum_ok hsum'
    have hboth := h l r hsum hsum'
    rw [← hvalue, ← hvalue'] at hboth ⊢
    exact ⟨(ratioPpm_iff hform hform').mp hboth.1, (imbalancePpm_iff hform hform').mp hboth.2⟩
  · intro h l r hsum hsum'
    obtain ⟨hvalue, hform, hl⟩ := sum_ok hsum
    obtain ⟨hvalue', hform', hr⟩ := sum_ok hsum'
    have hboth := h hl hr
    rw [← hvalue, ← hvalue'] at hboth ⊢
    exact ⟨(ratioPpm_iff hform hform').mpr hboth.1, (imbalancePpm_iff hform hform').mpr hboth.2⟩

/-- Two quantities near the largest accepted one, and one of 18 digits behind the point. -/
def wideTexts : List String :=
  ["170000000000000000000", "170000000000000000000", "0.000000000000000001"]

/-- **A sum aborts**: it is accepted value by value, but too large for the scale of the last. -/
theorem wide_sum_aborts :
    ∃ values, wideTexts.mapM (FixedDecimal.parse id) = .ok values ∧
      ¬ AggregatesExactly values [] := by
  have hrun : (wideTexts.mapM (FixedDecimal.parse id)).map sumDecimals = .ok (.error .abort) := by
    decide +kernel
  obtain ⟨values, hvalues, habort⟩ := map_eq_ok.mp hrun
  refine ⟨values, hvalues, fun h => ?_⟩
  rw [AggregatesExactly, habort] at h
  exact not_exactOrErr_abort h.1

end LobReplay.Book
