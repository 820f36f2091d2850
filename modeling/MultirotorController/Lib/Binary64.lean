import Mathlib.Data.Int.Log
import MultirotorController.Lib.Double

/-!
# Rounding to binary64

The numbers of the format are multiples of a power of two that grows with their
size, so that 53 bits hold the multiple. A number is rounded to the nearest one,
ties to the even multiple; what would need a larger exponent becomes an infinity.
The arithmetic of `Double` is exact, and an operation of the format is the exact
one, rounded.
-/

namespace Binary64

/-- The nearest integer, ties to the even one. -/
def roundEven (q : ℚ) : ℤ :=
  if q - ⌊q⌋ < 1 / 2 then ⌊q⌋
  else if 1 / 2 < q - ⌊q⌋ then ⌊q⌋ + 1
  else if ⌊q⌋ % 2 = 0 then ⌊q⌋
  else ⌊q⌋ + 1

/-- The exponent of the last of the 53 bits, which does not fall below that of the subnormals. -/
def exponent (q : ℚ) : ℤ := if q = 0 then -1074 else max (Int.log 2 |q| - 52) (-1074)

/-- The distance between the numbers of the format around this one. -/
def spacing (q : ℚ) : ℚ := 2 ^ exponent q

/-- The nearest number of the format without a largest exponent. -/
def nearest (q : ℚ) : ℚ := roundEven (q / spacing q) * spacing q

/-- The first power of two that is too large. -/
def limit : ℚ := 2 ^ (1024 : ℤ)

def round (q : ℚ) : Double :=
  if |nearest q| < limit then .fin (nearest q) else .inf (decide (nearest q < 0))

section RoundEven

theorem floor_le_roundEven (q : ℚ) : ⌊q⌋ ≤ roundEven q := by
  unfold roundEven
  split_ifs <;> omega

theorem roundEven_le_floor_add_one (q : ℚ) : roundEven q ≤ ⌊q⌋ + 1 := by
  unfold roundEven
  split_ifs <;> omega

theorem roundEven_mono {a b : ℚ} (ordered : a ≤ b) : roundEven a ≤ roundEven b := by
  rcases (Int.floor_le_floor ordered).lt_or_eq with below | same
  · have upper := roundEven_le_floor_add_one a
    have lower := floor_le_roundEven b
    omega
  · have parts : a - ⌊a⌋ ≤ b - ⌊b⌋ := by
      rw [same]
      linarith
    unfold roundEven
    rw [same] at parts ⊢
    split_ifs <;> first | omega | (exfalso; linarith)

@[simp] theorem roundEven_intCast (n : ℤ) : roundEven n = n := by
  unfold roundEven
  rw [Int.floor_intCast, sub_self, if_pos (by norm_num)]

/-- A multiple is passed by no rounding. -/
theorem le_roundEven {n : ℤ} {q : ℚ} (below : (n : ℚ) ≤ q) : n ≤ roundEven q := by
  rw [← roundEven_intCast n]
  exact roundEven_mono below

theorem roundEven_le {n : ℤ} {q : ℚ} (above : q ≤ (n : ℚ)) : roundEven q ≤ n := by
  rw [← roundEven_intCast n]
  exact roundEven_mono above

theorem roundEven_neg (q : ℚ) : roundEven (-q) = -roundEven q := by
  by_cases whole : (⌊q⌋ : ℚ) = q
  · rw [← whole, ← Int.cast_neg, roundEven_intCast, roundEven_intCast]
  · have above : (⌊q⌋ : ℚ) < q := lt_of_le_of_ne (Int.floor_le q) whole
    have floor : ⌊-q⌋ = -⌊q⌋ - 1 := by
      rw [Int.floor_eq_iff]
      have below := Int.lt_floor_add_one q
      push_cast
      exact ⟨by linarith, by linarith⟩
    unfold roundEven
    rw [floor]
    push_cast
    split_ifs <;> first | omega | (exfalso; linarith)

/-- The rounded integer is at most one half away. -/
theorem abs_roundEven_sub_le (q : ℚ) : |(roundEven q : ℚ) - q| ≤ 1 / 2 := by
  have low := Int.floor_le q
  have high := Int.lt_floor_add_one q
  unfold roundEven
  rw [abs_le]
  split_ifs <;> push_cast <;> constructor <;> linarith

end RoundEven

section Nearest

theorem spacing_pos (q : ℚ) : 0 < spacing q := zpow_pos (by norm_num) _

theorem exponent_of_pos {q : ℚ} (positive : 0 < q) :
    exponent q = max (Int.log 2 q - 52) (-1074) := by
  rw [exponent, if_neg positive.ne', abs_of_pos positive]

theorem le_exponent (q : ℚ) : -1074 ≤ exponent q := by
  unfold exponent
  split
  · exact le_refl _
  · exact le_max_right _ _

/-- What is below a power of two has a small exponent. -/
theorem exponent_le {q : ℚ} {k : ℤ} (bounded : |q| < 2 ^ k) (normal : -1021 ≤ k) :
    exponent q ≤ k - 53 := by
  unfold exponent
  split
  · omega
  next nonzero =>
    have below : Int.log 2 |q| < k :=
      (Int.lt_zpow_iff_log_lt Nat.one_lt_two (abs_pos.mpr nonzero)).mp (by exact_mod_cast bounded)
    omega

@[simp] theorem spacing_neg (q : ℚ) : spacing (-q) = spacing q := by
  simp only [spacing, exponent, abs_neg, neg_eq_zero]

theorem nearest_neg (q : ℚ) : nearest (-q) = -nearest q := by
  unfold nearest
  rw [spacing_neg, neg_div, roundEven_neg]
  push_cast
  ring

@[simp] theorem nearest_zero : nearest 0 = 0 := by
  have zero : roundEven 0 = 0 := roundEven_intCast 0
  rw [nearest, zero_div, zero, Int.cast_zero, zero_mul]

theorem nearest_nonneg {q : ℚ} (nonneg : 0 ≤ q) : 0 ≤ nearest q := by
  have rounded : (0 : ℤ) ≤ roundEven (q / spacing q) := by
    apply le_roundEven
    rw [Int.cast_zero]
    exact div_nonneg nonneg (spacing_pos q).le
  exact mul_nonneg (by exact_mod_cast rounded) (spacing_pos q).le

/-- A multiple of the spacing bounds the rounded number with the number. -/
theorem nearest_le {q : ℚ} {n : ℤ} (above : q ≤ n * spacing q) :
    nearest q ≤ n * spacing q := by
  have rounded : roundEven (q / spacing q) ≤ n := by
    apply roundEven_le
    rwa [div_le_iff₀ (spacing_pos q)]
  exact mul_le_mul_of_nonneg_right (by exact_mod_cast rounded) (spacing_pos q).le

theorem le_nearest {q : ℚ} {n : ℤ} (below : n * spacing q ≤ q) :
    n * spacing q ≤ nearest q := by
  have rounded : n ≤ roundEven (q / spacing q) := by
    apply le_roundEven
    rwa [le_div_iff₀ (spacing_pos q)]
  exact mul_le_mul_of_nonneg_right (by exact_mod_cast rounded) (spacing_pos q).le

/-- A power of two that the spacing divides bounds it as well. -/
theorem nearest_le_zpow {q : ℚ} {k : ℤ} (divides : exponent q ≤ k) (above : q ≤ 2 ^ k) :
    nearest q ≤ 2 ^ k := by
  obtain ⟨n, difference⟩ := Int.eq_ofNat_of_zero_le (sub_nonneg.mpr divides)
  have multiple : (2 : ℚ) ^ k = ((2 ^ n : ℤ) : ℚ) * spacing q := by
    have sum : k = n + exponent q := by omega
    rw [spacing, sum, zpow_add₀ (by norm_num), zpow_natCast]
    push_cast
    rfl
  rw [multiple] at above ⊢
  exact nearest_le above

theorem zpow_le_nearest {q : ℚ} {k : ℤ} (divides : exponent q ≤ k) (below : 2 ^ k ≤ q) :
    2 ^ k ≤ nearest q := by
  obtain ⟨n, difference⟩ := Int.eq_ofNat_of_zero_le (sub_nonneg.mpr divides)
  have multiple : (2 : ℚ) ^ k = ((2 ^ n : ℤ) : ℚ) * spacing q := by
    have sum : k = n + exponent q := by omega
    rw [spacing, sum, zpow_add₀ (by norm_num), zpow_natCast]
    push_cast
    rfl
  rw [multiple] at below ⊢
  exact le_nearest below

/-- Rounding keeps the order: where the spacing grows, a power of two lies between. -/
theorem nearest_mono_of_pos {a b : ℚ} (positive : 0 < a) (ordered : a ≤ b) :
    nearest a ≤ nearest b := by
  have positive' : 0 < b := positive.trans_le ordered
  have logs : Int.log 2 a ≤ Int.log 2 b := Int.log_mono_right positive ordered
  have exponentA := exponent_of_pos positive
  have exponentB := exponent_of_pos positive'
  rcases eq_or_ne (exponent a) (exponent b) with same | differ
  · have spacings : spacing a = spacing b := by rw [spacing, same, spacing]
    unfold nearest
    rw [spacings]
    have rounded : roundEven (a / spacing b) ≤ roundEven (b / spacing b) :=
      roundEven_mono (div_le_div_of_nonneg_right ordered (spacing_pos b).le)
    exact mul_le_mul_of_nonneg_right (by exact_mod_cast rounded) (spacing_pos b).le
  · have grows : Int.log 2 a < Int.log 2 b ∧ exponent a ≤ Int.log 2 b ∧
        exponent b ≤ Int.log 2 b := by omega
    have below : a ≤ 2 ^ Int.log 2 b := by
      have upper := Int.lt_zpow_succ_log_self (Nat.one_lt_two) a
      refine upper.le.trans ?_
      push_cast
      exact zpow_le_zpow_right₀ (by norm_num) (by omega)
    have above : 2 ^ Int.log 2 b ≤ b := by
      have lower := Int.zpow_log_le_self (Nat.one_lt_two) positive'
      push_cast at lower
      exact lower
    exact (nearest_le_zpow grows.2.1 below).trans (zpow_le_nearest grows.2.2 above)

theorem nearest_mono {a b : ℚ} (ordered : a ≤ b) : nearest a ≤ nearest b := by
  rcases lt_trichotomy 0 a with positive | zero | negative
  · exact nearest_mono_of_pos positive ordered
  · subst zero
    rw [nearest_zero]
    exact nearest_nonneg ordered
  · rcases lt_or_ge b 0 with negative' | nonneg
    · have mirrored := nearest_mono_of_pos (neg_pos.mpr negative') (neg_le_neg ordered)
      rw [nearest_neg, nearest_neg] at mirrored
      linarith
    · have mirrored := nearest_nonneg (neg_nonneg.mpr negative.le)
      rw [nearest_neg] at mirrored
      have upper := nearest_nonneg nonneg
      linarith

end Nearest

/-- A number of the format, of any size. -/
def Fits (q : ℚ) : Prop := nearest q = q

section Fits

theorem Fits.neg {q : ℚ} (fits : Fits q) : Fits (-q) := by
  rw [Fits, nearest_neg, fits]

/-- A multiple of the spacing is where it was. -/
theorem nearest_of_multiple {q : ℚ} {n : ℤ} (multiple : q = n * spacing q) : Fits q := by
  have quotient : q / spacing q = n := by
    rw [div_eq_iff (spacing_pos q).ne']
    exact multiple
  rw [Fits, nearest, quotient, roundEven_intCast, ← multiple]

/-- A coarser power of two is a multiple of the spacing. -/
theorem zpow_eq_mul_spacing {q : ℚ} {e : ℤ} (coarser : exponent q ≤ e) :
    ∃ n : ℤ, (2 : ℚ) ^ e = n * spacing q := by
  obtain ⟨k, difference⟩ := Int.eq_ofNat_of_zero_le (sub_nonneg.mpr coarser)
  refine ⟨2 ^ k, ?_⟩
  have sum : e = k + exponent q := by omega
  rw [spacing, sum, zpow_add₀ (by norm_num), zpow_natCast]
  push_cast
  rfl

/-- A multiple of a power of two that 53 bits hold. -/
theorem fits_of_lt {n e : ℤ} (short : |n| < 2 ^ 53) (large : -1074 ≤ e) :
    Fits (n * 2 ^ e) := by
  have bounded : |(n : ℚ) * 2 ^ e| < 2 ^ (e + 53) := by
    have short : |(n : ℚ)| < 2 ^ 53 := by exact_mod_cast short
    have positive : (0 : ℚ) < 2 ^ e := zpow_pos (by norm_num) e
    rw [abs_mul, abs_of_pos positive, zpow_add₀ (by norm_num), mul_comm]
    exact mul_lt_mul_of_pos_left (by exact_mod_cast short) positive
  have small := exponent_le bounded (by omega)
  obtain ⟨k, multiple⟩ := zpow_eq_mul_spacing (q := n * 2 ^ e) (e := e) (by omega)
  apply nearest_of_multiple (n := n * k)
  rw [Int.cast_mul, mul_assoc, ← multiple]

theorem fits_zpow {e : ℤ} (large : -1074 ≤ e) : Fits (2 ^ e) := by
  have one := fits_of_lt (n := 1) (by norm_num) large
  rwa [Int.cast_one, one_mul] at one

theorem fits_of_le {n e : ℤ} (short : |n| ≤ 2 ^ 53) (large : -1074 ≤ e) :
    Fits (n * 2 ^ e) := by
  rcases short.lt_or_eq with below | full
  · exact fits_of_lt below large
  · have power := fits_zpow (e := 53 + e) (by omega)
    rw [zpow_add₀ (by norm_num)] at power
    rcases abs_eq (by norm_num) |>.mp full with same | same
    · rw [same]
      exact_mod_cast power
    · rw [same]
      push_cast
      rw [neg_mul]
      exact_mod_cast power.neg

theorem fits_intCast {n : ℤ} (short : |n| ≤ 2 ^ 53) : Fits n := by
  have fits := fits_of_le (e := 0) short (by norm_num)
  rwa [zpow_zero, mul_one] at fits

theorem fits_natCast {n : Nat} (short : n ≤ 2 ^ 53) : Fits n := by
  have bounded : |(n : ℤ)| ≤ 2 ^ 53 := by
    rw [Nat.abs_cast]
    exact_mod_cast short
  exact_mod_cast fits_intCast bounded

theorem fits_one : Fits 1 := by
  exact_mod_cast fits_natCast (n := 1) (by norm_num)

/-- The multiple of the spacing needs no more than 53 bits. -/
theorem abs_roundEven_le (q : ℚ) : |roundEven (q / spacing q)| ≤ 2 ^ 53 := by
  have size : |q| ≤ 2 ^ 53 * spacing q := by
    rcases eq_or_ne q 0 with zero | nonzero
    · rw [zero, abs_zero]
      exact mul_nonneg (by norm_num) (spacing_pos 0).le
    · have upper := (Int.lt_zpow_succ_log_self Nat.one_lt_two |q|).le
      refine upper.trans ?_
      rw [spacing, exponent, if_neg nonzero, ← zpow_natCast, ← zpow_add₀ (by norm_num)]
      push_cast
      exact zpow_le_zpow_right₀ (by norm_num) (by omega)
  have quotient : |q / spacing q| ≤ 2 ^ 53 := by
    rwa [abs_div, abs_of_pos (spacing_pos q), div_le_iff₀ (spacing_pos q)]
  obtain ⟨lower, upper⟩ := abs_le.mp quotient
  refine abs_le.mpr ⟨?_, ?_⟩
  · apply le_roundEven
    push_cast
    exact lower
  · apply roundEven_le
    push_cast
    exact upper

theorem fits_nearest (q : ℚ) : Fits (nearest q) :=
  fits_of_le (abs_roundEven_le q) (le_exponent q)

/-- Rounding does not pass a number of the format. -/
theorem nearest_le_of_fits {q d : ℚ} (fits : Fits d) (above : q ≤ d) : nearest q ≤ d :=
  (nearest_mono above).trans_eq fits

theorem le_nearest_of_fits {q d : ℚ} (fits : Fits d) (below : d ≤ q) : d ≤ nearest q :=
  fits.symm.trans_le (nearest_mono below)

/-- No integer is nearer than the rounded one. -/
theorem abs_roundEven_sub_le_intCast (q : ℚ) (n : ℤ) : |(roundEven q : ℚ) - q| ≤ |(n : ℚ) - q| := by
  by_contra nearer
  have half := abs_roundEven_sub_le q
  have apart : |((n - roundEven q : ℤ) : ℚ)| < 1 := by
    have triangle := abs_sub_le (n : ℚ) q (roundEven q)
    rw [abs_sub_comm q] at triangle
    push_cast
    linarith
  have same : n - roundEven q = 0 := Int.abs_lt_one_iff.mp (by exact_mod_cast apart)
  rw [sub_eq_zero.mp same] at nearer
  exact nearer (le_refl _)

/-- The rounded number is half a spacing away at the most. -/
theorem abs_nearest_sub_le (q : ℚ) : |nearest q - q| ≤ spacing q / 2 := by
  have positive := spacing_pos q
  have difference : nearest q - q = (roundEven (q / spacing q) - q / spacing q) * spacing q := by
    rw [sub_mul, div_mul_cancel₀ _ positive.ne']
    rfl
  rw [difference, abs_mul, abs_of_pos positive]
  have half := mul_le_mul_of_nonneg_right (abs_roundEven_sub_le (q / spacing q)) positive.le
  linarith

theorem abs_nearest_sub_le_zpow {q : ℚ} {k : ℤ} (bounded : |q| < 2 ^ k) (normal : -1021 ≤ k) :
    |nearest q - q| ≤ 2 ^ (k - 54) := by
  refine (abs_nearest_sub_le q).trans ?_
  have spacing : spacing q ≤ 2 ^ (k - 53) :=
    zpow_le_zpow_right₀ (by norm_num) (exponent_le bounded normal)
  have halved : (2 : ℚ) ^ (k - 53) = 2 ^ (k - 54) * 2 := by
    rw [← zpow_add_one₀ (by norm_num)]
    congr 1
    omega
  linarith

/-- No multiple of the spacing is nearer than the rounded number. -/
theorem abs_nearest_sub_le_multiple (q : ℚ) (n : ℤ) :
    |nearest q - q| ≤ |n * spacing q - q| := by
  have positive := spacing_pos q
  have scaled (m : ℤ) : m * spacing q - q = (m - q / spacing q) * spacing q := by
    rw [sub_mul, div_mul_cancel₀ _ positive.ne']
  rw [nearest, scaled, scaled, abs_mul, abs_mul]
  exact mul_le_mul_of_nonneg_right (abs_roundEven_sub_le_intCast _ n) (abs_nonneg _)

/-- No number of the format is nearer than the rounded one: what is spaced more closely lies
beyond a power of two. -/
theorem abs_nearest_sub_le_of_fits {q d : ℚ} (positive : 0 < q) (fits : Fits d) :
    |nearest q - q| ≤ |d - q| := by
  rcases le_or_gt (exponent q) (exponent d) with coarser | finer
  · obtain ⟨k, multiple⟩ := zpow_eq_mul_spacing coarser
    have same : d = (roundEven (d / spacing d) * k : ℤ) * spacing q := by
      rw [Int.cast_mul, mul_assoc, ← multiple]
      exact fits.symm
    rw [same]
    exact abs_nearest_sub_le_multiple q _
  · have large := le_exponent d
    have normal := exponent_of_pos positive
    obtain ⟨k, multiple⟩ := zpow_eq_mul_spacing (q := q) (e := Int.log 2 q) (by omega)
    have lower : (2 : ℚ) ^ Int.log 2 q ≤ q := by
      exact_mod_cast Int.zpow_log_le_self Nat.one_lt_two positive
    have below : d ≤ 2 ^ Int.log 2 q := by
      by_contra above
      have logs : Int.log 2 q ≤ Int.log 2 d :=
        (Int.zpow_le_iff_le_log Nat.one_lt_two ((zpow_pos (by norm_num) _).trans
          (not_le.mp above))).mp (by exact_mod_cast (not_le.mp above).le)
      have other := exponent_of_pos ((zpow_pos (by norm_num : (0 : ℚ) < 2) _).trans
        (not_le.mp above))
      omega
    refine (abs_nearest_sub_le_multiple q k).trans ?_
    rw [← multiple, abs_of_nonpos (by linarith), abs_of_nonpos (by linarith)]
    linarith

end Fits

/-- The next number of the format, for one that is not negative. -/
def above (q : ℚ) : ℚ := q + spacing q

/-- The exponent of the numbers just below a positive one. -/
def exponentBelow (q : ℚ) : ℤ :=
  max (Int.log 2 q - if q = 2 ^ Int.log 2 q then 53 else 52) (-1074)

/-- The number of the format before a positive one. -/
def below (q : ℚ) : ℚ := q - 2 ^ exponentBelow q

section Neighbours

variable {q : ℚ}

theorem lt_above (q : ℚ) : q < above q := lt_add_of_pos_right q (spacing_pos q)

theorem below_lt (q : ℚ) : below q < q := sub_lt_self q (zpow_pos (by norm_num) _)

/-- A number of the format is a multiple of its spacing, short of the longest. -/
theorem Fits.eq_mul_spacing (fits : Fits q) : q = roundEven (q / spacing q) * spacing q :=
  fits.symm

theorem fits_above (nonneg : 0 ≤ q) (fits : Fits q) : Fits (above q) := by
  have multiple := fits.eq_mul_spacing
  have short : roundEven (q / spacing q) < 2 ^ 53 := by
    have size : q < 2 ^ 53 * spacing q := by
      rcases nonneg.eq_or_lt with zero | positive
      · rw [← zero]
        exact mul_pos (by norm_num) (spacing_pos 0)
      · have upper := Int.lt_zpow_succ_log_self Nat.one_lt_two q
        refine upper.trans_le ?_
        rw [spacing, exponent_of_pos positive, ← zpow_natCast, ← zpow_add₀ (by norm_num)]
        push_cast
        exact zpow_le_zpow_right₀ (by norm_num) (by omega)
    have below := lt_of_mul_lt_mul_right (multiple.symm.trans_lt size) (spacing_pos q).le
    exact_mod_cast below
  have rounded : 0 ≤ roundEven (q / spacing q) := by
    apply le_roundEven
    push_cast
    exact div_nonneg nonneg (spacing_pos q).le
  have next : above q = (roundEven (q / spacing q) + 1 : ℤ) * 2 ^ exponent q := by
    rw [Int.cast_add, Int.cast_one, add_mul, one_mul]
    exact congrArg (· + spacing q) multiple
  rw [next]
  exact fits_of_le (abs_le.mpr ⟨by omega, by omega⟩) (le_exponent q)

/-- A positive number of the format is a positive multiple of the spacing below it. -/
theorem eq_mul_zpow_exponentBelow (positive : 0 < q) (fits : Fits q) :
    ∃ n : ℤ, 0 < n ∧ n ≤ 2 ^ 53 ∧ q = n * 2 ^ exponentBelow q := by
  have multiple := fits.eq_mul_spacing
  have counted : 0 < roundEven (q / spacing q) := by
    have product := positive.trans_eq multiple
    exact_mod_cast pos_of_mul_pos_left product (spacing_pos q).le
  by_cases power : q = 2 ^ Int.log 2 q
  · have least : (2 : ℚ) ^ (-1074 : ℤ) ≤ q := by
      have one : (1 : ℚ) ≤ roundEven (q / spacing q) := by exact_mod_cast counted
      have grid : (2 : ℚ) ^ (-1074 : ℤ) ≤ spacing q :=
        zpow_le_zpow_right₀ (by norm_num) (le_exponent q)
      rw [multiple]
      exact grid.trans (le_mul_of_one_le_left (spacing_pos q).le one)
    have large : -1074 ≤ Int.log 2 q :=
      (Int.zpow_le_iff_le_log Nat.one_lt_two positive).mp (by exact_mod_cast least)
    have exponent : exponentBelow q = max (Int.log 2 q - 53) (-1074) := by
      rw [exponentBelow, if_pos power]
    obtain ⟨k, difference⟩ := Int.eq_ofNat_of_zero_le
      (show 0 ≤ Int.log 2 q - exponentBelow q by omega)
    refine ⟨2 ^ k, by positivity, pow_le_pow_right₀ (by norm_num) (by omega), ?_⟩
    have sum : Int.log 2 q = k + exponentBelow q := by omega
    calc q = 2 ^ Int.log 2 q := power
      _ = 2 ^ ((k : ℤ) + exponentBelow q) := by rw [sum]
      _ = (2 ^ k : ℤ) * 2 ^ exponentBelow q := by
        rw [zpow_add₀ (by norm_num), zpow_natCast]
        push_cast
        rfl
  · have same : exponentBelow q = exponent q := by
      rw [exponentBelow, if_neg power, exponent_of_pos positive]
    rw [same]
    exact ⟨_, counted, (abs_le.mp (abs_roundEven_le q)).2, multiple⟩

theorem fits_below (positive : 0 < q) (fits : Fits q) : Fits (below q) ∧ 0 ≤ below q := by
  obtain ⟨n, lower, upper, multiple⟩ := eq_mul_zpow_exponentBelow positive fits
  have large : -1074 ≤ exponentBelow q := le_max_right _ _
  have previous : below q = (n - 1 : ℤ) * 2 ^ exponentBelow q := by
    rw [Int.cast_sub, Int.cast_one, sub_mul, one_mul, ← multiple]
    rfl
  rw [previous]
  refine ⟨fits_of_le (abs_le.mpr ⟨by omega, by omega⟩) large, ?_⟩
  exact mul_nonneg (by exact_mod_cast (by omega : 0 ≤ n - 1)) (zpow_pos (by norm_num) _).le

/-- Below a number the spacing is no wider than the step to the one before. -/
theorem spacing_le_sub_below {x : ℚ} (positive : 0 < x) (smaller : x < q) :
    spacing x ≤ q - below q := by
  have positive' := positive.trans smaller
  have step : q - below q = 2 ^ exponentBelow q := sub_sub_cancel _ _
  rw [step, spacing, exponent_of_pos positive, exponentBelow]
  apply zpow_le_zpow_right₀ (by norm_num)
  have logs : Int.log 2 x ≤ Int.log 2 q := Int.log_mono_right positive smaller.le
  split
  next power =>
    rw [power] at smaller
    have smaller : Int.log 2 x < Int.log 2 q :=
      (Int.lt_zpow_iff_log_lt Nat.one_lt_two positive).mp (by exact_mod_cast smaller)
    omega
  · omega

/-- What was rounded to a number lies no further than the next one. -/
theorem le_above_nearest {x : ℚ} (positive : 0 < x) : x ≤ above (nearest x) := by
  have fits := fits_above (nearest_nonneg positive.le) (fits_nearest x)
  have passed := lt_above (nearest x)
  by_contra beyond
  rw [not_le] at beyond
  have closest := abs_nearest_sub_le_of_fits positive fits
  rw [abs_of_nonpos (by linarith), abs_of_nonpos (by linarith)] at closest
  linarith

/-- What was rounded to a positive number lies no nearer to the one before. -/
theorem nearest_add_below_le {x : ℚ} (positive : 0 < nearest x) :
    nearest x + below (nearest x) ≤ 2 * x := by
  have previous := below_lt (nearest x)
  have positive' : 0 < x := by
    by_contra notPositive
    have rounded := nearest_mono (not_lt.mp notPositive)
    rw [nearest_zero] at rounded
    linarith
  rcases le_or_gt (nearest x) x with down | up
  · linarith
  · have closest := abs_nearest_sub_le_of_fits positive' (fits_below positive (fits_nearest x)).1
    rw [abs_of_pos (by linarith)] at closest
    rcases abs_cases (below (nearest x) - x) with ⟨same, _⟩ | ⟨same, _⟩ <;> linarith

end Neighbours

section Round

theorem round_mono {a b : ℚ} (ordered : a ≤ b) : round a ≤ round b := by
  have rounded := nearest_mono ordered
  unfold round
  split_ifs with inside inside' inside'
  · exact (Double.fin_le_fin _ _).mpr rounded
  · rw [Double.fin_le_inf, decide_eq_false_iff_not, not_lt]
    by_contra negative
    rw [abs_of_neg (not_le.mp negative), not_lt] at inside'
    have lower := (abs_lt.mp inside).1
    linarith
  · rw [Double.inf_le_fin, decide_eq_true_iff]
    by_contra nonneg
    rw [abs_of_nonneg (not_lt.mp nonneg), not_lt] at inside
    have upper := (abs_lt.mp inside').2
    linarith
  · rw [Double.inf_le_inf, decide_eq_true_iff, decide_eq_false_iff_not]
    rcases lt_or_ge (nearest a) 0 with negative | nonneg
    · exact .inl negative
    · exact .inr (not_lt.mpr (nonneg.trans rounded))

/-- What is no larger than a power of two within the format is rounded to a number. -/
theorem round_of_abs_le {q : ℚ} {k : ℤ} (inside : -1074 ≤ k ∧ k < 1024)
    (bounded : |q| ≤ 2 ^ k) : round q = .fin (nearest q) := by
  have within (p : ℚ) (small : |p| ≤ 2 ^ k) : nearest p ≤ 2 ^ k := by
    rcases eq_or_ne p 0 with zero | nonzero
    · rw [zero, nearest_zero]
      exact (zpow_pos (by norm_num) k).le
    · have log : Int.log 2 |p| ≤ Int.log 2 ((2 : ℚ) ^ k) :=
        Int.log_mono_right (abs_pos.mpr nonzero) small
      have power : Int.log 2 ((2 : ℚ) ^ k) = k := by
        exact_mod_cast Int.log_zpow (R := ℚ) Nat.one_lt_two k
      have divides : exponent p ≤ k := by
        rw [exponent, if_neg nonzero]
        omega
      exact nearest_le_zpow divides ((le_abs_self p).trans small)
  have upper := within q bounded
  have lower := within (-q) (by rwa [abs_neg])
  rw [nearest_neg] at lower
  have power : (2 : ℚ) ^ k < limit := zpow_lt_zpow_right₀ (by norm_num) inside.2
  unfold round
  rw [if_pos]
  exact abs_lt.mpr ⟨by linarith, by linarith⟩

theorem round_of_fits {q : ℚ} (fits : Fits q) (inside : |q| < limit) : round q = .fin q := by
  unfold round
  rw [Fits] at fits
  rw [fits, if_pos inside]

end Round

/-- The largest number. -/
def largest : ℚ := (2 ^ 53 - 1) * 2 ^ (971 : ℤ)

theorem largest_pos : 0 < largest := mul_pos (by norm_num) (zpow_pos (by norm_num) _)

end Binary64

/-- A value as an operation of the format returns it. -/
def Double.rounded : Double → Double
  | .fin q => Binary64.round q
  | special => special

/-- Rounding keeps the order of the numbers, so that it cannot set them apart. -/
theorem Double.lt_of_rounded_lt {a b : Double} (finite : a.isFinite = true)
    (finite' : b.isFinite = true) (below : a.rounded < b.rounded) : a < b := by
  obtain ⟨p, rfl⟩ := Double.exists_eq_fin finite
  obtain ⟨q, rfl⟩ := Double.exists_eq_fin finite'
  rw [Double.fin_lt_fin]
  by_contra above
  exact Double.not_lt_of_le (Binary64.round_mono (not_lt.mp above)) below

/-- `std::nextafter` towards the positive infinity. -/
def Double.nextUp : Double → Double
  | .fin q => if q < 0 then .fin (-Binary64.below (-q)) else Binary64.round (Binary64.above q)
  | .inf true => .fin (-Binary64.largest)
  | special => special

/-- `std::nextafter` towards the negative infinity. -/
def Double.nextDown (value : Double) : Double := -(-value).nextUp

theorem Double.nextDown_fin {q : ℚ} (positive : 0 < q) :
    (Double.fin q).nextDown = .fin (Binary64.below q) := by
  change -(if -q < 0 then Double.fin (-Binary64.below (- -q)) else _) = _
  rw [if_pos (neg_lt_zero.mpr positive), neg_neg]
  change Double.fin (- -Binary64.below q) = _
  rw [neg_neg]

theorem Double.nextUp_fin {q : ℚ} (nonneg : 0 ≤ q) (fits : Binary64.Fits q)
    (inside : Binary64.above q < Binary64.limit) :
    (Double.fin q).nextUp = .fin (Binary64.above q) := by
  have positive := nonneg.trans_lt (Binary64.lt_above q)
  change (if q < 0 then _ else Binary64.round (Binary64.above q)) = _
  rw [if_neg nonneg.not_gt, Binary64.round_of_fits (Binary64.fits_above nonneg fits)]
  rwa [abs_of_pos positive]
