import MultirotorController.Common.TimeOrder
import MultirotorController.Common.TimeSpans
import MultirotorController.Lib.Binary64

/-!
# The clock of seconds in binary64

`toSec` and the constructor from seconds, with every operation rounded as the source's
doubles are. Several ticks share one number of seconds, and a time that went through
seconds may come back some ticks away. Both ways keep the order, and the lemmas below
bound how far they stray.
-/

namespace MultirotorController

open Binary64

/-- The constant `1e-9`. -/
def nanosecond : Double := (1e-9 : Double).rounded

namespace Time

/-- `toSec` with its product and its sum rounded. -/
def toSecRounded (t : Time) : Double :=
  (.fin t.sec.toNat + (nanosecond * .fin t.nsec.toNat).rounded).rounded

/-- The constructor from a number of seconds, with its difference and its product rounded. -/
def fromSecRounded (t : Double) : Except RuntimeError Time :=
  if t < 0 then .error ⟨"Time cannot be negative."⟩
  else if ¬ t.isFinite then .error ⟨"Time has to be finite."⟩
  else if 9223372036854775808 ≤ t then .error ⟨"Time is out of 64-bit integer range"⟩
  else
    let sec64 := t.floorInt
    if sec64 > 4294967295 then .error outOfRange
    else
      let nsec := ((t - .fin sec64).rounded * 1000000000).rounded.roundInt
      .ok { sec := UInt32.ofInt sec64 + UInt32.ofInt (nsec / 1000000000)
            nsec := UInt32.ofInt (nsec % 1000000000) }

end Time

namespace RoundedClock

section Seconds

/-- A nanosecond, rounded to a number of the format. -/
def nano : ℚ := nearest (1 / 1000000000)

/-- The part below a second, as the product is rounded. -/
def fraction (nanos : Nat) : ℚ := nearest (nano * nanos)

/-- The seconds of a tick before the sum is rounded. -/
def clockSum (tick : Nat) : ℚ := (tick / 1000000000 : Nat) + fraction (tick % 1000000000)

/-- The seconds of a tick. -/
def clockSeconds (tick : Nat) : ℚ := nearest (clockSum tick)

theorem nano_near : |nano - 1 / 1000000000| ≤ 1 / 2 ^ 83 := by
  have near := abs_nearest_sub_le_zpow (q := 1 / 1000000000) (k := -29)
    (by rw [abs_of_pos (by norm_num)]; norm_num) (by norm_num)
  rw [nano]
  refine near.trans_eq ?_
  norm_num

theorem nano_bounds : 0 ≤ nano ∧ nano * 1000000000 ≤ 1 + 1 / 10 ^ 15 := by
  have near := abs_le.mp nano_near
  norm_num at near
  constructor <;> linarith

variable {nanos : Nat}

theorem fraction_nonneg : 0 ≤ fraction nanos :=
  nearest_nonneg (mul_nonneg nano_bounds.1 (Nat.cast_nonneg _))

theorem fraction_mono {a b : Nat} (ordered : a ≤ b) : fraction a ≤ fraction b :=
  nearest_mono (mul_le_mul_of_nonneg_left (Nat.cast_le.mpr ordered) nano_bounds.1)

/-- What is below a second stays so. -/
theorem fraction_le_one (small : nanos < 1000000000) : fraction nanos ≤ 1 := by
  apply nearest_le_of_fits fits_one
  have most : (nanos : ℚ) ≤ 999999999 := by exact_mod_cast Nat.le_of_lt_succ small
  have product := mul_le_mul_of_nonneg_left most nano_bounds.1
  have near := (abs_le.mp nano_near).2
  norm_num at near
  linarith

theorem fraction_near (small : nanos < 1000000000) :
    |fraction nanos - nanos / 1000000000| ≤ 1 / 10 ^ 15 := by
  have most : (nanos : ℚ) ≤ 1000000000 := by exact_mod_cast small.le
  have nonneg : (0 : ℚ) ≤ nanos := Nat.cast_nonneg _
  have product := mul_le_mul_of_nonneg_left most nano_bounds.1
  have size : |nano * nanos| < 2 ^ (1 : ℤ) := by
    rw [abs_of_nonneg (mul_nonneg nano_bounds.1 nonneg)]
    have bound := nano_bounds.2
    norm_num at bound ⊢
    linarith
  have rounding : |fraction nanos - nano * nanos| ≤ 2 ^ ((1 : ℤ) - 54) :=
    abs_nearest_sub_le_zpow size (by norm_num)
  have constant : |nano * nanos - nanos / 1000000000| ≤ 1 / 2 ^ 83 * 1000000000 := by
    have factored : nano * nanos - nanos / 1000000000 = (nano - 1 / 1000000000) * nanos := by ring
    rw [factored, abs_mul, abs_of_nonneg nonneg]
    exact mul_le_mul nano_near most nonneg (by norm_num)
  have triangle := abs_sub_le (fraction nanos) (nano * nanos) (nanos / 1000000000)
  norm_num at rounding constant ⊢
  linarith

variable {tick : Nat}

theorem tick_div_billion : (tick : ℚ) / 1000000000 =
    (tick / 1000000000 : Nat) + (tick % 1000000000 : Nat) / 1000000000 := by
  have split : (tick : ℚ) = 1000000000 * (tick / 1000000000 : Nat) + (tick % 1000000000 : Nat) := by
    exact_mod_cast (Nat.div_add_mod tick 1000000000).symm
  linarith

theorem clockSum_near (tick : Nat) : |clockSum tick - tick / 1000000000| ≤ 1 / 10 ^ 15 := by
  have near := fraction_near (Nat.mod_lt tick (by norm_num : 0 < 1000000000))
  rw [clockSum, tick_div_billion, add_sub_add_left_eq_sub]
  exact near

theorem clockSum_mono {a b : Nat} (ordered : a ≤ b) : clockSum a ≤ clockSum b := by
  rcases (Nat.div_le_div_right (c := 1000000000) ordered).lt_or_eq with below | same
  · have one := fraction_le_one (Nat.mod_lt a (by norm_num : 0 < 1000000000))
    have zero : 0 ≤ fraction (b % 1000000000) := fraction_nonneg
    have below : ((a / 1000000000 : Nat) : ℚ) + 1 ≤ (b / 1000000000 : Nat) := by
      exact_mod_cast below
    rw [clockSum, clockSum]
    linarith
  · have rest : fraction (a % 1000000000) ≤ fraction (b % 1000000000) :=
      fraction_mono (by omega)
    rw [clockSum, clockSum, same]
    linarith

theorem clockSeconds_mono {a b : Nat} (ordered : a ≤ b) : clockSeconds a ≤ clockSeconds b :=
  nearest_mono (clockSum_mono ordered)

theorem clockSum_nonneg (tick : Nat) : 0 ≤ clockSum tick :=
  add_nonneg (Nat.cast_nonneg _) fraction_nonneg

theorem clockSeconds_nonneg (tick : Nat) : 0 ≤ clockSeconds tick :=
  nearest_nonneg (clockSum_nonneg tick)

theorem fits_clockSeconds (tick : Nat) : Fits (clockSeconds tick) := fits_nearest _

/-- A whole second is its number of seconds. -/
theorem clockSeconds_le {n : Nat} (before : tick ≤ n * 1000000000) (short : n ≤ 2 ^ 53) :
    clockSeconds tick ≤ n := by
  apply nearest_le_of_fits (fits_natCast short)
  have whole : clockSum (n * 1000000000) = n := by
    rw [clockSum, Nat.mul_div_cancel _ (by norm_num), Nat.mul_mod_left, fraction, Nat.cast_zero,
      mul_zero, nearest_zero, add_zero]
  exact (clockSum_mono before).trans_eq whole

/-- Only the first tick has no seconds. -/
theorem clockSeconds_pos (later : 0 < tick) : 0 < clockSeconds tick := by
  have fits := fits_zpow (e := -40) (by norm_num)
  have one : (1 : ℚ) ≤ tick := by exact_mod_cast later
  have near := (abs_le.mp (clockSum_near tick)).1
  have least : (2 : ℚ) ^ (-40 : ℤ) ≤ clockSum tick := by
    norm_num at near ⊢
    linarith
  exact (zpow_pos (by norm_num) _).trans_le (le_nearest_of_fits fits least)

end Seconds

section Nanoseconds

/-- The part below a second in nanoseconds, as the difference and the product are rounded. -/
def scaled (d : ℚ) : ℚ := nearest (nearest d * 1000000000)

/-- The nanoseconds of a number of seconds. -/
def nanosOf (q : ℚ) : ℤ := ⌊q⌋ * 1000000000 + ⌊scaled (q - ⌊q⌋) + 1 / 2⌋

theorem scaled_mono {a b : ℚ} (ordered : a ≤ b) : scaled a ≤ scaled b :=
  nearest_mono (mul_le_mul_of_nonneg_right (nearest_mono ordered) (by norm_num))

theorem scaled_nonneg {d : ℚ} (nonneg : 0 ≤ d) : 0 ≤ scaled d :=
  nearest_nonneg (mul_nonneg (nearest_nonneg nonneg) (by norm_num))

theorem scaled_le {d : ℚ} (below : d ≤ 1) : scaled d ≤ 1000000000 := by
  have billion : Fits 1000000000 := by
    exact_mod_cast fits_natCast (n := 1000000000) (by norm_num)
  have rounded := nearest_le_of_fits fits_one below
  apply nearest_le_of_fits billion
  linarith

theorem scaled_near {d : ℚ} (nonneg : 0 ≤ d) (below : d < 1) :
    |scaled d - d * 1000000000| ≤ 1 / 10 ^ 6 := by
  have rounded := nearest_le_of_fits fits_one below.le
  have positive := nearest_nonneg nonneg
  have first := abs_nearest_sub_le_zpow (q := d) (k := 0)
    (by rwa [abs_of_nonneg nonneg, zpow_zero]) (by norm_num)
  have size : |nearest d * 1000000000| < 2 ^ (30 : ℤ) := by
    rw [abs_of_nonneg (mul_nonneg positive (by norm_num))]
    norm_num
    linarith
  have second := abs_nearest_sub_le_zpow size (by norm_num)
  obtain ⟨low, high⟩ := abs_le.mp first
  obtain ⟨low', high'⟩ := abs_le.mp second
  norm_num at low high low' high'
  rw [scaled, abs_le]
  constructor <;> norm_num <;> linarith

variable {q : ℚ}

theorem nanosOf_near (q : ℚ) : |(nanosOf q : ℚ) - q * 1000000000| ≤ 1 / 2 + 1 / 10 ^ 6 := by
  have low := Int.floor_le q
  have high := Int.lt_floor_add_one q
  have near := abs_le.mp (scaled_near (d := q - ⌊q⌋) (by linarith) (by linarith))
  have below := Int.floor_le (scaled (q - ⌊q⌋) + 1 / 2)
  have above := Int.lt_floor_add_one (scaled (q - ⌊q⌋) + 1 / 2)
  rw [nanosOf, abs_le]
  push_cast
  constructor <;> linarith

/-- The rest of a second is at most a second again. -/
theorem rest_bounds (q : ℚ) :
    0 ≤ ⌊scaled (q - ⌊q⌋) + 1 / 2⌋ ∧ ⌊scaled (q - ⌊q⌋) + 1 / 2⌋ ≤ 1000000000 := by
  have low := Int.floor_le q
  have high := Int.lt_floor_add_one q
  have nonneg := scaled_nonneg (d := q - ⌊q⌋) (by linarith)
  have upper := scaled_le (d := q - ⌊q⌋) (by linarith)
  constructor
  · apply Int.floor_nonneg.mpr
    linarith
  · rw [← Int.lt_add_one_iff, Int.floor_lt]
    push_cast
    linarith

theorem nanosOf_mono {a b : ℚ} (ordered : a ≤ b) : nanosOf a ≤ nanosOf b := by
  rw [nanosOf, nanosOf]
  rcases (Int.floor_le_floor ordered).lt_or_eq with below | same
  · have upper := (rest_bounds a).2
    have lower := (rest_bounds b).1
    omega
  · have rest : ⌊scaled (a - ⌊a⌋) + 1 / 2⌋ ≤ ⌊scaled (b - ⌊b⌋) + 1 / 2⌋ := by
      apply Int.floor_le_floor
      have scaled : scaled (a - ⌊a⌋) ≤ scaled (b - ⌊b⌋) := by
        apply scaled_mono
        rw [same]
        linarith
      linarith
    rw [same] at rest ⊢
    omega

theorem nanosOf_nonneg (nonneg : 0 ≤ q) : 0 ≤ nanosOf q :=
  add_nonneg (mul_nonneg (Int.floor_nonneg.mpr nonneg) (by norm_num)) (rest_bounds q).1

end Nanoseconds

end RoundedClock

namespace Time

open RoundedClock

/-- The seconds of a time within the range of the ticks. -/
theorem toSecRounded_eq {t : Time} (canonical : t.Canonical) :
    t.toSecRounded = .fin (clockSeconds t.nanos) := by
  have whole : t.nanos / 1000000000 = t.sec.toNat := by
    unfold Canonical nanosecondsPerSecond at canonical
    unfold nanos
    omega
  have rest : t.nanos % 1000000000 = t.nsec.toNat := by
    unfold Canonical nanosecondsPerSecond at canonical
    unfold nanos
    omega
  have inside : t.nsec.toNat < 1000000000 := canonical
  have constant : nanosecond = .fin nano := by
    have literal : (1e-9 : Double) = .fin (1 / 1000000000) := by
      change Double.fin (Rat.ofScientific 1 true 9) = _
      norm_num [Rat.ofScientific]
    rw [nanosecond, literal]
    apply round_of_abs_le (k := 0) (by norm_num)
    rw [abs_of_pos (by norm_num)]
    norm_num
  have most : (t.nsec.toNat : ℚ) ≤ 1000000000 := by exact_mod_cast inside.le
  have product : (nanosecond * .fin t.nsec.toNat).rounded = .fin (fraction t.nsec.toNat) := by
    rw [constant, Double.fin_mul_fin]
    apply round_of_abs_le (k := 1) (by norm_num)
    have bounds := nano_bounds
    have product := mul_le_mul_of_nonneg_left most bounds.1
    rw [abs_of_nonneg (mul_nonneg bounds.1 (Nat.cast_nonneg _))]
    norm_num at bounds ⊢
    linarith
  rw [toSecRounded, product, Double.fin_add_fin, clockSeconds, clockSum, whole, rest]
  apply round_of_abs_le (k := 33) (by norm_num)
  have seconds : (t.sec.toNat : ℚ) ≤ 4294967296 := by exact_mod_cast t.sec.toNat_lt.le
  rw [abs_of_nonneg (add_nonneg (Nat.cast_nonneg _) fraction_nonneg)]
  have upper := fraction_le_one inside
  norm_num
  linarith

/-- A time is made of a number of seconds in range, and has its nanoseconds. -/
theorem fromSecRounded_nanos {q : ℚ} (nonneg : 0 ≤ q) (small : q < 4294967295) :
    ∃ t : Time, fromSecRounded (.fin q) = .ok t ∧ (t.nanos : Int) = nanosOf q := by
  have low : 0 ≤ ⌊q⌋ := Int.floor_nonneg.mpr nonneg
  have high : ⌊q⌋ < 4294967295 := Int.floor_lt.mpr (by exact_mod_cast small)
  have floorLe := Int.floor_le q
  have ltFloor := Int.lt_floor_add_one q
  have between := rest_bounds q
  have nonneg' : 0 ≤ q - ⌊q⌋ := by linarith
  have below : q - ⌊q⌋ ≤ 1 := by linarith
  have difference : (Double.fin q - .fin (⌊q⌋ : Int)).rounded = .fin (nearest (q - ⌊q⌋)) := by
    rw [Double.fin_sub_fin]
    apply round_of_abs_le (k := 0) (by norm_num)
    rwa [abs_of_nonneg nonneg', zpow_zero]
  have rest : ((Double.fin q - .fin (⌊q⌋ : Int)).rounded * 1000000000).rounded.roundInt =
      ⌊scaled (q - ⌊q⌋) + 1 / 2⌋ := by
    have upper := nearest_le_of_fits fits_one below
    have lower := nearest_nonneg nonneg'
    have product : (Double.fin (nearest (q - ⌊q⌋)) * 1000000000).rounded =
        .fin (scaled (q - ⌊q⌋)) := by
      change (Double.fin (nearest (q - ⌊q⌋)) * .fin 1000000000).rounded = _
      rw [Double.fin_mul_fin]
      apply round_of_abs_le (k := 30) (by norm_num)
      have most : nearest (q - ⌊q⌋) * 1000000000 ≤ 1000000000 := by linarith
      rw [abs_of_nonneg (mul_nonneg lower (by norm_num))]
      exact most.trans (by norm_num)
    rw [difference, product]
    rfl
  have notNegative : ¬ Double.fin q < 0 := fun negative =>
    not_lt.mpr nonneg ((Double.fin_lt_fin q 0).mp negative)
  have notLarge : ¬ (9223372036854775808 : Double) ≤ .fin q := fun large => by
    have large := (Double.fin_le_fin 9223372036854775808 q).mp large
    linarith
  have finite : ¬ ¬ (Double.fin q).isFinite = true := not_not.mpr rfl
  unfold fromSecRounded
  rw [if_neg notNegative, if_neg finite, if_neg notLarge]
  have whole : (Double.fin q).floorInt = ⌊q⌋ := rfl
  dsimp only
  rw [whole, rest, if_neg (by omega)]
  refine ⟨_, rfl, ?_⟩
  rw [nanosOf]
  generalize ⌊scaled (q - ⌊q⌋) + 1 / 2⌋ = count at between ⊢
  generalize ⌊q⌋ = seconds at low high ⊢
  obtain ⟨s, rfl⟩ := Int.eq_ofNat_of_zero_le low
  obtain ⟨n, rfl⟩ := Int.eq_ofNat_of_zero_le between.1
  have carry : ((n : Int) / 1000000000) = ((n / 1000000000 : Nat) : Int) := by omega
  have part : ((n : Int) % 1000000000) = ((n % 1000000000 : Nat) : Int) := by omega
  rw [carry, part, nanos]
  dsimp only
  have single : n / 1000000000 ≤ 1 := by omega
  rw [UInt32.toNat_add, toNat_ofInt (by omega), toNat_ofInt (by omega), toNat_ofInt (by omega),
    Nat.mod_eq_of_lt (by omega)]
  omega

/-- A tick that is a time. -/
theorem fromNSec_tick {tick : Nat} (small : tick < 4294967296 * 1000000000) :
    ∃ t : Time, Time.fromNSec (.ofNat tick) = .ok t ∧ t.Canonical ∧ t.nanos = tick := by
  have value : (UInt64.ofNat tick).toNat = tick := by
    rw [UInt64.toNat_ofNat']
    exact Nat.mod_eq_of_lt (by omega)
  have exact_ := Time.fromNSec_exact (.ofNat tick)
  rw [value] at exact_
  obtain ⟨t, made, canonical, count⟩ := exact_.1 ⟨by omega, by omega⟩
  exact ⟨t, made, canonical, by omega⟩

end Time

end MultirotorController
