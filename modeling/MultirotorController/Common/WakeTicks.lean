import MultirotorController.Common.RoundedClock
import MultirotorController.Lib.BinarySearch
import MultirotorController.Lib.Procedure

/-!
# Wake-up ticks of the host

A deadline of the controller is a number of seconds; the host wakes the controller at a
whole nanosecond. Both searches look for the first tick that the controller would
accept, between the nanoseconds of the numbers next to the deadline. Several ticks share
one number of seconds, so that the nanosecond of the deadline itself need not be the
first one.
-/

namespace MultirotorController

open Binary64 RoundedClock

/-- The deadline as the controller's clock of seconds holds it. -/
def deadlineSeconds (deadline : Deadline) : Double :=
  if deadline.justAfter then deadline.due.rounded.nextUp else deadline.due.rounded

/-- The search between the numbers next to a time, with one tick more to either side. -/
def searchAround (seconds : Double) (tooEarly : Nat → Except RuntimeError Bool) :
    Except RuntimeError Nat := do
  let before := Double.max 0 seconds.nextDown
  let after := seconds.nextUp
  let low := (← Time.fromSecRounded before).toNSec.toNat
  let high := (← Time.fromSecRounded after).toNSec.toNat + 1
  BinarySearch.firstTick tooEarly (low - 1) high

/-- The first tick whose seconds are not below the deadline. -/
def controllerClockWakeNs (seconds : Double) : Except RuntimeError Nat :=
  if seconds ≤ 0 then .ok 0
  else
    searchAround seconds fun mid => do
      return decide ((← Time.fromNSec (.ofNat mid)).toSecRounded < seconds)

/-- The first tick that is not before the time after it went through a number of seconds. -/
def rosStatisticsWakeNs (due : Time) : Except RuntimeError Nat :=
  if due.toSecRounded ≤ 0 then .ok 0
  else
    searchAround due.toSecRounded fun mid => do
      let read ← Time.fromSecRounded (← Time.fromNSec (.ofNat mid)).toSecRounded
      return decide (read.toNSec < due.toNSec)

section Search

variable {q : ℚ}

/-- The seconds of a tick two before the nanoseconds of a number do not pass the number. -/
theorem clockSeconds_le_of_add_two_le {tick : Nat} (fits : Fits q)
    (before : (tick + 2 : ℤ) ≤ nanosOf q) : clockSeconds tick ≤ q := by
  apply nearest_le_of_fits fits
  have near := (abs_le.mp (clockSum_near tick)).2
  have back := (abs_le.mp (nanosOf_near q)).2
  have before : (tick : ℚ) + 2 ≤ nanosOf q := by exact_mod_cast before
  norm_num at near back
  linarith

/-- The tick after the nanoseconds of a number has reached it. -/
theorem le_clockSeconds_succ {tick : Nat} (fits : Fits q) (after : nanosOf q = tick) :
    q ≤ clockSeconds (tick + 1) := by
  apply le_nearest_of_fits fits
  have near := (abs_le.mp (clockSum_near (tick + 1))).1
  have back := (abs_le.mp (nanosOf_near q)).1
  rw [after] at back
  push_cast at near back
  norm_num at near back
  linarith

/-- In range the numbers lie close together. -/
theorem above_lt (nonneg : 0 ≤ q) (small : q < 4294967293) : above q < q + 1 / 1000000 := by
  have size : |q| < 2 ^ (32 : ℤ) := by
    rw [abs_of_nonneg nonneg]
    norm_num
    linarith
  have spacing : spacing q ≤ 2 ^ ((32 : ℤ) - 53) :=
    zpow_le_zpow_right₀ (by norm_num) (exponent_le size (by norm_num))
  norm_num at spacing
  rw [above]
  norm_num
  linarith

/-- The search finds the first tick that is not early, if the ticks two before the number below
are early and the one after the number above is not. -/
theorem searchAround_spec (tooEarly : Nat → Except RuntimeError Bool) (early : Nat → Prop)
    [DecidablePred early] (positive : 0 < q) (fits : Fits q) (small : q < 4294967293)
    (monotone : ∀ a b, a ≤ b → early b → early a)
    (before : ∀ tick : Nat, (tick + 2 : ℤ) ≤ nanosOf (below q) → early tick)
    (after : ∀ tick : Nat, nanosOf (above q) = tick → ¬ early (tick + 1))
    (answers : ∀ tick, tick < 4294967293 * 1000000000 + 1002 →
      tooEarly tick = .ok (decide (early tick))) :
    ∃ first, searchAround (.fin q) tooEarly = .ok first ∧
      ∀ tick, first ≤ tick ↔ ¬ early tick := by
  obtain ⟨-, nonneg⟩ := fits_below positive fits
  have lower := below_lt q
  have upper := lt_above q
  have inRange := above_lt positive.le small
  have within : above q < limit := by
    have seconds : above q < 2 ^ (32 : ℤ) := by
      norm_num at inRange ⊢
      linarith
    exact seconds.trans (zpow_lt_zpow_right₀ (by norm_num) (by norm_num))
  obtain ⟨s, madeLow, countLow⟩ := Time.fromSecRounded_nanos nonneg (by linarith)
  obtain ⟨t, madeHigh, countHigh⟩ := Time.fromSecRounded_nanos (positive.trans upper).le
    (by norm_num at inRange; linarith)
  have ordered := nanosOf_mono (lower.trans upper).le
  have back := (abs_le.mp (nanosOf_near (above q))).2
  have bounded : t.nanos < 4294967293 * 1000000000 + 1002 := by
    rw [← countHigh] at back
    norm_num at inRange back
    have bounded : (t.nanos : ℚ) < 4294967293 * 1000000000 + 1002 := by linarith
    exact_mod_cast bounded
  have bottom : Double.max 0 (.fin (below q)) = .fin (below q) := by
    unfold Double.max
    by_cases above : (0 : Double) < .fin (below q)
    · exact if_pos above
    · rw [if_neg above]
      have notPositive : ¬ 0 < below q := fun above' => above ((Double.fin_lt_fin 0 _).mpr above')
      exact congrArg Double.fin (le_antisymm nonneg (not_lt.mp notPositive))
  unfold searchAround
  rw [Double.nextDown_fin positive, Double.nextUp_fin positive.le fits within]
  dsimp only
  rw [bottom, madeLow, Procedure.ok_bind, madeHigh, Procedure.ok_bind, Time.toNat_toNSec,
    Time.toNat_toNSec]
  apply BinarySearch.firstTick_spec monotone (by omega)
  · intro tick earlier
    apply before
    omega
  · exact after t.nanos countHigh.symm
  · intro tick _ earlier
    exact answers tick (by omega)

end Search

section Controller

variable {q : ℚ}

/-- A deadline in range is reached at the start, or is a number of seconds in range. -/
def SecondsInRange (seconds : Double) : Prop :=
  seconds ≤ 0 ∨ ∃ q : ℚ, seconds = .fin q ∧ Fits q ∧ q < 4294967293

theorem secondsInRange_deadlineSeconds {deadline : Deadline} {due : ℚ}
    (number : deadline.due = .fin due) (small : due ≤ 4294967292) :
    SecondsInRange (deadlineSeconds deadline) := by
  have bound : Fits 4294967292 := by
    exact_mod_cast fits_natCast (n := 4294967292) (by norm_num)
  have most := nearest_le_of_fits bound small
  have fits := fits_nearest due
  unfold deadlineSeconds
  rw [number]
  change SecondsInRange (if _ then (Binary64.round due).nextUp else Binary64.round due)
  have large : (4294967294 : ℚ) < limit := by
    have seconds : (4294967294 : ℚ) < 2 ^ (32 : ℤ) := by norm_num
    exact seconds.trans (zpow_lt_zpow_right₀ (by norm_num) (by norm_num))
  rcases lt_or_ge (nearest due) 0 with negative | nonneg
  · left
    have previous := (fits_below (neg_pos.mpr negative) fits.neg).2
    have rounded : Binary64.round due = if |nearest due| < limit then .fin (nearest due)
        else .inf true := by
      rw [Binary64.round, decide_eq_true negative]
    rw [rounded]
    split <;> split
    · change (if nearest due < 0 then Double.fin (-below (-nearest due)) else _) ≤ 0
      rw [if_pos negative]
      exact (Double.fin_le_fin _ 0).mpr (neg_nonpos.mpr previous)
    · exact (Double.fin_le_fin (-largest) 0).mpr (neg_nonpos.mpr largest_pos.le)
    · exact (Double.fin_le_fin _ 0).mpr negative.le
    · exact (Double.inf_le_fin true 0).mpr rfl
  · have rounded : Binary64.round due = .fin (nearest due) := by
      rw [Binary64.round, if_pos]
      rw [abs_of_nonneg nonneg]
      linarith
    have next := above_lt nonneg (by linarith)
    norm_num at next
    rw [rounded, Double.nextUp_fin nonneg fits (by linarith)]
    split
    · exact .inr ⟨_, rfl, fits_above nonneg fits, by linarith⟩
    · exact .inr ⟨_, rfl, fits, by linarith⟩

/-- The host is woken at the first tick whose seconds are not below the deadline, neither sooner
nor later. -/
theorem controllerClockWakeNs_spec {seconds : Double} (inRange : SecondsInRange seconds) :
    ∃ wake, controllerClockWakeNs seconds = .ok wake ∧
      ∀ tick, wake ≤ tick ↔ seconds ≤ .fin (clockSeconds tick) := by
  unfold controllerClockWakeNs
  by_cases now : seconds ≤ 0
  · rw [if_pos now]
    refine ⟨0, rfl, fun tick => iff_of_true (Nat.zero_le tick) ?_⟩
    exact Double.le_trans now ((Double.fin_le_fin 0 _).mpr (clockSeconds_nonneg tick))
  · rw [if_neg now]
    obtain ⟨q, rfl, fits, small⟩ := inRange.resolve_left now
    have positive : 0 < q :=
      not_le.mp fun notPositive => now ((Double.fin_le_fin q 0).mpr notPositive)
    obtain ⟨wake, found, first⟩ := searchAround_spec
      (fun mid => do
        return decide ((← Time.fromNSec (.ofNat mid)).toSecRounded < .fin q))
      (fun tick => clockSeconds tick < q) positive fits small
      (fun a b ordered early => (clockSeconds_mono ordered).trans_lt early)
      (fun tick earlier => (clockSeconds_le_of_add_two_le (fits_below positive fits).1
        earlier).trans_lt (below_lt q))
      (fun tick later early => by
        have reached := le_clockSeconds_succ (fits_above positive.le fits) later
        have passed := lt_above q
        linarith)
      (fun tick bounded => by
        have inTime : tick < 4294967296 * 1000000000 := by omega
        obtain ⟨t, made, canonical, count⟩ := Time.fromNSec_tick inTime
        rw [made, Procedure.ok_bind, Time.toSecRounded_eq canonical, count]
        change Except.ok (decide (Double.fin (clockSeconds tick) < .fin q)) = _
        simp only [Double.fin_lt_fin])
    refine ⟨wake, found, fun tick => ?_⟩
    rw [first, not_lt, Double.fin_le_fin]

end Controller

section Statistics

variable {due tick : Nat}

/-- The nanoseconds of the number above a time's seconds do not fall short of the time. -/
theorem le_nanosOf_above (positive : 0 < due) : (due : ℤ) ≤ nanosOf (above (clockSeconds due)) := by
  have near := (abs_le.mp (clockSum_near due)).1
  have one : (1 : ℚ) ≤ due := by exact_mod_cast positive
  have next := le_above_nearest (x := clockSum due) (by norm_num at near; linarith)
  have back := (abs_le.mp (nanosOf_near (above (clockSeconds due)))).1
  change clockSum due ≤ above (clockSeconds due) at next
  norm_num at near back
  have short : ((due : ℤ) : ℚ) < nanosOf (above (clockSeconds due)) + 1 := by
    push_cast
    linarith
  exact Int.lt_add_one_iff.mp (by exact_mod_cast short)

/-- Those of the number below do not pass it. -/
theorem nanosOf_below_le (positive : 0 < clockSeconds due) :
    nanosOf (below (clockSeconds due)) ≤ due := by
  have near := (abs_le.mp (clockSum_near due)).2
  have middle : clockSeconds due + below (clockSeconds due) ≤ 2 * clockSum due :=
    nearest_add_below_le positive
  have previous := below_lt (clockSeconds due)
  have back := (abs_le.mp (nanosOf_near (below (clockSeconds due)))).2
  norm_num at near back
  have short : (nanosOf (below (clockSeconds due)) : ℚ) < ((due + 1 : ℤ) : ℚ) := by
    push_cast
    linarith
  exact Int.lt_add_one_iff.mp (by exact_mod_cast short)

/-- A tick two before the number below comes back before the time: had it come back as late, the
numbers would lie so far apart that the number below was earlier still. -/
theorem nanosOf_lt_of_add_two_le (positive : 0 < clockSeconds due)
    (before : (tick + 2 : ℤ) ≤ nanosOf (below (clockSeconds due))) :
    nanosOf (clockSeconds tick) < due := by
  obtain ⟨fits, -⟩ := fits_below positive (fits_clockSeconds due)
  have passed := clockSeconds_le_of_add_two_le fits before
  have most := nanosOf_below_le positive
  by_contra late
  rw [not_lt] at late
  have late : (due : ℚ) ≤ nanosOf (clockSeconds tick) := by exact_mod_cast late
  have earlier : (tick : ℚ) + 2 ≤ due := by exact_mod_cast before.trans most
  have back := (abs_le.mp (nanosOf_near (clockSeconds tick))).2
  have near := (abs_le.mp (clockSum_near tick)).2
  have nonneg := clockSum_nonneg tick
  have rounding := (abs_le.mp (abs_nearest_sub_le (clockSum tick))).2
  change clockSeconds tick - clockSum tick ≤ _ at rounding
  norm_num at back near
  have counted : 0 < clockSum tick := by
    rcases nonneg.eq_or_lt with zero | positive
    · have same : clockSeconds tick = 0 := by rw [clockSeconds, ← zero, nearest_zero]
      have first : (0 : ℚ) ≤ tick := Nat.cast_nonneg tick
      linarith
    · exact positive
  have previous := below_lt (clockSeconds due)
  have apart := spacing_le_sub_below (q := clockSeconds due) counted (by linarith)
  have middle : clockSeconds due + below (clockSeconds due) ≤ 2 * clockSum due :=
    nearest_add_below_le positive
  have near' := (abs_le.mp (clockSum_near due)).2
  have back' := (abs_le.mp (nanosOf_near (below (clockSeconds due)))).2
  have kept : (nanosOf (clockSeconds tick) : ℚ) ≤ nanosOf (below (clockSeconds due)) := by
    exact_mod_cast nanosOf_mono passed
  norm_num at near' back'
  linarith

/-- The tick after the number above comes back no earlier than the time. -/
theorem le_nanosOf_succ (positive : 0 < due)
    (after : nanosOf (above (clockSeconds due)) = tick) :
    (due : ℤ) ≤ nanosOf (clockSeconds (tick + 1)) := by
  have fits := fits_above (clockSeconds_nonneg due) (fits_clockSeconds due)
  have reached := le_clockSeconds_succ fits after
  exact (le_nanosOf_above positive).trans (nanosOf_mono reached)

/-- The statistics are woken at the first tick that is not before their time once it went through
a number of seconds. -/
theorem rosStatisticsWakeNs_spec {due : Time} (canonical : due.Canonical)
    (small : due.nanos ≤ 4294967292 * 1000000000) :
    ∃ wake, rosStatisticsWakeNs due = .ok wake ∧
      ∀ tick, wake ≤ tick ↔ (due.nanos : ℤ) ≤ nanosOf (clockSeconds tick) := by
  unfold rosStatisticsWakeNs
  rw [Time.toSecRounded_eq canonical]
  by_cases now : Double.fin (clockSeconds due.nanos) ≤ 0
  · rw [if_pos now]
    have start : due.nanos = 0 := by
      by_contra later
      have passed := clockSeconds_pos (Nat.pos_of_ne_zero later)
      exact not_lt.mpr ((Double.fin_le_fin _ 0).mp now) passed
    refine ⟨0, rfl, fun tick => iff_of_true (Nat.zero_le tick) ?_⟩
    rw [start]
    exact nanosOf_nonneg (clockSeconds_nonneg tick)
  · rw [if_neg now]
    have positive : 0 < clockSeconds due.nanos :=
      not_le.mp fun notPositive => now ((Double.fin_le_fin _ 0).mpr notPositive)
    have counted : 0 < due.nanos := by
      by_contra start
      have first : due.nanos ≤ 0 * 1000000000 := by omega
      have zero := clockSeconds_le first (Nat.zero_le _)
      rw [Nat.cast_zero] at zero
      linarith
    have bounded : clockSeconds due.nanos ≤ 4294967292 := by
      exact_mod_cast clockSeconds_le small (by norm_num)
    obtain ⟨wake, found, first⟩ := searchAround_spec
      (fun mid => do
        let read ← Time.fromSecRounded (← Time.fromNSec (.ofNat mid)).toSecRounded
        return decide (read.toNSec < due.toNSec))
      (fun tick => nanosOf (clockSeconds tick) < due.nanos) positive (fits_clockSeconds _)
      (by linarith)
      (fun a b ordered early => (nanosOf_mono (clockSeconds_mono ordered)).trans_lt early)
      (fun tick earlier => nanosOf_lt_of_add_two_le positive earlier)
      (fun tick later => not_lt.mpr (le_nanosOf_succ counted later))
      (fun tick bounded => by
        have inTime : tick < 4294967296 * 1000000000 := by omega
        obtain ⟨t, made, canonical, count⟩ := Time.fromNSec_tick inTime
        have seconds : clockSeconds tick ≤ 4294967294 := by
          exact_mod_cast clockSeconds_le (n := 4294967294) (by omega) (by norm_num)
        obtain ⟨read, readOk, readCount⟩ :=
          Time.fromSecRounded_nanos (clockSeconds_nonneg tick) (by linarith)
        rw [made, Procedure.ok_bind, Time.toSecRounded_eq canonical, count, readOk,
          Procedure.ok_bind]
        change Except.ok (decide (read.toNSec < due.toNSec)) = _
        simp only [UInt64.lt_iff_toNat_lt, Time.toNat_toNSec, ← readCount, Nat.cast_lt])
    refine ⟨wake, found, fun tick => ?_⟩
    rw [first, not_lt]

end Statistics

end MultirotorController
