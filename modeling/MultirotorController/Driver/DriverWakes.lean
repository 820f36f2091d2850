import MultirotorController.Control.ExactMath
import MultirotorController.Driver.ControllerDriver

/-!
# Wake-ups of the driver

The driver asks the host for one tick, the earliest of those of its parts. The
host comes back at the first tick at which some part of the driver is due.
-/

namespace MultirotorController

/-- The host comes back by a tick. -/
def WokenBy (wake : Option Nat) (tick : Nat) : Prop := ∃ first ∈ wake, first ≤ tick

theorem wokenBy_none {tick : Nat} : ¬ WokenBy none tick := by
  rintro ⟨_, none, _⟩
  cases none

theorem wokenBy_some {first tick : Nat} : WokenBy (some first) tick ↔ first ≤ tick := by
  constructor
  · rintro ⟨_, same, reached⟩
    cases same
    exact reached
  · intro reached
    exact ⟨first, rfl, reached⟩

theorem wokenBy_earlierTick (a b : Option Nat) (tick : Nat) :
    WokenBy (ControllerDriver.earlierTick a b) tick ↔ WokenBy a tick ∨ WokenBy b tick := by
  cases a with
  | none =>
      rw [or_iff_right wokenBy_none]
      rfl
  | some first =>
      cases b with
      | none =>
          rw [or_iff_left wokenBy_none]
          rfl
      | some second =>
          change WokenBy (some (min first second)) tick ↔ _
          rw [wokenBy_some, wokenBy_some, wokenBy_some, min_le_iff]

/-- The time to which the statistics are advanced: that of the ROS host went through a number of
seconds. -/
def statisticsTime (rosStatisticsClock : Bool) (now : Time) : Except RuntimeError Time :=
  if rosStatisticsClock then Time.fromSecRounded now.toSecRounded else .ok now

/-- A time of the first 4294967292 seconds, as the normalizing constructors make it. -/
def InClockRange (t : Time) : Prop := t.Canonical ∧ t.nanos ≤ 4294967292 * 1000000000

instance (t : Time) : Decidable (InClockRange t) := inferInstanceAs (Decidable (_ ∧ _))

/-- A tick for what a part waits for, if it waits, is the tick for the part. -/
theorem exists_wake {α : Type} {wakeNs : α → Except RuntimeError Nat} {reached : α → Time → Prop}
    {part : Option α}
    (spec : ∀ deadline ∈ part, ∃ wake, wakeNs deadline = .ok wake ∧
      ∀ now, InClockRange now → (wake ≤ now.nanos ↔ reached deadline now)) :
    ∃ wake, part.mapM wakeNs = .ok wake ∧ ∀ now, InClockRange now →
      (WokenBy wake now.nanos ↔ ∃ deadline ∈ part, reached deadline now) := by
  cases part with
  | none =>
      refine ⟨none, rfl, fun now _ => iff_of_false wokenBy_none ?_⟩
      rintro ⟨_, none, _⟩
      cases none
  | some deadline =>
      obtain ⟨wake, found, first⟩ := spec deadline rfl
      refine ⟨some wake, ?_, fun now inRange => ?_⟩
      · rw [Option.mapM_some, found]
        rfl
      · rw [wokenBy_some, first now inRange]
        constructor
        · intro reached
          exact ⟨deadline, rfl, reached⟩
        · rintro ⟨_, same, reached⟩
          cases same
          exact reached

/-- The controller's deadline becomes the tick at which it is reached. -/
theorem flightTick_spec {deadline : Deadline} {due : ℚ} (number : deadline.due = .fin due)
    (small : due ≤ 4294967292) :
    ∃ wake, controllerClockWakeNs (deadlineSeconds deadline) = .ok wake ∧
      ∀ now : Time, InClockRange now →
        (wake ≤ now.nanos ↔ deadlineSeconds deadline ≤ now.toSecRounded) := by
  obtain ⟨wake, found, first⟩ :=
    controllerClockWakeNs_spec (secondsInRange_deadlineSeconds number small)
  refine ⟨wake, found, fun now inRange => ?_⟩
  rw [first, Time.toSecRounded_eq inRange.1]

/-- On either clock the statistics are woken at the first tick that is read as late as the time
that they count to. -/
theorem statisticsTick_spec {due : Time} (counted : InClockRange due) (rosStatisticsClock : Bool) :
    ∃ wake, (if rosStatisticsClock then rosStatisticsWakeNs due else .ok due.toNSec.toNat) =
        .ok wake ∧
      ∀ now, InClockRange now → (wake ≤ now.nanos ↔
        ∃ read, statisticsTime rosStatisticsClock now = .ok read ∧ due.nanos ≤ read.nanos) := by
  cases rosStatisticsClock with
  | false =>
      refine ⟨due.toNSec.toNat, rfl, fun now _ => ?_⟩
      rw [Time.toNat_toNSec]
      constructor
      · intro reached
        exact ⟨now, rfl, reached⟩
      · rintro ⟨_, ⟨⟩, reached⟩
        exact reached
  | true =>
      obtain ⟨wake, found, first⟩ := rosStatisticsWakeNs_spec counted.1 counted.2
      refine ⟨wake, found, fun now inRange => ?_⟩
      have seconds : RoundedClock.clockSeconds now.nanos ≤ 4294967292 := by
        exact_mod_cast RoundedClock.clockSeconds_le inRange.2 (by norm_num)
      obtain ⟨read, made, count⟩ :=
        Time.fromSecRounded_nanos (RoundedClock.clockSeconds_nonneg _) (by linarith)
      rw [← Time.toSecRounded_eq inRange.1] at made
      rw [first, ← count, Nat.cast_le]
      constructor
      · intro reached
        exact ⟨read, made, reached⟩
      · rintro ⟨_, same, reached⟩
        cases made.symm.trans same
        exact reached

namespace ControllerDriver

section Due

variable [Xgc2Math] (driver : ControllerDriver)

/-- What the controller announces for the snapshot that it would observe. -/
def flightWake : Except RuntimeError (Option Deadline) :=
  (driver.runtime.observe driver.sensing.sensor).nextWake

/-- Some part of an active driver is due: the controller's deadline is reached on its clock of
seconds, or the statistics have counted to their time on theirs. -/
def DueAt (rosStatisticsClock : Bool) (flight : Option Deadline) (now : Time) : Prop :=
  driver.active = true ∧
    ((∃ deadline ∈ flight, deadlineSeconds deadline ≤ now.toSecRounded) ∨
      ∃ due ∈ Sensing.nextWake driver.sensing.statistics,
        ∃ read, statisticsTime rosStatisticsClock now = .ok read ∧ due.nanos ≤ read.nanos)

variable {driver} {flight : Option Deadline}

/-- The host comes back at the first tick at which some part of the driver is due, on either
clock of the statistics; where no part has a deadline it is not asked to. -/
theorem woken_when_due (announced : driver.flightWake = .ok flight)
    (number : ∀ deadline ∈ flight, ∃ due : ℚ, deadline.due = .fin due ∧ due ≤ 4294967292)
    (counted : ∀ due ∈ Sensing.nextWake driver.sensing.statistics, InClockRange due)
    (rosStatisticsClock : Bool) :
    ∃ wake, driver.nextWake rosStatisticsClock = .ok wake ∧ ∀ now, InClockRange now →
      (WokenBy wake now.nanos ↔ driver.DueAt rosStatisticsClock flight now) := by
  cases active : driver.active with
  | false =>
      refine ⟨none, ?_, fun now _ => iff_of_false wokenBy_none ?_⟩
      · rw [nextWake, active]
        rfl
      · rintro ⟨running, _⟩
        exact Bool.false_ne_true (active.symm.trans running)
  | true =>
      obtain ⟨first, flightFound, flightDue⟩ :=
        exists_wake fun deadline member =>
          let ⟨_, finite, small⟩ := number deadline member
          flightTick_spec finite small
      obtain ⟨second, statisticsFound, statisticsDue⟩ :=
        exists_wake fun due member => statisticsTick_spec (counted due member) rosStatisticsClock
      refine ⟨earlierTick first second, ?_, fun now inRange => ?_⟩
      · change (driver.runtime.observe driver.sensing.sensor).nextWake = .ok flight at announced
        rw [nextWake, active, announced]
        change ((flight.mapM fun deadline =>
          controllerClockWakeNs (deadlineSeconds deadline)) >>= _) = _
        rw [flightFound, Procedure.ok_bind, statisticsFound]
        rfl
      · rw [wokenBy_earlierTick, flightDue now inRange, statisticsDue now inRange, DueAt,
          and_iff_right active]

end Due

section Started

open ExactMath

/-- A driver that was started and updated once. -/
def updatedDriver : ControllerDriver :=
  ((start { runtime := .initial } ⟨1700000000, 123456789⟩).1.update
    ⟨1700000000, 123456789⟩).1.resetNewFlags

/-- It is woken for its statistics, a tenth of a second later. The clock of seconds has one number
for some two hundred ticks there, and the host comes back at the first one that is read as late. -/
theorem woken_when_due_updated : updatedDriver.nextWake true = .ok (some 1700000000223456741) := by
  have announced : updatedDriver.flightWake =
      .ok (some ⟨.fin (1700000000323456789 / 1000000000), false⟩) := by
    decide +kernel
  have statistics : Sensing.nextWake updatedDriver.sensing.statistics =
      some ⟨1700000000, 223456789⟩ := by
    decide +kernel
  have active : updatedDriver.active = true := by decide +kernel
  obtain ⟨wake, found, due⟩ := woken_when_due announced
    (by
      rintro _ ⟨⟩
      exact ⟨_, rfl, by norm_num⟩)
    (by
      rw [statistics]
      rintro _ ⟨⟩
      decide) true
  have woken : WokenBy wake (Time.nanos ⟨1700000000, 223456741⟩) := by
    rw [due _ (by decide), DueAt, statistics]
    exact ⟨active, .inr ⟨_, rfl, ⟨1700000000, 223456860⟩, by decide +kernel, by decide⟩⟩
  have asleep : ¬ WokenBy wake (Time.nanos ⟨1700000000, 223456740⟩) := by
    have read : statisticsTime true ⟨1700000000, 223456740⟩ = .ok ⟨1700000000, 223456621⟩ := by
      decide +kernel
    rw [due _ (by decide), DueAt, statistics]
    rintro ⟨-, ⟨_, ⟨⟩, reached⟩ | ⟨_, ⟨⟩, _, same, reached⟩⟩
    · exact absurd reached (by decide +kernel)
    · cases read.symm.trans same
      exact absurd reached (by decide)
  obtain ⟨first, rfl, reached⟩ := woken
  rw [wokenBy_some] at asleep
  have late : Time.nanos ⟨1700000000, 223456741⟩ = 1700000000223456741 := rfl
  have early : Time.nanos ⟨1700000000, 223456740⟩ = 1700000000223456740 := rfl
  have same : first = 1700000000223456741 := by omega
  rw [found, same]

end Started

end ControllerDriver

end MultirotorController
