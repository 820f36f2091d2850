import MultirotorController.Common.Types

/-!
# NMPC result buffer

The hand-over between the solver worker and the controller turn. Generations
separate Custom1 sessions, sequences the requests within one. The 64-bit
counters are natural numbers here: they never wrap within the life of a process.
-/

namespace MultirotorController

namespace NmpcSolverStatus

def kDispatcherBusy : Int := -1
def kReferenceSamplingFailed : Int := -2
def kBackendUnavailable : Int := -3

end NmpcSolverStatus

structure NmpcSolveResult where
  controlGeneration : Nat := 0
  sequence : Nat := 0
  success : Bool := false
  timedOut : Bool := false
  solverStatus : Int := 0
  solveTimeMs : Double := 0
  stamp : Time := {}
  target : AttitudeRateTarget := {}
deriving DecidableEq, Repr, Inhabited

structure NmpcResultBuffer where
  latest : NmpcSolveResult := {}
  hasResult : Bool := false
  generationCounter : Nat := 0
  activeGeneration : Nat := 0
  requestCounter : Nat := 0
deriving DecidableEq, Repr, Inhabited

namespace NmpcResultBuffer

variable (buffer : NmpcResultBuffer)

/-- Opens a generation; its number is the new active one. -/
def beginGeneration : NmpcResultBuffer :=
  { buffer with
    generationCounter := buffer.generationCounter + 1
    activeGeneration := buffer.generationCounter + 1
    hasResult := false }

/-- Generation 0 means whichever is active. -/
def invalidateGeneration (generation : Nat) : NmpcResultBuffer :=
  if generation = 0 ∨ generation = buffer.activeGeneration then
    { buffer with activeGeneration := 0, hasResult := false }
  else buffer

def isGenerationActive (generation : Nat) : Bool :=
  generation ≠ 0 ∧ generation = buffer.activeGeneration

/-- The reserved sequence is the new `requestCounter`. -/
def reserveRequestSequence : NmpcResultBuffer :=
  { buffer with requestCounter := buffer.requestCounter + 1 }

def store (result : NmpcSolveResult) : NmpcResultBuffer × Bool :=
  if buffer.activeGeneration = 0 ∨ result.controlGeneration ≠ buffer.activeGeneration ∨
      result.sequence = 0 ∨ buffer.requestCounter < result.sequence ∨
      nanosecondsPerSecond ≤ result.stamp.nsec.toNat then
    (buffer, false)
  else if buffer.hasResult ∧ result.sequence ≤ buffer.latest.sequence then (buffer, false)
  else ({ buffer with latest := result, hasResult := true }, true)

/-- Reading does not empty the slot; the caller remembers the sequence it took. -/
def consumeNewerThan (sequence : Nat) : Option NmpcSolveResult :=
  if !buffer.hasResult ∨ buffer.activeGeneration = 0 ∨
      buffer.latest.controlGeneration ≠ buffer.activeGeneration ∨
      buffer.latest.sequence ≤ sequence then
    none
  else some buffer.latest

/-- Logical time zero is a valid stamp; a stamp of the future is not. -/
def isResultTimestampFresh (stamp now : Time) (timeout : Double) : Bool :=
  if nanosecondsPerSecond ≤ stamp.nsec.toNat ∨ nanosecondsPerSecond ≤ now.nsec.toNat ∨
      now < stamp then
    false
  else
    let age := Double.fin (now.toNSec - stamp.toNSec).toNat * 1.0e-9
    timeout ≤ 0 ∨ age ≤ timeout

/-- A stored result belongs to the active generation and to a request that was made. -/
theorem store_cases (result : NmpcSolveResult) :
    (buffer.store result).1 = buffer ∨
      (buffer.store result).1 = { buffer with latest := result, hasResult := true } ∧
        result.controlGeneration = buffer.activeGeneration ∧ buffer.activeGeneration ≠ 0 ∧
        result.sequence ≤ buffer.requestCounter := by
  unfold store
  split
  · exact .inl rfl
  next valid =>
    split
    · exact .inl rfl
    · simp only [not_or, not_lt, Decidable.not_not] at valid
      exact .inr ⟨rfl, valid.2.1, valid.1, valid.2.2.2.1⟩

theorem invalidateGeneration_counters (generation : Nat) :
    (buffer.invalidateGeneration generation).generationCounter = buffer.generationCounter ∧
      (buffer.invalidateGeneration generation).requestCounter = buffer.requestCounter := by
  unfold invalidateGeneration
  split <;> exact ⟨rfl, rfl⟩

/-- A fresh stamp is at most `timeout` old, in seconds. -/
theorem fresh_spec {stamp now : Time} {timeout : Double}
    (fresh : isResultTimestampFresh stamp now timeout = true) (positive : 0 < timeout) :
    stamp.toSec ≤ now.toSec ∧ now.toSec - stamp.toSec ≤ timeout := by
  unfold isResultTimestampFresh at fresh
  split at fresh
  · cases fresh
  next valid =>
    simp only [not_or, not_le] at valid
    have ordered := Time.nanos_le valid.1 valid.2.2
    have fresh := (of_decide_eq_true fresh).resolve_left fun below =>
      Double.not_lt_of_le below positive
    have difference : (now.toNSec - stamp.toNSec).toNat = now.nanos - stamp.nanos := by
      rw [UInt64.toNat_sub_of_le, Time.toNat_toNSec, Time.toNat_toNSec]
      rwa [UInt64.le_iff_toNat_le, Time.toNat_toNSec, Time.toNat_toNSec]
    have age : now.toSec - stamp.toSec = .fin (now.nanos - stamp.nanos : Nat) * 1.0e-9 := by
      have nano : (1.0e-9 : Double) = .fin (1 / 1000000000) := by decide +kernel
      rw [nano, Time.toSec_eq, Time.toSec_eq, Double.fin_sub_fin, Double.fin_mul_fin,
        Nat.cast_sub ordered]
      refine congrArg Double.fin ?_
      ring
    refine ⟨?_, ?_⟩
    · rw [Time.toSec_eq, Time.toSec_eq, Double.fin_le_fin]
      gcongr
    · rw [age, ← difference]
      exact fresh

end NmpcResultBuffer

end MultirotorController
