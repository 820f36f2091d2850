import MultirotorController.Common.Time
import Mathlib.Order.Defs.LinearOrder

/-!
# The order of times

Times are compared field by field, seconds first. On canonical times this is the
order of their nanoseconds, and a canonical time survives its conversion to
seconds and back.
-/

namespace MultirotorController

namespace Time

theorem lt_iff {a b : Time} :
    a < b ↔ a.sec.toNat < b.sec.toNat ∨
      a.sec.toNat = b.sec.toNat ∧ a.nsec.toNat < b.nsec.toNat := by
  change a.lt b = true ↔ _
  simp [lt, UInt32.lt_iff_toNat_lt, UInt32.toNat_inj]

theorem le_iff {a b : Time} :
    a ≤ b ↔ a.sec.toNat < b.sec.toNat ∨
      a.sec.toNat = b.sec.toNat ∧ a.nsec.toNat ≤ b.nsec.toNat := by
  change a.le b = true ↔ _
  simp [le, UInt32.lt_iff_toNat_lt, UInt32.le_iff_toNat_le, UInt32.toNat_inj]

instance : LinearOrder Time where
  le_refl a := by
    rw [le_iff]
    omega
  le_trans a b c first second := by
    rw [le_iff] at *
    omega
  le_antisymm a b first second := by
    rw [le_iff] at first second
    cases a
    cases b
    simp only [mk.injEq, ← UInt32.toNat_inj]
    dsimp only at first second
    omega
  le_total a b := by
    rw [le_iff, le_iff]
    omega
  lt_iff_le_not_ge a b := by
    rw [lt_iff, le_iff, le_iff]
    omega
  toDecidableLE := inferInstance
  toDecidableLT := inferInstance

theorem le_iff_nanos {a b : Time} (canonicalA : a.Canonical) (canonicalB : b.Canonical) :
    a ≤ b ↔ a.nanos ≤ b.nanos := by
  unfold Canonical nanosecondsPerSecond at canonicalA canonicalB
  rw [le_iff, nanos, nanos]
  omega

/-- A number of seconds is a time exactly in the range of the unsigned seconds. -/
theorem fromSec_isOk_iff (q : ℚ) :
    (∃ time, fromSec (.fin q) = .ok time) ↔ 0 ≤ q ∧ q < 4294967296 := by
  have below : Double.fin q < 0 ↔ q < 0 := Double.fin_lt_fin q 0
  have above : (9223372036854775808 : Double) ≤ .fin q ↔ 9223372036854775808 ≤ q :=
    Double.fin_le_fin 9223372036854775808 q
  have whole : (Double.fin q).floorInt > 4294967295 ↔ 4294967296 ≤ q := by
    change 4294967295 < ⌊q⌋ ↔ _
    rw [← Int.add_one_le_iff, Int.le_floor]
    norm_num
  unfold fromSec
  by_cases negative : Double.fin q < 0
  · rw [if_pos negative]
    constructor
    · rintro ⟨time, made⟩
      cases made
    · rintro ⟨nonneg, _⟩
      exact absurd (below.mp negative) (not_lt.mpr nonneg)
  rw [if_neg negative, if_neg (fun infinite => infinite rfl)]
  have nonneg : 0 ≤ q := not_lt.mp (below.not.mp negative)
  by_cases huge : (9223372036854775808 : Double) ≤ .fin q
  · rw [if_pos huge]
    constructor
    · rintro ⟨time, made⟩
      cases made
    · rintro ⟨_, small⟩
      linarith [above.mp huge]
  rw [if_neg huge]
  dsimp only
  by_cases large : (Double.fin q).floorInt > 4294967295
  · rw [if_pos large]
    constructor
    · rintro ⟨time, made⟩
      cases made
    · rintro ⟨_, small⟩
      linarith [whole.mp large]
  · rw [if_neg large]
    exact ⟨fun _ => ⟨nonneg, not_le.mp (whole.not.mp large)⟩, fun _ => ⟨_, rfl⟩⟩

theorem ofInt_toNat (n : UInt32) : UInt32.ofInt (n.toNat : Int) = n := by
  rw [← UInt32.toNat_inj, toNat_ofInt n.toNat_lt]

/-- The conversion of a canonical time to seconds is exact, and so is the one back. -/
theorem fromSec_toSec {t : Time} (canonical : t.Canonical) : fromSec t.toSec = .ok t := by
  have below : t.nsec.toNat < 1000000000 := canonical
  have seconds : t.nanos / 1000000000 = t.sec.toNat := by
    unfold nanos
    omega
  have nanoseconds : t.nanos % 1000000000 = t.nsec.toNat := by
    unfold nanos
    omega
  have bounded := t.sec.toNat_lt
  have nonneg : ¬ t.toSec < 0 := Double.not_lt_of_le t.toSec_nonneg
  have small : ¬ (9223372036854775808 : Double) ≤ t.toSec := by
    change ¬ Double.fin 9223372036854775808 ≤ _
    rw [toSec_eq, Double.fin_le_fin, not_le, div_lt_iff₀ (by norm_num)]
    have total : t.nanos < 4294967296 * 1000000000 := by
      unfold nanos
      omega
    exact_mod_cast lt_trans total (by norm_num)
  unfold fromSec
  rw [if_neg nonneg, if_neg (by simp [toSec_isFinite]), if_neg small]
  have whole := t.floorInt_toSec
  have fraction := t.roundInt_fraction
  rw [seconds] at whole fraction
  rw [nanoseconds] at fraction
  dsimp only
  rw [whole, if_neg (by omega), Int.cast_natCast, fraction]
  have carry : ((t.nsec.toNat : Nat) : Int) / 1000000000 = 0 := by omega
  have rest : ((t.nsec.toNat : Nat) : Int) % 1000000000 = t.nsec.toNat := by omega
  have carries : UInt32.ofInt 0 = 0 := rfl
  rw [carry, rest, ofInt_toNat, ofInt_toNat, carries, UInt32.add_zero]

end Time

end MultirotorController
