import MultirotorController.Common.TimeOrder

/-!
# Exact arithmetic of times

Every operation on times and durations counts nanoseconds as integers do: it
returns the canonical value of the integer result, or throws if the seconds of that
result do not fit. The machine integers on the way never wrap to another value.
-/

namespace MultirotorController

/-- Rounding towards zero, as one equation and the bounds of the rest. -/
theorem tdiv_billion (t : Int) : 1000000000 * t.tdiv 1000000000 + t.tmod 1000000000 = t ∧
    -1000000000 < t.tmod 1000000000 ∧ t.tmod 1000000000 < 1000000000 ∧
    (0 ≤ t → 0 ≤ t.tmod 1000000000) ∧ (t ≤ 0 → t.tmod 1000000000 ≤ 0) := by
  rw [Int.tdiv_eq_ediv, Int.tmod_eq_emod]
  have sign : (1000000000 : Int).sign = 1 := rfl
  have size : ((1000000000 : Int).natAbs : Int) = 1000000000 := rfl
  split <;> omega

theorem toInt_div_billion (t : Int64) :
    (t / 1000000000).toInt = t.toInt.tdiv 1000000000 := by
  have low := t.le_toInt
  have high := t.toInt_lt
  have spec := tdiv_billion t.toInt
  have billion : (1000000000 : Int64).toInt = 1000000000 := rfl
  rw [Int64.toInt_div, billion]
  apply Int.bmod_eq_of_le <;> omega

theorem toInt_mod_billion (t : Int64) :
    (t % 1000000000).toInt = t.toInt.tmod 1000000000 := Int64.toInt_mod t 1000000000

theorem toInt_toInt32_of_small {t : Int64} (low : -2147483648 ≤ t.toInt)
    (high : t.toInt ≤ 2147483647) : t.toInt32.toInt = t.toInt := by
  rw [Int64.toInt_toInt32]
  apply Int.bmod_eq_of_le <;> omega

theorem toInt_toInt64_of_small {t : UInt64} (small : t.toNat < 9223372036854775808) :
    t.toInt64.toInt = t.toNat := by
  change t.toBitVec.toInt = _
  rw [BitVec.toInt_eq_toNat_of_lt]
  · rfl
  · change 2 * t.toNat < _
    omega

theorem toNat_toUInt64_of_nonneg {t : Int64} (nonneg : 0 ≤ t.toInt) :
    (t.toUInt64.toNat : Int) = t.toInt := by
  have value : t.toInt = t.toBitVec.toInt := rfl
  have word : t.toUInt64.toNat = t.toBitVec.toNat := rfl
  have cond := BitVec.toInt_eq_toNat_cond t.toBitVec
  have small := t.toBitVec.isLt
  rw [value] at nonneg ⊢
  rw [word]
  split at cond <;> omega

/-- A sum that fits is the sum of the integers. -/
theorem toInt_add_of_small {a b : Int64} (low : -9223372036854775808 ≤ a.toInt + b.toInt)
    (high : a.toInt + b.toInt < 9223372036854775808) : (a + b).toInt = a.toInt + b.toInt := by
  rw [Int64.toInt_add]
  apply Int.bmod_eq_of_le <;> omega

theorem toInt_sub_of_small {a b : Int64} (low : -9223372036854775808 ≤ a.toInt - b.toInt)
    (high : a.toInt - b.toInt < 9223372036854775808) : (a - b).toInt = a.toInt - b.toInt := by
  rw [Int64.toInt_sub]
  apply Int.bmod_eq_of_le <;> omega

namespace Duration

/-- Nanoseconds below one second, as every normalizing constructor leaves them. -/
def Canonical (d : Duration) : Prop := 0 ≤ d.nsec.toInt ∧ d.nsec.toInt < 1000000000

instance (d : Duration) : Decidable d.Canonical := inferInstanceAs (Decidable (_ ∧ _))

/-- The nanoseconds of a duration, without a bound. -/
def nanos (d : Duration) : Int := 1000000000 * d.sec.toInt + d.nsec.toInt

/-- The nanoseconds that have signed 32-bit seconds. -/
def InRange (nanos : Int) : Prop :=
  -2147483648 * 1000000000 ≤ nanos ∧ nanos < 2147483648 * 1000000000

instance (nanos : Int) : Decidable (InRange nanos) := inferInstanceAs (Decidable (_ ∧ _))

/-- An outcome is the duration of these nanoseconds, or the range error if there is none. -/
def Exact (outcome : Except RuntimeError Duration) (nanos : Int) : Prop :=
  (InRange nanos → ∃ d : Duration, outcome = .ok d ∧ d.Canonical ∧ d.nanos = nanos) ∧
    (¬InRange nanos → outcome = .error outOfRange)

theorem toInt_toNSec (d : Duration) : d.toNSec.toInt = d.nanos := by
  have low := d.sec.le_toInt
  have high := d.sec.toInt_lt
  have below := d.nsec.le_toInt
  have above := d.nsec.toInt_lt
  have product : (d.sec.toInt64 * 1000000000).toInt = 1000000000 * d.sec.toInt := by
    have billion : (1000000000 : Int64).toInt = 1000000000 := rfl
    rw [Int64.toInt_mul, Int32.toInt_toInt64, billion, Int.mul_comm]
    apply Int.bmod_eq_of_le <;> omega
  unfold toNSec nanos
  rw [toInt_add_of_small, product, Int32.toInt_toInt64] <;>
    rw [product, Int32.toInt_toInt64] <;> omega

theorem toSec_eq (d : Duration) : d.toSec = .fin (d.nanos / 1000000000) := by
  rw [toSec, nanos]
  congr 1
  push_cast
  ring

theorem nanos_bounded (d : Duration) : -2200000000000000000 < d.nanos ∧
    d.nanos < 2200000000000000000 := by
  have low := d.sec.le_toInt
  have high := d.sec.toInt_lt
  have below := d.nsec.le_toInt
  have above := d.nsec.toInt_lt
  unfold nanos
  omega

/-- The range check on parts that are already normalized. -/
theorem exact_of_parts {s n : Int64} {total : Int} (sum : 1000000000 * s.toInt + n.toInt = total)
    (nonneg : 0 ≤ n.toInt) (below : n.toInt < 1000000000) :
    Exact (if s < -2147483648 ∨ s > 2147483647 then .error outOfRange
      else .ok { sec := s.toInt32, nsec := n.toInt32 }) total := by
  have lower : (-2147483648 : Int64).toInt = -2147483648 := rfl
  have upper : (2147483647 : Int64).toInt = 2147483647 := rfl
  have range : (s < -2147483648 ∨ s > 2147483647) ↔ ¬InRange total := by
    rw [Int64.lt_iff_toInt_lt, gt_iff_lt, Int64.lt_iff_toInt_lt, lower, upper, InRange]
    omega
  constructor
  · intro inRange
    rw [if_neg (fun out => range.mp out inRange)]
    obtain ⟨low, high⟩ := inRange
    have sec : s.toInt32.toInt = s.toInt := by
      apply toInt_toInt32_of_small <;> omega
    have nsec : n.toInt32.toInt = n.toInt := by
      apply toInt_toInt32_of_small <;> omega
    refine ⟨_, rfl, ?_, ?_⟩
    · rw [Canonical, nsec]
      exact ⟨nonneg, below⟩
    · rw [nanos, sec, nsec, sum]
  · intro out
    rw [if_pos (range.mpr out)]

/-- Normalizing moves whole seconds between the fields. -/
theorem normalize_exact (s ns : Int32) (below : -1000000000 < ns.toInt)
    (above : ns.toInt < 1000000000) :
    Exact (normalize s ns) (1000000000 * s.toInt + ns.toInt) := by
  have low := s.le_toInt
  have high := s.toInt_lt
  have spec := tdiv_billion ns.toInt
  have rest : (ns.toInt64 % 1000000000).toInt = ns.toInt := by
    rw [toInt_mod_billion, Int32.toInt_toInt64]
    omega
  have carry : (ns.toInt64 / 1000000000).toInt = 0 := by
    rw [toInt_div_billion, Int32.toInt_toInt64]
    omega
  have whole : (s.toInt64 + ns.toInt64 / 1000000000).toInt = s.toInt := by
    rw [toInt_add_of_small] <;> rw [carry, Int32.toInt_toInt64] <;> omega
  unfold normalize
  generalize ns.toInt64 % 1000000000 = nsecPart at rest
  generalize s.toInt64 + ns.toInt64 / 1000000000 = secPart at whole
  dsimp only
  have zero : (0 : Int64).toInt = 0 := rfl
  by_cases negative : nsecPart < 0
  · rw [if_pos negative]
    rw [Int64.lt_iff_toInt_lt, zero, rest] at negative
    have one : (1 : Int64).toInt = 1 := rfl
    have billion : (1000000000 : Int64).toInt = 1000000000 := rfl
    have borrowed : (secPart - 1).toInt = s.toInt - 1 := by
      rw [toInt_sub_of_small] <;> rw [one, whole] <;> omega
    have lent : (nsecPart + 1000000000).toInt = ns.toInt + 1000000000 := by
      rw [toInt_add_of_small] <;> rw [billion, rest] <;> omega
    generalize secPart - 1 = second at borrowed
    generalize nsecPart + 1000000000 = nanosecond at lent
    dsimp only
    apply exact_of_parts <;> omega
  · rw [if_neg negative]
    rw [Int64.lt_iff_toInt_lt, zero, rest] at negative
    dsimp only
    apply exact_of_parts <;> omega

theorem fromNSec_exact (t : Int64) : Exact (fromNSec t) t.toInt := by
  have quotient := toInt_div_billion t
  have rest := toInt_mod_billion t
  have spec := tdiv_billion t.toInt
  have lower : (-2147483648 : Int64).toInt = -2147483648 := rfl
  have upper : (2147483647 : Int64).toInt = 2147483647 := rfl
  unfold fromNSec
  dsimp only
  split
  next out =>
    rw [Int64.lt_iff_toInt_lt, gt_iff_lt, Int64.lt_iff_toInt_lt, quotient, lower, upper] at out
    refine ⟨fun inRange => ?_, fun _ => rfl⟩
    obtain ⟨low, high⟩ := inRange
    omega
  next inRange =>
    rw [not_or, Int64.lt_iff_toInt_lt, gt_iff_lt, Int64.lt_iff_toInt_lt, quotient, lower,
      upper] at inRange
    have quotient32 : (t / 1000000000).toInt32.toInt = t.toInt.tdiv 1000000000 := by
      rw [toInt_toInt32_of_small] <;> omega
    have rest32 : (t % 1000000000).toInt32.toInt = t.toInt.tmod 1000000000 := by
      rw [toInt_toInt32_of_small] <;> omega
    have normalized := normalize_exact (t / 1000000000).toInt32 (t % 1000000000).toInt32
      (by omega) (by omega)
    rwa [quotient32, rest32, spec.1] at normalized

theorem Exact.nanos_eq {outcome : Except RuntimeError Duration} {d : Duration} {n : Int}
    (exact_ : Exact outcome n) (made : outcome = .ok d) : d.nanos = n := by
  by_cases inRange : InRange n
  · obtain ⟨value, returned, -, count⟩ := exact_.1 inRange
    cases made.symm.trans returned
    exact count
  · cases made.symm.trans (exact_.2 inRange)

theorem add_exact (a b : Duration) : Exact (a.add b) (a.nanos + b.nanos) := by
  have first := a.nanos_bounded
  have second := b.nanos_bounded
  have sum : (a.toNSec + b.toNSec).toInt = a.nanos + b.nanos := by
    rw [toInt_add_of_small] <;> rw [toInt_toNSec, toInt_toNSec] <;> omega
  rw [← sum]
  exact fromNSec_exact _

theorem sub_exact (a b : Duration) : Exact (a.sub b) (a.nanos - b.nanos) := by
  have first := a.nanos_bounded
  have second := b.nanos_bounded
  have difference : (a.toNSec - b.toNSec).toInt = a.nanos - b.nanos := by
    rw [toInt_sub_of_small] <;> rw [toInt_toNSec, toInt_toNSec] <;> omega
  rw [← difference]
  exact fromNSec_exact _

theorem neg_exact (d : Duration) : Exact d.neg (-d.nanos) := by
  have bounded := d.nanos_bounded
  have negative : (-d.toNSec).toInt = -d.nanos := by
    rw [Int64.toInt_neg, toInt_toNSec]
    apply Int.bmod_eq_of_le <;> omega
  rw [← negative]
  exact fromNSec_exact _

theorem lt_iff {a b : Duration} : a.lt b = true ↔
    a.sec.toInt < b.sec.toInt ∨ a.sec.toInt = b.sec.toInt ∧ a.nsec.toInt < b.nsec.toInt := by
  simp [lt, Int32.lt_iff_toInt_lt, Int32.toInt_inj]

theorem le_iff {a b : Duration} : a.le b = true ↔
    a.sec.toInt < b.sec.toInt ∨ a.sec.toInt = b.sec.toInt ∧ a.nsec.toInt ≤ b.nsec.toInt := by
  simp [le, Int32.lt_iff_toInt_lt, Int32.le_iff_toInt_le, Int32.toInt_inj]

theorem gt_iff {a b : Duration} : a.gt b = true ↔
    b.sec.toInt < a.sec.toInt ∨ a.sec.toInt = b.sec.toInt ∧ b.nsec.toInt < a.nsec.toInt := by
  simp [gt, Int32.lt_iff_toInt_lt, Int32.toInt_inj]

theorem ge_iff {a b : Duration} : a.ge b = true ↔
    b.sec.toInt < a.sec.toInt ∨ a.sec.toInt = b.sec.toInt ∧ b.nsec.toInt ≤ a.nsec.toInt := by
  simp [ge, Int32.lt_iff_toInt_lt, Int32.le_iff_toInt_le, Int32.toInt_inj]

theorem eq_iff {a b : Duration} : a.eq b = true ↔
    a.sec.toInt = b.sec.toInt ∧ a.nsec.toInt = b.nsec.toInt := by
  simp [Duration.eq, Int32.toInt_inj]

end Duration

namespace Time

/-- The nanoseconds that have unsigned 32-bit seconds. -/
def InRange (nanos : Int) : Prop := 0 ≤ nanos ∧ nanos < 4294967296 * 1000000000

/-- An outcome is the time of these nanoseconds, or the range error if there is none. -/
def Exact (outcome : Except RuntimeError Time) (nanos : Int) : Prop :=
  (InRange nanos → ∃ t : Time, outcome = .ok t ∧ t.Canonical ∧ t.nanos = nanos) ∧
    (¬InRange nanos → outcome = .error outOfRange)

theorem Exact.of_ok {outcome : Except RuntimeError Time} {t : Time} {n : Int}
    (exact_ : Exact outcome n) (made : outcome = .ok t) : t.Canonical ∧ (t.nanos : Int) = n := by
  by_cases inRange : InRange n
  · obtain ⟨value, returned, canonical, count⟩ := exact_.1 inRange
    cases made.symm.trans returned
    exact ⟨canonical, count⟩
  · cases made.symm.trans (exact_.2 inRange)

theorem nanos_bounded (t : Time) : t.nanos < 4300000000000000000 := by
  have seconds := t.sec.toNat_lt
  have nanoseconds := t.nsec.toNat_lt
  unfold nanos
  omega

/-- The sum of the seconds does not wrap, so the range check sees the integer. -/
theorem normalize64_exact (s ns : UInt64) (small : s.toNat < 4294967296) :
    Exact (normalize64 s ns) (1000000000 * s.toNat + ns.toNat) := by
  have bound := ns.toNat_lt
  have billion : UInt64.toNat 1000000000 = 1000000000 := rfl
  have carry : (ns / 1000000000).toNat = ns.toNat / 1000000000 := UInt64.toNat_div ns 1000000000
  have rest : (ns % 1000000000).toNat = ns.toNat % 1000000000 := UInt64.toNat_mod ns 1000000000
  have sum : (s + ns / 1000000000).toNat = s.toNat + ns.toNat / 1000000000 := by
    rw [UInt64.toNat_add, carry]
    apply Nat.mod_eq_of_lt
    omega
  have upper : UInt64.toNat 4294967295 = 4294967295 := rfl
  unfold normalize64
  dsimp only
  split
  next out =>
    rw [gt_iff_lt, UInt64.lt_iff_toNat_lt, sum, upper] at out
    refine ⟨fun inRange => ?_, fun _ => rfl⟩
    obtain ⟨low, high⟩ := inRange
    omega
  next fits =>
    rw [gt_iff_lt, UInt64.lt_iff_toNat_lt, sum, upper] at fits
    have inRange : InRange (1000000000 * s.toNat + ns.toNat) := by
      unfold InRange
      omega
    have sec : (s + ns / 1000000000).toUInt32.toNat = s.toNat + ns.toNat / 1000000000 := by
      rw [UInt64.toNat_toUInt32, sum]
      apply Nat.mod_eq_of_lt
      omega
    have nsec : (ns % 1000000000).toUInt32.toNat = ns.toNat % 1000000000 := by
      rw [UInt64.toNat_toUInt32, rest]
      apply Nat.mod_eq_of_lt
      omega
    refine ⟨fun _ => ⟨_, rfl, ?_, ?_⟩, fun out => absurd inRange out⟩
    · rw [Canonical, nsec]
      exact Nat.mod_lt _ (by decide)
    · rw [nanos, sec, nsec]
      omega

theorem fromNSec_exact (t : UInt64) : Exact (fromNSec t) t.toNat := by
  have normalized := normalize64_exact 0 t (by decide)
  have zero : UInt64.toNat 0 = 0 := rfl
  rw [zero] at normalized
  have total : (1000000000 * (0 : Nat) + t.toNat : Int) = t.toNat := by omega
  rwa [total] at normalized

/-- Parts that are normalized are put together or refused. -/
theorem exact_of_parts {s n : Int64} {total : Int} (sum : 1000000000 * s.toInt + n.toInt = total)
    (nonneg : 0 ≤ n.toInt) (below : n.toInt < 1000000000) :
    Exact (if s < 0 ∨ s > 4294967295 then .error outOfRange
      else ofFields s.toUInt64.toUInt32 n.toUInt64.toUInt32) total := by
  have zero : (0 : Int64).toInt = 0 := rfl
  have upper : (4294967295 : Int64).toInt = 4294967295 := rfl
  split
  next out =>
    rw [Int64.lt_iff_toInt_lt, gt_iff_lt, Int64.lt_iff_toInt_lt, zero, upper] at out
    refine ⟨fun inRange => ?_, fun _ => rfl⟩
    obtain ⟨low, high⟩ := inRange
    omega
  next fits =>
    rw [not_or, Int64.lt_iff_toInt_lt, gt_iff_lt, Int64.lt_iff_toInt_lt, zero, upper] at fits
    have field (value : Int64) (nonneg : 0 ≤ value.toInt) (small : value.toInt < 4294967296) :
        (value.toUInt64.toUInt32.toUInt64.toNat : Int) = value.toInt := by
      have word := toNat_toUInt64_of_nonneg nonneg
      rw [UInt32.toNat_toUInt64, UInt64.toNat_toUInt32, Nat.mod_eq_of_lt, word]
      omega
    have sec := field s (by omega) (by omega)
    have nsec := field n nonneg (by omega)
    have normalized := normalize64_exact s.toUInt64.toUInt32.toUInt64 n.toUInt64.toUInt32.toUInt64
      (by omega)
    rwa [sec, nsec, sum] at normalized

/-- Normalizing on signed 64-bit fields. -/
theorem normalizeUnsigned_exact (s ns : Int64) (low : -4294967296 ≤ s.toInt)
    (high : s.toInt < 8589934592) : Exact (normalizeUnsigned s ns)
      (1000000000 * s.toInt + ns.toInt) := by
  have below := ns.le_toInt
  have above := ns.toInt_lt
  have spec := tdiv_billion ns.toInt
  have rest := toInt_mod_billion ns
  have carry := toInt_div_billion ns
  have whole : (s + ns / 1000000000).toInt = s.toInt + ns.toInt.tdiv 1000000000 := by
    rw [toInt_add_of_small] <;> rw [carry] <;> omega
  unfold normalizeUnsigned
  generalize ns % 1000000000 = nsecPart at rest
  generalize s + ns / 1000000000 = secPart at whole
  dsimp only
  have zero : (0 : Int64).toInt = 0 := rfl
  by_cases negative : nsecPart < 0
  · rw [if_pos negative]
    rw [Int64.lt_iff_toInt_lt, zero, rest] at negative
    have one : (1 : Int64).toInt = 1 := rfl
    have billion : (1000000000 : Int64).toInt = 1000000000 := rfl
    have borrowed : (secPart - 1).toInt = s.toInt + ns.toInt.tdiv 1000000000 - 1 := by
      rw [toInt_sub_of_small] <;> rw [one, whole] <;> omega
    have lent : (nsecPart + 1000000000).toInt = ns.toInt.tmod 1000000000 + 1000000000 := by
      rw [toInt_add_of_small] <;> rw [billion, rest] <;> omega
    generalize secPart - 1 = second at borrowed
    generalize nsecPart + 1000000000 = nanosecond at lent
    dsimp only
    apply exact_of_parts <;> omega
  · rw [if_neg negative]
    rw [Int64.lt_iff_toInt_lt, zero, rest] at negative
    dsimp only
    apply exact_of_parts <;> omega

/-- The sign extension of the seconds makes their unsigned sum the signed one. -/
theorem add_exact (t : Time) (d : Duration) : Exact (t.add d) (t.nanos + d.nanos) := by
  have sum (word : UInt32) (signed : Int32) :
      (word.toUInt64 + signed.toInt64.toUInt64).toInt64.toInt = word.toNat + signed.toInt := by
    have small := word.toNat_lt
    have low := signed.le_toInt
    have high := signed.toInt_lt
    have extended : word.toUInt64.toInt64.toInt = word.toNat := by
      rw [toInt_toInt64_of_small] <;> rw [UInt32.toNat_toUInt64]
      omega
    rw [UInt64.toInt64_add, Int64.toInt64_toUInt64 signed.toInt64, toInt_add_of_small] <;>
      rw [extended, Int32.toInt_toInt64] <;> omega
  have seconds := sum t.sec d.sec
  have nanoseconds := sum t.nsec d.nsec
  have small := t.sec.toNat_lt
  have low := d.sec.le_toInt
  have high := d.sec.toInt_lt
  have normalized := normalizeUnsigned_exact (t.sec.toUInt64 + d.sec.toInt64.toUInt64).toInt64
    (t.nsec.toUInt64 + d.nsec.toInt64.toUInt64).toInt64 (by omega) (by omega)
  rw [seconds, nanoseconds] at normalized
  have total : 1000000000 * ((t.sec.toNat : Int) + d.sec.toInt) +
      ((t.nsec.toNat : Int) + d.nsec.toInt) = t.nanos + d.nanos := by
    unfold nanos Duration.nanos
    omega
  rw [total] at normalized
  exact normalized

theorem sub_exact (a b : Time) : Duration.Exact (a.sub b) (a.nanos - b.nanos) := by
  have first := a.nanos_bounded
  have second := b.nanos_bounded
  have minuend : a.toNSec.toInt64.toInt = a.nanos := by
    rw [toInt_toInt64_of_small] <;> rw [toNat_toNSec]
    omega
  have subtrahend : b.toNSec.toInt64.toInt = b.nanos := by
    rw [toInt_toInt64_of_small] <;> rw [toNat_toNSec]
    omega
  have difference : (a.toNSec - b.toNSec).toInt64.toInt = a.nanos - b.nanos := by
    rw [UInt64.toInt64_sub, toInt_sub_of_small] <;> rw [minuend, subtrahend] <;> omega
  rw [← difference]
  exact Duration.fromNSec_exact _

/-- The difference of two times, in nanoseconds. -/
theorem toInt_sub {a b : Time} {d : Duration} (subtracted : a.sub b = .ok d) :
    d.toNSec.toInt = (a.nanos : Int) - b.nanos := by
  rw [Duration.toInt_toNSec]
  exact (sub_exact a b).nanos_eq subtracted

theorem gt_iff {a b : Time} : a.gt b = true ↔
    b.sec.toNat < a.sec.toNat ∨ a.sec.toNat = b.sec.toNat ∧ b.nsec.toNat < a.nsec.toNat := by
  simp [gt, UInt32.lt_iff_toNat_lt, UInt32.toNat_inj]

theorem ge_iff {a b : Time} : a.ge b = true ↔
    b.sec.toNat < a.sec.toNat ∨ a.sec.toNat = b.sec.toNat ∧ b.nsec.toNat ≤ a.nsec.toNat := by
  simp [ge, UInt32.lt_iff_toNat_lt, UInt32.le_iff_toNat_le, UInt32.toNat_inj]

theorem eq_iff {a b : Time} : a.eq b = true ↔
    a.sec.toNat = b.sec.toNat ∧ a.nsec.toNat = b.nsec.toNat := by
  simp [Time.eq, UInt32.toNat_inj]

end Time

/-- Six comparisons are those of two integers. -/
structure Compares (eq ne lt gt le ge : Bool) (a b : Int) : Prop where
  eq : eq = true ↔ a = b
  ne : ne = true ↔ a ≠ b
  lt : lt = true ↔ a < b
  gt : gt = true ↔ a > b
  le : le = true ↔ a ≤ b
  ge : ge = true ↔ a ≥ b

/-- Canonical times are compared by their nanoseconds. -/
theorem Time.compares {a b : Time} (canonicalA : a.Canonical) (canonicalB : b.Canonical) :
    Compares (a.eq b) (a.ne b) (a.lt b) (a.gt b) (a.le b) (a.ge b) a.nanos b.nanos := by
  have belowA : a.nsec.toNat < 1000000000 := canonicalA
  have belowB : b.nsec.toNat < 1000000000 := canonicalB
  have equal : a.eq b = true ↔ (a.nanos : Int) = b.nanos := by
    rw [eq_iff]
    unfold nanos
    omega
  have less : a.lt b = true ↔ _ := lt_iff
  have atMost : a.le b = true ↔ _ := le_iff
  constructor
  · exact equal
  · rw [Time.ne, Bool.not_eq_true', ← Bool.not_eq_true, equal]
  · rw [less]
    unfold nanos
    omega
  · rw [gt_iff]
    unfold nanos
    omega
  · rw [atMost]
    unfold nanos
    omega
  · rw [ge_iff]
    unfold nanos
    omega

/-- Canonical durations are compared by their nanoseconds. -/
theorem Duration.compares {a b : Duration} (canonicalA : a.Canonical) (canonicalB : b.Canonical) :
    Compares (a.eq b) (a.ne b) (a.lt b) (a.gt b) (a.le b) (a.ge b) a.nanos b.nanos := by
  obtain ⟨nonnegA, belowA⟩ := canonicalA
  obtain ⟨nonnegB, belowB⟩ := canonicalB
  have equal : a.eq b = true ↔ a.nanos = b.nanos := by
    rw [eq_iff]
    unfold nanos
    omega
  constructor
  · exact equal
  · rw [Duration.ne, Bool.not_eq_true', ← Bool.not_eq_true, equal]
  · rw [lt_iff]
    unfold nanos
    omega
  · rw [gt_iff]
    unfold nanos
    omega
  · rw [le_iff]
    unfold nanos
    omega
  · rw [ge_iff]
    unfold nanos
    omega

/-- Times and durations are exact nanosecond arithmetic. -/
theorem nanosecond_arithmetic (t t₁ t₂ : Time) (d d₁ d₂ : Duration)
    (canonical₁ : t₁.Canonical) (canonical₂ : t₂.Canonical) (normal₁ : d₁.Canonical)
    (normal₂ : d₂.Canonical) :
    Duration.Exact (t₁.sub t₂) (t₁.nanos - t₂.nanos) ∧
      Time.Exact (t.add d) (t.nanos + d.nanos) ∧
      Duration.Exact (d₁.add d₂) (d₁.nanos + d₂.nanos) ∧
      Duration.Exact (d₁.sub d₂) (d₁.nanos - d₂.nanos) ∧
      Duration.Exact d.neg (-d.nanos) ∧
      (∀ n : UInt64, Time.Exact (Time.fromNSec n) n.toNat) ∧
      (∀ n : Int64, Duration.Exact (Duration.fromNSec n) n.toInt) ∧
      Compares (t₁.eq t₂) (t₁.ne t₂) (t₁.lt t₂) (t₁.gt t₂) (t₁.le t₂) (t₁.ge t₂)
        t₁.nanos t₂.nanos ∧
      Compares (d₁.eq d₂) (d₁.ne d₂) (d₁.lt d₂) (d₁.gt d₂) (d₁.le d₂) (d₁.ge d₂)
        d₁.nanos d₂.nanos :=
  ⟨Time.sub_exact t₁ t₂, Time.add_exact t d, Duration.add_exact d₁ d₂, Duration.sub_exact d₁ d₂,
    Duration.neg_exact d, Time.fromNSec_exact, Duration.fromNSec_exact,
    Time.compares canonical₁ canonical₂, Duration.compares normal₁ normal₂⟩

/-- The arithmetic at both ends of the ranges. -/
theorem nanosecond_arithmetic_ends :
    Duration.Exact (Time.sub ⟨0, 5⟩ ⟨4294967295, 999999999⟩) (-4294967295999999994) ∧
      Duration.Exact (Duration.sub ⟨-2147483648, 0⟩ ⟨2147483647, 999999999⟩)
        (-4294967295999999999) := by
  have times : ((⟨0, 5⟩ : Time).nanos : Int) - (⟨4294967295, 999999999⟩ : Time).nanos =
      -4294967295999999994 := by decide +kernel
  have durations : (⟨-2147483648, 0⟩ : Duration).nanos -
      (⟨2147483647, 999999999⟩ : Duration).nanos = -4294967295999999999 := by decide +kernel
  obtain ⟨difference, -, -, span, -⟩ := nanosecond_arithmetic ⟨0, 5⟩ ⟨0, 5⟩
    ⟨4294967295, 999999999⟩ ⟨0, 0⟩ ⟨-2147483648, 0⟩ ⟨2147483647, 999999999⟩ (by decide) (by decide)
    (by decide) (by decide)
  rw [times] at difference
  rw [durations] at span
  exact ⟨difference, span⟩

end MultirotorController
