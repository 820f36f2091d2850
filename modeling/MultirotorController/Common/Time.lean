import MultirotorController.Lib.Deadline
import Mathlib.Tactic.Linarith
import Mathlib.Tactic.Ring

/-!
# Time and Duration of the controller core

Unsigned or signed 32-bit seconds with nanoseconds, and the same range errors as
the source. The machine integers are Lean's fixed-width ones, whose operations
wrap as the source's casts do; a thrown `std::runtime_error` is an `Except` error
that carries the same text.
-/

namespace MultirotorController

structure RuntimeError where
  message : String
deriving DecidableEq, Repr

def nanosecondsPerSecond : Nat := 1000000000

structure Duration where
  sec : Int32 := 0
  nsec : Int32 := 0
deriving DecidableEq, Repr, Inhabited

structure Time where
  sec : UInt32 := 0
  nsec : UInt32 := 0
deriving DecidableEq, Repr, Inhabited

namespace Duration

def outOfRange : RuntimeError := ⟨"Duration is out of dual 32-bit range"⟩

/-- `rostime`'s normalization of a signed pair. -/
def normalize (s ns : Int32) : Except RuntimeError Duration :=
  let nsecPart := ns.toInt64 % 1000000000
  let secPart := s.toInt64 + ns.toInt64 / 1000000000
  let (secPart, nsecPart) :=
    if nsecPart < 0 then (secPart - 1, nsecPart + 1000000000) else (secPart, nsecPart)
  if secPart < -2147483648 ∨ secPart > 2147483647 then .error outOfRange
  else .ok { sec := secPart.toInt32, nsec := nsecPart.toInt32 }

def fromNSec (t : Int64) : Except RuntimeError Duration :=
  let sec64 := t / 1000000000
  if sec64 < -2147483648 ∨ sec64 > 2147483647 then .error outOfRange
  else normalize sec64.toInt32 (t % 1000000000).toInt32

/-- The 64-bit limits are the doubles `-2^63` and `2^63`, as the source converts them. -/
def fromSec (d : Double) : Except RuntimeError Duration :=
  if ¬ d.isFinite then .error ⟨"Duration has to be finite."⟩
  else if d ≤ -9223372036854775808 ∨ 9223372036854775808 ≤ d then
    .error ⟨"Duration is out of 64-bit integer range"⟩
  else
    let sec64 := d.floorInt
    if sec64 < -2147483648 ∨ sec64 > 2147483647 then .error outOfRange
    else
      let nsec := ((d - .fin sec64) * 1000000000).roundInt
      .ok { sec := Int32.ofInt sec64 + Int32.ofInt (nsec / 1000000000)
            nsec := Int32.ofInt (nsec % 1000000000) }

def toSec (d : Duration) : Double := .fin (d.sec.toInt + d.nsec.toInt / 1000000000)

def toNSec (d : Duration) : Int64 := d.sec.toInt64 * 1000000000 + d.nsec.toInt64

def add (a b : Duration) : Except RuntimeError Duration := fromNSec (a.toNSec + b.toNSec)

def sub (a b : Duration) : Except RuntimeError Duration := fromNSec (a.toNSec - b.toNSec)

def neg (d : Duration) : Except RuntimeError Duration := fromNSec (-d.toNSec)

def eq (a b : Duration) : Bool := a.sec == b.sec && a.nsec == b.nsec

def ne (a b : Duration) : Bool := !a.eq b

def lt (a b : Duration) : Bool := a.sec < b.sec || a.sec == b.sec && a.nsec < b.nsec

def gt (a b : Duration) : Bool := a.sec > b.sec || a.sec == b.sec && a.nsec > b.nsec

def le (a b : Duration) : Bool := a.sec < b.sec || a.sec == b.sec && a.nsec ≤ b.nsec

def ge (a b : Duration) : Bool := a.sec > b.sec || a.sec == b.sec && a.nsec ≥ b.nsec

end Duration

namespace Time

def outOfRange : RuntimeError := ⟨"Time is out of dual 32-bit range"⟩

/-- `rostime`'s unsigned normalization, on 64-bit fields. -/
def normalize64 (s ns : UInt64) : Except RuntimeError Time :=
  let secPart := ns / 1000000000
  if s + secPart > 4294967295 then .error outOfRange
  else .ok { sec := (s + secPart).toUInt32, nsec := (ns % 1000000000).toUInt32 }

/-- The two-field constructor. -/
def ofFields (s ns : UInt32) : Except RuntimeError Time := normalize64 s.toUInt64 ns.toUInt64

def fromNSec (t : UInt64) : Except RuntimeError Time := normalize64 0 t

def fromSec (t : Double) : Except RuntimeError Time :=
  if t < 0 then .error ⟨"Time cannot be negative."⟩
  else if ¬ t.isFinite then .error ⟨"Time has to be finite."⟩
  else if 9223372036854775808 ≤ t then .error ⟨"Time is out of 64-bit integer range"⟩
  else
    let sec64 := t.floorInt
    if sec64 > 4294967295 then .error outOfRange
    else
      let nsec := ((t - .fin sec64) * 1000000000).roundInt
      .ok { sec := UInt32.ofInt sec64 + UInt32.ofInt (nsec / 1000000000)
            nsec := UInt32.ofInt (nsec % 1000000000) }

def toSec (t : Time) : Double := .fin (t.sec.toNat + t.nsec.toNat / 1000000000)

def toNSec (t : Time) : UInt64 := t.sec.toUInt64 * 1000000000 + t.nsec.toUInt64

def isZero (t : Time) : Bool := t.sec == 0 && t.nsec == 0

def eq (a b : Time) : Bool := a.sec == b.sec && a.nsec == b.nsec

def ne (a b : Time) : Bool := !a.eq b

def lt (a b : Time) : Bool := a.sec < b.sec || a.sec == b.sec && a.nsec < b.nsec

def gt (a b : Time) : Bool := a.sec > b.sec || a.sec == b.sec && a.nsec > b.nsec

def le (a b : Time) : Bool := a.sec < b.sec || a.sec == b.sec && a.nsec ≤ b.nsec

def ge (a b : Time) : Bool := a.sec > b.sec || a.sec == b.sec && a.nsec ≥ b.nsec

instance : LT Time := ⟨fun a b => a.lt b = true⟩
instance : LE Time := ⟨fun a b => a.le b = true⟩
instance (a b : Time) : Decidable (a < b) := inferInstanceAs (Decidable (a.lt b = true))
instance (a b : Time) : Decidable (a ≤ b) := inferInstanceAs (Decidable (a.le b = true))

def sub (a b : Time) : Except RuntimeError Duration :=
  Duration.fromNSec (a.toNSec - b.toNSec).toInt64

/-- `rostime`'s normalization of a signed sum that must stay unsigned. -/
def normalizeUnsigned (s ns : Int64) : Except RuntimeError Time :=
  let nsecPart := ns % 1000000000
  let secPart := s + ns / 1000000000
  let (secPart, nsecPart) :=
    if nsecPart < 0 then (secPart - 1, nsecPart + 1000000000) else (secPart, nsecPart)
  if secPart < 0 ∨ secPart > 4294967295 then .error outOfRange
  else ofFields secPart.toUInt64.toUInt32 nsecPart.toUInt64.toUInt32

def add (t : Time) (d : Duration) : Except RuntimeError Time :=
  normalizeUnsigned (t.sec.toUInt64 + d.sec.toInt64.toUInt64).toInt64
    (t.nsec.toUInt64 + d.nsec.toInt64.toUInt64).toInt64

/-- The first clock value that is not before the time. -/
def toSecAtOrAfter (t : Time) : Except RuntimeError Deadline := do
  let value := t.toSec
  if (← fromSec value).toNSec < t.toNSec then return .nextAfter (value + 1e-9)
  else return { due := value }

/-- Nanoseconds below one second, as every normalizing constructor leaves them. -/
def Canonical (t : Time) : Prop := t.nsec.toNat < nanosecondsPerSecond

instance (t : Time) : Decidable t.Canonical := inferInstanceAs (Decidable (_ < _))

/-- Only a finite time that is not negative is a clock value. -/
theorem fromSec_ok {t : Double} {time : Time} (clock : fromSec t = .ok time) :
    ¬t < 0 ∧ t.isFinite = true := by
  unfold fromSec at clock
  split at clock
  · cases clock
  next nonneg =>
    split at clock
    · cases clock
    next finite => exact ⟨nonneg, by simpa using finite⟩

theorem toSec_isFinite (t : Time) : t.toSec.isFinite = true := rfl

theorem toSec_nonneg (t : Time) : 0 ≤ t.toSec := by
  change Double.fin 0 ≤ _
  rw [toSec, Double.fin_le_fin]
  positivity

theorem toNat_ofInt {n : Nat} (small : n < 4294967296) : (UInt32.ofInt (n : Int)).toNat = n := by
  simp [UInt32.ofInt]
  omega

/-- The nanoseconds of a time, without a bound. -/
def nanos (t : Time) : Nat := t.sec.toNat * 1000000000 + t.nsec.toNat

theorem toSec_eq (t : Time) : t.toSec = .fin (t.nanos / 1000000000) := by
  rw [toSec, nanos]
  congr 1
  push_cast
  ring

theorem floorInt_toSec (t : Time) : t.toSec.floorInt = ((t.nanos / 1000000000 : Nat) : Int) := by
  rw [toSec_eq]
  change ⌊((t.nanos : ℚ) / 1000000000)⌋ = _
  have := Rat.floor_intCast_div_natCast t.nanos 1000000000
  push_cast at this ⊢
  exact this

/-- The fraction of a clock value is a whole number of nanoseconds. -/
theorem roundInt_fraction (t : Time) :
    ((t.toSec - .fin (t.nanos / 1000000000 : Nat)) * 1000000000).roundInt =
      ((t.nanos % 1000000000 : Nat) : Int) := by
  have split : ((t.nanos : ℚ) / 1000000000 - (t.nanos / 1000000000 : Nat)) * 1000000000 =
      (t.nanos % 1000000000 : Nat) := by
    have whole : (t.nanos : ℚ) =
        1000000000 * (t.nanos / 1000000000 : Nat) + (t.nanos % 1000000000 : Nat) := by
      exact_mod_cast (Nat.div_add_mod t.nanos 1000000000).symm
    rw [sub_mul, div_mul_cancel₀ _ (by norm_num)]
    linarith
  have exact_ : (t.toSec - .fin (t.nanos / 1000000000 : Nat)) * 1000000000 =
      .fin (t.nanos % 1000000000 : Nat) := by
    rw [toSec_eq, Double.fin_sub_fin]
    exact congrArg Double.fin split
  rw [exact_]
  generalize t.nanos % 1000000000 = n
  change ⌊(n : ℚ) + 1 / 2⌋ = _
  rw [Int.floor_eq_iff, Int.cast_natCast]
  constructor <;> linarith

/-- A time that goes through a number of seconds keeps its value. -/
theorem toSec_fromSec {t time : Time} (clock : fromSec t.toSec = .ok time) :
    time.toSec = t.toSec := by
  unfold fromSec at clock
  repeat' split at clock
  all_goals try cases clock
  next =>
    dsimp only at clock
    split at clock
    · cases clock
    next bounded =>
      cases clock
      rw [floorInt_toSec] at bounded ⊢
      have small : t.nanos / 1000000000 < 4294967296 := by omega
      have below : t.nanos % 1000000000 < 1000000000 := Nat.mod_lt _ (by decide)
      have carry : ((t.nanos % 1000000000 : Nat) : Int) / 1000000000 = 0 := by omega
      have rest : ((t.nanos % 1000000000 : Nat) : Int) % 1000000000 =
          (t.nanos % 1000000000 : Nat) := by omega
      rw [Int.cast_natCast, roundInt_fraction, carry, rest, toSec_eq, toSec_eq t]
      refine congrArg (fun n : Nat => Double.fin ((n : ℚ) / 1000000000)) ?_
      have seconds := toNat_ofInt small
      have nanoseconds := toNat_ofInt (Nat.lt_trans below (by decide))
      have total := Nat.div_add_mod' t.nanos 1000000000
      have sum : (UInt32.ofInt ((t.nanos / 1000000000 : Nat) : Int) + UInt32.ofInt 0).toNat =
          t.nanos / 1000000000 := by
        have carries : (UInt32.ofInt 0).toNat = 0 := toNat_ofInt (n := 0) (by decide)
        rw [UInt32.toNat_add, seconds, carries, Nat.add_zero]
        exact Nat.mod_eq_of_lt small
      rw [nanos]
      dsimp only
      rw [sum, nanoseconds, total]

theorem toNat_toNSec (t : Time) : t.toNSec.toNat = t.nanos := by
  have sec := t.sec.toNat_lt
  have nsec := t.nsec.toNat_lt
  have billion : UInt64.toNat 1000000000 = 1000000000 := rfl
  simp only [toNSec, UInt64.toNat_add, UInt64.toNat_mul, UInt32.toNat_toUInt64, nanos, billion]
  omega

theorem nanos_le {a b : Time} (canonical : a.Canonical) (order : ¬b < a) : a.nanos ≤ b.nanos := by
  have order : ¬b.lt a = true := order
  have bounded : a.nsec.toNat < 1000000000 := canonical
  simp only [lt, Bool.or_eq_true, Bool.and_eq_true, decide_eq_true_eq, beq_iff_eq, not_or,
    not_and, UInt32.lt_iff_toNat_lt, ← UInt32.toNat_inj] at order
  unfold nanos
  omega

end Time

end MultirotorController
