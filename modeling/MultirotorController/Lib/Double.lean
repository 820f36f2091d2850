import Mathlib.Data.Rat.Defs
import Mathlib.Algebra.Order.Field.Rat
import Mathlib.Data.Rat.Floor

/-!
# Floating-point values with exact arithmetic

A value is a rational number, one of the two infinities or a NaN. The special
values follow IEEE 754: every ordered comparison with a NaN is false, infinities
absorb, and an invalid operation gives a NaN. The arithmetic on rationals is
exact: nothing is rounded, nothing overflows to an infinity and zero has no sign,
except where a result is rounded by name.

A branch that only a rounded or an overflowed result reaches is dead over these
values. In the controller that is the step to the next number in
`controllerDueAt`, `entryDeadline` and `Time::toSecAtOrAfter`, while
`controllerStrictDueAt` always takes its step; and the branch of any test for an
infinite sum or product of numbers.
-/

inductive Double where
  | nan
  | inf (negative : Bool)
  | fin (value : ℚ)
deriving DecidableEq, Repr

namespace Double

instance : Inhabited Double := ⟨.fin 0⟩

instance (n : Nat) : OfNat Double n := ⟨.fin n⟩

instance : OfScientific Double :=
  ⟨fun mantissa exponentSign decimalExponent =>
    .fin (Rat.ofScientific mantissa exponentSign decimalExponent)⟩

/-- Strict order of the extended values; a NaN is below nothing. -/
def lt : Double → Double → Bool
  | .nan, _ | _, .nan => false
  | .inf negative, .inf negative' => negative && !negative'
  | .inf negative, .fin _ => negative
  | .fin _, .inf negative => !negative
  | .fin a, .fin b => decide (a < b)

def le : Double → Double → Bool
  | .nan, _ | _, .nan => false
  | .inf negative, .inf negative' => negative || !negative'
  | .inf negative, .fin _ => negative
  | .fin _, .inf negative => !negative
  | .fin a, .fin b => decide (a ≤ b)

instance : LT Double := ⟨fun a b => a.lt b = true⟩
instance : LE Double := ⟨fun a b => a.le b = true⟩
instance (a b : Double) : Decidable (a < b) := inferInstanceAs (Decidable (a.lt b = true))
instance (a b : Double) : Decidable (a ≤ b) := inferInstanceAs (Decidable (a.le b = true))

def neg : Double → Double
  | .nan => .nan
  | .inf negative => .inf !negative
  | .fin a => .fin (-a)

def abs : Double → Double
  | .nan => .nan
  | .inf _ => .inf false
  | .fin a => .fin |a|

def add : Double → Double → Double
  | .nan, _ | _, .nan => .nan
  | .inf negative, .inf negative' => if negative = negative' then .inf negative else .nan
  | .inf negative, .fin _ | .fin _, .inf negative => .inf negative
  | .fin a, .fin b => .fin (a + b)

/-- The product of an infinity and a number: a zero factor is invalid. -/
def infMul (negative : Bool) (a : ℚ) : Double :=
  if a = 0 then .nan else .inf (negative != decide (a < 0))

def mul : Double → Double → Double
  | .nan, _ | _, .nan => .nan
  | .inf negative, .inf negative' => .inf (negative != negative')
  | .inf negative, .fin a | .fin a, .inf negative => infMul negative a
  | .fin a, .fin b => .fin (a * b)

/-- Zero divisors are positive: `1 / 0` is `+∞` and `0 / 0` is a NaN. -/
def div : Double → Double → Double
  | .nan, _ | _, .nan => .nan
  | .inf _, .inf _ => .nan
  | .inf negative, .fin a => .inf (negative != decide (a < 0))
  | .fin _, .inf _ => .fin 0
  | .fin a, .fin b =>
      if b = 0 then
        if a = 0 then .nan else .inf (decide (a < 0))
      else .fin (a / b)

instance : Neg Double := ⟨neg⟩
instance : Add Double := ⟨add⟩
instance : Sub Double := ⟨fun a b => a.add b.neg⟩
instance : Mul Double := ⟨mul⟩
instance : Div Double := ⟨div⟩

def isFinite : Double → Bool
  | .fin _ => true
  | _ => false

/-- `std::max(a, b)`: the first argument unless it is below the second. -/
def max (a b : Double) : Double := if a < b then b else a

/-- `std::min(a, b)`: the first argument unless the second is below it. -/
def min (a b : Double) : Double := if b < a then b else a

/-- The greatest integer not above a finite value. -/
def floorInt : Double → Int
  | .fin q => ⌊q⌋
  | _ => 0

/-- A finite value rounded towards zero. -/
def truncInt : Double → Int
  | .fin q => if 0 ≤ q then ⌊q⌋ else ⌈q⌉
  | _ => 0

/-- The nearest integer of a nonnegative value, ties upwards. -/
def roundInt : Double → Int
  | .fin q => ⌊q + 1 / 2⌋
  | _ => 0

section Order

@[simp] theorem fin_lt_fin (a b : ℚ) : Double.fin a < Double.fin b ↔ a < b :=
  decide_eq_true_iff

@[simp] theorem fin_le_fin (a b : ℚ) : Double.fin a ≤ Double.fin b ↔ a ≤ b :=
  decide_eq_true_iff

@[simp] theorem not_nan_lt (a : Double) : ¬ nan < a := Bool.false_ne_true

@[simp] theorem not_nan_le (a : Double) : ¬ nan ≤ a := Bool.false_ne_true

@[simp] theorem not_lt_nan (a : Double) : ¬ a < nan := by
  cases a <;> exact Bool.false_ne_true

@[simp] theorem not_le_nan (a : Double) : ¬ a ≤ nan := by
  cases a <;> exact Bool.false_ne_true

@[simp] theorem inf_lt_fin (negative : Bool) (a : ℚ) : inf negative < fin a ↔ negative = true :=
  Iff.rfl

@[simp] theorem fin_lt_inf (negative : Bool) (a : ℚ) : fin a < inf negative ↔ negative = false := by
  change (!negative) = true ↔ _
  simp

@[simp] theorem inf_le_fin (negative : Bool) (a : ℚ) : inf negative ≤ fin a ↔ negative = true :=
  Iff.rfl

@[simp] theorem fin_le_inf (negative : Bool) (a : ℚ) : fin a ≤ inf negative ↔ negative = false := by
  change (!negative) = true ↔ _
  simp

@[simp] theorem inf_lt_inf (negative negative' : Bool) :
    inf negative < inf negative' ↔ negative = true ∧ negative' = false := by
  change (negative && !negative') = true ↔ _
  simp

@[simp] theorem inf_le_inf (negative negative' : Bool) :
    inf negative ≤ inf negative' ↔ negative = true ∨ negative' = false := by
  change (negative || !negative') = true ↔ _
  simp

theorem lt_of_le_of_lt {a b c : Double} (first : a ≤ b) (second : b < c) : a < c := by
  cases a <;> cases b <;> cases c <;> simp_all
  exact first.trans_lt second

theorem lt_of_lt_of_le {a b c : Double} (first : a < b) (second : b ≤ c) : a < c := by
  obtain _ | (_ | _) | a := a <;> obtain _ | (_ | _) | b := b <;>
    obtain _ | (_ | _) | c := c <;> simp_all
  exact first.trans_le second

/-- Numbers are linearly ordered. -/
theorem lt_of_not_le {a b : Double} (finite : a.isFinite) (finite' : b.isFinite)
    (above : ¬ b ≤ a) : a < b := by
  cases a <;> cases b <;> simp_all [isFinite]

theorem lt_asymm {a b : Double} (below : a < b) : ¬ b < a := by
  cases a <;> cases b <;> simp_all
  exact below.le

theorem not_lt_of_le {a b : Double} (below : a ≤ b) : ¬ b < a := by
  cases a <;> cases b <;> simp_all
  rintro rfl
  exact below.resolve_right (by simp)

/-- Below a bound and above a larger one is impossible, also with a NaN. -/
theorem not_lt_of_le_of_lt {a b c : Double} (upper : a ≤ b) (between : b < c) : ¬ c < a :=
  lt_asymm (lt_of_le_of_lt upper between)

theorem le_trans {a b c : Double} (first : a ≤ b) (second : b ≤ c) : a ≤ c := by
  cases a <;> cases b <;> cases c <;> simp_all
  · rcases first with negative | positive
    · exact .inl negative
    · exact .inr (second.resolve_left (by simp [positive]))
  · exact first.trans second

theorem le_of_lt {a b : Double} (below : a < b) : a ≤ b := by
  cases a <;> cases b <;> simp_all
  exact below.le

theorem le_refl_of_isFinite {a : Double} (finite : a.isFinite = true) : a ≤ a := by
  cases a <;> simp_all [isFinite]

theorem le_of_not_lt {a b : Double} (finite : a.isFinite) (finite' : b.isFinite)
    (above : ¬ b < a) : a ≤ b := by
  cases a <;> cases b <;> simp_all [isFinite]

/-- Whatever is no NaN is comparable. -/
theorem lt_or_le {a b : Double} (number : a ≠ nan) (number' : b ≠ nan) : a < b ∨ b ≤ a := by
  obtain _ | (_ | _) | a := a <;> obtain _ | (_ | _) | b := b <;> simp_all
  exact lt_or_ge a b

theorem ne_nan_of_le {a b : Double} (below : a ≤ b) : a ≠ nan ∧ b ≠ nan := by
  constructor <;> rintro rfl <;> simp at below

/-- What lies between two numbers is a number. -/
theorem isFinite_of_between {low value high : Double} (finite : low.isFinite = true)
    (finite' : high.isFinite = true) (above : low ≤ value) (below : value ≤ high) :
    value.isFinite = true := by
  cases low <;> cases value <;> cases high <;> simp_all [isFinite]

theorem le_antisymm {a b : Double} (below : a ≤ b) (above : b ≤ a) : a = b := by
  obtain _ | (_ | _) | a := a <;> obtain _ | (_ | _) | b := b <;> simp_all
  exact Rat.le_antisymm below above

/-- The smaller of two values that are no NaN, in either order of the arguments. -/
theorem min_comm {a b : Double} (number : a ≠ nan) (number' : b ≠ nan) : min a b = min b a := by
  unfold min
  rcases lt_or_le number number' with below | above
  · rw [if_neg (lt_asymm below), if_pos below]
  · rw [if_neg (not_lt_of_le above)]
    split
    · rfl
    next notBelow => exact le_antisymm ((lt_or_le number' number).resolve_left notBelow) above

/-- What bringing a value between ordered bounds does to a value that is no NaN. -/
theorem max_min_eq {low value high : Double} (number : value ≠ nan) (ordered : low ≤ high) :
    max low (min high value) =
      if value < low then low else if high < value then high else value := by
  obtain ⟨numberLow, numberHigh⟩ := ne_nan_of_le ordered
  have capped : min high value = if high < value then high else value := by
    unfold min
    rcases lt_or_le number numberHigh with below | above
    · rw [if_pos below, if_neg (lt_asymm below)]
    · rw [if_neg (not_lt_of_le above)]
      split
      · rfl
      next notAbove =>
        exact le_antisymm above ((lt_or_le numberHigh number).resolve_left notAbove)
  rw [capped]
  unfold max
  rcases lt_or_le number numberLow with below | above
  · rw [if_pos below, if_neg (not_lt_of_le (le_trans (le_of_lt below) ordered)),
      if_neg (lt_asymm below)]
  · rw [if_neg (not_lt_of_le above)]
    split
    · split
      · rfl
      next notBelow =>
        exact le_antisymm ordered ((lt_or_le numberLow numberHigh).resolve_left notBelow)
    · split
      · rfl
      next notBelow =>
        exact le_antisymm above ((lt_or_le numberLow number).resolve_left notBelow)

/-- A value brought between ordered bounds; a NaN becomes the upper bound. -/
theorem between_max_min {low value high : Double} (ordered : low ≤ high) :
    low ≤ max low (min high value) ∧ max low (min high value) ≤ high := by
  have bounded : low ≤ low ∧ high ≤ high := by
    cases low <;> cases high <;> simp_all
  have chosen : min high value = high ∨ value < high ∧ min high value = value := by
    unfold min
    split
    next below => exact .inr ⟨below, rfl⟩
    next => exact .inl rfl
  unfold max
  rcases chosen with same | ⟨below, same⟩ <;> rw [same] <;> split
  · exact ⟨ordered, bounded.2⟩
  · exact ⟨bounded.1, ordered⟩
  next above => exact ⟨le_of_lt above, le_of_lt below⟩
  · exact ⟨bounded.1, ordered⟩

/-- The same with the arguments of the minimum swapped; a NaN becomes the lower bound. -/
theorem between_max_min_swapped {low value high : Double} (ordered : low ≤ high) :
    low ≤ max low (min value high) ∧ max low (min value high) ≤ high := by
  have bounded : low ≤ low ∧ high ≤ high := by
    cases low <;> cases high <;> simp_all
  unfold max
  split
  next above =>
    refine ⟨le_of_lt above, ?_⟩
    unfold min at above ⊢
    split
    · exact bounded.2
    next inside =>
      rw [if_neg inside] at above
      obtain _ | (_ | _) | value := value <;> obtain _ | (_ | _) | high := high <;> simp_all
  · exact ⟨bounded.1, ordered⟩

end Order

@[simp] theorem fin_add_fin (a b : ℚ) : fin a + fin b = fin (a + b) := rfl

@[simp] theorem fin_sub_fin (a b : ℚ) : fin a - fin b = fin (a - b) := by
  change fin (a + -b) = _
  rw [sub_eq_add_neg]

@[simp] theorem fin_mul_fin (a b : ℚ) : fin a * fin b = fin (a * b) := rfl

/-- Two bounded differences bound their sum, also by an infinite bound. -/
theorem fin_sub_le_add {a b c : ℚ} {d e : Double} (first : fin a - fin b ≤ d)
    (second : fin b - fin c ≤ e) : fin a - fin c ≤ d + e := by
  rw [fin_sub_fin] at *
  cases d with
  | nan => simp at first
  | inf negative =>
      cases e with
      | nan => simp at second
      | inf negative' =>
          simp only [fin_le_inf] at first second
          subst first second
          exact (fin_le_inf _ _).mpr rfl
      | fin y =>
          simp only [fin_le_inf] at first
          subst first
          exact (fin_le_inf _ _).mpr rfl
  | fin x =>
      cases e with
      | nan => simp at second
      | inf negative' =>
          simp only [fin_le_inf] at second
          subst second
          exact (fin_le_inf _ _).mpr rfl
      | fin y =>
          simp only [fin_le_fin, fin_add_fin] at *
          have sum := add_le_add first second
          rwa [sub_add_sub_cancel] at sum

theorem neg_le_self {a : Double} (nonnegative : 0 ≤ a) : -a ≤ a := by
  obtain _ | (_ | _) | value := a
  · exact absurd nonnegative (not_le_nan 0)
  · decide
  · exact nonnegative
  · have positive : 0 ≤ value := (fin_le_fin 0 value).mp nonnegative
    exact (fin_le_fin (-value) value).mpr ((neg_nonpos.mpr positive).trans positive)

@[simp] theorem isFinite_fin (a : ℚ) : (fin a).isFinite = true := rfl

@[simp] theorem isFinite_nan : nan.isFinite = false := rfl

@[simp] theorem isFinite_inf (negative : Bool) : (inf negative).isFinite = false := rfl

@[simp] theorem isFinite_neg {a : Double} : (-a).isFinite = a.isFinite := by
  cases a <;> rfl

/-- A product is a number only if its factors are. -/
@[simp] theorem isFinite_mul {a b : Double} :
    (a * b).isFinite = true ↔ a.isFinite = true ∧ b.isFinite = true := by
  have infMul_isFinite (negative : Bool) (q : ℚ) : (infMul negative q).isFinite = false := by
    unfold infMul
    split <;> rfl
  cases a <;> cases b
  case fin.fin => simp
  all_goals
    change (mul _ _).isFinite = true ↔ _
    simp [mul, infMul_isFinite]

/-- Nor is a sum or a difference a number unless both terms are. -/
@[simp] theorem isFinite_add {a b : Double} :
    (a + b).isFinite = true ↔ a.isFinite = true ∧ b.isFinite = true := by
  cases a <;> cases b
  case inf.inf negative negative' =>
    change (if negative = negative' then inf negative else nan).isFinite = true ↔ _
    split <;> simp
  case fin.fin => simp
  all_goals
    change (add _ _).isFinite = true ↔ _
    simp [add]

@[simp] theorem isFinite_sub {a b : Double} :
    (a - b).isFinite = true ↔ a.isFinite = true ∧ b.isFinite = true := by
  change (a + -b).isFinite = true ↔ _
  simp

theorem fin_div_fin {a b : ℚ} (nonzero : b ≠ 0) : fin a / fin b = fin (a / b) := by
  change div (fin a) (fin b) = _
  rw [div, if_neg nonzero]

theorem isFinite_div {a b : Double} (finite : a.isFinite = true) (finite' : b.isFinite = true)
    (nonzero : b ≠ 0) : (a / b).isFinite = true := by
  cases a <;> cases b <;> simp_all [isFinite]
  next value divisor =>
    have nonzero : divisor ≠ 0 := fun same => nonzero (by rw [same]; rfl)
    rw [fin_div_fin nonzero]

/-- The quotient by a number is a number only if the dividend is. -/
theorem isFinite_of_div {a b : Double} (finite : b.isFinite = true)
    (quotient : (a / b).isFinite = true) : a.isFinite = true := by
  cases b with
  | fin divisor =>
      cases a with
      | fin value => rfl
      | nan => exact quotient
      | inf negative => cases quotient
  | nan => cases finite
  | inf negative => cases finite

theorem exists_eq_fin {a : Double} (finite : a.isFinite = true) : ∃ q : ℚ, a = fin q := by
  cases a with
  | fin q => exact ⟨q, rfl⟩
  | nan => cases finite
  | inf negative => cases finite

/-- A value between a bound and its negative. -/
theorem abs_le_of_between {value limit : Double} (finite : limit.isFinite = true)
    (above : -limit ≤ value) (below : value ≤ limit) :
    value.isFinite = true ∧ value.abs ≤ limit := by
  obtain ⟨bound, rfl⟩ := exists_eq_fin finite
  obtain ⟨inner, rfl⟩ := exists_eq_fin (isFinite_of_between (isFinite_neg.trans finite) finite
    above below)
  refine ⟨rfl, (fin_le_fin _ _).mpr (abs_le.mpr ⟨?_, ?_⟩)⟩
  · exact (fin_le_fin (-bound) inner).mp above
  · exact (fin_le_fin inner bound).mp below

end Double
