import MultirotorController.Lib.Binary64

/-!
# JSON values

Values as a strict reader leaves them. Integers keep the width of their type, every
other number is a double. An integer that is asked for as a double is rounded to one.
A conversion that the value does not admit is a logic error of the library, which is
not the exception of a refused argument.
-/

inductive Json where
  | null
  | bool (value : Bool)
  | int (value : Int64)
  | uint (value : UInt64)
  | real (value : Double)
  | string (value : String)
  | array (items : List Json)
  | object (members : List (String × Json))

namespace Json

/-- `Json::LogicError`. -/
structure LogicError where
  message : String
deriving DecidableEq, Repr

def isNull : Json → Bool
  | .null => true
  | _ => false

def isObject : Json → Bool
  | .object _ => true
  | _ => false

def isNumeric : Json → Bool
  | .int _ | .uint _ | .real _ => true
  | _ => false

/-- The value is this string. -/
def isText (text : String) : Json → Bool
  | .string value => value == text
  | _ => false

def getMemberNames : Json → List String
  | .object members => members.map Prod.fst
  | _ => []

def member (key : String) : Json → Option Json
  | .object members => members.lookup key
  | _ => none

/-- `operator[]`: an absent member is null. -/
def get (value : Json) (key : String) : Json := (value.member key).getD .null

def asLargestInt : Json → Except LogicError Int64
  | .null => .ok 0
  | .bool value => .ok (if value then 1 else 0)
  | .int value => .ok value
  | .uint value =>
      if value.toNat ≤ 9223372036854775807 then .ok value.toInt64
      else .error ⟨"LargestUInt out of Int64 range"⟩
  | .real value =>
      if -9223372036854775808 ≤ value ∧ value ≤ 9223372036854775808 then
        .ok (Int64.ofInt value.truncInt)
      else .error ⟨"double out of Int64 range"⟩
  | _ => .error ⟨"Value is not convertible to Int64."⟩

def asDouble : Json → Except LogicError Double
  | .null => .ok 0
  | .bool value => .ok (if value then 1 else 0)
  | .int value => .ok (Binary64.round value.toInt)
  | .uint value => .ok (Binary64.round value.toNat)
  | .real value => .ok value
  | _ => .error ⟨"Value is not convertible to double."⟩

theorem asLargestInt_of_le {value : UInt64} (small : value.toNat ≤ 9223372036854775807) :
    (Json.uint value).asLargestInt = .ok value.toInt64 := if_pos small

theorem asLargestInt_of_lt {value : UInt64} (large : 9223372036854775807 < value.toNat) :
    (Json.uint value).asLargestInt = .error ⟨"LargestUInt out of Int64 range"⟩ :=
  if_neg (Nat.not_le.mpr large)

theorem isNull_iff {value : Json} : value.isNull = true ↔ value = .null := by
  cases value <;> simp [isNull]

theorem isText_iff {value : Json} {text : String} :
    value.isText text = true ↔ value = .string text := by
  cases value <;> simp [isText]

/-- The finite number that a value stands for. -/
def Denotes : Json → Double → Prop
  | .int value, number => number = .fin value.toInt
  | .uint value, number => number = .fin value.toNat
  | .real value, number => number = value ∧ value.isFinite = true
  | _, _ => False

/-- The finite number that a value is read as. -/
def Reads (value : Json) (number : Double) : Prop :=
  value.isNumeric = true ∧ value.asDouble = .ok number ∧ number.isFinite = true

/-- The number that a value stands for, if any, is one of the format. -/
def Representable (value : Json) : Prop :=
  ∀ number, value.Denotes number → number.rounded = number

theorem Denotes.isFinite {value : Json} {number : Double} (denotes : value.Denotes number) :
    number.isFinite = true := by
  cases value with
  | int value =>
      cases denotes
      rfl
  | uint value =>
      cases denotes
      rfl
  | real value =>
      obtain ⟨rfl, finite⟩ := denotes
      exact finite
  | _ => cases denotes

theorem Denotes.unique {value : Json} {number number' : Double} (denotes : value.Denotes number)
    (denotes' : value.Denotes number') : number = number' := by
  cases value with
  | int value => exact Eq.trans denotes (Eq.symm denotes')
  | uint value => exact Eq.trans denotes (Eq.symm denotes')
  | real value => exact denotes.1.trans denotes'.1.symm
  | _ => cases denotes

/-- A 64-bit integer is within the format. -/
theorem isFinite_round {number : ℤ} (inside : -2 ^ 64 ≤ number ∧ number ≤ 2 ^ 64) :
    (Binary64.round number).isFinite = true := by
  have bounded : |(number : ℚ)| ≤ 2 ^ (64 : ℤ) := by
    rw [abs_le]
    exact ⟨by exact_mod_cast inside.1, by exact_mod_cast inside.2⟩
  rw [Binary64.round_of_abs_le (by norm_num) bounded]
  rfl

/-- A number is read as the rounded one; every real is one of the format already. -/
theorem reads_iff {value : Json} {number : Double}
    (stored : ∀ real, value = .real real → real.rounded = real) :
    value.Reads number ↔ ∃ exact, value.Denotes exact ∧ number = exact.rounded := by
  cases value with
  | int value =>
      have finite : (Binary64.round (value.toInt : ℚ)).isFinite = true := by
        have low := value.le_toInt
        have high := value.toInt_lt
        exact isFinite_round ⟨by omega, by omega⟩
      constructor
      · rintro ⟨_, converts, _⟩
        cases converts
        exact ⟨_, rfl, rfl⟩
      · rintro ⟨_, rfl, rfl⟩
        exact ⟨rfl, rfl, finite⟩
  | uint value =>
      have finite : (Binary64.round ((value.toNat : ℤ) : ℚ)).isFinite = true := by
        have high := value.toNat_lt
        exact isFinite_round ⟨by omega, by omega⟩
      rw [Int.cast_natCast] at finite
      constructor
      · rintro ⟨_, converts, _⟩
        cases converts
        exact ⟨_, rfl, rfl⟩
      · rintro ⟨_, rfl, rfl⟩
        exact ⟨rfl, rfl, finite⟩
  | real value =>
      have same := stored value rfl
      constructor
      · rintro ⟨_, converts, finite⟩
        cases converts
        exact ⟨_, ⟨rfl, finite⟩, same.symm⟩
      · rintro ⟨_, ⟨rfl, finite⟩, rfl⟩
        rw [same]
        exact ⟨rfl, rfl, finite⟩
  | _ => simp [Denotes, Reads, isNumeric]

/-- A value is read as what it stands for, if that is a number of the format. -/
theorem Representable.reads_iff {value : Json} (representable : value.Representable)
    {number : Double} : value.Reads number ↔ value.Denotes number := by
  have stored : ∀ real, value = .real real → real.isFinite = true → real.rounded = real := by
    rintro real rfl finite
    exact representable real ⟨rfl, finite⟩
  have finite : ∀ real, value = .real real → real.rounded = real := by
    intro real same
    cases real with
    | fin q => exact stored _ same rfl
    | inf negative => rfl
    | nan => rfl
  rw [Json.reads_iff finite]
  constructor
  · rintro ⟨exact_, denotes, rfl⟩
    rw [representable exact_ denotes]
    exact denotes
  · intro denotes
    exact ⟨number, denotes, (representable number denotes).symm⟩

/-- What is read as what it stands for stands for a number of the format. -/
theorem Reads.representable {value : Json} {number : Double} (read : value.Reads number)
    (denotes : value.Denotes number)
    (stored : ∀ real, value = .real real → real.rounded = real) : value.Representable := by
  intro number' denotes'
  cases denotes.unique denotes'
  obtain ⟨exact_, denotes'', same⟩ := (reads_iff stored).mp read
  cases denotes.unique denotes''
  exact same.symm

end Json
