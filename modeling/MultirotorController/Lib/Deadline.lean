import MultirotorController.Lib.Double

/-!
# Deadlines in exact arithmetic

A deadline is a time or the moment just after one, which is how the value next
to a floating-point time reads in exact arithmetic. The earlier of two deadlines
is reached as soon as one of them is; a due time that is not a number is never
reached and never the earlier one.
-/

structure Deadline where
  due : Double
  /-- Whether the due time itself is still too early. -/
  justAfter : Bool := false
deriving DecidableEq, Repr

namespace Deadline

/-- The first moment after a time, `std::nextafter(due, ∞)`. -/
def nextAfter (due : Double) : Deadline := ⟨due, true⟩

def Reached (deadline : Deadline) (t : Double) : Prop :=
  if deadline.justAfter then deadline.due < t else deadline.due ≤ t

instance (deadline : Deadline) (t : Double) : Decidable (deadline.Reached t) := by
  unfold Reached
  infer_instance

/-- The order of the moments: a time comes before the moment just after it. -/
def lt (a b : Deadline) : Bool :=
  if !a.justAfter && b.justAfter then decide (a.due ≤ b.due) else decide (a.due < b.due)

/-- `std::min(a, b)`: the first deadline unless the second is earlier. -/
def min (a b : Deadline) : Deadline := if b.lt a then b else a

/-- The deadline is still ahead at a time. -/
def Later (deadline : Deadline) (t : Double) : Prop :=
  if deadline.justAfter then t ≤ deadline.due else t < deadline.due

/-- The earlier of two deadlines, either of which may be missing; the second one on a tie. -/
def earlier : Option Deadline → Option Deadline → Option Deadline
  | none, b => b
  | some a, none => some a
  | some a, some b => if a.lt b then some a else some b

/-- The earliest of several deadlines, compared from left to right. -/
def earliest (candidates : List (Option Deadline)) : Option Deadline :=
  candidates.foldl earlier none

/-- No deadline is missed before a time: there is none, or it is still ahead. -/
def Ahead (t : Double) : Option Deadline → Prop
  | none => True
  | some deadline => deadline.Later t

instance (t : Double) (deadline : Deadline) : Decidable (deadline.Later t) := by
  unfold Later
  infer_instance

instance (t : Double) : (deadline : Option Deadline) → Decidable (Ahead t deadline)
  | none => .isTrue trivial
  | some deadline => inferInstanceAs (Decidable (deadline.Later t))

/-- The first whole tick at which the deadline is reached, on a clock with this many ticks
per unit of time. -/
def firstTick (deadline : Deadline) (rate : ℚ) : Int :=
  match deadline.due with
  | .fin due => if deadline.justAfter then ⌊due * rate⌋ + 1 else ⌈due * rate⌉
  | _ => 0

@[simp] theorem reached_nextAfter (due t : Double) : (nextAfter due).Reached t ↔ due < t :=
  Iff.rfl

@[simp] theorem later_nextAfter (due t : Double) : (nextAfter due).Later t ↔ t ≤ due := Iff.rfl

@[simp] theorem nextAfter_due (due : Double) : (nextAfter due).due = due := rfl

@[simp] theorem nextAfter_justAfter (due : Double) : (nextAfter due).justAfter = true := rfl

theorem lt_nextAfter_iff (a b : Double) : (nextAfter a).lt (nextAfter b) = true ↔ a < b :=
  decide_eq_true_iff

theorem min_nextAfter (a b : Double) :
    (nextAfter a).min (nextAfter b) = nextAfter (if b < a then b else a) := by
  unfold min
  by_cases earlier : b < a
  · rw [if_pos ((lt_nextAfter_iff b a).mpr earlier), if_pos earlier]
  · rw [if_neg (fun first => earlier ((lt_nextAfter_iff b a).mp first)), if_neg earlier]

/-- The earlier of a number and any other value is a number. -/
theorem exists_min_eq_fin (a : ℚ) (b : Double) (bounded : b ≠ .inf true) :
    ∃ c : ℚ, (if b < .fin a then b else .fin a) = .fin c := by
  by_cases earlier : b < .fin a
  · rw [if_pos earlier]
    cases b with
    | nan => exact absurd earlier (Double.not_nan_lt _)
    | inf negative =>
        rw [Double.inf_lt_fin] at earlier
        exact absurd (congrArg Double.inf earlier) bounded
    | fin value => exact ⟨value, rfl⟩
  · exact ⟨a, if_neg earlier⟩

/-- Just after the earlier of two times is just after one of them. -/
theorem min_lt_fin_iff (a : ℚ) (b : Double) (t : ℚ) :
    (if b < .fin a then b else .fin a) < .fin t ↔ Double.fin a < .fin t ∨ b < .fin t := by
  by_cases earlier : b < .fin a
  · rw [if_pos earlier]
    constructor
    · exact .inr
    · rintro (first | second)
      · cases b with
        | nan => exact absurd earlier (Double.not_nan_lt _)
        | inf negative =>
            rw [Double.inf_lt_fin] at earlier ⊢
            exact earlier
        | fin value =>
            rw [Double.fin_lt_fin] at *
            exact earlier.trans first
      · exact second
  · rw [if_neg earlier]
    constructor
    · exact .inl
    · rintro (first | second)
      · exact first
      · cases b with
        | nan => exact absurd second (Double.not_nan_lt _)
        | inf negative =>
            rw [Double.inf_lt_fin] at earlier second
            exact absurd second earlier
        | fin value =>
            rw [Double.fin_lt_fin] at *
            exact lt_of_le_of_lt (not_lt.mp earlier) second

/-- Deadlines at numbers, or none. -/
def Finite (candidate : Option Deadline) : Prop :=
  ∀ deadline ∈ candidate, deadline.due.isFinite = true

theorem finite_none : Finite none := by
  intro deadline member
  cases member

theorem finite_some {deadline : Deadline} (finite : deadline.due.isFinite = true) :
    Finite (some deadline) := by
  intro other member
  cases member
  exact finite

theorem finite_earlier {a b : Option Deadline} (finiteA : Finite a) (finiteB : Finite b) :
    Finite (earlier a b) := by
  cases a with
  | none => exact finiteB
  | some a =>
      cases b with
      | none => exact finiteA
      | some b =>
          change Finite (if a.lt b then some a else some b)
          split
          · exact finiteA
          · exact finiteB

/-- The order of the moments is the order in which they are reached. -/
theorem later_of_lt {a b : Deadline} (finiteA : a.due.isFinite = true)
    (finiteB : b.due.isFinite = true) {t : ℚ} (before : a.lt b = true) (later : a.Later (.fin t)) :
    b.Later (.fin t) := by
  obtain ⟨dueA, justAfterA⟩ := a
  obtain ⟨dueB, justAfterB⟩ := b
  obtain ⟨x, rfl⟩ := Double.exists_eq_fin finiteA
  obtain ⟨y, rfl⟩ := Double.exists_eq_fin finiteB
  cases justAfterA <;> cases justAfterB <;>
    simp only [lt, Later, Bool.not_false, Bool.not_true, Bool.and_true, Bool.and_false,
      if_true, if_false, Bool.false_eq_true, decide_eq_true_eq, Double.fin_lt_fin,
      Double.fin_le_fin] at * <;> linarith

theorem later_of_not_lt {a b : Deadline} (finiteA : a.due.isFinite = true)
    (finiteB : b.due.isFinite = true) {t : ℚ} (before : ¬ a.lt b = true)
    (later : b.Later (.fin t)) : a.Later (.fin t) := by
  obtain ⟨dueA, justAfterA⟩ := a
  obtain ⟨dueB, justAfterB⟩ := b
  obtain ⟨x, rfl⟩ := Double.exists_eq_fin finiteA
  obtain ⟨y, rfl⟩ := Double.exists_eq_fin finiteB
  cases justAfterA <;> cases justAfterB <;>
    simp only [lt, Later, Bool.not_false, Bool.not_true, Bool.and_true, Bool.and_false,
      if_true, if_false, Bool.false_eq_true, decide_eq_true_eq, Double.fin_lt_fin,
      Double.fin_le_fin, not_lt, not_le] at * <;> linarith

/-- The earlier of two deadlines is ahead exactly while both are. -/
theorem ahead_earlier {a b : Option Deadline} (finiteA : Finite a) (finiteB : Finite b) (t : ℚ) :
    Ahead (.fin t) (earlier a b) ↔ Ahead (.fin t) a ∧ Ahead (.fin t) b := by
  cases a with
  | none => exact ⟨fun ahead => ⟨trivial, ahead⟩, fun ahead => ahead.2⟩
  | some a =>
      cases b with
      | none => exact ⟨fun ahead => ⟨ahead, trivial⟩, fun ahead => ahead.1⟩
      | some b =>
          have numberA := finiteA a rfl
          have numberB := finiteB b rfl
          change Ahead (.fin t) (if a.lt b then some a else some b) ↔ _
          by_cases first : a.lt b = true
          · rw [if_pos first]
            exact ⟨fun ahead => ⟨ahead, later_of_lt numberA numberB first ahead⟩,
              fun ahead => ahead.1⟩
          · rw [if_neg first]
            exact ⟨fun ahead => ⟨later_of_not_lt numberA numberB first ahead, ahead⟩,
              fun ahead => ahead.2⟩

/-- The same of two deadlines that are both there. -/
theorem later_min {a b : Deadline} (finiteA : a.due.isFinite = true)
    (finiteB : b.due.isFinite = true) {t : ℚ} :
    (a.min b).Later (.fin t) ↔ a.Later (.fin t) ∧ b.Later (.fin t) := by
  unfold min
  by_cases second : b.lt a = true
  · rw [if_pos second]
    exact ⟨fun later => ⟨later_of_lt finiteB finiteA second later, later⟩, fun later => later.2⟩
  · rw [if_neg second]
    exact ⟨fun later => ⟨later, later_of_not_lt finiteB finiteA second later⟩,
      fun later => later.1⟩

theorem ahead_foldl {candidates : List (Option Deadline)} {t : ℚ} :
    ∀ {first : Option Deadline}, Finite first →
      (∀ candidate ∈ candidates, Finite candidate) →
      (Ahead (.fin t) (candidates.foldl earlier first) ↔
        Ahead (.fin t) first ∧ ∀ candidate ∈ candidates, Ahead (.fin t) candidate) := by
  induction candidates with
  | nil =>
      intro first _ _
      simp
  | cons candidate rest ih =>
      intro first finite numbers
      have number := numbers candidate List.mem_cons_self
      rw [List.foldl_cons, ih (finite_earlier finite number)
        fun other member => numbers other (List.mem_cons_of_mem _ member),
        ahead_earlier finite number, List.forall_mem_cons, and_assoc]

/-- The earliest deadline is ahead exactly while all of them are. -/
theorem ahead_earliest {candidates : List (Option Deadline)}
    (numbers : ∀ candidate ∈ candidates, Finite candidate) (t : ℚ) :
    Ahead (.fin t) (earliest candidates) ↔ ∀ candidate ∈ candidates, Ahead (.fin t) candidate := by
  unfold earliest
  rw [ahead_foldl finite_none numbers]
  exact and_iff_right trivial

end Deadline
