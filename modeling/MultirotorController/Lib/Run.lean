/-!
# Recorded runs of a deterministic machine

A machine takes one input after another. A run keeps the events of its past,
newest first, so that a restriction on the environment may compare the next
input with everything that happened before. The rules turn what one admissible
step preserves into what every run preserves.
-/

/-- A machine that answers every input with a successor and an observation. -/
structure Machine (State Input Output : Type) where
  step : State → Input → State × Output

namespace Machine

/-- One step as it happened. -/
structure Event (State Input Output : Type) where
  before : State
  input : Input
  output : Output
  after : State

variable {State Input Output : Type}

/-- What the environment may do next, given the past and the present state. -/
abbrev Restriction (State Input Output : Type) :=
  List (Event State Input Output) → State → Input → Prop

/-- The event of one step. -/
def event (machine : Machine State Input Output) (state : State) (input : Input) :
    Event State Input Output :=
  { before := state, input
    output := (machine.step state input).2
    after := (machine.step state input).1 }

/-- The finite runs from the start states, with their past. -/
inductive Run (machine : Machine State Input Output) (start : State → Prop)
    (admissible : Restriction State Input Output) :
    List (Event State Input Output) → State → Prop
  | start {state : State} : start state → Run machine start admissible [] state
  | step {past : List (Event State Input Output)} {state : State} (input : Input) :
      Run machine start admissible past state →
      admissible past state input →
      Run machine start admissible (machine.event state input :: past)
        (machine.step state input).1

namespace Run

variable {machine : Machine State Input Output} {start : State → Prop}
variable {admissible : Restriction State Input Output}
variable {past : List (Event State Input Output)} {state : State}

/-- An invariant may speak of the past as well as of the state. -/
theorem invariant (holds : List (Event State Input Output) → State → Prop)
    (initial : ∀ state, start state → holds [] state)
    (preserved : ∀ past state input, Run machine start admissible past state →
      holds past state → admissible past state input →
      holds (machine.event state input :: past) (machine.step state input).1)
    (run : Run machine start admissible past state) : holds past state := by
  induction run with
  | start started => exact initial _ started
  | step input run allowed ih => exact preserved _ _ input run ih allowed

/-- An invariant of the state alone. -/
theorem invariant_state (holds : State → Prop) (initial : ∀ state, start state → holds state)
    (preserved : ∀ past state input, holds state → admissible past state input →
      holds (machine.step state input).1)
    (run : Run machine start admissible past state) : holds state :=
  run.invariant (fun _ state => holds state) initial
    fun past state input _ held allowed => preserved past state input held allowed

/-- What every admissible step from an invariant state does, every step of a run has done. -/
theorem invariant_events (holds : State → Prop) {happens : Event State Input Output → Prop}
    (initial : ∀ state, start state → holds state)
    (preserved : ∀ past state input, holds state → admissible past state input →
      holds (machine.step state input).1 ∧ happens (machine.event state input))
    (run : Run machine start admissible past state) :
    holds state ∧ ∀ event ∈ past, happens event := by
  refine run.invariant (fun past state => holds state ∧ ∀ event ∈ past, happens event)
    (fun state started => ⟨initial state started, by simp⟩) ?_
  intro past state input _ held allowed
  obtain ⟨next, happened⟩ := preserved past state input held.1 allowed
  exact ⟨next, List.forall_mem_cons.mpr ⟨happened, held.2⟩⟩

/-- What every admissible step does after the past it really had. -/
theorem invariant_history (holds : List (Event State Input Output) → State → Prop)
    {happens : List (Event State Input Output) → Event State Input Output → Prop}
    (initial : ∀ state, start state → holds [] state)
    (preserved : ∀ past state input, Run machine start admissible past state →
      holds past state → admissible past state input →
      holds (machine.event state input :: past) (machine.step state input).1 ∧
        happens past (machine.event state input))
    (run : Run machine start admissible past state) :
    ∀ event older, event :: older <:+ past → happens older event := by
  refine (run.invariant (fun past state => holds past state ∧
    ∀ event older, event :: older <:+ past → happens older event)
    (fun state started => ⟨initial state started, by simp⟩) ?_).2
  intro past state input run held allowed
  obtain ⟨next, happened⟩ := preserved past state input run held.1 allowed
  refine ⟨next, fun event older suffix => ?_⟩
  rcases List.suffix_cons_iff.mp suffix with newest | earlier
  · cases newest
    exact happened
  · exact held.2 event older earlier

/-- A run extended by one event ends where the event ends. -/
theorem extend (run : Run machine start admissible past state) (input : Input)
    (allowed : admissible past state input) :
    Run machine start admissible (machine.event state input :: past)
      (machine.event state input).after := .step input run allowed

/-- A weaker restriction admits more runs. -/
theorem mono {admissible' : Restriction State Input Output}
    (weaker : ∀ past state input, admissible past state input → admissible' past state input)
    (run : Run machine start admissible past state) : Run machine start admissible' past state := by
  induction run with
  | start started => exact .start started
  | step input _ allowed ih => exact .step input ih (weaker _ _ _ allowed)

/-- So does a weaker start. -/
theorem mono_start {start' : State → Prop} (weaker : ∀ state, start state → start' state)
    (run : Run machine start admissible past state) : Run machine start' admissible past state := by
  induction run with
  | start started => exact .start (weaker _ started)
  | step input _ allowed ih => exact .step input ih allowed

end Run

/-- The events of a list of inputs, oldest first, from a state on top of a past. -/
def replay (machine : Machine State Input Output)
    (past : List (Event State Input Output)) (state : State) :
    List Input → List (Event State Input Output) × State
  | [] => (past, state)
  | input :: rest =>
      machine.replay (machine.event state input :: past) (machine.step state input).1 rest

/-- Every input of the list is admissible where it is taken. -/
def Admits (machine : Machine State Input Output)
    (admissible : Restriction State Input Output)
    (past : List (Event State Input Output)) (state : State) : List Input → Prop
  | [] => True
  | input :: rest =>
      admissible past state input ∧
        machine.Admits admissible (machine.event state input :: past) (machine.step state input).1
          rest

/-- A restriction that admits everything. -/
theorem admits_of_forall (machine : Machine State Input Output)
    {admissible : Restriction State Input Output}
    (always : ∀ past state input, admissible past state input)
    (past : List (Event State Input Output)) (state : State) (inputs : List Input) :
    machine.Admits admissible past state inputs := by
  induction inputs generalizing past state with
  | nil => trivial
  | cons input rest ih => exact ⟨always _ _ _, ih _ _⟩

instance decidableAdmits (machine : Machine State Input Output)
    (admissible : Restriction State Input Output)
    [∀ past state input, Decidable (admissible past state input)] :
    ∀ past state inputs, Decidable (machine.Admits admissible past state inputs)
  | _, _, [] => .isTrue trivial
  | past, state, input :: rest =>
      have := machine.decidableAdmits admissible (machine.event state input :: past)
        (machine.step state input).1 rest
      inferInstanceAs (Decidable (_ ∧ _))

namespace Run

variable {machine : Machine State Input Output} {start : State → Prop}
variable {admissible : Restriction State Input Output}

/-- A replay of admissible inputs extends a run. -/
theorem replay {past : List (Event State Input Output)} {state : State}
    (run : Run machine start admissible past state) (inputs : List Input)
    (allowed : machine.Admits admissible past state inputs) :
    Run machine start admissible (machine.replay past state inputs).1
      (machine.replay past state inputs).2 := by
  induction inputs generalizing past state with
  | nil => exact run
  | cons input rest ih => exact ih (.step input run allowed.1) allowed.2

end Run

/-- A measure that no step raises, and that every counted step lowers, bounds the counted
steps of a replay. -/
theorem countP_replay_le (machine : Machine State Input Output)
    (counted : Event State Input Output → Bool) (measure : State → Nat) (inputs : List Input)
    (lowered : ∀ input ∈ inputs, ∀ state,
      measure (machine.step state input).1 + (counted (machine.event state input)).toNat ≤
        measure state)
    (past : List (Event State Input Output)) (state : State) :
    (machine.replay past state inputs).1.countP counted ≤ past.countP counted + measure state := by
  induction inputs generalizing past state with
  | nil => exact Nat.le_add_right _ _
  | cons input rest ih =>
      obtain ⟨first, others⟩ := List.forall_mem_cons.mp lowered
      have step := first state
      have later := ih others (machine.event state input :: past) (machine.step state input).1
      rw [replay]
      cases count : counted (machine.event state input) with
      | true =>
          rw [count, Bool.toNat_true] at step
          rw [List.countP_cons_of_pos count] at later
          omega
      | false =>
          rw [count, Bool.toNat_false] at step
          rw [List.countP_cons_of_neg (by simp [count])] at later
          omega

end Machine
