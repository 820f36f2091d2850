import Mathlib.Data.List.Forall2
import MultirotorController.Lib.Run

/-!
# Two runs of a machine on the same inputs

A relation between states that every step keeps carries over to whole runs, and
with it whatever the steps of related states have in common.
-/

namespace Machine

variable {State Input Output : Type}

/-- The outputs of a list of inputs, oldest first. -/
def outputs (machine : Machine State Input Output) (state : State) : List Input → List Output
  | [] => []
  | input :: rest =>
      (machine.step state input).2 :: machine.outputs (machine.step state input).1 rest

/-- The state after a list of inputs. -/
def final (machine : Machine State Input Output) (state : State) : List Input → State
  | [] => state
  | input :: rest => machine.final (machine.step state input).1 rest

variable {machine : Machine State Input Output} {inputs : List Input}

/-- A property that every step keeps holds at the end. -/
theorem final_of_step (holds : State → Prop)
    (kept : ∀ input ∈ inputs, ∀ state, holds state → holds (machine.step state input).1)
    {state : State} (initial : holds state) : holds (machine.final state inputs) := by
  induction inputs generalizing state with
  | nil => exact initial
  | cons input rest ih =>
      obtain ⟨first, others⟩ := List.forall_mem_cons.mp kept
      exact ih others (first state initial)

/-- Related runs answer alike. -/
theorem outputs_alike (related : State → State → Prop) (alike : Output → Output → Prop)
    (kept : ∀ input ∈ inputs, ∀ first second, related first second →
      alike (machine.step first input).2 (machine.step second input).2 ∧
        related (machine.step first input).1 (machine.step second input).1)
    {first second : State} (initial : related first second) :
    List.Forall₂ alike (machine.outputs first inputs) (machine.outputs second inputs) := by
  induction inputs generalizing first second with
  | nil => exact .nil
  | cons input rest ih =>
      obtain ⟨step, others⟩ := List.forall_mem_cons.mp kept
      obtain ⟨same, next⟩ := step first second initial
      exact .cons same (ih others next)

/-- Runs that are related so that they answer the same have the same outputs. -/
theorem outputs_eq (related : State → State → Prop)
    (kept : ∀ input ∈ inputs, ∀ first second, related first second →
      (machine.step first input).2 = (machine.step second input).2 ∧
        related (machine.step first input).1 (machine.step second input).1)
    {first second : State} (initial : related first second) :
    machine.outputs first inputs = machine.outputs second inputs :=
  List.forall₂_eq_eq_eq ▸ outputs_alike related (· = ·) kept initial

end Machine
