import MultirotorController.Safety.Environment

/-!
# Inputs between two turns

What the inputs that reach the controller between two updates leave alone, and
which of them commute. A result of the solver only changes the result buffer, and
nothing else does; so the moment at which it arrives between two turns makes no
difference.
-/

namespace MultirotorController

namespace FlightRuntime

variable [Libm] [Xgc2Math] (runtime : FlightRuntime)

/-- The runtime after a list of inputs, oldest first. -/
def receiveAll (inputs : List FlightInput) : FlightRuntime := inputs.foldl receive runtime

@[simp] theorem receiveAll_cons (input : FlightInput) (rest : List FlightInput) :
    runtime.receiveAll (input :: rest) = (runtime.receive input).receiveAll rest := rfl

theorem receiveAll_append (first second : List FlightInput) :
    runtime.receiveAll (first ++ second) = (runtime.receiveAll first).receiveAll second :=
  List.foldl_append

/-- Inputs that were received before a turn may as well be received by it. -/
theorem turn_receiveAll (earlier : List FlightInput) (turn : Turn) :
    (runtime.receiveAll earlier).turn turn =
      runtime.turn { turn with inputs := earlier ++ turn.inputs } := by
  have prepared : (runtime.receiveAll earlier).prepare turn =
      runtime.prepare { turn with inputs := earlier ++ turn.inputs } :=
    congrArg (·.observe turn.sensor) (runtime.receiveAll_append earlier turn.inputs).symm
  exact congrArg (·.update turn.now) prepared

theorem prepare_receiveAll (earlier : List FlightInput) (turn : Turn) :
    (runtime.receiveAll earlier).prepare turn =
      runtime.prepare { turn with inputs := earlier ++ turn.inputs } :=
  congrArg (·.observe turn.sensor) (runtime.receiveAll_append earlier turn.inputs).symm

section One

variable (input : FlightInput)

theorem receive_sensorData :
    (runtime.receive input).controller.sensorData = runtime.controller.sensorData := by
  cases input with
  | command command =>
      dsimp only [receive, postCommand]
      split <;> rfl
  | freshImu =>
      dsimp only [receive, onFreshImu, HealthMonitorState.onFreshImu]
      split <;> rfl
  | plannerSetpoint ingress =>
      dsimp only [receive]
      rw [ingestPlannerSetpoint_frame]
  | _ => rfl

theorem receive_flightEffects :
    (runtime.receive input).controller.flightEffects = runtime.controller.flightEffects := by
  cases input with
  | command command =>
      dsimp only [receive, postCommand]
      split <;> rfl
  | freshImu =>
      dsimp only [receive, onFreshImu, HealthMonitorState.onFreshImu]
      split <;> rfl
  | plannerSetpoint ingress =>
      dsimp only [receive]
      rw [ingestPlannerSetpoint_frame]
  | _ => rfl

/-- Only a configuration changes the configuration. -/
theorem receive_config (other : ∀ config, input ≠ .configure config) :
    (runtime.receive input).controller.config = runtime.controller.config := by
  cases input with
  | command command =>
      dsimp only [receive, postCommand]
      split <;> rfl
  | freshImu =>
      dsimp only [receive, onFreshImu, HealthMonitorState.onFreshImu]
      split <;> rfl
  | plannerSetpoint ingress =>
      dsimp only [receive]
      rw [ingestPlannerSetpoint_frame]
  | configure config => exact (other config rfl).elim
  | _ => rfl

/-- Only a result changes the result buffer. -/
theorem receive_nmpcResultBuffer (other : input.isNmpcResult = false) :
    (runtime.receive input).controller.nmpcResultBuffer = runtime.controller.nmpcResultBuffer := by
  cases input with
  | command command =>
      dsimp only [receive, postCommand]
      split <;> rfl
  | freshImu =>
      dsimp only [receive, onFreshImu, HealthMonitorState.onFreshImu]
      split <;> rfl
  | plannerSetpoint ingress =>
      dsimp only [receive]
      rw [ingestPlannerSetpoint_frame]
  | nmpcResult result => cases other
  | _ => rfl

/-- A result may arrive before or after any other input. -/
theorem receive_nmpcResult_comm (result : NmpcSolveResult) (other : input.isNmpcResult = false) :
    (runtime.receive (.nmpcResult result)).receive input =
      (runtime.receive input).receive (.nmpcResult result) := by
  cases input with
  | command command =>
      dsimp only [receive, postCommand]
      split <;> rfl
  | freshImu =>
      dsimp only [receive, onFreshImu, HealthMonitorState.onFreshImu]
      split <;> rfl
  | plannerSetpoint ingress =>
      dsimp only [receive, ingestPlannerSetpoint]
      repeat' split
      all_goals rfl
  | nmpcResult result => cases other
  | _ => rfl

theorem receive_leaf : (runtime.receive input).leaf = runtime.leaf :=
  (runtime.receive_received input).leaf

end One

section All

variable (inputs : List FlightInput)

theorem receiveAll_sensorData :
    (runtime.receiveAll inputs).controller.sensorData = runtime.controller.sensorData := by
  induction inputs generalizing runtime with
  | nil => rfl
  | cons input rest ih => exact (ih _).trans (runtime.receive_sensorData input)

theorem receiveAll_leaf : (runtime.receiveAll inputs).leaf = runtime.leaf := by
  induction inputs generalizing runtime with
  | nil => rfl
  | cons input rest ih => exact (ih _).trans (runtime.receive_leaf input)

theorem receiveAll_flightEffects :
    (runtime.receiveAll inputs).controller.flightEffects = runtime.controller.flightEffects := by
  induction inputs generalizing runtime with
  | nil => rfl
  | cons input rest ih => exact (ih _).trans (runtime.receive_flightEffects input)

theorem receiveAll_onTheGround :
    (runtime.receiveAll inputs).onTheGround = runtime.onTheGround := by
  unfold onTheGround flightState
  rw [receiveAll_leaf]

variable {inputs}

theorem receiveAll_config (others : ∀ input ∈ inputs, ∀ config, input ≠ .configure config) :
    (runtime.receiveAll inputs).controller.config = runtime.controller.config := by
  induction inputs generalizing runtime with
  | nil => rfl
  | cons input rest ih =>
      obtain ⟨first, others⟩ := List.forall_mem_cons.mp others
      exact (ih _ others).trans (runtime.receive_config input first)

theorem receiveAll_nmpcResultBuffer (others : ∀ input ∈ inputs, input.isNmpcResult = false) :
    (runtime.receiveAll inputs).controller.nmpcResultBuffer =
      runtime.controller.nmpcResultBuffer := by
  induction inputs generalizing runtime with
  | nil => rfl
  | cons input rest ih =>
      obtain ⟨first, others⟩ := List.forall_mem_cons.mp others
      exact (ih _ others).trans (runtime.receive_nmpcResultBuffer input first)

theorem receiveAll_nmpcResult_comm (result : NmpcSolveResult)
    (others : ∀ input ∈ inputs, input.isNmpcResult = false) :
    (runtime.receive (.nmpcResult result)).receiveAll inputs =
      (runtime.receiveAll inputs).receive (.nmpcResult result) := by
  induction inputs generalizing runtime with
  | nil => rfl
  | cons input rest ih =>
      obtain ⟨first, others⟩ := List.forall_mem_cons.mp others
      rw [receiveAll_cons, receiveAll_cons, receive_nmpcResult_comm runtime input result first,
        ih _ others]

end All

end FlightRuntime

end MultirotorController
