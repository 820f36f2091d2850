import MultirotorController.Lib.BatchQueue
import MultirotorController.Uav.FlightTracking
import MultirotorController.Uav.StateMachine.Custom1Ranges
import MultirotorController.Uav.TrackRequest

/-!
# The command queue

Between two updates commands are appended to a bounded queue, and every update
takes the oldest 64 of them, so the updates of a run serve the queue in batches.
-/

namespace MultirotorController

open Relation

variable [Libm] [Xgc2Math]

namespace FlightRuntime

variable (runtime : FlightRuntime)

/-- The command that an input adds to the queue. -/
def acceptedCommand : FlightInput → List FlightCommand
  | .command command => if (runtime.postCommand command).2 then [command] else []
  | _ => []

/-- The commands that some inputs add to the queue, in the order of posting. -/
def acceptedCommands : FlightRuntime → List FlightInput → List FlightCommand
  | _, [] => []
  | runtime, input :: rest =>
      runtime.acceptedCommand input ++ acceptedCommands (runtime.receive input) rest

theorem receive_pendingCommands (input : FlightInput) :
    (runtime.receive input).pendingCommands =
      runtime.pendingCommands ++ runtime.acceptedCommand input := by
  cases input with
  | command command =>
      dsimp only [receive, acceptedCommand, postCommand]
      split
      · exact (List.append_nil _).symm
      · rfl
  | freshImu => exact (List.append_nil _).symm
  | _ => exact (List.append_nil _).symm

theorem foldl_receive_pendingCommands (inputs : List FlightInput) :
    (inputs.foldl receive runtime).pendingCommands =
      runtime.pendingCommands ++ runtime.acceptedCommands inputs := by
  induction inputs generalizing runtime with
  | nil => exact (List.append_nil _).symm
  | cons input rest ih =>
      rw [List.foldl_cons, ih, receive_pendingCommands, acceptedCommands, List.append_assoc]

theorem acceptedCommands_append (inputs later : List FlightInput) :
    runtime.acceptedCommands (inputs ++ later) =
      runtime.acceptedCommands inputs ++ (inputs.foldl receive runtime).acceptedCommands later := by
  induction inputs generalizing runtime with
  | nil => rfl
  | cons input rest ih =>
      rw [List.cons_append, acceptedCommands, ih, acceptedCommands, List.append_assoc,
        List.foldl_cons]

omit [Libm] in
/-- A full queue refuses, and one that is not full appends. -/
theorem postCommand_cases (command : FlightCommand) :
    4096 ≤ runtime.pendingCommands.length ∧ runtime.postCommand command = (runtime, false) ∨
      runtime.pendingCommands.length < 4096 ∧ runtime.postCommand command =
        ({ runtime with pendingCommands := runtime.pendingCommands ++ [command] }, true) := by
  unfold postCommand
  by_cases full : 4096 ≤ runtime.pendingCommands.length
  · exact .inl ⟨full, if_pos full⟩
  · exact .inr ⟨Nat.lt_of_not_le full, if_neg full⟩

omit [Libm] in
theorem acceptedCommand_of_room {command : FlightCommand}
    (room : runtime.pendingCommands.length < 4096) :
    runtime.acceptedCommand (.command command) = [command] := by
  rcases runtime.postCommand_cases command with ⟨full, -⟩ | ⟨-, taken⟩
  · exact absurd room (Nat.not_lt.mpr full)
  · exact if_pos (congrArg Prod.snd taken)

section Turn

variable (turn : Turn)

theorem batch_eq : runtime.batch turn =
    (runtime.pendingCommands ++ runtime.acceptedCommands turn.inputs).take 64 :=
  congrArg (List.take 64) (runtime.foldl_receive_pendingCommands turn.inputs)

omit [Libm] in
theorem applyChoice_queue (choice : Option Choice) :
    (runtime.applyChoice choice).pendingCommands = runtime.pendingCommands ∧
      (runtime.applyChoice choice).commands = runtime.commands := by
  cases choice with
  | some choice => exact ⟨rfl, rfl⟩
  | none =>
      have all : ∀ (commands : List FlightCommand) (runtime : FlightRuntime),
          (commands.foldl dispatchCommand runtime).pendingCommands = runtime.pendingCommands ∧
            (commands.foldl dispatchCommand runtime).commands = runtime.commands := by
        intro commands
        induction commands with
        | nil => exact fun _ => ⟨rfl, rfl⟩
        | cons command rest ih => exact fun runtime => ih (runtime.dispatchCommand command)
      exact all runtime.commands runtime

omit [Libm] in
theorem afterTick_queue (start : Nat) :
    (afterTick start runtime).pendingCommands = runtime.pendingCommands ∧
      (afterTick start runtime).commands = runtime.commands := by
  unfold afterTick clearSignals debugTurn deferSignals
  exact runtime.applyChoice_queue runtime.choose

/-- Whether it returns or throws, an update has taken its batch from the queue. -/
theorem turn_queue : (runtime.turn turn).1.commands = runtime.batch turn ∧
    (runtime.turn turn).1.pendingCommands =
      (runtime.pendingCommands ++ runtime.acceptedCommands turn.inputs).drop 64 := by
  have ticked : ((runtime.prepare turn).ticked turn.now).commands = runtime.batch turn ∧
      ((runtime.prepare turn).ticked turn.now).pendingCommands =
        (runtime.pendingCommands ++ runtime.acceptedCommands turn.inputs).drop 64 :=
    ⟨(runtime.prepare turn).ticked_commands turn.now,
      congrArg (List.drop 64) (runtime.foldl_receive_pendingCommands turn.inputs)⟩
  rcases (runtime.prepare turn).update_cases turn.now with ⟨error, -, thrown⟩ | ⟨again, completed⟩
  · have after : (runtime.turn turn).1 = (runtime.prepare turn).ticked turn.now :=
      congrArg Prod.fst thrown
    rw [after]
    exact ticked
  · have after : (runtime.turn turn).1 = afterTick
        ((runtime.prepare turn).afterHealth turn.now).controller.signals.length
        ((runtime.prepare turn).ticked turn.now) := congrArg Prod.fst completed
    obtain ⟨pending, commands⟩ := ((runtime.prepare turn).ticked turn.now).afterTick_queue
      ((runtime.prepare turn).afterHealth turn.now).controller.signals.length
    rw [after]
    exact ⟨commands.trans ticked.1, pending.trans ticked.2⟩

end Turn

end FlightRuntime

/-- The commands that the update of the event presented to the machine. -/
def presented (event : FlightEvent) : List FlightCommand := event.after.commands

/-- The commands that the inputs of the event added to the queue. -/
def posted (event : FlightEvent) : List FlightCommand :=
  event.before.acceptedCommands event.input.inputs

section Runs

variable {start : FlightRuntime → Prop}
variable {admissible : Machine.Restriction FlightRuntime Turn (Except RuntimeError Bool)}
variable {past : List FlightEvent} {runtime : FlightRuntime}

/-- The updates since any moment of a run serve the queue of that moment in batches. -/
theorem rounds_since (run : flightMachine.Run start admissible past runtime) :
    ∀ newer older, past = newer ++ older →
      ∃ middle : FlightRuntime, flightMachine.Run start admissible older middle ∧
        (newer.getLast?.map (·.before)).getD runtime = middle ∧
        BatchQueue.rounds 64 middle.pendingCommands (newer.reverse.map posted) =
          (newer.reverse.map presented, runtime.pendingCommands) := by
  induction run with
  | start started =>
      intro newer older split
      obtain ⟨rfl, rfl⟩ := List.append_eq_nil_iff.mp split.symm
      exact ⟨_, .start started, rfl, rfl⟩
  | @step past runtime turn run allowed ih =>
      intro newer older split
      cases newer with
      | nil =>
          subst split
          exact ⟨_, run.step turn allowed, rfl, rfl⟩
      | cons event newer =>
          rw [List.cons_append] at split
          obtain ⟨newest, split⟩ := List.cons_eq_cons.mp split
          obtain ⟨middle, before, first, served⟩ := ih newer older split
          refine ⟨middle, before, ?_, ?_⟩
          · cases newer with
            | nil =>
                rw [← newest]
                exact first
            | cons other newer => exact first
          · obtain ⟨commands, pending⟩ := runtime.turn_queue turn
            have takes : presented event =
                (runtime.pendingCommands ++ posted event).take 64 := by
              rw [← newest]
              exact commands.trans (runtime.batch_eq turn)
            have leaves : (flightMachine.step runtime turn).1.pendingCommands =
                (runtime.pendingCommands ++ posted event).drop 64 := by
              rw [← newest]
              exact pending
            rw [List.reverse_cons, List.map_append, List.map_append, BatchQueue.rounds_append,
              served, leaves]
            simp only [List.map_cons, List.map_nil, BatchQueue.rounds, takes]

end Runs

end MultirotorController
