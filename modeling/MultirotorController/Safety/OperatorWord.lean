import MultirotorController.Control.ExactMath
import MultirotorController.Safety.Environment
import MultirotorController.Uav.TrackRequest

/-!
# Tracking on the operator's word

Hover, Land and Track are the operator's words while the vehicle ascends, hovers
or tracks. Custom1 is entered on a Track command of the present batch or on the
latch of an earlier one, and a Hover command that finds the latch set does not
clear it. Runs in which no Hover command is overlooked so enter Custom1 only
when Track is the latest word.
-/

namespace MultirotorController

/-- Land beats Hover, and Hover beats Track. -/
def batchWord (batch : List FlightCommand) : Option FlightCommand :=
  [.land, .hover, .track].find? batch.contains

theorem batchWord_land {batch : List FlightCommand} (land : batch.contains .land = false)
    (hover : batch.contains .hover = false) :
    batchWord batch = if batch.contains .track then some .track else none := by
  simp only [batchWord, List.find?_cons, land, hover, List.find?_nil]
  split <;> simp_all

theorem batchWord_hover {batch : List FlightCommand} (land : batch.contains .land = false)
    (hover : batch.contains .hover = true) : batchWord batch = some .hover := by
  simp only [batchWord, List.find?_cons, land, hover]

/-- In these leaves the operator decides between hovering and tracking. -/
def FlightState.heedsOperator : FlightState → Bool
  | .takeoffAscending | .hover | .custom1 => true
  | _ => false

section Law

variable [Libm] [Xgc2Math]

def heardWord (event : FlightEvent) : Option FlightCommand :=
  if event.before.flightState.heedsOperator then batchWord (event.before.batch event.input)
  else none

/-- The latest word that the machine took while it heeded the operator. -/
def operatorWord : List FlightEvent → Option FlightCommand
  | [] => none
  | event :: past => (heardWord event).or (operatorWord past)

def entersCustom1 (event : FlightEvent) : Prop :=
  event.before.flightState ≠ .custom1 ∧ event.after.flightState = .custom1

/-- The update takes a Hover command that no landing preempts and that withdraws nothing:
a Track request is latched, or Hover takes a Track command in the same batch. -/
def FlightRuntime.overlooksHover (runtime : FlightRuntime) (turn : Turn) : Bool :=
  let batch := runtime.batch turn
  runtime.flightState.latchesTrack && batch.contains .hover &&
    ((runtime.prepare turn).ticked turn.now).takeoffPreemption.isNone &&
    (runtime.controller.custom1Requested || runtime.flightState = .hover && batch.contains .track)

def heedsHover : FlightRestriction := fun _ runtime turn => runtime.overlooksHover turn = false

instance (past : List FlightEvent) (runtime : FlightRuntime) (turn : Turn) :
    Decidable (heedsHover past runtime turn) := inferInstanceAs (Decidable (_ = _))

/-- A latched request is the operator's latest word. -/
def LatchedOnWord (past : List FlightEvent) (runtime : FlightRuntime) : Prop :=
  runtime.controller.custom1Requested →
    runtime.flightState.latchesTrack ∧ operatorWord past = some .track

end Law

namespace FlightRuntime

section Step

variable [Libm] [Xgc2Math] {past : List FlightEvent} {runtime : FlightRuntime} {turn : Turn}

theorem not_hover_of_heedsHover (heeds : heedsHover past runtime turn)
    (undisturbed : ((runtime.prepare turn).ticked turn.now).takeoffPreemption = none)
    (latches : runtime.flightState.latchesTrack)
    (tracking : runtime.controller.custom1Requested ∨
      runtime.flightState = .hover ∧ (runtime.batch turn).contains .track) :
    (runtime.batch turn).contains .hover = false := by
  by_contra hover
  simp only [Bool.not_eq_false] at hover
  simp only [heedsHover, overlooksHover, undisturbed, latches, hover] at heeds
  rcases tracking with latched | ⟨inHover, track⟩
  · simp [latched] at heeds
  · simp only [inHover, track] at heeds
    simp at heeds

/-- Without Land and Hover in the batch a Track command, or an earlier word, stands. -/
theorem operatorWord_track (event : FlightEvent)
    (heeding : event.before.flightState.heedsOperator)
    (land : (event.before.batch event.input).contains .land = false)
    (hover : (event.before.batch event.input).contains .hover = false)
    (tracking : (event.before.batch event.input).contains .track ∨
      operatorWord past = some .track) :
    operatorWord (event :: past) = some .track := by
  rw [operatorWord, heardWord, if_pos heeding, batchWord_land land hover]
  split
  · rfl
  next absent => exact tracking.resolve_left absent

theorem hasCommand_ticked (command : FlightCommand) :
    ((runtime.prepare turn).ticked turn.now).hasCommand command =
      (runtime.batch turn).contains command := by
  rw [hasCommand, ticked_commands, batch]

theorem not_land_of_takeoffPreemption
    (undisturbed : ((runtime.prepare turn).ticked turn.now).takeoffPreemption = none) :
    (runtime.batch turn).contains .land = false := by
  rw [← hasCommand_ticked]
  apply not_land_of_normalPreemption
  unfold takeoffPreemption at undisturbed
  split at undisturbed
  · cases undisturbed
  next quiet => exact quiet

theorem flightState_ticked :
    ((runtime.prepare turn).ticked turn.now).flightState = runtime.flightState :=
  ((runtime.prepare turn).ticked_flightState turn.now).trans prepare_flightState

theorem custom1Requested_ticked :
    ((runtime.prepare turn).ticked turn.now).controller.custom1Requested =
      runtime.controller.custom1Requested :=
  ((runtime.prepare turn).ticked_custom1Requested turn.now).trans
    (runtime.prepare_custom1Requested turn)

variable (turn) in
/-- The choice of a leaf that latches, in terms of the turn. -/
theorem operatorChoice_turn (latches : runtime.flightState.latchesTrack) :
    ((runtime.prepare turn).ticked turn.now).OperatorChoice
      ((runtime.prepare turn).ticked turn.now).choose := by
  apply choose_operatorChoice
  rw [flightState_ticked]
  exact latches

omit [Libm] in
theorem heedsOperator_of_latchesTrack (latches : runtime.flightState.latchesTrack) :
    runtime.flightState.heedsOperator := by
  generalize runtime.flightState = state at latches ⊢
  cases state <;> first | rfl | cases latches

/-- Where nothing preempts and the request stands, no Hover command is in the batch. -/
theorem not_hover_of_choice (heeds : heedsHover past runtime turn)
    (latches : runtime.flightState.latchesTrack)
    (undisturbed : ((runtime.prepare turn).ticked turn.now).takeoffPreemption = none)
    (quiet : ((runtime.prepare turn).ticked turn.now).flightState = .takeoffAscending →
      ((runtime.prepare turn).ticked turn.now).hasCommand .hover = false)
    (tracking : runtime.controller.custom1Requested ∨ (runtime.batch turn).contains .track) :
    (runtime.batch turn).contains .hover = false := by
  rw [flightState_ticked, hasCommand_ticked] at quiet
  by_cases ascending : runtime.flightState = .takeoffAscending
  · exact quiet ascending
  · have hovering : runtime.flightState = .hover := by
      simpa [FlightState.latchesTrack, ascending] using latches
    exact not_hover_of_heedsHover heeds undisturbed latches
      (tracking.imp_right fun track => ⟨hovering, track⟩)

/-- A turn keeps the latch on the operator's word, and enters Custom1 on that word. -/
theorem turn_latchedOnWord (heeds : heedsHover past runtime turn)
    (kept : LatchedOnWord past runtime) :
    LatchedOnWord (flightMachine.event runtime turn :: past) (runtime.turn turn).1 ∧
      (runtime.flightState ≠ .custom1 → (runtime.turn turn).1.flightState = .custom1 →
        operatorWord (flightMachine.event runtime turn :: past) = some .track) := by
  have word (latches : runtime.flightState.latchesTrack)
      (undisturbed : ((runtime.prepare turn).ticked turn.now).takeoffPreemption = none)
      (quiet : ((runtime.prepare turn).ticked turn.now).flightState = .takeoffAscending →
        ((runtime.prepare turn).ticked turn.now).hasCommand .hover = false)
      (tracking : runtime.controller.custom1Requested ∨ (runtime.batch turn).contains .track) :
      operatorWord (flightMachine.event runtime turn :: past) = some .track :=
    operatorWord_track (flightMachine.event runtime turn)
      (heedsOperator_of_latchesTrack latches) (not_land_of_takeoffPreemption undisturbed)
      (not_hover_of_choice heeds latches undisturbed quiet tracking)
      (tracking.symm.imp_right fun latched => (kept latched).2)
  obtain ⟨choice, latched⟩ := runtime.turn_latchedTurn turn
  cases latched with
  | thrown custom1 stays request =>
      refine ⟨fun requested => ?_, fun elsewhere => (elsewhere custom1).elim⟩
      have latches := (kept (request ▸ requested)).1
      rw [custom1] at latches
      cases latches
  | @moved choice chosen ended request =>
      refine ⟨fun requested => ?_, fun elsewhere enters => ?_⟩
      · rw [request] at requested
        simp only [Bool.and_eq_true, decide_eq_true_eq] at requested
        obtain ⟨⟨requested, notCustom1⟩, notLanding⟩ := requested
        have latches := (kept requested).1
        have chooses := operatorChoice_turn turn latches
        rw [chosen] at chooses
        cases chooses with
        | preempted _ lands => exact (notLanding lands).elim
        | timedOut _ _ _ lands => exact (notLanding lands).elim
        | tracks _ _ _ custom1 => exact (notCustom1 custom1).elim
        | hovers undisturbed ascending hovers =>
            rw [flightState_ticked] at ascending
            have hover := not_hover_of_heedsHover heeds undisturbed latches (.inl requested)
            refine ⟨by rw [ended, hovers]; rfl, word latches undisturbed (fun _ => ?_)
              (.inl requested)⟩
            rw [hasCommand_ticked]
            exact hover
      · rw [ended] at enters
        have latches := latchesTrack_of_choose_custom1 _ chosen enters
        have chooses := choose_operatorChoice _ latches
        rw [flightState_ticked] at latches
        rw [chosen] at chooses
        cases chooses with
        | preempted _ lands => cases lands.symm.trans enters
        | timedOut _ _ _ lands => cases lands.symm.trans enters
        | hovers _ _ hovers => cases hovers.symm.trans enters
        | tracks undisturbed quiet tracking _ =>
            rw [hasCommand_ticked, custom1Requested_ticked] at tracking
            exact word latches undisturbed quiet tracking.symm
  | stayed staying stays request =>
      refine ⟨fun requested => ?_, fun elsewhere enters => (elsewhere (stays ▸ enters)).elim⟩
      rw [request, Bool.or_eq_true, Bool.and_eq_true] at requested
      have latches : runtime.flightState.latchesTrack :=
        requested.elim (fun latched => (kept latched).1) And.left
      have chooses := operatorChoice_turn turn latches
      rw [staying] at chooses
      cases chooses with
      | stays undisturbed quiet =>
          exact ⟨stays.symm ▸ latches,
            word latches undisturbed quiet (requested.imp_right And.right)⟩

/-- An overlooked Hover command leaves a request that contradicts the operator's word, or
enters Custom1 against it. -/
theorem turn_overlooksHover (overlooked : runtime.overlooksHover turn = true) :
    operatorWord (flightMachine.event runtime turn :: past) = some .hover ∧
      ((runtime.turn turn).1.flightState = .custom1 ∨
        (runtime.turn turn).1.flightState = .hover ∧
          (runtime.turn turn).1.controller.custom1Requested = true) := by
  simp only [overlooksHover, Bool.and_eq_true, Bool.or_eq_true, Option.isNone_iff_eq_none,
    decide_eq_true_eq] at overlooked
  obtain ⟨⟨⟨latches, hover⟩, undisturbed⟩, tracking⟩ := overlooked
  refine ⟨?_, ?_⟩
  · have land := not_land_of_takeoffPreemption undisturbed
    have heard : heardWord (flightMachine.event runtime turn) = some .hover :=
      (if_pos (heedsOperator_of_latchesTrack latches)).trans (batchWord_hover land hover)
    rw [operatorWord, heard]
    rfl
  · have chooses := operatorChoice_turn turn latches
    obtain ⟨choice, latched⟩ := runtime.turn_latchedTurn turn
    cases latched with
    | thrown custom1 _ _ =>
        rw [custom1] at latches
        cases latches
    | @moved choice chosen ended request =>
        rw [chosen] at chooses
        cases chooses with
        | preempted preempted _ => cases undisturbed.symm.trans preempted
        | timedOut _ _ quiet _ =>
            rw [hasCommand_ticked, hover] at quiet
            cases quiet
        | tracks _ _ _ custom1 => exact .inl (ended.trans custom1)
        | hovers _ ascending hovers =>
            rw [flightState_ticked] at ascending
            refine .inr ⟨ended.trans hovers, ?_⟩
            rcases tracking with requested | ⟨hovering, _⟩
            · rw [request, requested, hovers]
              rfl
            · cases ascending.symm.trans hovering
    | stayed staying stays request =>
        rw [staying] at chooses
        cases chooses with
        | stays _ quiet =>
            rw [flightState_ticked, hasCommand_ticked, hover] at quiet
            have hovering : runtime.flightState = .hover := by
              have either : runtime.flightState = .takeoffAscending ∨
                  runtime.flightState = .hover := by
                simpa [FlightState.latchesTrack] using latches
              exact either.resolve_left fun ascending => by cases quiet ascending
            refine .inr ⟨stays.trans hovering, ?_⟩
            rcases tracking with requested | ⟨_, track⟩
            · rw [request, requested]
              rfl
            · rw [request, track, latches]
              simp

end Step

end FlightRuntime

/-- In every run that overlooks no Hover command, Custom1 is entered on a Track command
that is the operator's latest word. An overlooked one enters Custom1 against the word, or
leaves a request that contradicts it. -/
theorem tracking_on_latest_word [Libm] [Xgc2Math] {past : List FlightEvent}
    {runtime : FlightRuntime}
    (run : flightMachine.Run FlightRuntime.Started heedsHover past runtime) :
    (∀ event older, event :: older <:+ past → entersCustom1 event →
      operatorWord (event :: older) = some .track) ∧
      ∀ turn, ¬ heedsHover past runtime turn →
        operatorWord (flightMachine.event runtime turn :: past) = some .hover ∧
          ((flightMachine.event runtime turn).after.flightState = .custom1 ∨
            (flightMachine.event runtime turn).after.flightState = .hover ∧
              (flightMachine.event runtime turn).after.controller.custom1Requested = true) := by
  constructor
  · refine run.invariant_history LatchedOnWord (fun runtime started => ?_)
      fun past runtime turn _ kept heeds => ?_
    · obtain ⟨config, rfl⟩ := started
      exact nofun
    · obtain ⟨next, enters⟩ := FlightRuntime.turn_latchedOnWord heeds kept
      exact ⟨next, fun entered => enters entered.1 entered.2⟩
  · intro turn overlooks
    exact FlightRuntime.turn_overlooksHover (by simpa [heedsHover] using overlooks)

section Ascent

open ExactMath

def ascentConfig : ControllerConfig := { skipTakeoffInitDisarm := true }

/-- An ascent in which the commands arrive one turn after another. -/
def ascentTurns (commands : List FlightCommand) : List Turn :=
  hoverTurns.take 5 ++ commands.zipIdx.map fun command =>
    { inputs := [.command command.1], sensor := armedSensor, now := ⟨.ofNat (6 + command.2), 0⟩ }

/-- A planner sample at the vehicle makes the initial reference ready. -/
def referenceTurn : Turn :=
  { inputs := [.plannerSetpoint { coordinateFrame := 1, receiptTime := ⟨9, 0⟩ }]
    sensor := armedSensor
    now := ⟨9, 0⟩ }

/-- A request that waited for the reference is honoured. -/
theorem tracking_on_latest_word_waiting :
    let ascended := flightMachine.replay [] (FlightRuntime.initial.setConfig ascentConfig)
      (ascentTurns [.track])
    let event := flightMachine.event ascended.2 referenceTurn
    entersCustom1 event ∧ operatorWord (event :: ascended.1) = some .track := by
  intro ascended event
  have start : flightMachine.Run FlightRuntime.Started heedsHover []
      (FlightRuntime.initial.setConfig ascentConfig) := .start ⟨ascentConfig, rfl⟩
  have run := (start.replay (ascentTurns [.track]) (by decide +kernel)).step referenceTurn
    (by decide +kernel)
  have enters : entersCustom1 event := ⟨by decide +kernel, by decide +kernel⟩
  exact ⟨enters, (tracking_on_latest_word run).1 event ascended.1 List.suffix_rfl enters⟩

/-- The Hover command after it does not withdraw the request. -/
theorem tracking_against_latest_word :
    let ascended := flightMachine.replay [] (FlightRuntime.initial.setConfig ascentConfig)
      (ascentTurns [.track, .hover])
    let event := flightMachine.event ascended.2 referenceTurn
    flightMachine.Run FlightRuntime.Started anyEnvironment (event :: ascended.1) event.after ∧
      entersCustom1 event ∧ operatorWord (event :: ascended.1) = some .hover := by
  intro ascended event
  have start : flightMachine.Run FlightRuntime.Started anyEnvironment []
      (FlightRuntime.initial.setConfig ascentConfig) := .start ⟨ascentConfig, rfl⟩
  have run := (start.replay (ascentTurns [.track, .hover]) (by decide +kernel)).step referenceTurn
    trivial
  exact ⟨run, ⟨by decide +kernel, by decide +kernel⟩, by decide +kernel⟩

end Ascent

end MultirotorController
