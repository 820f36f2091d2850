import MultirotorController.Uav.FlightUpdate

/-!
# Where a signal comes from

The signals of an update stand in one vector: those that wait since the last
input, the deferred ones, those of the health monitor and those of the leaf.
Beside the vector runs a list of labels that name the tick which posted a
signal; the handlers never see it.
-/

namespace MultirotorController

/-- The signal at a place of the tick of a turn. -/
structure Emission where
  turn : Nat
  place : Nat
deriving DecidableEq, Repr

/-- No leaf posts a safety signal, and no two leaves post the same. -/
theorem FlightState.not_safety_of_tickSignals {state : FlightState} {signal : FlightSignal}
    (posts : state.tickSignals signal) : signal.isSafety = false := by
  cases state <;> simp only [tickSignals] at posts
  case takeoffAscending => rcases posts with rfl | rfl <;> rfl
  all_goals
    subst posts
    rfl

theorem FlightState.eq_of_tickSignals {state other : FlightState} {signal : FlightSignal}
    (posts : state.tickSignals signal) (posts' : other.tickSignals signal) : state = other := by
  cases state <;> cases other <;> simp_all [tickSignals]

namespace FlightRuntime

variable [Xgc2Math]

section Choice

variable (runtime : FlightRuntime)

/-- A choice that a signal selects has a signal of the vector behind it. -/
def SelectedBy (allowed : FlightSignal → Prop) (choice : Choice) : Prop :=
  ∀ index, choice.selectedSignal = some index →
    ∃ signal, runtime.controller.signals[index]? = some signal ∧ allowed signal

variable {runtime} {allowed : FlightSignal → Prop}

theorem selectedBy_onSignal {signal : FlightSignal} (pending : runtime.hasSignal signal)
    (fits : allowed signal) (target : FlightState) :
    runtime.SelectedBy allowed (runtime.onSignal signal target) := by
  intro index selected
  have place : runtime.controller.signals.findIdx (· == signal) = index := Option.some.inj selected
  have member : ∃ other ∈ runtime.controller.signals, (other == signal) = true :=
    ⟨signal, List.contains_iff_mem.mp pending, beq_self_eq_true signal⟩
  have found := List.findIdx_lt_length_of_exists member
  have same : runtime.controller.signals[runtime.controller.signals.findIdx (· == signal)] =
      signal := by
    simpa using List.findIdx_getElem (w := found)
  refine ⟨signal, ?_, fits⟩
  rw [← place, List.getElem?_eq_getElem found, same]

theorem selectedBy_level {choice : Choice}
    (unselected : choice.selectedSignal = none) : runtime.SelectedBy allowed choice := by
  intro index selected
  rw [unselected] at selected
  cases selected

theorem normalPreemption_selectedBy {choice : Choice}
    (preempted : runtime.normalPreemption = some choice) :
    runtime.SelectedBy (fun signal => signal.isSafety) choice := by
  unfold normalPreemption at preempted
  split at preempted
  next signal found =>
    cases preempted
    refine selectedBy_onSignal (List.find?_some found) ?_ _
    exact (mem_safetyOrder signal).mp (List.mem_of_find?_eq_some found)
  · split at preempted
    · cases preempted
      exact selectedBy_level rfl
    · cases preempted

theorem takeoffPreemption_selectedBy {choice : Choice}
    (preempted : runtime.takeoffPreemption = some choice) :
    runtime.SelectedBy (fun signal => signal.isSafety) choice := by
  unfold takeoffPreemption at preempted
  split at preempted
  next earlier =>
    cases preempted
    exact normalPreemption_selectedBy earlier
  · split at preempted
    · cases preempted
      exact selectedBy_level rfl
    · cases preempted

theorem SelectedBy.mono {weaker : FlightSignal → Prop} {choice : Choice}
    (selected : runtime.SelectedBy allowed choice)
    (weakens : ∀ signal, allowed signal → weaker signal) : runtime.SelectedBy weaker choice := by
  intro index chosen
  obtain ⟨signal, place, fits⟩ := selected index chosen
  exact ⟨signal, place, weakens signal fits⟩

/-- The signals that may move a leaf: those of safety, and its own. -/
theorem choose_selectedBy {choice : Choice} (chosen : runtime.choose = some choice) :
    runtime.SelectedBy
      (fun signal => signal.isSafety ∨ runtime.flightState.tickSignals signal) choice := by
  unfold choose at chosen
  cases source : runtime.flightState <;> simp only [source] at chosen
  case selfCheck =>
    unfold chooseSelfCheck at chosen
    split at chosen <;> cases chosen
    exact selectedBy_level rfl
  case ready =>
    dsimp only [chooseReady] at chosen
    split at chosen
    next earlier =>
      cases chosen
      exact (normalPreemption_selectedBy earlier).mono fun _ => .inl
    next =>
      repeat' split at chosen
      all_goals cases chosen
      all_goals exact selectedBy_level rfl
  case landing =>
    unfold chooseLanding at chosen
    split at chosen <;> cases chosen
    next touchdown => exact selectedBy_onSignal touchdown (.inr rfl) _
  all_goals
    simp only [chooseTakeoffInit, chooseTakeoffOffboardRequest, chooseModeRequest,
      chooseTakeoffArmRequest, chooseTakeoffAscending, chooseHover, chooseCustom1] at chosen
    split at chosen
    next earlier =>
      cases chosen
      exact (takeoffPreemption_selectedBy earlier).mono fun _ => .inl
    next =>
      repeat' split at chosen
      all_goals cases chosen
      all_goals first
        | exact selectedBy_level rfl
        | exact selectedBy_onSignal ‹_› (.inr (by simp [FlightState.tickSignals])) _

/-- A leaf that stays has not posted. -/
theorem not_tickSignals_of_choose_none (staying : runtime.choose = none) {signal : FlightSignal}
    (pending : signal ∈ runtime.controller.signals) :
    ¬ runtime.flightState.tickSignals signal := by
  have present : runtime.hasSignal signal = true := List.contains_iff_mem.mpr pending
  intro posts
  unfold choose at staying
  cases source : runtime.flightState <;>
    simp only [source, FlightState.tickSignals] at staying posts
  case takeoffAscending =>
    simp only [chooseTakeoffAscending] at staying
    rcases posts with rfl | rfl
    all_goals
      repeat' split at staying
      all_goals simp_all
  all_goals
    subst posts
    simp only [chooseTakeoffInit, chooseTakeoffOffboardRequest, chooseModeRequest,
      chooseTakeoffArmRequest, chooseCustom1, chooseLanding] at staying
    repeat' split at staying
    all_goals simp_all

/-- A transition leaves the leaf. -/
theorem choose_target_ne {choice : Choice} (chosen : runtime.choose = some choice) :
    choice.target ≠ runtime.flightState := by
  unfold choose at chosen
  cases source : runtime.flightState <;> simp only [source] at chosen
  case selfCheck =>
    unfold chooseSelfCheck at chosen
    split at chosen <;> cases chosen
    intro same
    cases same
  case ready =>
    dsimp only [chooseReady] at chosen
    split at chosen
    next earlier =>
      cases chosen
      rw [runtime.normalPreemption_target earlier]
      intro same
      cases same
    next =>
      repeat' split at chosen
      all_goals cases chosen
      all_goals
        intro same
        cases same
  case landing =>
    unfold chooseLanding at chosen
    split at chosen <;> cases chosen
    intro same
    cases same
  all_goals
    simp only [chooseTakeoffInit, chooseTakeoffOffboardRequest, chooseModeRequest,
      chooseTakeoffArmRequest, chooseTakeoffAscending, chooseHover, chooseCustom1] at chosen
    split at chosen
    next earlier =>
      cases chosen
      rw [runtime.takeoffPreemption_target earlier]
      intro same
      cases same
    next =>
      repeat' split at chosen
      all_goals cases chosen
      all_goals
        intro same
        cases same

end Choice

/-- Nothing after the tick selects a signal but the choice. -/
theorem afterTick_selectedSignal [Libm] (runtime : FlightRuntime) (start : Nat)
    (fresh : runtime.selectedSignal = none) :
    (afterTick start runtime).selectedSignal = runtime.choose.bind (·.selectedSignal) := by
  have dispatched : ∀ (commands : List FlightCommand) (runtime : FlightRuntime),
      (commands.foldl dispatchCommand runtime).selectedSignal = runtime.selectedSignal := by
    intro commands
    induction commands with
    | nil => exact fun _ => rfl
    | cons command rest ih => exact fun runtime => ih (runtime.dispatchCommand command)
  unfold afterTick clearSignals debugTurn deferSignals applyChoice
  cases runtime.choose with
  | some choice => rfl
  | none => exact (dispatched runtime.commands runtime).trans fresh

/-- What a returning update defers was posted by its tick. -/
theorem deferred_posted [Libm] {runtime : FlightRuntime} {turn : Turn} {again : Bool}
    (completed : (runtime.turn turn).2 = .ok again) {signal : FlightSignal}
    (deferred : signal ∈ (runtime.turn turn).1.deferredSignals) :
    signal ∈ ((runtime.prepare turn).ticked turn.now).controller.signals ∧
      runtime.flightState.tickSignals signal := by
  have after := afterTick_of_update completed
  change (runtime.turn turn).1 = _ at after
  obtain ⟨new, appended, own⟩ :=
    (((runtime.prepare turn).afterHealth turn.now).controlTick_emits).signals
  change ((runtime.prepare turn).ticked turn.now).controller.signals = _ at appended
  rw [after, afterTick_deferredSignals] at deferred
  obtain ⟨entry, kept, rfl⟩ := List.mem_map.mp deferred
  have dropped := List.fst_mem_of_mem_zipIdx (List.mem_filter.mp kept).1
  refine ⟨List.mem_of_mem_drop dropped, ?_⟩
  rw [appended, List.drop_left] at dropped
  have state : ((runtime.prepare turn).afterHealth turn.now).flightState = runtime.flightState :=
    prepare_flightState
  exact state ▸ own entry.1 dropped

/-- A completion that is there before the tick was pending before the turn. -/
theorem pending_of_afterHealth [Libm] {runtime : FlightRuntime} {turn : Turn}
    {signal : FlightSignal} (completion : signal.isSafety = false)
    (present : signal ∈ ((runtime.prepare turn).afterHealth turn.now).controller.signals) :
    signal ∈ runtime.pending := by
  rcases ((runtime.prepare turn).afterHealth_step turn.now).toEmits.signal_of_mem present with
    old | safety
  · obtain ⟨received, inputs, safety⟩ := (runtime.prepare_received turn).signals
    change signal ∈ (runtime.prepare turn).controller.signals ++
      (runtime.prepare turn).deferredSignals at old
    rw [inputs, (runtime.prepare_received turn).deferredSignals, List.append_assoc,
      List.mem_append, List.mem_append] at old
    rcases old with waits | reported | deferred
    · exact List.mem_append_left _ waits
    · rw [safety signal reported] at completion
      cases completion
    · exact List.mem_append_right _ deferred
  · rw [safety] at completion
    cases completion

/-- What waits after a returning update was not posted by the leaf that it ends in. -/
theorem pending_of_turn [Libm] {runtime : FlightRuntime} {turn : Turn} {again : Bool}
    (completed : (runtime.turn turn).2 = .ok again) {signal : FlightSignal}
    (waits : signal ∈ (runtime.turn turn).1.pending) :
    ¬ (runtime.turn turn).1.flightState.tickSignals signal := by
  have emptied : (runtime.turn turn).1.controller.signals = [] := signals_of_update completed
  rw [pending, emptied, List.nil_append] at waits
  obtain ⟨present, own⟩ := deferred_posted completed waits
  have state : ((runtime.prepare turn).ticked turn.now).flightState = runtime.flightState :=
    (ticked_flightState _ _).trans prepare_flightState
  have ended := flightState_of_update completed
  change (runtime.turn turn).1.flightState = _ at ended
  intro posts
  cases chosen : ((runtime.prepare turn).ticked turn.now).choose with
  | none => exact not_tickSignals_of_choose_none chosen present (state.symm ▸ own)
  | some choice =>
      rw [chosen] at ended
      have stays := FlightState.eq_of_tickSignals posts own
      exact choose_target_ne chosen (ended.symm.trans (stays.trans state.symm))

end FlightRuntime

section Labels

variable [Libm] [Xgc2Math]

/-- The signals of the leaf start here, `control_signal_start`. -/
def controlSignalStart (event : FlightEvent) : Nat :=
  ((event.before.prepare event.input).afterHealth event.input.now).controller.signals.length

/-- The vector from which the leaf of the event selects. -/
def offeredSignals (event : FlightEvent) : List FlightSignal :=
  ((event.before.prepare event.input).ticked event.input.now).controller.signals

/-- What the tick of the event posted. -/
def postedSignals (event : FlightEvent) : List FlightSignal :=
  (offeredSignals event).drop (controlSignalStart event)

/-- The labels of the signals that wait for the next update; a signal that no tick posted
has none. -/
structure Waiting where
  signals : List (Option Emission) := []
  deferredSignals : List (Option Emission) := []

/-- The labels beside `offeredSignals`: what waited and what the inputs reported, what was
deferred and what the health monitor reported, and the signals of the tick. -/
def Waiting.offered (left : Waiting) (turn : Nat) (event : FlightEvent) :
    List (Option Emission) :=
  let received := (event.before.prepare event.input).controller.signals.length
  left.signals ++ List.replicate (received - left.signals.length) none ++
    left.deferredSignals ++
    List.replicate (controlSignalStart event - (received + left.deferredSignals.length)) none ++
    (List.range (postedSignals event).length).map fun place => some ⟨turn, place⟩

/-- An update that throws leaves its vector as it is; one that returns defers the signals of
the tick but for the selected one. -/
def Waiting.after (left : Waiting) (turn : Nat) (event : FlightEvent) : Waiting :=
  let offered := left.offered turn event
  match event.output with
  | .error _ => { signals := offered }
  | .ok _ =>
      let start := controlSignalStart event
      { deferredSignals := (((offered.drop start).zipIdx start).filter fun entry =>
          event.after.selectedSignal ≠ some entry.2).map (·.1) }

/-- The labels of what waits after a past; the turns are counted from its beginning. -/
def waiting : List FlightEvent → Waiting
  | [] => {}
  | event :: older => (waiting older).after older.length event

/-- The labels from which the update after a past selects. -/
def available (older : List FlightEvent) (event : FlightEvent) : List (Option Emission) :=
  (waiting older).offered older.length event

/-- The posted signal that the update after a past selects, if it selects one. -/
def selected (older : List FlightEvent) (event : FlightEvent) : Option Emission :=
  event.after.selectedSignal.bind fun index => ((available older event)[index]?).join

/-- The transitions of a past; two moments with equally many lie in one visit. -/
def visits (older : List FlightEvent) : Nat :=
  (older.filter fun event => event.before.flightState ≠ event.after.flightState).length

end Labels

end MultirotorController
