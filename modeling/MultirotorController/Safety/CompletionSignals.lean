import MultirotorController.Safety.LandPriority
import MultirotorController.Safety.OperatorWord
import MultirotorController.Uav.SignalTraces

/-!
# Completion signals act for their own visit

A signal that a leaf posts is offered to the choice of the same update and,
unless selected, to the next one. The leaf has moved on by then: a leaf never
stays on a signal of its own. An update whose tick throws returns before the
vector is cleared, so what was deferred once is offered once more.
-/

namespace MultirotorController

section Labels

variable {Label Value : Type} {fits : Label → Value → Prop}

private theorem forall₂_replicate {label : Label} {values : List Value}
    (all : ∀ value ∈ values, fits label value) {length : Nat} (same : length = values.length) :
    List.Forall₂ fits (List.replicate length label) values := by
  subst same
  induction values with
  | nil => exact .nil
  | cons value rest ih =>
      obtain ⟨first, others⟩ := List.forall_mem_cons.mp all
      exact .cons first (ih others)

private theorem forall₂_range {values : List Value} {label : Nat → Label}
    (all : ∀ place value, values[place]? = some value → fits (label place) value) :
    List.Forall₂ fits ((List.range values.length).map label) values := by
  induction values generalizing label with
  | nil => exact .nil
  | cons value rest ih =>
      rw [List.length_cons, List.range_succ_eq_map, List.map_cons, List.map_map]
      refine .cons (all 0 value rfl) (ih fun place value found => ?_)
      exact all (place + 1) value found

/-- Choosing by position keeps two lists side by side. -/
private theorem forall₂_choose {labels : List Label} {values : List Value}
    (beside : List.Forall₂ fits labels values) (chosen : Nat → Bool) (start : Nat) :
    List.Forall₂ fits
      (((labels.zipIdx start).filter fun entry => chosen entry.2).map (·.1))
      (((values.zipIdx start).filter fun entry => chosen entry.2).map (·.1)) := by
  induction beside generalizing start with
  | nil => exact .nil
  | cons first _ ih =>
      simp only [List.zipIdx_cons, List.filter_cons]
      cases chosen start with
      | true => exact .cons first (ih (start + 1))
      | false => exact ih (start + 1)

private theorem exists_of_mem_forall₂ {labels : List Label} {values : List Value}
    (beside : List.Forall₂ fits labels values) {label : Label} (member : label ∈ labels) :
    ∃ value ∈ values, fits label value := by
  induction beside with
  | nil => cases member
  | cons first _ ih =>
      rcases List.mem_cons.mp member with rfl | later
      · exact ⟨_, List.mem_cons_self, first⟩
      · obtain ⟨value, found, fit⟩ := ih later
        exact ⟨value, List.mem_cons_of_mem _ found, fit⟩

private theorem fits_of_getElem? {labels : List Label} {values : List Value}
    (beside : List.Forall₂ fits labels values) {index : Nat} {label : Label} {value : Value}
    (labelled : labels[index]? = some label) (valued : values[index]? = some value) :
    fits label value := by
  induction beside generalizing index with
  | nil => cases labelled
  | cons first _ ih =>
      cases index with
      | zero =>
          cases labelled
          cases valued
          exact first
      | succ index => exact ih labelled valued

end Labels

section Law

variable [Libm] [Xgc2Math]

/-- The signal of a label was posted by its tick. Where that leaf is still active, so is its
visit. -/
def Traced (events : List FlightEvent) (state : FlightState) (visit : Nat) :
    Option Emission → FlightSignal → Prop
  | none, signal => signal.isSafety
  | some x, signal => ∃ newer emitting rest, events = newer ++ emitting :: rest ∧
      rest.length = x.turn ∧ (postedSignals emitting)[x.place]? = some signal ∧
      emitting.before.flightState.tickSignals signal ∧
      (visits rest = visit ∨ emitting.before.flightState ≠ state)

namespace Traced

variable {events : List FlightEvent} {state : FlightState} {visit : Nat}
variable {label : Option Emission} {signal : FlightSignal}

theorem cons (traced : Traced events state visit label signal) (event : FlightEvent) :
    Traced (event :: events) state visit label signal := by
  cases label with
  | none => exact traced
  | some x =>
      obtain ⟨newer, emitting, rest, split, posted⟩ := traced
      exact ⟨event :: newer, emitting, rest, by rw [split, List.cons_append], posted⟩

theorem not_safety {x : Emission} (traced : Traced events state visit (some x) signal) :
    signal.isSafety = false := by
  obtain ⟨-, emitting, -, -, -, -, posts, -⟩ := traced
  exact FlightState.not_safety_of_tickSignals posts

theorem turn_lt {x : Emission} (traced : Traced events state visit (some x) signal) :
    x.turn < events.length := by
  obtain ⟨newer, emitting, rest, split, turn, -⟩ := traced
  rw [split, ← turn, List.length_append, List.length_cons]
  omega

end Traced

/-- The labels stand beside the signals that wait. -/
def Labelled (older : List FlightEvent) (runtime : FlightRuntime) : Prop :=
  let traced := Traced older runtime.flightState (visits older)
  List.Forall₂ traced (waiting older).signals runtime.controller.signals ∧
    List.Forall₂ traced (waiting older).deferredSignals runtime.deferredSignals

section Vector

variable (runtime : FlightRuntime) (turn : Turn)

/-- The signals of a tick are those of its leaf. -/
theorem tickSignals_of_posted {signal : FlightSignal}
    (posted : signal ∈ postedSignals (flightMachine.event runtime turn)) :
    runtime.flightState.tickSignals signal := by
  obtain ⟨new, appended, allowed⟩ :=
    (((runtime.prepare turn).afterHealth turn.now).controlTick_emits).signals
  have same : postedSignals (flightMachine.event runtime turn) = new := by
    have offered : offeredSignals (flightMachine.event runtime turn) =
        ((runtime.prepare turn).afterHealth turn.now).controller.signals ++ new := appended
    rw [postedSignals, offered]
    exact List.drop_left
  rw [same] at posted
  have state : ((runtime.prepare turn).afterHealth turn.now).flightState = runtime.flightState :=
    runtime.prepare_flightState
  exact state ▸ allowed signal posted

theorem offeredSignals_split : offeredSignals (flightMachine.event runtime turn) =
    ((runtime.prepare turn).afterHealth turn.now).controller.signals ++
      postedSignals (flightMachine.event runtime turn) := by
  obtain ⟨new, appended, -⟩ :=
    (((runtime.prepare turn).afterHealth turn.now).controlTick_emits).signals
  have offered : offeredSignals (flightMachine.event runtime turn) =
      ((runtime.prepare turn).afterHealth turn.now).controller.signals ++ new := appended
  rw [postedSignals, offered]
  exact congrArg _ List.drop_left.symm

/-- What is in the vector before the tick: what waited, and safety signals. -/
theorem afterHealth_signals_split : ∃ received reported : List FlightSignal,
    (runtime.prepare turn).controller.signals = runtime.controller.signals ++ received ∧
      ((runtime.prepare turn).afterHealth turn.now).controller.signals =
        runtime.controller.signals ++ received ++ runtime.deferredSignals ++ reported ∧
      (∀ signal ∈ received, signal.isSafety = true) ∧
      ∀ signal ∈ reported, signal.isSafety = true := by
  obtain ⟨received, inputs, safety⟩ := (runtime.prepare_received turn).signals
  obtain ⟨reported, health, safety'⟩ :=
    ((runtime.prepare turn).afterHealth_step turn.now).toEmits.signals
  refine ⟨received, reported, inputs, ?_, safety, safety'⟩
  have begins : ((runtime.prepare turn).beginTurn turn.now).controller.signals =
      (runtime.prepare turn).controller.signals ++ (runtime.prepare turn).deferredSignals := rfl
  rw [health, begins, inputs, (runtime.prepare_received turn).deferredSignals]

end Vector

section Step

variable {older : List FlightEvent} {runtime : FlightRuntime}

theorem Labelled.lengths (labelled : Labelled older runtime) :
    (waiting older).signals.length = runtime.controller.signals.length ∧
      (waiting older).deferredSignals.length = runtime.deferredSignals.length :=
  ⟨labelled.1.length_eq, labelled.2.length_eq⟩

variable (turn : Turn)

/-- The labels of what was there before the tick, and then those of the tick. -/
theorem available_split (labelled : Labelled older runtime) :
    let event := flightMachine.event runtime turn
    ∃ left, available older event = left ++
        (List.range (postedSignals event).length).map (fun place => some ⟨older.length, place⟩) ∧
      left.length = controlSignalStart event ∧
      (∀ x, some x ∈ left →
        some x ∈ (waiting older).signals ∨ some x ∈ (waiting older).deferredSignals) ∧
      List.Forall₂ (Traced older runtime.flightState (visits older)) left
        ((runtime.prepare turn).afterHealth turn.now).controller.signals := by
  intro event
  obtain ⟨received, reported, inputs, health, safety, safety'⟩ :=
    afterHealth_signals_split runtime turn
  obtain ⟨signals, deferred⟩ := labelled.lengths
  have receivedLength : (event.before.prepare event.input).controller.signals.length -
      (waiting older).signals.length = received.length := by
    have : (runtime.prepare turn).controller.signals.length =
        runtime.controller.signals.length + received.length := by
      rw [inputs, List.length_append]
    change (runtime.prepare turn).controller.signals.length - _ = _
    omega
  have reportedLength : controlSignalStart event -
      ((event.before.prepare event.input).controller.signals.length +
        (waiting older).deferredSignals.length) = reported.length := by
    change ((runtime.prepare turn).afterHealth turn.now).controller.signals.length -
      ((runtime.prepare turn).controller.signals.length + _) = _
    rw [health, inputs]
    simp only [List.length_append]
    omega
  have beside : List.Forall₂ (Traced older runtime.flightState (visits older))
      ((waiting older).signals ++ List.replicate received.length none ++
        (waiting older).deferredSignals ++ List.replicate reported.length none)
      ((runtime.prepare turn).afterHealth turn.now).controller.signals := by
    rw [health]
    refine List.rel_append (List.rel_append (List.rel_append labelled.1 ?_) labelled.2) ?_
    · exact forall₂_replicate safety rfl
    · exact forall₂_replicate safety' rfl
  refine ⟨_, ?_, beside.length_eq, ?_, beside⟩
  · unfold available Waiting.offered
    simp only [receivedLength, reportedLength]
  · intro x member
    simp only [List.mem_append, List.mem_replicate, reduceCtorEq, and_false, or_false] at member
    exact member

/-- The labels stand beside the vector of the update. -/
theorem available_traced (labelled : Labelled older runtime) :
    let event := flightMachine.event runtime turn
    List.Forall₂ (Traced (event :: older) runtime.flightState (visits older))
      (available older event) (offeredSignals event) := by
  intro event
  obtain ⟨left, split, -, -, beside⟩ := available_split turn labelled
  rw [split, offeredSignals_split]
  refine List.rel_append (beside.imp fun _ _ traced => traced.cons event) ?_
  refine forall₂_range fun place signal found => ?_
  exact ⟨[], event, older, rfl, rfl, found,
    tickSignals_of_posted runtime turn (List.mem_of_getElem? found), .inl rfl⟩

/-- What a returning update selected, and what it chose. -/
theorem selection_of_turn {again : Bool} (returned : (runtime.turn turn).2 = .ok again) :
    (runtime.turn turn).1.selectedSignal =
      ((runtime.prepare turn).ticked turn.now).choose.bind (·.selectedSignal) := by
  have fresh : ((runtime.prepare turn).ticked turn.now).selectedSignal = none := by
    unfold FlightRuntime.ticked FlightRuntime.afterHealth FlightRuntime.healthTurn
      FlightRuntime.controlTick
    rfl
  have after := FlightRuntime.afterTick_of_update returned
  change (runtime.turn turn).1 = _ at after
  rw [after]
  exact FlightRuntime.afterTick_selectedSignal _ _ fresh

/-- What an update that throws leaves. -/
theorem turn_of_thrown {error : RuntimeError} (thrown : (runtime.turn turn).2 = .error error) :
    (runtime.turn turn).1 = (runtime.prepare turn).ticked turn.now :=
  FlightRuntime.ticked_of_update thrown

/-- What an update selects was posted in the visit that it selects for. -/
theorem selected_traced (labelled : Labelled older runtime) {x : Emission} :
    let event := flightMachine.event runtime turn
    selected older event = some x →
      ∃ again signal, (runtime.turn turn).2 = .ok again ∧
        runtime.flightState.tickSignals signal ∧
        Traced (event :: older) runtime.flightState (visits older) (some x) signal := by
  intro event selects
  obtain ⟨index, chosen, label⟩ := Option.bind_eq_some_iff.mp selects
  have label := Option.join_eq_some_iff.mp label
  change (runtime.turn turn).1.selectedSignal = some index at chosen
  cases outcome : (runtime.turn turn).2 with
  | error error =>
      rw [turn_of_thrown turn outcome] at chosen
      unfold FlightRuntime.ticked FlightRuntime.afterHealth FlightRuntime.healthTurn
        FlightRuntime.controlTick at chosen
      cases chosen
  | ok again =>
      rw [selection_of_turn turn outcome] at chosen
      obtain ⟨choice, made, index_⟩ := Option.bind_eq_some_iff.mp chosen
      obtain ⟨signal, place, own⟩ := FlightRuntime.choose_selectedBy made index index_
      have traced := fits_of_getElem? (available_traced turn labelled) label place
      rw [FlightRuntime.ticked_flightState, FlightRuntime.prepare_flightState] at own
      rcases own with safety | own
      · rw [traced.not_safety] at safety
        cases safety
      · exact ⟨again, signal, rfl, own, traced⟩

omit [Libm] in
theorem visits_cons (event : FlightEvent) (older : List FlightEvent) :
    visits (event :: older) =
      visits older + if event.before.flightState ≠ event.after.flightState then 1 else 0 := by
  unfold visits
  rw [List.filter_cons]
  split <;> simp_all

/-- The labels that wait after an update that returns are those of its tick that it did not
select. -/
theorem waiting_of_returned {again : Bool} (returned : (runtime.turn turn).2 = .ok again) :
    let event := flightMachine.event runtime turn
    waiting (event :: older) = { deferredSignals :=
      ((((available older event).drop (controlSignalStart event)).zipIdx
        (controlSignalStart event)).filter fun entry =>
          event.after.selectedSignal ≠ some entry.2).map (·.1) } := by
  intro event
  have output : event.output = .ok again := returned
  unfold waiting Waiting.after
  rw [output]
  rfl

theorem waiting_of_thrown {error : RuntimeError} (thrown : (runtime.turn turn).2 = .error error) :
    let event := flightMachine.event runtime turn
    waiting (event :: older) = { signals := available older event } := by
  intro event
  have output : event.output = .error error := thrown
  unfold waiting Waiting.after
  rw [output]
  rfl

theorem labelled_step (labelled : Labelled older runtime) :
    Labelled (flightMachine.event runtime turn :: older) (runtime.turn turn).1 := by
  have beside := available_traced turn labelled
  cases outcome : (runtime.turn turn).2 with
  | error error =>
      have after := turn_of_thrown turn outcome
      have state : (runtime.turn turn).1.flightState = runtime.flightState := by
        rw [after, FlightRuntime.ticked_flightState, FlightRuntime.prepare_flightState]
      have visit : visits (flightMachine.event runtime turn :: older) = visits older := by
        rw [visits_cons]
        change _ + (if runtime.flightState ≠ (runtime.turn turn).1.flightState then 1 else 0) = _
        rw [state, if_neg (not_not_intro rfl), Nat.add_zero]
      unfold Labelled
      rw [waiting_of_thrown turn outcome, state, visit, after, FlightRuntime.ticked_deferredSignals]
      exact ⟨beside, .nil⟩
  | ok again =>
      have after := FlightRuntime.afterTick_of_update outcome
      change (runtime.turn turn).1 = _ at after
      have chosen : (runtime.turn turn).1.selectedSignal =
          (((runtime.prepare turn).ticked turn.now).applyChoice
            ((runtime.prepare turn).ticked turn.now).choose).selectedSignal := by
        rw [after]
        rfl
      unfold Labelled
      rw [waiting_of_returned turn outcome]
      refine ⟨?_, ?_⟩
      · have emptied : (runtime.turn turn).1.controller.signals = [] :=
          FlightRuntime.signals_of_update outcome
        rw [emptied]
        exact .nil
      have deferred := FlightRuntime.afterTick_deferredSignals
        ((runtime.prepare turn).ticked turn.now)
        ((runtime.prepare turn).afterHealth turn.now).controller.signals.length
      rw [← after, ← chosen] at deferred
      rw [deferred]
      refine forall₂_choose ?_ (fun index => (runtime.turn turn).1.selectedSignal ≠ some index) _
      obtain ⟨left, split, length, -, -⟩ := available_split turn labelled
      rw [split, ← length, List.drop_left]
      refine forall₂_range fun place signal found => ?_
      have posts := tickSignals_of_posted runtime turn (List.mem_of_getElem? found)
      refine ⟨[], _, older, rfl, rfl, found, posts, .inr ?_⟩
      have ended := FlightRuntime.flightState_of_update outcome
      rw [FlightRuntime.prepare_flightState] at ended
      change runtime.flightState ≠ ((runtime.prepare turn).update turn.now).1.flightState
      rw [ended]
      have tickedState : ((runtime.prepare turn).ticked turn.now).flightState =
          runtime.flightState :=
        (FlightRuntime.ticked_flightState _ _).trans FlightRuntime.prepare_flightState
      cases choice : ((runtime.prepare turn).ticked turn.now).choose with
      | none =>
          refine absurd (tickedState ▸ posts) (FlightRuntime.not_tickSignals_of_choose_none choice
            (List.mem_of_mem_drop (List.mem_of_getElem? found)))
      | some choice' =>
          exact tickedState ▸ (FlightRuntime.choose_target_ne choice).symm

/-- A label waits in one of the two lists. -/
def Waits (older : List FlightEvent) (x : Emission) : Prop :=
  some x ∈ (waiting older).signals ∨ some x ∈ (waiting older).deferredSignals

theorem Labelled.traced_of_waits (labelled : Labelled older runtime) {x : Emission}
    (waits : Waits older x) :
    ∃ signal ∈ runtime.pending,
      Traced older runtime.flightState (visits older) (some x) signal := by
  rcases waits with signals | deferred
  · obtain ⟨signal, found, traced⟩ := exists_of_mem_forall₂ labelled.1 signals
    exact ⟨signal, List.mem_append_left _ found, traced⟩
  · obtain ⟨signal, found, traced⟩ := exists_of_mem_forall₂ labelled.2 deferred
    exact ⟨signal, List.mem_append_right _ found, traced⟩

/-- What an update offers waited, or was posted in it. -/
theorem waits_of_available (labelled : Labelled older runtime) {x : Emission}
    (offered : some x ∈ available older (flightMachine.event runtime turn)) :
    Waits older x ∨ x.turn = older.length := by
  obtain ⟨left, split, -, waits, -⟩ := available_split turn labelled
  rw [split] at offered
  rcases List.mem_append.mp offered with earlier | fresh
  · exact .inl (waits x earlier)
  · obtain ⟨place, -, same⟩ := List.mem_map.mp fresh
    exact .inr (by rw [← Option.some.inj same])

/-- What waits after an update that returns was posted in it. -/
theorem posted_of_waits (labelled : Labelled older runtime) {again : Bool}
    (returned : (runtime.turn turn).2 = .ok again) {x : Emission}
    (waits : Waits (flightMachine.event runtime turn :: older) x) :
    x.turn = older.length ∧ ∃ place < (available older (flightMachine.event runtime turn)).length,
      (available older (flightMachine.event runtime turn))[place]? = some (some x) ∧
        place = controlSignalStart (flightMachine.event runtime turn) + x.place ∧
        (runtime.turn turn).1.selectedSignal ≠ some place := by
  unfold Waits at waits
  rw [waiting_of_returned turn returned] at waits
  rcases waits with signals | deferred
  · cases signals
  obtain ⟨left, split, length, -, -⟩ := available_split turn labelled
  obtain ⟨entry, kept, label⟩ := List.mem_map.mp deferred
  obtain ⟨present, unselected⟩ := List.mem_filter.mp kept
  rw [split, ← length, List.drop_left] at present
  obtain ⟨from_, below, value⟩ := List.mem_zipIdx present
  rw [List.length_map, List.length_range] at below
  simp only [List.getElem_map, List.getElem_range] at value
  have same : x = ⟨older.length, entry.2 - left.length⟩ := Option.some.inj (label.symm.trans value)
  refine ⟨by rw [same], entry.2, ?_, ?_, ?_, of_decide_eq_true unselected⟩
  · rw [split, List.length_append, List.length_map, List.length_range]
    omega
  · rw [split, List.getElem?_append_right from_, same]
    simp only [List.getElem?_map]
    rw [List.getElem?_range (by omega)]
    rfl
  · have place : x.place = entry.2 - left.length := by rw [same]
    rw [place, ← length]
    omega

/-- What does not wait after its own turn waits no more. -/
theorem not_waits_step (labelled : Labelled older runtime) {x : Emission}
    (past : x.turn < older.length) (absent : ¬ Waits older x) :
    ¬ Waits (flightMachine.event runtime turn :: older) x := by
  intro waits
  cases outcome : (runtime.turn turn).2 with
  | error error =>
      unfold Waits at waits
      rw [waiting_of_thrown turn outcome] at waits
      rcases waits with signals | deferred
      · rcases waits_of_available turn labelled signals with waits | now
        · exact absent waits
        · omega
      · cases deferred
  | ok again =>
      have := (posted_of_waits turn labelled outcome waits).1
      omega

/-- A selected signal is gone. -/
theorem not_waits_of_selected (labelled : Labelled older runtime) {x : Emission}
    (selects : selected older (flightMachine.event runtime turn) = some x) :
    ¬ Waits (flightMachine.event runtime turn :: older) x := by
  intro waits
  obtain ⟨again, -, returned, -, -⟩ := selected_traced turn labelled selects
  obtain ⟨now, place, -, -, position, unselected⟩ :=
    posted_of_waits turn labelled returned waits
  obtain ⟨index, chosen, label⟩ := Option.bind_eq_some_iff.mp selects
  have label := Option.join_eq_some_iff.mp label
  change (runtime.turn turn).1.selectedSignal = some index at chosen
  obtain ⟨left, split, length, -, beside⟩ := available_split turn labelled
  rw [split] at label
  rcases Nat.lt_or_ge index left.length with earlier | fresh
  · rw [List.getElem?_append_left earlier] at label
    obtain ⟨signal, -, traced⟩ := exists_of_mem_forall₂ beside (List.mem_of_getElem? label)
    have := traced.turn_lt
    omega
  · rw [List.getElem?_append_right fresh, List.getElem?_map] at label
    obtain ⟨place', found, same⟩ := Option.map_eq_some_iff.mp label
    obtain ⟨below, value⟩ := List.getElem?_eq_some_iff.mp found
    rw [List.getElem_range] at value
    have same := congrArg Emission.place (Option.some.inj same)
    refine unselected (chosen.trans (congrArg some ?_))
    dsimp only at same
    omega

end Step

/-- A selected signal was posted by the active leaf, since it was last entered. -/
def SelectedInVisit (older : List FlightEvent) (event : FlightEvent) : Prop :=
  ∀ x, selected older event = some x → ∃ newer emitting rest signal,
    event :: older = newer ++ emitting :: rest ∧ rest.length = x.turn ∧
      (postedSignals emitting)[x.place]? = some signal ∧
      emitting.before.flightState = event.before.flightState ∧ visits rest = visits older

/-- No two updates of a past select the same signal. -/
def SelectedOnce (past : List FlightEvent) : Prop :=
  ∀ event older event' older' x, event :: older <:+ past → event' :: older' <:+ past →
    selected older event = some x → selected older' event' = some x →
    older.length = older'.length

/-- A posted signal is offered by the update that posted it and by the next. -/
def OfferedForOneTurn (older : List FlightEvent) (event : FlightEvent) : Prop :=
  ∀ x, some x ∈ available older event → older.length = x.turn ∨ older.length = x.turn + 1

theorem OfferedForOneTurn.length_le {older : List FlightEvent} {event : FlightEvent}
    (law : OfferedForOneTurn older event) {x : Emission}
    (offered : some x ∈ available older event) :
    older.length ≤ x.turn + 1 := by
  rcases law x offered with same | next
  · omega
  · omega

/-- A completion waits for the update. -/
def FlightRuntime.completionWaits (runtime : FlightRuntime) : Prop :=
  ∃ signal ∈ runtime.pending, signal.isSafety = false

/-- When a completion waits for the tick of Custom1, what the tick subtracts from a
well-formed clock is in reach. -/
def completionsInReach (event : FlightEvent) : Prop :=
  event.before.completionWaits →
    event.input.now.Canonical ∧ event.before.tickInReach event.input = true

instance (runtime : FlightRuntime) : Decidable runtime.completionWaits :=
  inferInstanceAs (Decidable (∃ signal ∈ runtime.pending, signal.isSafety = false))

instance (event : FlightEvent) : Decidable (completionsInReach event) :=
  inferInstanceAs (Decidable (_ → _))

section Runs

variable {admissible : FlightRestriction} {past : List FlightEvent} {runtime : FlightRuntime}

theorem labelled_of_run
    (run : flightMachine.Run FlightRuntime.Started admissible past runtime) :
    Labelled past runtime := by
  refine run.invariant Labelled ?_ fun past runtime turn _ labelled _ => labelled_step turn labelled
  rintro _ ⟨config, rfl⟩
  exact ⟨.nil, .nil⟩

theorem selectedInVisit (run : flightMachine.Run FlightRuntime.Started admissible past runtime) :
    ∀ event older, event :: older <:+ past → SelectedInVisit older event := by
  refine run.invariant_history Labelled ?_ fun past runtime turn _ labelled _ =>
    ⟨labelled_step turn labelled, fun x selects => ?_⟩
  · rintro _ ⟨config, rfl⟩
    exact ⟨.nil, .nil⟩
  obtain ⟨-, signal, -, own, newer, emitting, rest, split, turn', posted, posts, visit⟩ :=
    selected_traced turn labelled selects
  have leaf := FlightState.eq_of_tickSignals posts own
  exact ⟨newer, emitting, rest, signal, split, turn', posted, leaf,
    visit.resolve_right (not_not_intro leaf)⟩

/-- Once selected, a signal is never offered again. -/
theorem gone_of_selected
    (run : flightMachine.Run FlightRuntime.Started admissible past runtime) :
    Labelled past runtime ∧ ∀ event older x, event :: older <:+ past →
      selected older event = some x → x.turn < past.length ∧ ¬ Waits past x := by
  refine run.invariant (fun past runtime => Labelled past runtime ∧
    ∀ event older x, event :: older <:+ past → selected older event = some x →
      x.turn < past.length ∧ ¬ Waits past x) ?_ ?_
  · rintro _ ⟨config, rfl⟩
    exact ⟨⟨.nil, .nil⟩, fun event older x suffix => by simp at suffix⟩
  intro past runtime turn _ held _
  refine ⟨labelled_step turn held.1, fun event older x suffix selects => ?_⟩
  rw [List.length_cons]
  rcases List.suffix_cons_iff.mp suffix with newest | earlier
  · cases newest
    obtain ⟨-, signal, -, -, traced⟩ := selected_traced turn held.1 selects
    exact ⟨traced.turn_lt, not_waits_of_selected turn held.1 selects⟩
  · obtain ⟨before, gone⟩ := held.2 event older x earlier selects
    exact ⟨Nat.lt_succ_of_lt before, not_waits_step turn held.1 before gone⟩

theorem selectedOnce (run : flightMachine.Run FlightRuntime.Started admissible past runtime) :
    SelectedOnce past := by
  induction run with
  | start started =>
      intro event older event' older' x suffix
      simp at suffix
  | @step past runtime turn run allowed ih =>
      obtain ⟨labelled, gone⟩ := gone_of_selected run
      -- an earlier selection has taken the signal out of the vector
      have apart : ∀ event older x, event :: older <:+ past → selected older event = some x →
          selected past (flightMachine.event runtime turn) ≠ some x := by
        intro event older x suffix earlier again
        obtain ⟨before, absent⟩ := gone event older x suffix earlier
        obtain ⟨index, -, label⟩ := Option.bind_eq_some_iff.mp again
        have offered := List.mem_of_getElem? (Option.join_eq_some_iff.mp label)
        rcases waits_of_available turn labelled offered with waits | now
        · exact absent waits
        · omega
      intro event older event' older' x suffix suffix' selects selects'
      rcases List.suffix_cons_iff.mp suffix with newest | earlier
      · cases newest
        rcases List.suffix_cons_iff.mp suffix' with newest | earlier'
        · cases newest
          rfl
        · exact (apart event' older' x earlier' selects' selects).elim
      · rcases List.suffix_cons_iff.mp suffix' with newest | earlier'
        · cases newest
          exact (apart event older x earlier selects selects').elim
        · exact ih event older event' older' x earlier earlier' selects selects'

/-- When every update that a completion waits for returns, what waits was posted in the
newest update. -/
theorem offeredForOneTurn
    (run : flightMachine.Run FlightRuntime.Started admissible past runtime)
    (reach : ∀ event ∈ past, completionsInReach event) :
    (∀ x, Waits past x → past.length = x.turn + 1) ∧
      ∀ event older, event :: older <:+ past → OfferedForOneTurn older event := by
  induction run with
  | start started =>
      refine ⟨fun x waits => ?_, fun event older suffix => by simp at suffix⟩
      rcases waits with signals | deferred
      · cases signals
      · cases deferred
  | @step past runtime turn run allowed ih =>
      obtain ⟨newest, earlier⟩ := List.forall_mem_cons.mp reach
      obtain ⟨waiting, offered⟩ := ih earlier
      have labelled := labelled_of_run run
      refine ⟨fun x waits => ?_, fun event older suffix => ?_⟩
      · rw [List.length_cons]
        cases outcome : (runtime.turn turn).2 with
        | ok again => rw [(posted_of_waits turn labelled outcome waits).1]
        | error error =>
            unfold Waits at waits
            rw [waiting_of_thrown turn outcome] at waits
            rcases waits with signals | deferred
            · rcases waits_of_available turn labelled signals with waits | now
              · obtain ⟨signal, waits, traced⟩ := labelled.traced_of_waits waits
                obtain ⟨canonical, inReach⟩ := newest ⟨signal, waits, traced.not_safety⟩
                obtain ⟨again, returned⟩ := FlightRuntime.turn_returns canonical inReach
                cases outcome.symm.trans returned
              · rw [now]
            · cases deferred
      · rcases List.suffix_cons_iff.mp suffix with newest | earlier
        · cases newest
          intro x present
          rcases waits_of_available turn labelled present with waits | now
          · exact .inr (waiting x waits)
          · exact .inl now.symm
        · exact offered event older earlier

/-- In every run a completion moves only the visit that posted it, and moves it once. It is
offered by two consecutive updates when no update that it waits for throws. -/
theorem completion_signals {past : List FlightEvent} {runtime : FlightRuntime}
    (run : flightMachine.Run FlightRuntime.Started anyEnvironment past runtime) :
    (∀ event older, event :: older <:+ past → SelectedInVisit older event) ∧
      SelectedOnce past ∧
      ((∀ event ∈ past, completionsInReach event) →
        ∀ event older, event :: older <:+ past → OfferedForOneTurn older event) :=
  ⟨selectedInVisit run, selectedOnce run, fun reach => (offeredForOneTurn run reach).2⟩

end Runs

end Law

section Survival

open ExactMath

/-- The takeoff target is where the vehicle stands, so that the ascent is over at once. -/
def settledConfig : ControllerConfig := { farConfig with takeoffAltitude := 0 }

/-- The operator asks for tracking in the update in which the altitude has settled. -/
def settledTurns : List Turn :=
  ascentTurns [.takeoff, .takeoff, .takeoff, .takeoff, .track]

/-- Custom1 hears of a reference that starts in a hundred years. -/
def throwingTurn : Turn :=
  { inputs := [.activeAnalytic { duration := 60, startTime := ⟨4000000000, 0⟩ } ⟨11, 0⟩]
    sensor := armedSensor
    now := ⟨11, 0⟩ }

/-- And then of one that has started. -/
def recoveredTurn : Turn :=
  { inputs := [.activeAnalytic { duration := 60 } ⟨12, 0⟩], sensor := armedSensor, now := ⟨12, 0⟩ }

/-- The settled altitude is posted by the tenth update, which goes to Custom1 on the command.
The next one throws, and the one after it is offered the signal again. -/
theorem completion_survives_throw :
    let settled := flightMachine.replay [] (FlightRuntime.initial.setConfig settledConfig)
      (settledTurns ++ [throwingTurn])
    let event := flightMachine.event settled.2 recoveredTurn
    flightMachine.Run FlightRuntime.Started anyEnvironment (event :: settled.1) event.after ∧
      some ⟨9, 0⟩ ∈ available settled.1 event ∧ ¬ OfferedForOneTurn settled.1 event := by
  intro settled event
  have start : flightMachine.Run FlightRuntime.Started anyEnvironment []
      (FlightRuntime.initial.setConfig settledConfig) := .start ⟨settledConfig, rfl⟩
  have run := (start.replay (settledTurns ++ [throwingTurn]) (by decide +kernel)).extend
    recoveredTurn trivial
  have offered : some ⟨9, 0⟩ ∈ available settled.1 event := by decide +kernel
  have late : ¬ settled.1.length ≤ 10 := by decide +kernel
  exact ⟨run, offered, fun law => late (law.length_le offered)⟩

/-- A reference that has started does not throw, and the next update is the last one that is
offered the signal. -/
theorem completion_signals_settled :
    let settled := flightMachine.replay [] (FlightRuntime.initial.setConfig settledConfig)
      settledTurns
    let event := flightMachine.event settled.2 recoveredTurn
    some ⟨9, 0⟩ ∈ available settled.1 event ∧ OfferedForOneTurn settled.1 event := by
  intro settled event
  have start : flightMachine.Run FlightRuntime.Started anyEnvironment []
      (FlightRuntime.initial.setConfig settledConfig) := .start ⟨settledConfig, rfl⟩
  have run := (start.replay settledTurns (by decide +kernel)).extend recoveredTurn trivial
  have reach : (event :: settled.1).all (fun event => completionsInReach event) = true := by
    decide +kernel
  have offered : some ⟨9, 0⟩ ∈ available settled.1 event := by decide +kernel
  refine ⟨offered, (completion_signals run).2.2 (fun event member => ?_) event settled.1
    List.suffix_rfl⟩
  exact of_decide_eq_true (List.all_eq_true.mp reach event member)

end Survival

end MultirotorController
