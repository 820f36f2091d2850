import MultirotorController.Driver.ControllerConfig
import MultirotorController.Driver.TrajectoryIngress
import MultirotorController.Safety.SolverIndependence
import MultirotorController.Uav.InputBounds

/-!
# Readiness of the predictive controller

The reader brings the limits of a configuration in order, one clamp or default after
the other. What it returns can bound a command, but its two clamps may leave a thrust
interval that is a single point, and neither the ingress nor the backend refuses a
hover thrust that is too small to divide by; in both cases no session ever locks its
bounds.
-/

namespace MultirotorController

/-- What is relied on of the clamp of the mathematics library. What it makes of a NaN is left
open but for the bounds. -/
structure ConfigLibrary.Clamps (library : ConfigLibrary) : Prop where
  between : ∀ value low high, low ≤ high →
    low ≤ library.clamp value low high ∧ library.clamp value low high ≤ high
  number : ∀ value low high, value ≠ .nan → low ≤ high →
    library.clamp value low high = NmpcMath.stdClamp value low high

/-- The clamp that the controller has of its own is one. -/
theorem ConfigLibrary.clamps_clamp
    (parseWorldBoundary : String → Except RuntimeError (Option WorldBoundary)) :
    Clamps ⟨NmpcMath.clamp, parseWorldBoundary⟩ :=
  ⟨fun _ _ _ ordered => Double.between_max_min ordered,
    fun _ _ _ isNumber ordered => Double.max_min_eq isNumber ordered⟩

namespace ControllerConfig

open ConfigLibrary

/-- The normalized thrust interval that the two clamps of the reader leave. -/
def thrustInterval (library : ConfigLibrary) (params : UavNmpcParams) : Double × Double :=
  let least := library.clamp params.normalizedThrustMin 0 1
  (least, library.clamp params.normalizedThrustMax least 1)

/-- The clamps leave more than a single point. -/
def KeepsThrustInterval (library : ConfigLibrary) (params : UavNmpcParams) : Prop :=
  (thrustInterval library params).1 < (thrustInterval library params).2

section Reader

variable {library : ConfigLibrary} {params : UavNmpcParams} {config : ControllerConfig}

/-- Whatever is read, the limits that are returned are usable. -/
theorem limits_of_sanitized (clamps : library.Clamps) {backend : TrackingBackend}
    (sanitized : config.nmpc = requireHoverThrust backend (sanitizeNmpcParams library params)) :
    config.Limits := by
  have positive : ∀ value default_ : Double, default_.isFinite = true ∧ 0 < default_ →
      (value.above 0 default_).isFinite = true ∧ 0 < value.above 0 default_ :=
    fun _ _ default_ok => Double.above_spec default_ok rfl
  obtain ⟨low, high⟩ := clamps.between params.normalizedThrustMin 0 1 (by decide +kernel)
  obtain ⟨ordered, high'⟩ := clamps.between params.normalizedThrustMax _ 1 high
  have finite := Double.isFinite_of_between rfl rfl low high
  have finite' := Double.isFinite_of_between finite rfl ordered high'
  constructor <;> rw [sanitized]
  · exact Double.above_spec (by decide +kernel) rfl
  · exact ⟨finite, low⟩
  · exact ⟨finite', high'⟩
  · exact ordered
  · exact positive _ _ (by decide +kernel)
  · exact positive _ _ (by decide +kernel)
  · exact positive _ _ (by decide +kernel)
  · exact positive _ _ (by decide +kernel)

/-- For numbers, the interval is kept unless the lower end is brought down to one or the upper
end is brought up to the lower one. -/
theorem keepsThrustInterval_iff (clamps : library.Clamps)
    (least : params.normalizedThrustMin ≠ .nan) (greatest : params.normalizedThrustMax ≠ .nan) :
    KeepsThrustInterval library params ↔
      params.normalizedThrustMin < 1 ∧ 0 < params.normalizedThrustMax ∧
        params.normalizedThrustMin < params.normalizedThrustMax := by
  have unit : (0 : Double) ≤ 1 := by decide +kernel
  have notAbove : ¬(1 : Double) < 1 := by decide +kernel
  obtain ⟨low, high⟩ := clamps.between params.normalizedThrustMin 0 1 unit
  have lower := clamps.number params.normalizedThrustMin 0 1 least unit
  have upper := clamps.number params.normalizedThrustMax _ 1 greatest high
  unfold KeepsThrustInterval thrustInterval
  dsimp only
  rw [upper]
  generalize library.clamp params.normalizedThrustMin 0 1 = bottom at low high lower ⊢
  obtain ⟨-, number⟩ := Double.ne_nan_of_le low
  -- The upper end is above the lower one exactly if it is not raised, and the lower one is not one.
  have kept : bottom < NmpcMath.stdClamp params.normalizedThrustMax bottom 1 ↔
      bottom < params.normalizedThrustMax ∧ bottom < 1 := by
    unfold NmpcMath.stdClamp
    rcases Double.lt_or_le greatest number with below | above
    · rw [if_pos below]
      have neither : ¬bottom < bottom ∧ ¬bottom < params.normalizedThrustMax :=
        ⟨fun less => Double.lt_asymm less less, Double.lt_asymm below⟩
      exact ⟨fun less => absurd less neither.1, fun both => absurd both.1 neither.2⟩
    · rw [if_neg (Double.not_lt_of_le above)]
      split
      next large =>
        exact ⟨fun less => ⟨Double.lt_of_le_of_lt high large, less⟩, fun both => both.2⟩
      next notLarge =>
        refine ⟨fun less => ⟨less, ?_⟩, fun both => both.1⟩
        have top : params.normalizedThrustMax ≤ 1 :=
          (Double.lt_or_le (by decide) greatest).resolve_left notLarge
        exact Double.lt_of_lt_of_le less top
  rw [kept, lower]
  unfold NmpcMath.stdClamp
  rcases Double.lt_or_le least (by decide : (0 : Double) ≠ .nan) with negative | nonnegative
  · rw [if_pos negative]
    have small := Double.lt_of_lt_of_le negative unit
    refine ⟨fun both => ⟨small, both.1, ?_⟩, fun all => ⟨all.2.1, by decide +kernel⟩⟩
    exact Double.lt_of_le_of_lt (Double.le_of_lt negative) both.1
  · rw [if_neg (Double.not_lt_of_le nonnegative)]
    split
    next large =>
      refine ⟨fun both => absurd both.2 notAbove, fun all => ?_⟩
      exact absurd all.1 (Double.lt_asymm large)
    next =>
      refine ⟨fun both => ⟨both.2, ?_, both.1⟩, fun all => ⟨all.2.2, all.1⟩⟩
      exact Double.lt_of_le_of_lt nonnegative both.1

end Reader

/-- With a configuration that was read and a stored hover thrust that the backend accepts, a
session can lock its bounds exactly if the reader's clamps keep the thrust interval and the
hover thrust can be divided by. -/
theorem nmpc_lockable_iff [Acados] {library : ConfigLibrary} (clamps : library.Clamps)
    (setters : ∀ bounds, Acados.setBounds bounds = true) {parameters : ControllerParameters}
    {uavName : String} {config : ControllerConfig} {params : UavNmpcParams}
    (read : readControllerConfig library parameters uavName = .ok config)
    (readParams : readNmpcParams parameters = .ok params)
    {before sensor : SensorData} {hoverThrust : Double} {flags : UInt32}
    {stampSec receiptSec : Double}
    (stored : ingestHoverThrust before hoverThrust flags stampSec receiptSec = (sensor, true))
    {backend : UavNmpcTrackingBackend} (configured : backend.config = config)
    (unlocked : backend.inputBoundsLocked = false) {now : Time}
    (ready : backend.hoverThrustReady sensor now = true) :
    ((backend.lockInputBounds sensor.hoverThrustEstimate).2 = true ∧
        config.nmpc.normalizedThrustMin < config.nmpc.normalizedThrustMax ∧
        backend.checkedBounds sensor.hoverThrustEstimate ↔
      KeepsThrustInterval library params ∧ 1e-6 < hoverThrust) ∧
    (params.normalizedThrustMin ≠ .nan → params.normalizedThrustMax ≠ .nan →
      (KeepsThrustInterval library params ↔
        params.normalizedThrustMin < 1 ∧ 0 < params.normalizedThrustMax ∧
          params.normalizedThrustMin < params.normalizedThrustMax)) := by
  refine ⟨?_, keepsThrustInterval_iff clamps⟩
  obtain ⟨source, nmpc, readNmpc, sanitized⟩ := readControllerConfig_nmpc read
  cases Except.ok.inj (readParams.symm.trans readNmpc)
  have limits := limits_of_sanitized clamps sanitized
  have estimate : sensor.hoverThrustEstimate = hoverThrust := by
    unfold ingestHoverThrust at stored
    split at stored
    · cases stored
    · cases stored
      rfl
  have finite : sensor.hoverThrustEstimate.isFinite = true := by
    simp only [UavNmpcTrackingBackend.hoverThrustReady, Bool.and_eq_true] at ready
    exact ready.1.1.1.1.1.1.2
  have interval : KeepsThrustInterval library params ↔
      config.nmpc.normalizedThrustMin < config.nmpc.normalizedThrustMax := by
    rw [sanitized]
    rfl
  rw [interval, ← estimate]
  subst configured
  rw [UavNmpcTrackingBackend.lockInputBounds_iff limits setters finite unlocked]
  refine ⟨fun locks => locks.1, fun both => ⟨both, both.1, ?_⟩⟩
  exact UavNmpcTrackingBackend.checkedBounds_of_limits limits rfl both.1 finite both.2

section Examples

open ConfigLibrary EchoSolver

/-- The controller's own clamp, and no boundary. -/
def plainLibrary : ConfigLibrary := ⟨NmpcMath.clamp, fun _ => .ok none⟩

/-- Parameters of the predictive controller, given over the defaults. -/
def nmpcParameters (given : String → Option Double) : ControllerParameters where
  read key default_ :=
    match key, default_ with
    | "world_boundary_json", .string _ => some (.string "null")
    | "tracking_backend", .string _ => some (.string "nmpc")
    | key, .double _ => (given key).map .double
    | _, _ => none

/-- The configuration for the parameters, or the default one if they are not accepted. -/
def configOf (given : String → Option Double) : ControllerConfig :=
  ((readControllerConfig plainLibrary (nmpcParameters given) "").toOption).getD {}

def paramsOf (given : String → Option Double) : UavNmpcParams :=
  ((readNmpcParams (nmpcParameters given)).toOption).getD {}

/-- An upper end of the thrust interval that the reader brings up to the lower one. -/
def flatThrust : String → Option Double
  | "nmpc/normalized_thrust_max" => some 0
  | _ => none

/-- Any hover thrust below one is in the range. -/
def anyHoverThrust : String → Option Double
  | "nmpc/min_hover_thrust" => some 0
  | _ => none

def storedEstimate (hoverThrust : Double) : SensorData :=
  (ingestHoverThrust {} hoverThrust 0 0 1).1

theorem nmpc_lockable_iff_default :
    ((({ config := configOf fun _ => none } : UavNmpcTrackingBackend).lockInputBounds
        (storedEstimate 0.5).hoverThrustEstimate).2 = true ∧
        (configOf fun _ => none).nmpc.normalizedThrustMin <
          (configOf fun _ => none).nmpc.normalizedThrustMax ∧
        ({ config := configOf fun _ => none } : UavNmpcTrackingBackend).checkedBounds
          (storedEstimate 0.5).hoverThrustEstimate ↔
      KeepsThrustInterval plainLibrary (paramsOf fun _ => none) ∧ (1e-6 : Double) < 0.5) ∧
    ((paramsOf fun _ => none).normalizedThrustMin ≠ .nan →
      (paramsOf fun _ => none).normalizedThrustMax ≠ .nan →
      (KeepsThrustInterval plainLibrary (paramsOf fun _ => none) ↔
        (paramsOf fun _ => none).normalizedThrustMin < 1 ∧
          0 < (paramsOf fun _ => none).normalizedThrustMax ∧
          (paramsOf fun _ => none).normalizedThrustMin <
            (paramsOf fun _ => none).normalizedThrustMax)) :=
  have read : readControllerConfig plainLibrary (nmpcParameters fun _ => none) "" =
      .ok (configOf fun _ => none) := by decide +kernel
  have readParams : readNmpcParams (nmpcParameters fun _ => none) =
      .ok (paramsOf fun _ => none) := by decide +kernel
  have stored : ingestHoverThrust {} 0.5 0 0 1 = (storedEstimate 0.5, true) := by decide +kernel
  have ready : ({ config := configOf fun _ => none } : UavNmpcTrackingBackend).hoverThrustReady
      (storedEstimate 0.5) ⟨1, 0⟩ = true := by decide +kernel
  nmpc_lockable_iff (clamps_clamp _) (fun _ => rfl) read readParams stored rfl rfl ready

/-- Two accepted configurations under which an estimate that is stored and accepted locks no
bounds: one with an interval that is a single point, and one with a tiny hover thrust. -/
theorem nmpc_never_lockable :
    (readControllerConfig plainLibrary (nmpcParameters flatThrust) "").isOk = true ∧
    (ingestHoverThrust {} 0.5 0 0 1).2 = true ∧
    ({ config := configOf flatThrust } : UavNmpcTrackingBackend).hoverThrustReady
      (storedEstimate 0.5) ⟨1, 0⟩ = true ∧
    (({ config := configOf flatThrust } : UavNmpcTrackingBackend).lockInputBounds
      (storedEstimate 0.5).hoverThrustEstimate).2 = false ∧
    (readControllerConfig plainLibrary (nmpcParameters anyHoverThrust) "").isOk = true ∧
    (ingestHoverThrust {} 1e-7 0 0 1).2 = true ∧
    ({ config := configOf anyHoverThrust } : UavNmpcTrackingBackend).hoverThrustReady
      (storedEstimate 1e-7) ⟨1, 0⟩ = true ∧
    (({ config := configOf anyHoverThrust } : UavNmpcTrackingBackend).lockInputBounds
      (storedEstimate 1e-7).hoverThrustEstimate).2 = false := by
  decide +kernel

end Examples

end ControllerConfig

end MultirotorController
