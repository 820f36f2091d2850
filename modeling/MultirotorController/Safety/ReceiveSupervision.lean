import MultirotorController.Control.ExactMath
import MultirotorController.Driver.SupervisionTasks
import MultirotorController.Lib.Run

/-!
# Receive supervision over whole runs

Receipts and advances come in any order; only the clock of the advances never goes back.
The deadlines stay on the grids that the start laid out, whatever jumps the clock makes,
and every advance discharges what is due once. Between two heartbeats at most one second
passes, so an active stream has been heard of in the last three and a half seconds.
-/

namespace MultirotorController

open Machine Procedure

inductive SupervisionCall where
  | observe (stream : SensorStream) (receipt : Time)
  | advance (now : Time)
deriving DecidableEq, Repr

namespace SupervisionCall

def time : SupervisionCall → Time
  | .observe _ receipt => receipt
  | .advance now => now

def perform [Libm] : SupervisionCall → EStateM RuntimeError Sensing Unit
  | .observe stream receipt => Sensing.observe stream receipt
  | .advance now => Sensing.advance now

end SupervisionCall

/-- A procedure that throws keeps what it had written. -/
def outcome (program : EStateM RuntimeError Sensing Unit) (sensing : Sensing) :
    Sensing × Except RuntimeError Unit :=
  match program.run sensing with
  | .ok _ final => (final, .ok ())
  | .error error final => (final, .error error)

def supervision [Libm] : Machine Sensing SupervisionCall (Except RuntimeError Unit) where
  step sensing call := outcome call.perform sensing

abbrev SupervisionEvent := Event Sensing SupervisionCall (Except RuntimeError Unit)

namespace Supervision

/-- The time of the last advance, and of the start before the first one. -/
def clock (origin : Time) : List SupervisionEvent → Time
  | [] => origin
  | ⟨_, .advance now, _, _⟩ :: _ => now
  | ⟨_, .observe _ _, _, _⟩ :: older => clock origin older

/-- The last receipt of the stream that was recorded. -/
def received (stream : SensorStream) : List SupervisionEvent → Option Time
  | [] => none
  | ⟨_, .observe other receipt, .ok _, _⟩ :: older =>
      if stream = other then some receipt else received stream older
  | _ :: older => received stream older

/-- Every receipt lies after the advance before it. -/
def Bracketed (origin : Time) : List SupervisionEvent → Prop
  | [] => True
  | ⟨_, .observe _ receipt, _, _⟩ :: older => clock origin older ≤ receipt ∧ Bracketed origin older
  | ⟨_, .advance _, _, _⟩ :: older => Bracketed origin older

instance decidableBracketed (origin : Time) : (past : List SupervisionEvent) →
    Decidable (Bracketed origin past)
  | [] => .isTrue trivial
  | ⟨_, .observe _ receipt, _, _⟩ :: older =>
      have := decidableBracketed origin older
      inferInstanceAs (Decidable (clock origin older ≤ receipt ∧ Bracketed origin older))
  | ⟨_, .advance _, _, _⟩ :: older => decidableBracketed origin older

/-- The statistics begin without a receipt, and `start` has returned. -/
def Opened (origin : Time) (sensing : Sensing) : Prop :=
  ∃ sensor : SensorData, (∀ stream, (sensor.stats stream).isActive = false) ∧
    (Sensing.start origin).run { sensor } = .ok () sensing

/-- Times are normalized and the clock of the advances never goes back. -/
def Ordered (origin : Time) : Restriction Sensing SupervisionCall (Except RuntimeError Unit) :=
  fun past _ call => call.time.Canonical ∧ ∀ now, call = .advance now → clock origin past ≤ now

instance (origin : Time) (past : List SupervisionEvent) (sensing : Sensing) :
    (call : SupervisionCall) → Decidable (Ordered origin past sensing call)
  | .observe _ receipt =>
      decidable_of_iff receipt.Canonical ⟨fun canonical => ⟨canonical, fun _ same => nomatch same⟩,
        And.left⟩
  | .advance now =>
      decidable_of_iff (now.Canonical ∧ clock origin past ≤ now)
        ⟨fun both => ⟨both.1, fun _ same => by cases same; exact both.2⟩,
          fun both => ⟨both.1, both.2 now rfl⟩⟩

/-- The deadline is the next point after now of the grid from the start. -/
structure NextPoint (origin now deadline : Time) (period : Nat) : Prop where
  later : now.nanos < deadline.nanos
  soon : deadline.nanos ≤ now.nanos + period
  phase : ∃ k : ℤ, (deadline.nanos : ℤ) = origin.nanos + k * period

/-- What the supervision knows: its deadlines, the last receipt of every stream and what
its activity says of it. -/
structure Watched (origin clock : Time) (heard : SensorStream → Option Time)
    (instants : List Time) (bracketed : Prop) (sensing : Sensing) : Prop where
  started : sensing.statistics.started = true
  canonical : ∀ task : SupervisionTask, (task.deadline sensing.statistics).Canonical
  phase : ∀ task : SupervisionTask, ∃ k : ℕ,
    (task.deadline sensing.statistics).nanos = origin.nanos + k * task.period.toNat
  soon : ∀ task : SupervisionTask,
    (task.deadline sensing.statistics).nanos ≤ clock.nanos + task.period.toNat
  last : ∀ stream, (sensing.statistics.tracks stream).times.getLast? = heard stream
  recorded : ∀ stream, ∀ receipt ∈ (sensing.statistics.tracks stream).times, receipt ∈ instants
  active : bracketed → ∀ stream, (sensing.sensor.stats stream).isActive = true →
    ∃ receipt, heard stream = some receipt ∧
      sensing.statistics.nextHeartbeat.nanos ≤ receipt.nanos + 3500000000
  inactive : ∀ stream receipt, heard stream = some receipt →
    (sensing.sensor.stats stream).isActive = false → receipt.nanos + 2500000000 < clock.nanos

namespace Watched

variable {origin clock now : Time} {heard : SensorStream → Option Time} {instants : List Time}
variable {bracketed : Prop} {sensing after : Sensing}

theorem later (watched : Watched origin clock heard instants bracketed sensing)
    (order : clock.nanos ≤ now.nanos) : Watched origin now heard instants bracketed sensing :=
  { watched with
    soon := fun task => by
      have soon := watched.soon task
      omega
    inactive := fun stream receipt known silent => by
      have old := watched.inactive stream receipt known silent
      omega }

theorem weaken {instants' : List Time} {bracketed' : Prop}
    (watched : Watched origin clock heard instants bracketed sensing)
    (more : ∀ time ∈ instants, time ∈ instants') (less : bracketed' → bracketed) :
    Watched origin clock heard instants' bracketed' sensing :=
  { watched with
    recorded := fun stream receipt member => more receipt (watched.recorded stream receipt member)
    active := fun inOrder => watched.active (less inOrder) }

/-- The work of a due task keeps what is known, also where it stops half way. -/
theorem worked {judged : SensorStream → Prop}
    (watched : Watched origin now heard instants bracketed sensing)
    (due : ∀ stream, judged stream → sensing.statistics.nextHeartbeat.nanos ≤ now.nanos)
    (worked : Sensing.Worked now judged sensing after) :
    Watched origin now heard instants bracketed after := by
  obtain ⟨statistics, judgement, kept⟩ := worked
  have silent : ∀ stream, heard stream = none → (sensing.statistics.tracks stream).times = [] :=
    fun stream unheard => List.getLast?_eq_none_iff.mp ((watched.last stream).trans unheard)
  refine ⟨?_, ?_, ?_, ?_, ?_, ?_, ?_, ?_⟩
  · rw [statistics]
    exact watched.started
  · rw [statistics]
    exact watched.canonical
  · rw [statistics]
    exact watched.phase
  · rw [statistics]
    exact watched.soon
  · rw [statistics]
    exact watched.last
  · rw [statistics]
    exact watched.recorded
  · intro inOrder stream active
    rw [statistics]
    by_cases heardOf : judged stream ∧ (heard stream).isSome
    · obtain ⟨known, present⟩ := heardOf
      obtain ⟨receipt, receives⟩ := Option.isSome_iff_exists.mp present
      have fresh :=
        (judgement stream known receipt ((watched.last stream).trans receives)).mp active
      have late := due stream known
      exact ⟨receipt, receives, by omega⟩
    · apply watched.active inOrder stream
      rw [← kept stream, active]
      rcases not_and_or.mp heardOf with outside | unheard
      · exact .inl outside
      · exact .inr (silent stream (Option.not_isSome_iff_eq_none.mp unheard))
  · intro stream receipt receives inactive
    by_cases known : judged stream
    · have fresh := judgement stream known receipt ((watched.last stream).trans receives)
      rw [inactive] at fresh
      by_contra young
      exact absurd (fresh.mpr (by omega)) (by decide)
    · rw [kept stream (.inl known)] at inactive
      exact watched.inactive stream receipt receives inactive

/-- A heartbeat deadline that moves is at most a second and the limit after the receipts of
the streams that are active. -/
theorem reschedule {task : SupervisionTask} {next : Time}
    (watched : Watched origin now heard instants bracketed sensing)
    (worked : Sensing.Worked now (fun _ => task = .heartbeats) sensing after)
    (due : (task.deadline sensing.statistics).nanos ≤ now.nanos)
    (canonical : next.Canonical) (soon : next.nanos ≤ now.nanos + task.period.toNat)
    (phase : ∃ k : ℕ, next.nanos = (task.deadline sensing.statistics).nanos +
      k * task.period.toNat) :
    Watched origin now heard instants bracketed
      { after with statistics := task.reschedule next sensing.statistics } := by
  have kept : Watched origin now heard instants bracketed after := by
    apply watched.worked _ worked
    rintro stream rfl
    exact due
  refine ⟨?_, ?_, ?_, ?_, ?_, ?_, ?_, kept.inactive⟩
  · rw [SupervisionTask.started_reschedule]
    exact watched.started
  · intro other
    rw [SupervisionTask.deadline_reschedule]
    split
    · exact canonical
    · exact watched.canonical other
  · intro other
    rw [SupervisionTask.deadline_reschedule]
    split
    next same =>
      subst same
      obtain ⟨j, before⟩ := watched.phase other
      obtain ⟨k, moved⟩ := phase
      exact ⟨j + k, by rw [moved, before, Nat.add_mul, Nat.add_assoc]⟩
    next => exact watched.phase other
  · intro other
    rw [SupervisionTask.deadline_reschedule]
    split
    next same =>
      subst same
      exact soon
    next => exact watched.soon other
  · rw [SupervisionTask.tracks_reschedule]
    exact watched.last
  · rw [SupervisionTask.tracks_reschedule]
    exact watched.recorded
  · intro inOrder stream active
    obtain ⟨receipt, receives, bound⟩ := kept.active inOrder stream active
    refine ⟨receipt, receives, ?_⟩
    cases task with
    | statistics =>
        rw [worked.statistics] at bound
        exact bound
    | heartbeats =>
        have fresh := (worked.judgement stream rfl receipt
          ((watched.last stream).trans receives)).mp active
        rw [SupervisionTask.period_heartbeats] at soon
        change next.nanos ≤ _
        omega

/-- A due task that returns has moved its own deadline past now. -/
theorem discharge [Libm] {task : SupervisionTask}
    (watched : Watched origin now heard instants bracketed sensing)
    (due : (task.deadline sensing.statistics).nanos ≤ now.nanos) :
    wp (task.discharge now)
      (fun _ final => Watched origin now heard instants bracketed final ∧
        now.nanos < (task.deadline final.statistics).nanos ∧
        (∀ other, other ≠ task →
          other.deadline final.statistics = other.deadline sensing.statistics) ∧
        final.statistics.tracks = sensing.statistics.tracks)
      (fun _ final => Watched origin now heard instants bracketed final ∧
        (Sensing.Apart now sensing ∨ 4294967295000000000 ≤ now.nanos)) sensing := by
  refine wp_mono (Sensing.wp_discharge now task sensing) ?_ ?_
  · rintro _ _ ⟨middle, next, worked, moved, rfl⟩
    obtain ⟨canonical, later, soon, phase⟩ :=
      Sensing.nextDeadline_ok task.period_pos task.period_le due moved
    refine ⟨watched.reschedule worked due canonical soon phase, ?_, ?_, ?_⟩
    · rw [SupervisionTask.deadline_reschedule, if_pos rfl]
      exact later
    · intro other differs
      rw [SupervisionTask.deadline_reschedule, if_neg differs]
    · rw [SupervisionTask.tracks_reschedule]
  · rintro _ final ⟨⟨judged, only, worked⟩, reason⟩
    constructor
    · apply watched.worked _ worked
      intro stream known
      cases only stream known
      exact due
    · refine reason.imp id ?_
      rintro ⟨error, refused⟩
      exact Sensing.nextDeadline_error task.period_pos task.period_le due refused

/-- Some tasks are discharged, the others wait for the deadline they had. -/
structure Discharged (origin now : Time) (heard : SensorStream → Option Time)
    (instants : List Time) (bracketed : Prop) (before : Sensing) (done : List SupervisionTask)
    (after : Sensing) : Prop where
  watched : Watched origin now heard instants bracketed after
  moved : ∀ task ∈ done, now.nanos < (task.deadline after.statistics).nanos
  waiting : ∀ task ∉ done, task.deadline after.statistics = task.deadline before.statistics
  tracks : after.statistics.tracks = before.statistics.tracks

/-- The tasks that are due are discharged one after the other. -/
theorem discharges [Libm] (watched : Watched origin now heard instants bracketed sensing)
    (canonical : now.Canonical) :
    wp ((SupervisionTask.due now sensing.statistics).forM (SupervisionTask.discharge now))
      (fun _ final => Discharged origin now heard instants bracketed sensing
        (SupervisionTask.due now sensing.statistics) final)
      (fun _ final => Watched origin now heard instants bracketed final ∧
        (Sensing.Apart now sensing ∨ 4294967295000000000 ≤ now.nanos)) sensing := by
  refine wp_forM (fun done final =>
    Discharged origin now heard instants bracketed sensing done final)
    ⟨watched, fun _ never => absurd never List.not_mem_nil, fun _ _ => rfl, rfl⟩ ?_
  intro done task rest state split discharged
  have once : task ∉ done := by
    have distinct := SupervisionTask.nodup_due now sensing.statistics
    rw [split, List.nodup_append] at distinct
    intro earlier
    exact distinct.2.2 task earlier task List.mem_cons_self rfl
  have due : (task.deadline sensing.statistics).nanos ≤ now.nanos := by
    rw [← Time.le_iff_nanos (watched.canonical task) canonical, ← SupervisionTask.mem_due, split]
    exact List.mem_append_right _ List.mem_cons_self
  rw [← discharged.waiting task once] at due
  refine wp_mono (discharged.watched.discharge due) ?_ ?_
  · rintro _ final ⟨watched', past, others, same⟩
    refine ⟨watched', ?_, ?_, same.trans discharged.tracks⟩
    · intro other member
      rcases List.mem_append.mp member with earlier | newest
      · rw [others other (fun equal => once (equal ▸ earlier))]
        exact discharged.moved other earlier
      · rw [List.mem_singleton.mp newest]
        exact past
    · intro other outside
      rw [List.mem_append, not_or, List.mem_singleton] at outside
      rw [others other outside.2]
      exact discharged.waiting other outside.1
  · rintro _ final ⟨watched', reason⟩
    unfold Sensing.Apart at reason ⊢
    rw [discharged.tracks] at reason
    exact ⟨watched', reason⟩

/-- An advance leaves every deadline after now, and it throws only over times that are
68 years apart or at the end of the clock. -/
theorem advance [Libm] (watched : Watched origin clock heard instants bracketed sensing)
    (canonical : now.Canonical) (order : clock.nanos ≤ now.nanos) :
    wp (Sensing.advance now)
      (fun _ final => Watched origin now heard instants bracketed final ∧
        ∀ task : SupervisionTask, now.nanos < (task.deadline final.statistics).nanos)
      (fun _ final => Watched origin now heard instants bracketed final ∧
        (Sensing.Apart now sensing ∨ 4294967295000000000 ≤ now.nanos)) sensing := by
  have discharges := (watched.later order).discharges canonical
  unfold wp at discharges ⊢
  rw [Sensing.advance_run watched.started]
  cases outcome : ((SupervisionTask.due now sensing.statistics).forM
    (SupervisionTask.discharge now)).run sensing with
  | ok _ final =>
      rw [outcome] at discharges
      refine ⟨discharges.watched, fun task => ?_⟩
      by_cases due : task ∈ SupervisionTask.due now sensing.statistics
      · exact discharges.moved task due
      · rw [discharges.waiting task due]
        rw [SupervisionTask.mem_due, Time.le_iff_nanos (watched.canonical task) canonical] at due
        omega
  | error error final =>
      rw [outcome] at discharges
      exact discharges

/-- A receipt that is recorded makes its stream active. -/
theorem observe (stream : SensorStream) {receipt : Time}
    (watched : Watched origin clock heard instants bracketed sensing) (order : Prop)
    (inOrder : order → clock.nanos ≤ receipt.nanos) :
    wp (Sensing.observe stream receipt)
      (fun _ final => Watched origin clock
        (fun other => if other = stream then some receipt else heard other)
        (receipt :: instants) (order ∧ bracketed) final)
      (fun _ final => final = sensing) sensing := by
  unfold Sensing.observe
  rw [wp_bind, wp_get]
  apply wp_rethrow_bind
  · intro dt _
    refine ⟨watched.started, watched.canonical, watched.phase, watched.soon, ?_, ?_, ?_, ?_⟩
    · intro other
      change (if other = stream then Sensing.push (sensing.statistics.tracks stream) receipt dt
        else sensing.statistics.tracks other).times.getLast? = _
      split
      · exact Sensing.getLast?_push _ _ _
      · exact watched.last other
    · intro other time member
      change time ∈ (if other = stream then
        Sensing.push (sensing.statistics.tracks stream) receipt dt
          else sensing.statistics.tracks other).times at member
      split at member
      · rcases Sensing.mem_push member with earlier | rfl
        · exact List.mem_cons_of_mem _ (watched.recorded stream time earlier)
        · exact List.mem_cons_self
      · exact List.mem_cons_of_mem _ (watched.recorded other time member)
    · rintro ⟨ordered, before⟩ other active
      rw [Sensing.updateStats_isActive] at active
      split at active
      next same =>
        have soon := watched.soon .heartbeats
        have late := inOrder ordered
        rw [SupervisionTask.period_heartbeats] at soon
        refine ⟨receipt, if_pos same, ?_⟩
        change (SupervisionTask.heartbeats.deadline sensing.statistics).nanos ≤ _
        omega
      next differs =>
        obtain ⟨known, receives, bound⟩ := watched.active before other active
        exact ⟨known, (if_neg differs).trans receives, bound⟩
    · intro other known receives inactive
      rw [Sensing.updateStats_isActive] at inactive
      split at inactive
      next => cases inactive
      next differs =>
        exact watched.inactive other known ((if_neg differs).symm.trans receives) inactive
  · intro error _
    rfl

/-- Nothing is heard of before the first call. -/
theorem of_start (opened : Opened origin sensing) :
    Watched origin origin (fun _ => none) [] True sensing := by
  obtain ⟨sensor, silent, started⟩ := opened
  have tenth : Duration.fromSec 0.1 = .ok ⟨0, 100000000⟩ := by decide +kernel
  have second : Duration.fromSec 1.0 = .ok ⟨1, 0⟩ := by decide +kernel
  have spec : wp (Sensing.start origin)
      (fun _ final => Watched origin origin (fun _ => none) [] True final) (fun _ _ => True)
      { sensor } := by
    unfold Sensing.start
    rw [wp_bind, wp_get]
    apply wp_ite_of
    · intro never
      cases never
    intro _
    apply wp_rethrow_bind _ fun _ _ => trivial
    intro nextStats added
    obtain ⟨span, made, added⟩ := bind_eq_ok added
    cases tenth.symm.trans made
    obtain ⟨canonicalStats, stats⟩ := (Time.add_exact origin ⟨0, 100000000⟩).of_ok added
    rw [wp_bind, wp_modify]
    apply wp_rethrow_bind _ fun _ _ => trivial
    intro nextHeartbeat added
    obtain ⟨span, made, added⟩ := bind_eq_ok added
    cases second.symm.trans made
    obtain ⟨canonicalHeartbeat, heartbeat⟩ := (Time.add_exact origin ⟨1, 0⟩).of_ok added
    have statsPeriod : (⟨0, 100000000⟩ : Duration).nanos = 100000000 := by decide +kernel
    have heartbeatPeriod : (⟨1, 0⟩ : Duration).nanos = 1000000000 := by decide +kernel
    rw [statsPeriod] at stats
    rw [heartbeatPeriod] at heartbeat
    have first : ∀ task : SupervisionTask,
        (task.deadline { nextStats, nextHeartbeat, started := true }).nanos =
          origin.nanos + task.period.toNat := by
      intro task
      cases task
      · rw [SupervisionTask.period_statistics]
        dsimp only [SupervisionTask.deadline]
        omega
      · rw [SupervisionTask.period_heartbeats]
        dsimp only [SupervisionTask.deadline]
        omega
    refine ⟨rfl, ?_, ?_, ?_, fun _ => rfl, fun _ _ never => absurd never List.not_mem_nil, ?_, ?_⟩
    · intro task
      cases task
      · exact canonicalStats
      · exact canonicalHeartbeat
    · intro task
      exact ⟨1, by rw [Nat.one_mul]; exact first task⟩
    · intro task
      exact (first task).le
    · intro _ stream active
      exact absurd ((silent stream).symm.trans active) (by decide)
    · intro stream receipt never
      cases never
  have returned := returned_of_wp spec started
  exact returned

theorem nextPoint (watched : Watched origin now heard instants bracketed sensing)
    {task : SupervisionTask} (later : now.nanos < (task.deadline sensing.statistics).nanos) :
    NextPoint origin now (task.deadline sensing.statistics) task.period.toNat := by
  obtain ⟨k, phase⟩ := watched.phase task
  exact ⟨later, watched.soon task, k, by rw [phase]; push_cast; rfl⟩

/-- Times before the year 2038 are never too far apart. -/
theorem not_apart (watched : Watched origin clock heard instants bracketed sensing)
    (early : ∀ time ∈ now :: instants, time.nanos < 2147483648000000000) :
    ¬Sensing.Apart now sensing := by
  rintro ⟨stream, first, inFirst, second, inSecond, apart⟩
  have known : ∀ time ∈ now :: (sensing.statistics.tracks stream).times,
      time.nanos < 2147483648000000000 := by
    intro time member
    apply early
    rcases List.mem_cons.mp member with newest | older
    · exact List.mem_cons.mpr (.inl newest)
    · exact List.mem_cons_of_mem _ (watched.recorded stream time older)
  have firstEarly := known first inFirst
  have secondEarly := known second (List.mem_cons_of_mem _ inSecond)
  apply apart
  unfold Duration.InRange
  omega

end Watched

/-- What is known after the events of a run. -/
def Informed (origin : Time) (past : List SupervisionEvent) (sensing : Sensing) : Prop :=
  (clock origin past).Canonical ∧ Watched origin (clock origin past)
    (fun stream => received stream past) (past.map fun event => event.input.time)
    (Bracketed origin past) sensing

/-- What an advance to now is: every task that is due discharged once, the deadlines on their
grids, and the activity of the streams bounded by their last receipts. -/
structure Advanced [Libm] (origin now : Time) (event : SupervisionEvent)
    (older : List SupervisionEvent) : Prop where
  once : (Sensing.advance now).run event.before =
    ((SupervisionTask.due now event.before.statistics).forM
      (SupervisionTask.discharge now)).run event.before
  returns : (∀ call ∈ event :: older, call.input.time.nanos < 2147483648000000000) →
    event.output = .ok ()
  statistics : event.output = .ok () →
    NextPoint origin now event.after.statistics.nextStats 100000000
  heartbeat : event.output = .ok () →
    NextPoint origin now event.after.statistics.nextHeartbeat 1000000000
  active : event.output = .ok () → Bracketed origin older → ∀ stream,
    (event.after.sensor.stats stream).isActive = true → ∃ receipt,
      received stream older = some receipt ∧ now.nanos < receipt.nanos + 3500000000
  fresh : event.output = .ok () → ∀ stream receipt, received stream older = some receipt →
    now.nanos ≤ receipt.nanos + 2500000000 → (event.after.sensor.stats stream).isActive = true

section Runs

variable [Libm] {origin : Time} {past : List SupervisionEvent} {sensing : Sensing}

/-- The outcome of a call is what its precondition says of either end. -/
theorem step_cases (call : SupervisionCall) {returns : Sensing → Prop} {throws : Sensing → Prop}
    (spec : wp call.perform (fun _ final => returns final) (fun _ final => throws final) sensing) :
    ((supervision.step sensing call).2 = .ok () ∧ returns (supervision.step sensing call).1) ∨
      (∃ error, (supervision.step sensing call).2 = .error error) ∧
        throws (supervision.step sensing call).1 := by
  unfold wp at spec
  unfold supervision outcome
  dsimp only
  cases ended : call.perform.run sensing with
  | ok value final =>
      rw [ended] at spec
      exact .inl ⟨rfl, spec⟩
  | error error final =>
      rw [ended] at spec
      exact .inr ⟨⟨error, rfl⟩, spec⟩

theorem informed_observe {stream : SensorStream} {receipt : Time}
    (informed : Informed origin past sensing) (canonical : receipt.Canonical) :
    Informed origin (supervision.event sensing (.observe stream receipt) :: past)
      (supervision.step sensing (.observe stream receipt)).1 := by
  obtain ⟨clockCanonical, watched⟩ := informed
  refine ⟨clockCanonical, ?_⟩
  have inOrder : clock origin past ≤ receipt → (clock origin past).nanos ≤ receipt.nanos :=
    (Time.le_iff_nanos clockCanonical canonical).mp
  have spec := watched.observe stream (clock origin past ≤ receipt) inOrder
  rcases step_cases (.observe stream receipt) spec with
    ⟨output, watched'⟩ | ⟨⟨error, output⟩, same⟩
  · have heard : (fun other => received other
        (supervision.event sensing (.observe stream receipt) :: past)) =
        fun other => if other = stream then some receipt else received other past := by
      funext other
      simp only [Machine.event, received, output]
    rw [heard]
    exact watched'
  · have heard : (fun other => received other
        (supervision.event sensing (.observe stream receipt) :: past)) =
        fun other => received other past := by
      funext other
      simp only [Machine.event, received, output]
    rw [heard, same]
    exact watched.weaken (fun time member => List.mem_cons_of_mem _ member) And.right

theorem informed_advance {now : Time} (informed : Informed origin past sensing)
    (canonical : now.Canonical) (order : clock origin past ≤ now) :
    Informed origin (supervision.event sensing (.advance now) :: past)
      (supervision.step sensing (.advance now)).1 ∧
      Advanced origin now (supervision.event sensing (.advance now)) past := by
  obtain ⟨clockCanonical, watched⟩ := informed
  have order := (Time.le_iff_nanos clockCanonical canonical).mp order
  have spec := watched.advance canonical order
  have more : ∀ time ∈ past.map fun event => event.input.time,
      time ∈ now :: past.map fun event => event.input.time :=
    fun time member => List.mem_cons_of_mem _ member
  rcases step_cases (.advance now) spec with
    ⟨output, watched', later⟩ | ⟨⟨error, output⟩, watched', reason⟩
  · refine ⟨⟨canonical, watched'.weaken more id⟩, Sensing.advance_run watched.started,
      fun _ => output, fun _ => watched'.nextPoint (later .statistics),
      fun _ => watched'.nextPoint (later .heartbeats), ?_, ?_⟩
    · intro _ bracketed stream active
      obtain ⟨receipt, receives, bound⟩ := watched'.active bracketed stream active
      exact ⟨receipt, receives, (later .heartbeats).trans_le bound⟩
    · intro _ stream receipt receives young
      by_contra inactive
      have old := watched'.inactive stream receipt receives (Bool.not_eq_true _ ▸ inactive)
      omega
  · refine ⟨⟨canonical, watched'.weaken more id⟩, Sensing.advance_run watched.started,
      ?_, ?_, ?_, ?_, ?_⟩
    · intro early
      have times : ∀ time ∈ now :: past.map fun event => event.input.time,
          time.nanos < 2147483648000000000 := by
        intro time member
        rcases List.mem_cons.mp member with newest | older
        · have own := early (supervision.event sensing (.advance now)) List.mem_cons_self
          rwa [newest]
        · obtain ⟨event, inPast, rfl⟩ := List.mem_map.mp older
          exact early event (List.mem_cons_of_mem _ inPast)
      rcases reason with apart | late
      · exact absurd apart (watched.not_apart times)
      · have now_early := times now List.mem_cons_self
        omega
    all_goals
      intro returned
      cases output.symm.trans returned

/-- After every advance of every run. -/
theorem receive_supervision (canonical : origin.Canonical)
    (run : supervision.Run (Opened origin) (Ordered origin) past sensing) :
    ∀ event older, event :: older <:+ past → ∀ now, event.input = .advance now →
      Advanced origin now event older := by
  refine run.invariant_history (Informed origin) ?_ ?_
  · intro state opened
    exact ⟨canonical, Watched.of_start opened⟩
  · intro past state call _ informed allowed
    cases call with
    | observe stream receipt =>
        refine ⟨informed_observe informed allowed.1, ?_⟩
        intro now same
        cases same
    | advance now =>
        obtain ⟨informed', advanced⟩ :=
          informed_advance informed allowed.1 (allowed.2 now rfl)
        refine ⟨informed', ?_⟩
        intro other same
        cases same
        exact advanced

end Runs

section Examples

open scoped ExactMath

/-- The statistics started at ten seconds. -/
def opened : Sensing := (outcome (Sensing.start ⟨10, 0⟩) {}).1

theorem opened_opened : Opened ⟨10, 0⟩ opened := by
  have returned : (outcome (Sensing.start ⟨10, 0⟩) {}).2 = .ok () := by decide +kernel
  refine ⟨{}, fun stream => by cases stream <;> rfl, ?_⟩
  unfold opened
  unfold outcome at returned ⊢
  cases ended : (Sensing.start ⟨10, 0⟩).run {} with
  | ok value final => rfl
  | error error final =>
      rw [ended] at returned
      cases returned

/-- The events of these calls, newest first, and the state after them. -/
def trial (calls : List SupervisionCall) : List SupervisionEvent × Sensing :=
  supervision.replay [] opened calls

theorem trial_run (calls : List SupervisionCall)
    (allowed : supervision.Admits (Ordered ⟨10, 0⟩) [] opened calls) :
    supervision.Run (Opened ⟨10, 0⟩) (Ordered ⟨10, 0⟩) (trial calls).1 (trial calls).2 :=
  Run.replay (.start opened_opened) calls allowed

/-- Two receipts between two advances, the later one recorded first. -/
def swapped : List SupervisionCall :=
  [.observe .pose ⟨10, 400000000⟩, .observe .pose ⟨10, 200000000⟩, .advance ⟨10, 500000000⟩]

/-- The run over two swapped receipts satisfies the hypotheses, and its heartbeat comes at 13 s. -/
theorem receive_supervision_swapped :
    NextPoint ⟨10, 0⟩ ⟨12, 900000000⟩
      (supervision.event (trial swapped).2
        (.advance ⟨12, 900000000⟩)).after.statistics.nextHeartbeat 1000000000 :=
  (receive_supervision (by decide)
    ((trial_run swapped (by decide +kernel)).extend (.advance ⟨12, 900000000⟩)
      (by decide +kernel)) _ _ (List.suffix_refl _) _ rfl).heartbeat (by decide +kernel)

/-- Of two swapped receipts the older one counts: the stream is given up although its newer
receipt is two and a half seconds old. A receipt before the start keeps its stream active for
longer, and a jump of 68 years ends in an error with the old deadlines. -/
theorem receipts_misjudged :
    (supervision.Admits (Ordered ⟨10, 0⟩) [] opened (swapped ++ [.advance ⟨12, 900000000⟩]) ∧
      Bracketed ⟨10, 0⟩ (trial (swapped ++ [.advance ⟨12, 900000000⟩])).1 ∧
      ((trial (swapped ++ [.advance ⟨12, 900000000⟩])).2.sensor.stats .pose).isActive = false ∧
      (⟨12, 900000000⟩ : Time).nanos = (⟨10, 400000000⟩ : Time).nanos + 2500000000) ∧
    (supervision.Admits (Ordered ⟨10, 0⟩) [] opened
        [.observe .pose ⟨1, 0⟩, .advance ⟨10, 500000000⟩] ∧
      ((trial [.observe .pose ⟨1, 0⟩, .advance ⟨10, 500000000⟩]).2.sensor.stats
        .pose).isActive = true) ∧
    (supervision.Admits (Ordered ⟨10, 0⟩) [] opened
        [.observe .pose ⟨10, 0⟩, .advance ⟨2147483659, 0⟩] ∧
      (trial [.observe .pose ⟨10, 0⟩, .advance ⟨2147483659, 0⟩]).2.statistics.nextHeartbeat =
        ⟨11, 0⟩) := by
  decide +kernel

end Examples

end Supervision

end MultirotorController
