import Mathlib.Data.List.Basic

/-!
# Counting consecutive frames

A reader is asked once a turn. It sees whether a frame has arrived since it was
last asked, what the latest one said and whether the stream may be trusted, and
counts the agreeing frames it was shown in a row. A counter may also wait for an
acknowledgement that arrives in the turn it is asked.

A turn delivers a burst of messages. Whatever the messages of a burst say, the
reader is shown the burst as one frame. `OneOfEach` is the shape of the bursts in
which this loses nothing.
-/

namespace Frames

/-- What the reader is shown when it is asked. -/
structure View where
  /-- The stream may be trusted. -/
  live : Bool
  /-- A frame has arrived since the reader was last asked. -/
  fresh : Bool
  /-- The latest frame agrees. -/
  agrees : Bool
  /-- An acknowledgement has arrived since the reader was last asked. -/
  acknowledged : Bool
deriving DecidableEq, Repr

/-- The reader: still counting, or done for good. -/
inductive Progress where
  | counting (frames : Nat)
  | confirmed
deriving DecidableEq, Repr

structure Counter where
  /-- Agreeing frames in a row that confirm. -/
  required : Nat
  /-- Whether the frames alone do not confirm. -/
  awaitsAcknowledgement : Bool
deriving DecidableEq, Repr

namespace Counter

variable (counter : Counter)

/-- The count after a look at the stream, up to the required number. -/
def next (view : View) (frames : Nat) : Nat :=
  if !view.live then 0
  else if !view.fresh then frames
  else if !view.agrees then 0
  else if frames < counter.required then frames + 1
  else frames

/-- Whether a count of frames confirms in a turn with this view. -/
def confirms (view : View) (frames : Nat) : Bool :=
  decide (counter.required ≤ frames) && (!counter.awaitsAcknowledgement || view.acknowledged)

def step (view : View) : Progress → Progress
  | .confirmed => .confirmed
  | .counting frames =>
      let frames := counter.next view frames
      if counter.confirms view frames then .confirmed else .counting frames

end Counter

/-- What one message means to the reader. -/
inductive Delivery where
  | other
  | frame (live agrees : Bool)
  | acknowledgement (given : Bool)
deriving DecidableEq, Repr

/-- The streams the reader tells apart. -/
inductive Role where
  | other
  | frame
  | acknowledgement
deriving DecidableEq, Repr

namespace Delivery

def role : Delivery → Role
  | other => .other
  | frame _ _ => .frame
  | acknowledgement _ => .acknowledgement

/-- The view after one more message. -/
def seen (view : View) : Delivery → View
  | other => view
  | frame live agrees => { view with live, agrees, fresh := true }
  | acknowledgement given => { view with acknowledged := given }

end Delivery

/-- The view with which the next turn begins. -/
def View.cleared (view : View) : View := { view with fresh := false, acknowledged := false }

/-- The stream as the reader left it, and the reader. -/
structure Desk where
  view : View
  progress : Progress
deriving DecidableEq, Repr

variable (counter : Counter)

/-- One turn: a burst arrives, the reader looks once. -/
def turn (desk : Desk) (burst : List Delivery) : Desk :=
  let view := burst.foldl Delivery.seen desk.view
  { view := view.cleared, progress := counter.step view desk.progress }

def run (desk : Desk) (bursts : List (List Delivery)) : Desk := bursts.foldl (turn counter) desk

/-- The same messages, each in a turn of its own. -/
def alone (desk : Desk) (messages : List Delivery) : Desk :=
  run counter desk (messages.map ([·]))

/-- A desk that a turn without messages leaves as it is. -/
structure Settled (desk : Desk) : Prop where
  cleared : desk.view.cleared = desk.view
  idle : counter.step desk.view desk.progress = desk.progress

/-- At most one frame and after it at most one acknowledgement. -/
def OneOfEach (burst : List Role) : Prop :=
  (burst.filter (· ≠ .other)).Sublist [.frame, .acknowledgement]

instance (burst : List Role) : Decidable (OneOfEach burst) :=
  inferInstanceAs (Decidable (List.Sublist _ _))

section Turn

variable {counter}

@[simp] theorem View.cleared_cleared (view : View) : view.cleared.cleared = view.cleared := rfl

@[simp] theorem Counter.step_confirmed (view : View) :
    counter.step view .confirmed = .confirmed := rfl

/-- Looking again without a message changes nothing. -/
theorem Counter.step_cleared (view : View) (progress : Progress) :
    counter.step view.cleared (counter.step view progress) = counter.step view progress := by
  cases progress with
  | confirmed => rfl
  | counting frames =>
      by_cases confirmed : counter.confirms view (counter.next view frames) = true
      · simp only [Counter.step, confirmed, if_true]
      · have kept : counter.next view.cleared (counter.next view frames) =
            counter.next view frames := by
          by_cases live : view.live = true
          · simp [Counter.next, View.cleared, live]
          · simp [Counter.next, View.cleared, live]
        have waiting : counter.confirms view.cleared (counter.next view frames) = false := by
          simp only [Counter.confirms, View.cleared, Bool.or_false, Bool.and_eq_true,
            decide_eq_true_eq, Bool.or_eq_true, Bool.not_eq_true', not_and, not_or] at confirmed ⊢
          by_cases enough : counter.required ≤ counter.next view frames
          · have := (confirmed enough).1
            simp_all
          · simp [enough]
        have counting : counter.step view (.counting frames) =
            .counting (counter.next view frames) := by
          simp only [Counter.step, confirmed, if_false, Bool.false_eq_true]
        rw [counting]
        simp only [Counter.step, kept, waiting, Bool.false_eq_true, if_false]

/-- Every turn leaves a settled desk. -/
theorem settled_turn (desk : Desk) (burst : List Delivery) :
    Settled counter (turn counter desk burst) :=
  ⟨rfl, Counter.step_cleared _ _⟩

theorem Settled.acknowledged {desk : Desk} (settled : Settled counter desk) :
    desk.view.acknowledged = false := by
  rw [← settled.cleared]
  rfl

/-- A settled count is below what confirms, unless an acknowledgement is awaited. -/
theorem settled_counting {view : View} {frames : Nat} (cleared : view.cleared = view)
    (live : view.live = true)
    (below : frames < counter.required ∨ counter.awaitsAcknowledgement = true) :
    Settled counter ⟨view, .counting frames⟩ := by
  have stale : view.fresh = false := by rw [← cleared]; rfl
  have silent : view.acknowledged = false := by rw [← cleared]; rfl
  refine ⟨cleared, ?_⟩
  have kept : counter.next view frames = frames := by simp [Counter.next, live, stale]
  have waiting : counter.confirms view frames = false := by
    obtain below | awaits := below
    · simp [Counter.confirms, Nat.not_le.mpr below]
    · simp [Counter.confirms, awaits, silent]
  simp only [Counter.step, kept, waiting, Bool.false_eq_true, if_false]

end Turn

section Alone

variable {counter}

@[simp] theorem alone_nil (desk : Desk) : alone counter desk [] = desk := rfl

theorem alone_cons (desk : Desk) (message : Delivery) (messages : List Delivery) :
    alone counter desk (message :: messages) =
      alone counter (turn counter desk [message]) messages := rfl

theorem alone_append (desk : Desk) (first second : List Delivery) :
    alone counter desk (first ++ second) = alone counter (alone counter desk first) second := by
  simp only [alone, run, List.map_append, List.foldl_append]

theorem run_cons (desk : Desk) (burst : List Delivery) (bursts : List (List Delivery)) :
    run counter desk (burst :: bursts) = run counter (turn counter desk burst) bursts := rfl

/-- A confirmed reader stays so. -/
theorem alone_confirmed (view : View) (messages : List Delivery) :
    (alone counter ⟨view, .confirmed⟩ messages).progress = .confirmed := by
  induction messages generalizing view with
  | nil => rfl
  | cons message messages step => exact step _

variable (counter) in
/-- What the messages still to come may be: a frame only while the reader has been shown
nothing, an acknowledgement only before the first. -/
structure Room (rest : List Role) (view : View) (progress : Progress) : Prop where
  frame : .frame ∈ rest → view.cleared = view ∧ counter.step view progress = progress
  acknowledgement : .acknowledgement ∈ rest → view.acknowledged = false

/-- A message that there is room for does alone what it does at the end of the burst. -/
theorem turn_message {view : View} {progress : Progress} {rest : List Role}
    (room : Room counter rest view progress) (message : Delivery)
    (expected : message.role = .other ∨ message.role ∈ rest) :
    turn counter ⟨view.cleared, counter.step view progress⟩ [message] =
      ⟨(message.seen view).cleared, counter.step (message.seen view) progress⟩ := by
  cases message with
  | other => exact congrArg (Desk.mk _) (Counter.step_cleared _ _)
  | frame live agrees =>
      obtain ⟨same, idle⟩ := room.frame (by simpa [Delivery.role] using expected)
      rw [same, idle]
      rfl
  | acknowledgement given =>
      have silent := room.acknowledgement (by simpa [Delivery.role] using expected)
      refine congrArg (Desk.mk _) ?_
      change counter.step { view.cleared with acknowledged := given } _ = _
      cases progress with
      | confirmed => rfl
      | counting frames =>
          have shown : counter.next (Delivery.seen view (.acknowledgement given)) frames =
              counter.next view frames := rfl
          have kept : counter.next { view.cleared with acknowledged := given }
              (counter.next view frames) = counter.next view frames := by
            by_cases live : view.live = true <;> simp [Counter.next, View.cleared, live]
          by_cases confirmed : counter.confirms view (counter.next view frames) = true
          · have confirms : counter.confirms (Delivery.seen view (.acknowledgement given))
                (counter.next view frames) = true := by
              simp_all [Counter.confirms]
            simp only [Counter.step, confirmed, shown, confirms, if_true]
          · simp only [Counter.step, confirmed, Bool.false_eq_true, if_false, shown, kept]
            rfl

theorem alone_burst (burst : List Delivery) {view : View} {progress : Progress}
    {rest : List Role} (order : rest <:+ [.frame, .acknowledgement])
    (room : Room counter rest view progress)
    (fits : ((burst.map Delivery.role).filter (· ≠ .other)).Sublist rest) :
    alone counter ⟨view.cleared, counter.step view progress⟩ burst =
      ⟨(burst.foldl Delivery.seen view).cleared,
        counter.step (burst.foldl Delivery.seen view) progress⟩ := by
  induction burst generalizing view rest with
  | nil => rfl
  | cons message burst step =>
      have phases : rest = [.frame, .acknowledgement] ∨ rest = [.acknowledgement] ∨ rest = [] := by
        simpa [List.suffix_cons_iff] using order
      cases message with
      | other =>
          rw [alone_cons, turn_message room _ (.inl rfl)]
          exact step order room fits
      | frame live agrees =>
          obtain rfl | rfl | rfl := phases
          · rw [alone_cons, turn_message room _ (.inr (by simp [Delivery.role]))]
            refine step ⟨[.frame], rfl⟩ ⟨by simp, fun _ => room.acknowledgement (by simp)⟩ ?_
            simpa [Delivery.role] using fits
          · simp [Delivery.role] at fits
          · simp [Delivery.role] at fits
      | acknowledgement given =>
          have awaited : Role.acknowledgement ∈ rest := by
            refine fits.subset ?_
            simp [Delivery.role]
          rw [alone_cons, turn_message room (.acknowledgement given) (.inr awaited)]
          have nothing : [] <:+ [Role.frame, Role.acknowledgement] := List.nil_suffix
          refine step nothing ⟨by simp, by simp⟩ ?_
          have tail : (Role.acknowledgement ::
              (burst.map Delivery.role).filter (· ≠ .other)).Sublist [.acknowledgement] := by
            obtain rfl | rfl | rfl := phases
            · exact (List.cons_sublist_cons'.mp fits).resolve_right fun head => by cases head.1
            · exact fits
            · simp at awaited
          exact List.cons_sublist_cons.mp tail

/-- A burst of one frame and then one acknowledgement is counted as if each message had
its own turn. -/
theorem turn_eq_alone {desk : Desk} (settled : Settled counter desk) {burst : List Delivery}
    (shape : OneOfEach (burst.map Delivery.role)) :
    turn counter desk burst = alone counter desk burst := by
  have start : desk = ⟨desk.view.cleared, counter.step desk.view desk.progress⟩ := by
    rw [settled.cleared, settled.idle]
  conv_rhs => rw [start]
  exact (alone_burst burst List.suffix_rfl
    ⟨fun _ => ⟨settled.cleared, settled.idle⟩, fun _ => settled.acknowledged⟩ shape).symm

/-- The result for a whole run. -/
theorem run_eq_alone {desk : Desk} (settled : Settled counter desk)
    (bursts : List (List Delivery))
    (shapes : ∀ burst ∈ bursts, OneOfEach (burst.map Delivery.role)) :
    run counter desk bursts = alone counter desk bursts.flatten := by
  induction bursts generalizing desk with
  | nil => rfl
  | cons burst bursts step =>
      rw [List.flatten_cons, alone_append, run_cons,
        ← turn_eq_alone settled (shapes burst List.mem_cons_self)]
      exact step (settled_turn desk burst) fun later member =>
        shapes later (List.mem_cons_of_mem _ member)

end Alone

section Crowded

/-- A message of a role that agrees, or one that does not. -/
def say (agrees : Bool) : Role → Delivery
  | .other => .other
  | .frame => .frame true agrees
  | .acknowledgement => .acknowledgement agrees

/-- A message of a role that agrees and acknowledges nothing. -/
def sayFrame : Role → Delivery
  | .acknowledgement => .acknowledgement false
  | role => say true role

@[simp] theorem role_say (agrees : Bool) (role : Role) : (say agrees role).role = role := by
  cases role <;> rfl

@[simp] theorem role_sayFrame (role : Role) : (sayFrame role).role = role := by
  cases role <;> rfl

/-- Without acknowledgements only the number of frames shapes a burst. -/
theorem filter_of_no_acknowledgement {burst : List Role} (none : .acknowledgement ∉ burst) :
    burst.filter (· ≠ .other) = List.replicate (burst.count .frame) .frame := by
  induction burst with
  | nil => rfl
  | cons role burst step =>
      have rest := step fun member => none (List.mem_cons_of_mem _ member)
      cases role with
      | other => simpa using rest
      | frame => simpa [List.replicate_succ] using rest
      | acknowledgement => exact (none List.mem_cons_self).elim

theorem oneOfEach_of_no_acknowledgement {burst : List Role} (none : .acknowledgement ∉ burst)
    (single : burst.count .frame ≤ 1) : OneOfEach burst := by
  rw [OneOfEach, filter_of_no_acknowledgement none]
  obtain zero | one := Nat.le_one_iff_eq_zero_or_eq_one.mp single
  · simp [zero]
  · simp [one]

variable {counter}

/-- A burst whose last frame disagrees, or whose last acknowledgement is none, does not
confirm. -/
theorem turn_say_false {view : View} {frames : Nat} {post : List Role}
    (positive : 0 < counter.required)
    (spoiled : .frame ∈ post ∨ counter.awaitsAcknowledgement = true ∧ .acknowledgement ∈ post) :
    counter.step ((post.map (say false)).foldl Delivery.seen view) (.counting frames) ≠
      .confirmed := by
  have framed : ∀ (view : View), (view.live = true ∧ view.fresh = true ∧ view.agrees = false ∨
      .frame ∈ post) → ((post.map (say false)).foldl Delivery.seen view).live = true ∧
      ((post.map (say false)).foldl Delivery.seen view).fresh = true ∧
      ((post.map (say false)).foldl Delivery.seen view).agrees = false := by
    clear spoiled
    induction post with
    | nil => simp
    | cons role post step =>
        intro view reason
        refine step _ ?_
        cases role <;> simp_all [say, Delivery.seen]
  have silent : ∀ (view : View), (view.acknowledged = false ∨ .acknowledgement ∈ post) →
      ((post.map (say false)).foldl Delivery.seen view).acknowledged = false := by
    clear spoiled framed
    induction post with
    | nil => simp
    | cons role post step =>
        intro view reason
        refine step _ ?_
        cases role <;> simp_all [say, Delivery.seen]
  obtain frame | ⟨awaits, acknowledgement⟩ := spoiled
  · obtain ⟨live, fresh, disagrees⟩ := framed view (.inr frame)
    have reset : counter.next ((post.map (say false)).foldl Delivery.seen view) frames = 0 := by
      simp [Counter.next, live, fresh, disagrees]
    simp [Counter.step, reset, Counter.confirms, Nat.not_le.mpr positive]
  · have none := silent view (.inr acknowledgement)
    simp [Counter.step, Counter.confirms, awaits, none]

/-- Frames that agree keep a full count that awaits its acknowledgement. -/
theorem alone_say_true {view : View} (cleared : view.cleared = view) (live : view.live = true)
    {pre : List Role} (none : .acknowledgement ∉ pre) {frames : Nat}
    (full : .frame ∈ pre → frames = counter.required ∧ counter.awaitsAcknowledgement = true)
    (settled : Settled counter ⟨view, .counting frames⟩) :
    ∃ view', view'.cleared = view' ∧ view'.live = true ∧
      alone counter ⟨view, .counting frames⟩ (pre.map (say true)) =
        ⟨view', .counting frames⟩ := by
  induction pre generalizing view with
  | nil => exact ⟨view, cleared, live, rfl⟩
  | cons role pre step =>
      have later := fun member => none (List.mem_cons_of_mem _ member)
      cases role with
      | other =>
          have same : turn counter ⟨view, .counting frames⟩ [.other] =
              ⟨view, .counting frames⟩ := by
            simp only [turn, List.foldl_cons, List.foldl_nil, Delivery.seen, settled.idle, cleared]
          rw [List.map_cons, alone_cons, show say true .other = .other from rfl, same]
          exact step cleared live later (fun member => full (List.mem_cons_of_mem _ member)) settled
      | frame =>
          obtain ⟨rfl, awaits⟩ := full List.mem_cons_self
          have silent : view.acknowledged = false := settled.acknowledged
          have same : turn counter ⟨view, .counting counter.required⟩ [.frame true true] =
              ⟨{ view.cleared with live := true, agrees := true },
                .counting counter.required⟩ := by
            simp [turn, Delivery.seen, View.cleared, Counter.step, Counter.next,
              Counter.confirms, awaits, silent]
          rw [List.map_cons, alone_cons, show say true .frame = .frame true true from rfl, same]
          exact step rfl rfl later (fun member => full (List.mem_cons_of_mem _ member))
            (settled_counting rfl rfl (.inr awaits))
      | acknowledgement => exact (none List.mem_cons_self).elim

/-- Frames that agree are counted one by one. -/
theorem alone_sayFrame (awaits : counter.awaitsAcknowledgement = true) {view : View}
    (cleared : view.cleared = view) (live : view.live = true) (burst : List Role) {frames : Nat}
    (bounded : frames ≤ counter.required) :
    (alone counter ⟨view, .counting frames⟩ (burst.map sayFrame)).progress =
      .counting (min (frames + burst.count .frame) counter.required) := by
  induction burst generalizing view frames with
  | nil => simp [bounded]
  | cons role burst step =>
      have fresh : view.fresh = false := by rw [← cleared]; rfl
      have silent : view.acknowledged = false := by rw [← cleared]; rfl
      have quiet : ∀ message, message = .other ∨ message = .acknowledgement false →
          turn counter ⟨view, .counting frames⟩ [message] = ⟨view, .counting frames⟩ := by
        obtain ⟨_, _, _, _⟩ := view
        rintro message (rfl | rfl) <;>
          simp_all [turn, Delivery.seen, View.cleared, Counter.step, Counter.next,
            Counter.confirms]
      cases role with
      | other =>
          rw [List.map_cons, alone_cons, quiet (sayFrame .other) (.inl rfl),
            step cleared live bounded]
          simp
      | acknowledgement =>
          rw [List.map_cons, alone_cons, quiet (sayFrame .acknowledgement) (.inr rfl),
            step cleared live bounded]
          simp
      | frame =>
          have counted : turn counter ⟨view, .counting frames⟩ [sayFrame .frame] =
              ⟨{ view.cleared with live := true, agrees := true },
                .counting (min (frames + 1) counter.required)⟩ := by
            by_cases below : frames < counter.required
            · simp [turn, sayFrame, say, Delivery.seen, View.cleared, Counter.step, Counter.next,
                Counter.confirms, awaits, silent, below, Nat.succ_le_of_lt below]
            · have full : frames = counter.required := by omega
              simp [turn, sayFrame, say, Delivery.seen, View.cleared, Counter.step, Counter.next,
                Counter.confirms, awaits, silent, full]
          rw [List.map_cons, alone_cons, counted, step rfl rfl (Nat.min_le_right _ _),
            List.count_cons_self]
          congr 1
          omega

/-- Up to the first message of the pivot everything agrees, after it nothing does: taken one
by one the reader confirms, taken together it does not. -/
theorem diverges_at_pivot {view : View} (cleared : view.cleared = view) (live : view.live = true)
    (positive : 0 < counter.required) {pre post : List Role} {pivot : Role} {frames : Nat}
    (none : .acknowledgement ∉ pre)
    (full : .frame ∈ pre → frames = counter.required ∧ counter.awaitsAcknowledgement = true)
    (below : frames < counter.required ∨ counter.awaitsAcknowledgement = true)
    (last : ∀ view : View, view.cleared = view → view.live = true →
      counter.step ((say true pivot).seen view) (.counting frames) = .confirmed)
    (spoiled : .frame ∈ post ∨ counter.awaitsAcknowledgement = true ∧ .acknowledgement ∈ post) :
    (turn counter ⟨view, .counting frames⟩
        ((pre ++ [pivot]).map (say true) ++ post.map (say false))).progress ≠
      (alone counter ⟨view, .counting frames⟩
        ((pre ++ [pivot]).map (say true) ++ post.map (say false))).progress := by
  obtain ⟨view', cleared', live', kept⟩ :=
    alone_say_true cleared live none full (settled_counting cleared live below)
  have confirmed : (alone counter ⟨view, .counting frames⟩
      ((pre ++ [pivot]).map (say true) ++ post.map (say false))).progress = .confirmed := by
    rw [List.map_append, alone_append, alone_append, kept, List.map_singleton, alone_cons,
      alone_nil]
    simp only [turn, List.foldl_cons, List.foldl_nil, last view' cleared' live']
    exact alone_confirmed _ _
  rw [confirmed]
  simp only [turn, List.foldl_append]
  exact turn_say_false positive spoiled

/-- Every other shape loses something: some burst of that shape, met at some count, is
counted differently in one turn and one by one. -/
theorem exists_diverging (positive : 0 < counter.required)
    (several : counter.awaitsAcknowledgement = true → 1 < counter.required) {burst : List Role}
    (expected : .acknowledgement ∈ burst → counter.awaitsAcknowledgement = true)
    (crowded : ¬OneOfEach burst) :
    ∃ frames, (frames < counter.required ∨
        frames = counter.required ∧ counter.awaitsAcknowledgement = true) ∧
      ∃ messages : List Delivery, messages.map Delivery.role = burst ∧
        (∀ agrees, .frame false agrees ∉ messages) ∧
        ∀ view : View, view.cleared = view → view.live = true →
          (turn counter ⟨view, .counting frames⟩ messages).progress ≠
            (alone counter ⟨view, .counting frames⟩ messages).progress := by
  have said : ∀ (pre post : List Role) (pivot : Role),
      (((pre ++ [pivot]).map (say true) ++ post.map (say false)).map Delivery.role =
        pre ++ pivot :: post) ∧ ∀ agrees, Delivery.frame false agrees ∉
          (pre ++ [pivot]).map (say true) ++ post.map (say false) := by
    have never : ∀ (agrees agrees' : Bool) (role : Role),
        say agrees role ≠ .frame false agrees' := by
      rintro agrees agrees' (_ | _ | _) <;> simp [say]
    intro pre post pivot
    constructor
    · simp [Function.comp_def]
    · rintro agrees member
      rw [List.mem_append, List.mem_map, List.mem_map] at member
      obtain ⟨role, -, said⟩ | ⟨role, -, said⟩ := member
      · exact never _ _ _ said
      · exact never _ _ _ said
  by_cases awaits : counter.awaitsAcknowledgement = true
  · by_cases single : burst.count .frame ≤ 1
    · -- Some acknowledgement is not the last message that matters.
      have pivoted : Role.acknowledgement ∈ burst := by
        by_contra none
        exact crowded (oneOfEach_of_no_acknowledgement none single)
      obtain ⟨pre, post, rfl, none⟩ := List.eq_append_cons_of_mem pivoted
      have spoiled : Role.frame ∈ post ∨ counter.awaitsAcknowledgement = true ∧
          Role.acknowledgement ∈ post := by
        by_contra clean
        rw [not_or] at clean
        have rest : post.filter (· ≠ .other) = [] := by
          rw [filter_of_no_acknowledgement fun member => clean.2 ⟨awaits, member⟩,
            List.count_eq_zero_of_not_mem clean.1, List.replicate_zero]
        refine crowded ?_
        rw [OneOfEach, List.filter_append, List.filter_cons_of_pos (by decide), rest]
        have head : (pre.filter (· ≠ .other)).Sublist [.frame] := by
          rw [filter_of_no_acknowledgement none]
          have bound : pre.count .frame ≤ 1 :=
            Nat.le_trans (List.Sublist.count_le _ (List.sublist_append_left _ _)) single
          simpa using List.replicate_sublist_replicate (a := Role.frame) |>.mpr bound
        exact head.append (List.Sublist.refl [Role.acknowledgement])
      refine ⟨counter.required, .inr ⟨rfl, awaits⟩, _, (said pre post _).1, (said pre post _).2,
        fun view cleared live => ?_⟩
      refine diverges_at_pivot cleared live positive none (fun _ => ⟨rfl, awaits⟩) (.inr awaits)
        (fun view cleared live => ?_) spoiled
      have stale : view.fresh = false := by rw [← cleared]; rfl
      simp [Counter.step, say, Delivery.seen, Counter.next, live, stale, Counter.confirms]
    · -- Two frames that agree count once together.
      refine ⟨0, .inl positive, burst.map sayFrame, by simp [Function.comp_def], ?_,
        fun view cleared live => ?_⟩
      · rintro agrees member
        obtain ⟨role, -, said⟩ := List.mem_map.mp member
        cases role <;> simp [sayFrame, say] at said
      rw [alone_sayFrame awaits cleared live burst (Nat.zero_le _)]
      have shown : ∀ (roles : List Role) (view : View), view.live = true →
          view.acknowledged = false → (view.fresh = true ∧ view.agrees = true ∨
            .frame ∈ roles) →
          counter.step ((roles.map sayFrame).foldl Delivery.seen view) (.counting 0) =
            .counting 1 := by
        intro roles
        induction roles with
        | nil =>
            intro view live silent seen
            simp_all [Counter.step, Counter.next, Counter.confirms]
        | cons role roles step =>
            intro view live silent seen
            refine step _ ?_ ?_ ?_ <;> cases role <;>
              simp_all [sayFrame, say, Delivery.seen]
      have framed : Role.frame ∈ burst := List.count_pos_iff.mp (by omega)
      have together := shown burst view live (by rw [← cleared]; rfl) (.inr framed)
      have several := several awaits
      simp only [turn, together, ne_eq, Progress.counting.injEq]
      omega
  · -- No acknowledgements: the first frame confirms, the last one disagrees.
    have none : Role.acknowledgement ∉ burst := fun member => awaits (expected member)
    have many : 1 < burst.count .frame := by
      by_contra single
      exact crowded (oneOfEach_of_no_acknowledgement none (by omega))
    obtain ⟨pre, post, rfl, first⟩ :=
      List.eq_append_cons_of_mem (List.count_pos_iff.mp (Nat.lt_trans Nat.zero_lt_one many))
    have again : Role.frame ∈ post := by
      refine List.count_pos_iff.mp ?_
      rw [List.count_append, List.count_cons_self, List.count_eq_zero_of_not_mem first] at many
      omega
    refine ⟨counter.required - 1, .inl (by omega), _, (said pre post _).1, (said pre post _).2,
      fun view cleared live => ?_⟩
    refine diverges_at_pivot cleared live positive
      (fun member => none (List.mem_append_left _ member)) (fun member => (first member).elim)
      (.inl (by omega)) (fun view cleared live => ?_) (.inl again)
    have below : counter.required - 1 < counter.required := by omega
    have enough : counter.required ≤ counter.required - 1 + 1 := by omega
    simp [Counter.step, say, Delivery.seen, Counter.next, Counter.confirms, awaits, below, enough]

end Crowded

end Frames
