import Mathlib.Logic.Relation

/-!
# Procedures that change a state and may throw

A procedure keeps the state it had reached when it throws. `wp` is its weakest
precondition for one postcondition on return and one on a throw; its rules run a
procedure symbolically. `Performs` says that a procedure does nothing but a
sequence of actions, whichever way it ends; what every action preserves, the
procedure then preserves.
-/

namespace Procedure

variable {ε σ α β : Type}

/-- Throws the error of a failed pure computation. -/
def rethrow : Except ε α → EStateM ε σ α
  | .ok value => pure value
  | .error error => throw error

/-- The weakest precondition. -/
def wp (program : EStateM ε σ α) (returns : α → σ → Prop) (throws : ε → σ → Prop)
    (state : σ) : Prop :=
  match program.run state with
  | .ok value final => returns value final
  | .error error final => throws error final

/-- A sequence that succeeds has succeeded in its first part. -/
theorem bind_eq_ok {source : Except ε α} {next : α → Except ε β} {result : β}
    (succeeded : source >>= next = .ok result) :
    ∃ value, source = .ok value ∧ next value = .ok result := by
  cases source with
  | error error => cases succeeded
  | ok value => exact ⟨value, rfl, succeeded⟩

/-- After a success the sequence is its rest. -/
theorem ok_bind (value : α) (next : α → Except ε β) : (Except.ok value >>= next) = next value :=
  rfl

section Runs

variable {program : EStateM ε σ α} {next : α → EStateM ε σ β} {state final : σ}

theorem bind_run_ok {value : α} (ran : program state = .ok value final) :
    (program >>= next) state = next value final := by
  change EStateM.bind program next state = _
  rw [EStateM.bind, ran]

theorem bind_run_error {error : ε} (ran : program state = .error error final) :
    (program >>= next) state = .error error final := by
  change EStateM.bind program next state = _
  rw [EStateM.bind, ran]

/-- Programs that go on alike after every return of the first part run alike. -/
theorem run_bind_congr {first second : α → EStateM ε σ β}
    (same : ∀ value final, program.run state = .ok value final →
      (first value).run final = (second value).run final) :
    (program >>= first).run state = (program >>= second).run state := by
  change EStateM.bind program first state = EStateM.bind program second state
  rw [EStateM.bind, EStateM.bind]
  cases ran : program state with
  | ok value final => exact same value final ran
  | error error final => rfl

end Runs

section Rules

variable {returns : α → σ → Prop} {throws : ε → σ → Prop} {state : σ}

@[simp] theorem wp_pure (value : α) :
    wp (pure value : EStateM ε σ α) returns throws state = returns value state := rfl

@[simp] theorem wp_throw (error : ε) :
    wp (throw error : EStateM ε σ α) returns throws state = throws error state := rfl

@[simp] theorem wp_get {returns : σ → σ → Prop} :
    wp (get : EStateM ε σ σ) returns throws state = returns state state := rfl

@[simp] theorem wp_set (final : σ) {returns : PUnit → σ → Prop} :
    wp (set final : EStateM ε σ PUnit) returns throws state = returns ⟨⟩ final := rfl

@[simp] theorem wp_modify (update : σ → σ) {returns : PUnit → σ → Prop} :
    wp (modify update : EStateM ε σ PUnit) returns throws state = returns ⟨⟩ (update state) :=
  rfl

@[simp] theorem wp_bind (program : EStateM ε σ α) (next : α → EStateM ε σ β)
    {returns : β → σ → Prop} :
    wp (program >>= next) returns throws state =
      wp program (fun value final => wp (next value) returns throws final) throws state := by
  simp only [wp, EStateM.run, bind, EStateM.bind]
  cases program state <;> rfl

@[simp] theorem wp_ite (condition : Prop) [Decidable condition]
    (first second : EStateM ε σ α) :
    wp (if condition then first else second) returns throws state =
      if condition then wp first returns throws state else wp second returns throws state := by
  split <;> rfl

theorem wp_rethrow (result : Except ε α) :
    wp (rethrow result : EStateM ε σ α) returns throws state =
      match result with
      | .ok value => returns value state
      | .error error => throws error state := by
  cases result <;> rfl

theorem wp_rethrow_bind {result : Except ε α} {next : α → EStateM ε σ β}
    {returns : β → σ → Prop}
    (returned : ∀ value, result = .ok value → wp (next value) returns throws state)
    (thrown : ∀ error, result = .error error → throws error state) :
    wp (rethrow result >>= next) returns throws state := by
  cases result with
  | ok value => exact returned value rfl
  | error error => exact thrown error rfl

theorem wp_ite_of {condition : Prop} [Decidable condition] {first second : EStateM ε σ α}
    (holds : condition → wp first returns throws state)
    (fails : ¬condition → wp second returns throws state) :
    wp (if condition then first else second) returns throws state := by
  split
  next yes => exact holds yes
  next no => exact fails no

/-- What a procedure guarantees holds of a run that returned. -/
theorem returned_of_wp {program : EStateM ε σ α} {value : α} {final : σ}
    (specified : wp program returns throws state) (ran : program.run state = .ok value final) :
    returns value final := by
  unfold wp at specified
  rwa [ran] at specified

/-- Consequence: the specification of a procedure serves every weaker use of it. -/
theorem wp_mono {program : EStateM ε σ α} {returns' : α → σ → Prop} {throws' : ε → σ → Prop}
    (specified : wp program returns throws state)
    (onReturn : ∀ value final, returns value final → returns' value final)
    (onThrow : ∀ error final, throws error final → throws' error final) :
    wp program returns' throws' state := by
  unfold wp at specified ⊢
  cases outcome : program.run state with
  | ok value final =>
      rw [outcome] at specified
      exact onReturn value final specified
  | error error final =>
      rw [outcome] at specified
      exact onThrow error final specified

/-- A loop over a list keeps what holds after the items that are done. -/
theorem wp_forM {items : List α} {body : α → EStateM ε σ PUnit} {state : σ}
    (holds : List α → σ → Prop) {throws : ε → σ → Prop} (initial : holds [] state)
    (kept : ∀ done item rest state, items = done ++ item :: rest → holds done state →
      wp (body item) (fun _ final => holds (done ++ [item]) final) throws state) :
    wp (items.forM body) (fun _ final => holds items final) throws state := by
  suffices rest : ∀ todo done state, items = done ++ todo → holds done state →
      wp (todo.forM body) (fun _ final => holds items final) throws state from
    rest items [] state rfl initial
  intro todo
  induction todo with
  | nil =>
      intro done state split held
      rw [List.append_nil] at split
      subst split
      exact held
  | cons item todo ih =>
      intro done state split held
      change wp (body item >>= fun _ => todo.forM body) _ throws state
      rw [wp_bind]
      refine wp_mono (kept done item todo state split held) ?_ fun _ _ thrown => thrown
      intro _ middle next
      exact ih (done ++ [item]) middle (by rw [split, List.append_assoc]; rfl) next

end Rules

/-- From this state the procedure performs a sequence of actions, however it ends. -/
def Performs (action : σ → σ → Prop) (program : EStateM ε σ α) (state : σ) : Prop :=
  wp program (fun _ final => Relation.ReflTransGen action state final)
    (fun _ final => Relation.ReflTransGen action state final) state

namespace Performs

open Relation

variable {action : σ → σ → Prop} {state : σ}

theorem of_pure (value : α) : Performs action (pure value : EStateM ε σ α) state := .refl

theorem of_modify {update : σ → σ} (performed : ReflTransGen action state (update state)) :
    Performs action (modify update : EStateM ε σ PUnit) state := performed

theorem of_rethrow (result : Except ε α) :
    Performs action (rethrow result : EStateM ε σ α) state := by
  cases result <;> exact .refl

theorem bind {program : EStateM ε σ α} {next : α → EStateM ε σ β}
    (first : Performs action program state)
    (second : ∀ value middle, ReflTransGen action state middle →
      Performs action (next value) middle) :
    Performs action (program >>= next) state := by
  unfold Performs
  rw [wp_bind]
  refine wp_mono first ?_ fun _ _ performed => performed
  intro value middle performed
  exact wp_mono (second value middle performed) (fun _ _ later => performed.trans later)
    (fun _ _ later => performed.trans later)

/-- The continuation of a read starts in the state that was read. -/
theorem get_bind {next : σ → EStateM ε σ α} (rest : Performs action (next state) state) :
    Performs action (get >>= next) state := rest

theorem modify_bind {update : σ → σ} {next : PUnit → EStateM ε σ α}
    (performed : ReflTransGen action state (update state))
    (rest : Performs action (next ⟨⟩) (update state)) :
    Performs action (modify update >>= next) state :=
  wp_mono rest (fun _ _ later => performed.trans later) (fun _ _ later => performed.trans later)

theorem set_bind {final : σ} {next : PUnit → EStateM ε σ α}
    (performed : ReflTransGen action state final) (rest : Performs action (next ⟨⟩) final) :
    Performs action (set final >>= next) state :=
  wp_mono rest (fun _ _ later => performed.trans later) (fun _ _ later => performed.trans later)

theorem rethrow_bind {result : Except ε α} {next : α → EStateM ε σ β}
    (rest : ∀ value, result = .ok value → Performs action (next value) state) :
    Performs action (rethrow result >>= next) state := by
  cases result with
  | ok value => exact rest value rfl
  | error error => exact .refl

theorem ite {condition : Prop} [Decidable condition] {program other : EStateM ε σ α}
    (first : condition → Performs action program state)
    (second : ¬condition → Performs action other state) :
    Performs action (if condition then program else other) state := by
  split
  next holds => exact first holds
  next fails => exact second fails

end Performs

/-- From this state the procedure does not throw, and it performs a sequence of actions. -/
def Completes (action : σ → σ → Prop) (program : EStateM ε σ α) (state : σ) : Prop :=
  wp program (fun _ final => Relation.ReflTransGen action state final) (fun _ _ => False) state

namespace Completes

open Relation

variable {action : σ → σ → Prop} {state : σ}

theorem of_pure (value : α) : Completes action (pure value : EStateM ε σ α) state := .refl

theorem of_modify {update : σ → σ} (performed : ReflTransGen action state (update state)) :
    Completes action (modify update : EStateM ε σ PUnit) state := performed

theorem bind {program : EStateM ε σ α} {next : α → EStateM ε σ β}
    (first : Completes action program state)
    (second : ∀ value middle, ReflTransGen action state middle →
      Completes action (next value) middle) :
    Completes action (program >>= next) state := by
  unfold Completes
  rw [wp_bind]
  refine wp_mono first ?_ fun _ _ thrown => thrown
  intro value middle performed
  exact wp_mono (second value middle performed) (fun _ _ later => performed.trans later)
    fun _ _ thrown => thrown

theorem get_bind {next : σ → EStateM ε σ α} (rest : Completes action (next state) state) :
    Completes action (get >>= next) state := rest

theorem modify_bind {update : σ → σ} {next : PUnit → EStateM ε σ α}
    (performed : ReflTransGen action state (update state))
    (rest : Completes action (next ⟨⟩) (update state)) :
    Completes action (modify update >>= next) state :=
  wp_mono rest (fun _ _ later => performed.trans later) fun _ _ thrown => thrown

theorem rethrow_bind {result : Except ε α} {next : α → EStateM ε σ β} {value : α}
    (computed : result = .ok value) (rest : Completes action (next value) state) :
    Completes action (rethrow result >>= next) state := by
  subst computed
  exact rest

theorem ite {condition : Prop} [Decidable condition] {program other : EStateM ε σ α}
    (first : condition → Completes action program state)
    (second : ¬condition → Completes action other state) :
    Completes action (if condition then program else other) state := by
  split
  next holds => exact first holds
  next fails => exact second fails

/-- The weaker the actions, the less is said. -/
theorem mono {action' : σ → σ → Prop} (weaker : ∀ before after, action before after →
    action' before after) {program : EStateM ε σ α} (completes : Completes action program state) :
    Completes action' program state :=
  wp_mono completes (fun _ _ => ReflTransGen.mono weaker _ _) fun _ _ thrown => thrown

/-- The run returns. -/
theorem run_eq_ok {program : EStateM ε σ α} (completes : Completes action program state) :
    ∃ value final, program.run state = .ok value final ∧ ReflTransGen action state final := by
  unfold Completes wp at completes
  cases outcome : program.run state with
  | ok value final =>
      rw [outcome] at completes
      exact ⟨value, final, rfl, completes⟩
  | error error final =>
      rw [outcome] at completes
      exact completes.elim

end Completes

end Procedure
