import Mathlib.Data.List.Basic

/-!
# A queue served in batches

In every round something is appended to a queue and at most `size` elements are
taken from its front. The batches and what still waits are together what was
appended, in order, so the place of an element in the queue says in which batch
it leaves.
-/

namespace BatchQueue

variable {α : Type} (size : Nat)

/-- The batches of some rounds, oldest first, and what waits after them. -/
def rounds : List α → List (List α) → List (List α) × List α
  | queue, [] => ([], queue)
  | queue, posted :: rest =>
      let (batches, waiting) := rounds ((queue ++ posted).drop size) rest
      ((queue ++ posted).take size :: batches, waiting)

/-- Nothing is lost, repeated or reordered. -/
theorem rounds_flatten (queue : List α) (posts : List (List α)) :
    (rounds size queue posts).1.flatten ++ (rounds size queue posts).2 =
      queue ++ posts.flatten := by
  induction posts generalizing queue with
  | nil => simp [rounds]
  | cons posted rest ih =>
      have later := ih ((queue ++ posted).drop size)
      simp only [rounds, List.flatten_cons, List.append_assoc]
      rw [later, ← List.append_assoc, List.take_append_drop, List.append_assoc]

/-- Later rounds start from what the earlier ones left waiting. -/
theorem rounds_append (queue : List α) (posts later : List (List α)) :
    rounds size queue (posts ++ later) =
      ((rounds size queue posts).1 ++ (rounds size (rounds size queue posts).2 later).1,
        (rounds size (rounds size queue posts).2 later).2) := by
  induction posts generalizing queue with
  | nil => rfl
  | cons posted rest ih =>
      simp only [List.cons_append, rounds]
      rw [ih]

/-- What is posted first in a round may as well have been waiting. -/
theorem rounds_cons_append (queue first later : List α) (posts : List (List α)) :
    rounds size queue ((first ++ later) :: posts) =
      rounds size (queue ++ first) (later :: posts) := by
  simp only [rounds, List.append_assoc]

theorem length_le_of_mem_rounds {queue : List α} {posts : List (List α)} {batch : List α}
    (served : batch ∈ (rounds size queue posts).1) : batch.length ≤ size := by
  induction posts generalizing queue with
  | nil => cases served
  | cons posted rest ih =>
      rcases List.mem_cons.mp served with newest | later
      · rw [newest]
        exact List.length_take_le _ _
      · exact ih later

/-- The batches before serve only what was ahead, and all of it but a rest smaller than a
batch; that rest and the element come next. -/
theorem rounds_position {size : Nat} (positive : 0 < size) {queue : List α} {x : α}
    {ahead later : List α} {posts : List (List α)} (waiting : queue = ahead ++ x :: later)
    (enough : ahead.length / size < posts.length) :
    ((rounds size queue posts).1.take (ahead.length / size)).flatten =
        ahead.take (size * (ahead.length / size)) ∧
      ∃ batch, (rounds size queue posts).1[ahead.length / size]? = some batch ∧
        ahead.drop (size * (ahead.length / size)) ++ [x] <+: batch := by
  induction posts generalizing queue ahead later with
  | nil => cases enough
  | cons posted rest ih =>
      subst waiting
      have appended : ahead ++ x :: later ++ posted = ahead ++ x :: (later ++ posted) := by
        simp
      by_cases now : ahead.length < size
      · rw [Nat.div_eq_of_lt now]
        have room : size - ahead.length = (size - ahead.length - 1) + 1 := by omega
        have taken : (ahead ++ x :: later ++ posted).take size =
            (ahead ++ [x]) ++ (later ++ posted).take (size - ahead.length - 1) := by
          rw [appended, List.take_append, List.take_of_length_le (Nat.le_of_lt now), room,
            List.take_succ_cons, List.append_assoc]
          rfl
        refine ⟨by simp, _, rfl, ?_⟩
        rw [Nat.mul_zero, List.drop_zero, taken]
        exact List.prefix_append _ _
      · have full : size ≤ ahead.length := Nat.le_of_not_lt now
        have dropped : (ahead ++ x :: later ++ posted).drop size =
            ahead.drop size ++ x :: (later ++ posted) := by
          rw [appended, List.drop_append_of_le_length full]
        have taken : (ahead ++ x :: later ++ posted).take size = ahead.take size := by
          rw [appended, List.take_append_of_le_length full]
        have place : ahead.length / size = (ahead.drop size).length / size + 1 := by
          rw [List.length_drop, Nat.div_eq_sub_div positive full]
        rw [place] at enough ⊢
        obtain ⟨before, batch, served, next⟩ := ih dropped (Nat.lt_of_succ_lt_succ enough)
        refine ⟨?_, batch, ?_, ?_⟩
        · simp only [rounds, List.take_succ_cons, List.flatten_cons]
          rw [before, taken, Nat.mul_succ, Nat.add_comm, List.take_add]
        · simp only [rounds, List.getElem?_cons_succ]
          exact served
        · rw [Nat.mul_succ, Nat.add_comm, ← List.drop_drop]
          exact next

end BatchQueue
