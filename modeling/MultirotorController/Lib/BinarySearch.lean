/-!
# Binary search for the first tick

A test that may fail tells whether a tick is too early. The search halves an
interval that ends in a tick which is not too early; if the test is monotone and
answers on the interval, the search finds the first such tick of all.
-/

namespace BinarySearch

variable {ε : Type}

/-- One round of the search for each unit of fuel; the interval loses at least one tick a round. -/
def search (tooEarly : Nat → Except ε Bool) : Nat → Nat → Nat → Except ε Nat
  | 0, low, _ => .ok low
  | fuel + 1, low, high =>
      if low < high then do
        let mid := low + (high - low) / 2
        if ← tooEarly mid then search tooEarly fuel (mid + 1) high
        else search tooEarly fuel low mid
      else .ok low

/-- The first tick from `low` on that is not too early, or `high`. -/
def firstTick (tooEarly : Nat → Except ε Bool) (low high : Nat) : Except ε Nat :=
  search tooEarly (high - low) low high

variable {tooEarly : Nat → Except ε Bool} {early : Nat → Prop} [DecidablePred early]

/-- The interval keeps the border between the early ticks and the others. -/
theorem search_spec (monotone : ∀ a b, a ≤ b → early b → early a) (fuel : Nat) :
    ∀ low high, low ≤ high → high - low ≤ fuel →
      (∀ tick, tick < low → early tick) → ¬ early high →
      (∀ tick, low ≤ tick → tick < high → tooEarly tick = .ok (decide (early tick))) →
      ∃ first, search tooEarly fuel low high = .ok first ∧ ∀ tick, first ≤ tick ↔ ¬ early tick := by
  have border (low : Nat) (before : ∀ tick, tick < low → early tick) (at_ : ¬ early low)
      (tick : Nat) : low ≤ tick ↔ ¬ early tick :=
    ⟨fun later stillEarly => at_ (monotone low tick later stillEarly),
      fun late => Nat.not_lt.mp fun earlier => late (before tick earlier)⟩
  induction fuel with
  | zero =>
      intro low high ordered exhausted before after _
      have same : low = high := by omega
      rw [← same] at after
      exact ⟨low, rfl, border low before after⟩
  | succ fuel ih =>
      intro low high ordered enough before after answers
      rw [search]
      by_cases inside : low < high
      · rw [if_pos inside]
        have lower : low ≤ low + (high - low) / 2 := by omega
        have upper : low + (high - low) / 2 < high := by omega
        generalize low + (high - low) / 2 = mid at lower upper
        dsimp only
        rw [answers mid lower upper]
        by_cases midEarly : early mid
        · rw [decide_eq_true midEarly]
          apply ih (mid + 1) high (by omega) (by omega)
          · intro tick earlier
            exact monotone tick mid (by omega) midEarly
          · exact after
          · intro tick later earlier
            exact answers tick (by omega) earlier
        · rw [decide_eq_false midEarly]
          apply ih low mid lower (by omega) before midEarly
          intro tick later earlier
          exact answers tick later (by omega)
      · rw [if_neg inside]
        have same : low = high := by omega
        rw [← same] at after
        exact ⟨low, rfl, border low before after⟩

theorem firstTick_spec (monotone : ∀ a b, a ≤ b → early b → early a) {low high : Nat}
    (ordered : low ≤ high) (before : ∀ tick, tick < low → early tick) (after : ¬ early high)
    (answers : ∀ tick, low ≤ tick → tick < high → tooEarly tick = .ok (decide (early tick))) :
    ∃ first, firstTick tooEarly low high = .ok first ∧ ∀ tick, first ≤ tick ↔ ¬ early tick :=
  search_spec monotone (high - low) low high ordered (Nat.le_refl _) before after answers

end BinarySearch
