import Mathlib.Data.List.Pairwise
import Mathlib.Order.Lattice

/-!
# One pending slot ahead of the present value

Values arrive ahead of the time at which they are due. A store that keeps all of
them has, at every time, the latest value that is due. A store with one pending
slot drops the pending value when the next one arrives before it is due. The two
agree exactly on the values that were not dropped so.
-/

namespace Lookahead

/-- A value, the time at which it is due, and the time at which it arrived. -/
structure Entry (T V : Type) where
  value : V
  due : T
  arrival : T
deriving DecidableEq, Repr

variable {T V : Type} [LinearOrder T]

/-- Entries, newest first: each is due after the earlier ones and arrived no earlier. -/
def Ordered (entries : List (Entry T V)) : Prop :=
  entries.Pairwise fun newer older => older.due < newer.due ∧ older.arrival ≤ newer.arrival

/-- The value of an unbounded store: the latest that is due. -/
def latestDue (entries : List (Entry T V)) (now : T) : Option (Entry T V) :=
  entries.find? fun entry => entry.due ≤ now

/-- The value of a store with one pending slot, promoted at every arrival and now. -/
def reached : List (Entry T V) → T → Option (Entry T V)
  | [], _ => none
  | entry :: older, now => if entry.due ≤ now then some entry else reached older entry.arrival

/-- The entry that arrived next came before this one was due. -/
def Dropped : List (Entry T V) → Entry T V → Prop
  | newer :: older :: rest, entry =>
      older = entry ∧ newer.arrival < entry.due ∨ Dropped (older :: rest) entry
  | _, _ => False

section Rules

variable {entries older : List (Entry T V)} {entry newest : Entry T V} {now later : T}

theorem reached_cons_due (due : newest.due ≤ now) :
    reached (newest :: older) now = some newest := if_pos due

theorem reached_cons_ahead (ahead : now < newest.due) :
    reached (newest :: older) now = reached older newest.arrival := if_neg ahead.not_ge

theorem due_le_of_reached (ordered : Ordered entries)
    (arrived : ∀ entry ∈ entries, entry.arrival ≤ now)
    (found : reached entries now = some entry) : entry ∈ entries ∧ entry.due ≤ now := by
  induction entries generalizing now with
  | nil => cases found
  | cons newest older ih =>
      obtain ⟨newer, orderedOlder⟩ := List.pairwise_cons.mp ordered
      by_cases due : newest.due ≤ now
      · rw [reached_cons_due due] at found
        cases found
        exact ⟨List.mem_cons_self, due⟩
      · rw [reached_cons_ahead (lt_of_not_ge due)] at found
        obtain ⟨member, dueThen⟩ :=
          ih orderedOlder (fun entry member => (newer entry member).2) found
        exact ⟨List.mem_cons_of_mem _ member,
          dueThen.trans (arrived newest List.mem_cons_self)⟩

/-- Among ordered entries the due time identifies the entry. -/
theorem eq_of_due_eq (ordered : Ordered entries) {other : Entry T V} (member : entry ∈ entries)
    (otherMember : other ∈ entries) (same : entry.due = other.due) : entry = other := by
  induction entries with
  | nil => cases member
  | cons newest older ih =>
      obtain ⟨newer, orderedOlder⟩ := List.pairwise_cons.mp ordered
      rcases List.mem_cons.mp member with rfl | earlier
      · rcases List.mem_cons.mp otherMember with rfl | earlier
        · rfl
        · exact absurd same (newer other earlier).1.ne'
      · rcases List.mem_cons.mp otherMember with rfl | otherEarlier
        · exact absurd same (newer entry earlier).1.ne
        · exact ih orderedOlder earlier otherEarlier

/-- A value that is due stays the present one until another arrives. -/
theorem reached_of_le (order : now ≤ later) (due : ∀ newest ∈ entries.head?, newest.due ≤ now) :
    reached entries later = reached entries now := by
  cases entries with
  | nil => rfl
  | cons newest older =>
      have dueNow := due newest rfl
      rw [reached_cons_due dueNow, reached_cons_due (dueNow.trans order)]

theorem dropped_cons_cons {newer : Entry T V} :
    Dropped (newer :: newest :: older) entry ↔
      newest = entry ∧ newer.arrival < entry.due ∨ Dropped (newest :: older) entry := Iff.rfl

theorem mem_tail_of_dropped (dropped : Dropped (newest :: older) entry) : entry ∈ older := by
  induction older generalizing newest with
  | nil => cases dropped
  | cons next rest ih =>
      rcases dropped with ⟨rfl, -⟩ | further
      · exact List.mem_cons_self
      · exact List.mem_cons_of_mem _ (ih further)

/-- Among ordered entries the newest is not one of the others. -/
theorem not_dropped_newest (ordered : Ordered (newest :: older)) :
    ¬ Dropped (newest :: older) newest := by
  intro dropped
  have earlier := (List.pairwise_cons.mp ordered).1 newest (mem_tail_of_dropped dropped)
  exact lt_irrefl _ earlier.1

theorem latestDue_cons_due (due : newest.due ≤ now) :
    latestDue (newest :: older) now = some newest := by
  simp [latestDue, due]

theorem latestDue_cons_ahead (ahead : now < newest.due) :
    latestDue (newest :: older) now = latestDue older now := by
  simp [latestDue, ahead.not_ge]

/-- What a single pending slot has reached is the latest value that is due, unless that
one was dropped. -/
theorem reached_eq_latestDue_iff (ordered : Ordered entries)
    (arrived : ∀ entry ∈ entries, entry.arrival ≤ now)
    (latest : latestDue entries now = some entry) :
    reached entries now = some entry ↔ ¬ Dropped entries entry := by
  induction entries generalizing now with
  | nil => cases latest
  | cons newest older ih =>
      obtain ⟨newer, orderedOlder⟩ := List.pairwise_cons.mp ordered
      by_cases due : newest.due ≤ now
      · rw [latestDue_cons_due due] at latest
        cases latest
        exact iff_of_true (reached_cons_due due) (not_dropped_newest ordered)
      · have ahead := lt_of_not_ge due
        rw [latestDue_cons_ahead ahead] at latest
        rw [reached_cons_ahead ahead]
        have arrivedOlder : ∀ entry ∈ older, entry.arrival ≤ newest.arrival :=
          fun entry member => (newer entry member).2
        cases older with
        | nil => cases latest
        | cons next rest =>
            rw [dropped_cons_cons]
            by_cases nextDue : next.due ≤ now
            · rw [latestDue_cons_due nextDue] at latest
              obtain rfl : next = entry := Option.some.inj latest
              have rest_ := not_dropped_newest orderedOlder
              by_cases dueThen : next.due ≤ newest.arrival
              · refine iff_of_true (reached_cons_due dueThen) ?_
                rintro (⟨-, early⟩ | further)
                · exact dueThen.not_gt early
                · exact rest_ further
              · refine iff_of_false ?_ (not_not_intro (.inl ⟨rfl, lt_of_not_ge dueThen⟩))
                intro found
                exact dueThen (due_le_of_reached orderedOlder arrivedOlder found).2
            · have nextAhead := lt_of_not_ge nextDue
              have newestArrived := arrived newest List.mem_cons_self
              have other : next ≠ entry := by
                rintro rfl
                rw [latestDue_cons_ahead nextAhead] at latest
                have dueNow := List.find?_some latest
                simp only [decide_eq_true_eq] at dueNow
                exact nextDue dueNow
              have dueLater :
                  reached (next :: rest) newest.arrival = reached (next :: rest) now := by
                rw [reached_cons_ahead nextAhead,
                  reached_cons_ahead (newestArrived.trans_lt nextAhead)]
              rw [dueLater, ih orderedOlder
                (fun entry member => arrived entry (List.mem_cons_of_mem _ member)) latest]
              simp [other]

end Rules

end Lookahead
