import Mathlib.Data.List.Sort

/-!
# Lists with inserted elements

One list is another one with further elements of a kind inserted anywhere. A
stable sort keeps this relation, and a fold that ignores the inserted elements up
to a relation of its states ends in related states.
-/

namespace List

/-- The second list is the first one with elements of a kind inserted. -/
inductive Inserts {α : Type*} (kind : α → Prop) : List α → List α → Prop
  | nil : Inserts kind [] []
  | keep {l l' : List α} (a : α) : Inserts kind l l' → Inserts kind (a :: l) (a :: l')
  | insert {l l' : List α} {a : α} : kind a → Inserts kind l l' → Inserts kind l (a :: l')

namespace Inserts

variable {α β : Type*} {kind : α → Prop}

theorem refl (l : List α) : Inserts kind l l := by
  induction l with
  | nil => exact .nil
  | cons a l ih => exact .keep a ih

theorem append {l₁ l₁' l₂ l₂' : List α} (first : Inserts kind l₁ l₁')
    (second : Inserts kind l₂ l₂') : Inserts kind (l₁ ++ l₂) (l₁' ++ l₂') := by
  induction first with
  | nil => exact second
  | keep a _ ih => exact .keep a ih
  | insert inserted _ ih => exact .insert inserted ih

theorem map {kind' : β → Prop} (f : α → β) (carries : ∀ a, kind a → kind' (f a)) {l l' : List α}
    (inserted : Inserts kind l l') : Inserts kind' (l.map f) (l'.map f) := by
  induction inserted with
  | nil => exact .nil
  | keep a _ ih => exact .keep (f a) ih
  | insert special _ ih => exact .insert (carries _ special) ih

theorem subset {l l' : List α} (inserted : Inserts kind l l') : l ⊆ l' := by
  induction inserted with
  | nil => exact Subset.refl _
  | keep a _ ih => exact cons_subset_cons a ih
  | insert _ _ ih => exact subset_cons_of_subset _ ih

/-- Everything of an inserted kind can stand alone. -/
theorem of_forall {l : List α} (all : ∀ a ∈ l, kind a) : Inserts kind [] l := by
  induction l with
  | nil => exact .nil
  | cons a l ih =>
      exact .insert (all a mem_cons_self) (ih fun b later => all b (mem_cons_of_mem a later))

section Sorting

variable {before : α → α → Prop} [DecidableRel before]

theorem orderedInsert_right {a : α} (special : kind a) {l l' : List α}
    (inserted : Inserts kind l l') : Inserts kind l (l'.orderedInsert before a) := by
  induction inserted with
  | nil => exact .insert special .nil
  | @keep l l' b rest ih =>
      rw [orderedInsert_cons]
      split
      · exact .insert special (.keep b rest)
      · exact .keep b ih
  | @insert l l' b special' rest ih =>
      rw [orderedInsert_cons]
      split
      · exact .insert special (.insert special' rest)
      · exact .insert special' ih

theorem orderedInsert [IsTrans α before] (a : α) {l l' : List α} (sorted : l'.Pairwise before)
    (inserted : Inserts kind l l') :
    Inserts kind (l.orderedInsert before a) (l'.orderedInsert before a) := by
  induction inserted with
  | nil => exact .refl _
  | @keep l l' b rest ih =>
      rw [orderedInsert_cons, orderedInsert_cons]
      split
      · exact .keep a (.keep b rest)
      · exact .keep b (ih (pairwise_cons.mp sorted).2)
  | @insert l l' b special rest ih =>
      obtain ⟨first, sorted⟩ := pairwise_cons.mp sorted
      rw [orderedInsert_cons]
      split
      next earlier =>
        -- What comes before the inserted element comes before everything after it.
        have least : l.orderedInsert before a = a :: l := by
          cases l with
          | nil => rfl
          | cons c l =>
              exact orderedInsert_cons_of_le before l
                (IsTrans.trans a b c earlier (first c (rest.subset mem_cons_self)))
        rw [least]
        exact .keep a (.insert special rest)
      · exact .insert special (ih sorted)

/-- Sorting stably keeps the inserted elements apart from the others. -/
theorem insertionSort [IsTrans α before] [Std.Total before] {l l' : List α}
    (inserted : Inserts kind l l') :
    Inserts kind (l.insertionSort before) (l'.insertionSort before) := by
  induction inserted with
  | nil => exact .nil
  | keep a _ ih => exact ih.orderedInsert a (pairwise_insertionSort before _)
  | insert special _ ih => exact ih.orderedInsert_right special

end Sorting

/-- A fold whose steps keep a relation, and whose inserted steps keep it on one side. -/
theorem foldl {σ τ : Type*} (related : σ → τ → Prop) {f : σ → α → σ} {g : τ → α → τ}
    (step : ∀ s t a, related s t → related (f s a) (g t a))
    (ignored : ∀ s t a, kind a → related s t → related s (g t a)) {l l' : List α}
    (inserted : Inserts kind l l') {s : σ} {t : τ} (start : related s t) :
    related (l.foldl f s) (l'.foldl g t) := by
  induction inserted generalizing s t with
  | nil => exact start
  | keep a _ ih => exact ih (step s t a start)
  | insert special _ ih => exact ih (ignored s t _ special start)

end Inserts

end List
