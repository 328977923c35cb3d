/-!
# Batches

A list is asked for in consecutive pieces of a bounded size. `batches_flatten` says that nothing is
lost or added, and `length_le_of_mem_batches` that no piece is larger than the bound.
-/

namespace GameLibrary

variable {α : Type}

/-- The part of a list that still fits into a begun piece with some room, and the pieces after
it. -/
def batchesFrom (size : Nat) : Nat → List α → List α × List (List α)
  | _, [] => ([], [])
  | 0, a :: rest =>
      let (piece, pieces) := batchesFrom size (size - 1) rest
      ([], (a :: piece) :: pieces)
  | room + 1, a :: rest =>
      let (piece, pieces) := batchesFrom size room rest
      (a :: piece, pieces)

/-- The consecutive pieces of a list, all of the given size but the last. A size of zero counts as
one. -/
def batches (size : Nat) (list : List α) : List (List α) := (batchesFrom (max size 1) 0 list).2

/-- The begun piece and the pieces after it hold the list. -/
theorem batches_from_flatten (size room : Nat) (list : List α) :
    (batchesFrom size room list).1 ++ (batchesFrom size room list).2.flatten = list := by
  induction list generalizing room with
  | nil => cases room <;> simp [batchesFrom]
  | cons a rest ih =>
      cases room with
      | zero => simp [batchesFrom, ih]
      | succ room => simp [batchesFrom, ih]

/-- The begun piece has no more elements than there was room for. -/
theorem length_batches_from_le (size room : Nat) (list : List α) :
    (batchesFrom size room list).1.length ≤ room := by
  induction list generalizing room with
  | nil => cases room <;> simp [batchesFrom]
  | cons a rest ih =>
      cases room with
      | zero => simp [batchesFrom]
      | succ room => simpa [batchesFrom] using ih room

/-- Every piece after the begun one has an element, and at most as many as the size. -/
theorem length_of_mem_batches_from (size room : Nat) (hsize : 0 < size) (list : List α) :
    ∀ piece ∈ (batchesFrom size room list).2, piece ≠ [] ∧ piece.length ≤ size := by
  induction list generalizing room with
  | nil => cases room <;> simp [batchesFrom]
  | cons a rest ih =>
      cases room with
      | zero =>
          intro piece hpiece
          rcases List.mem_cons.1 hpiece with rfl | hpiece
          · have h := length_batches_from_le size (size - 1) rest
            refine ⟨by simp, ?_⟩
            simp only [List.length_cons]
            omega
          · exact ih (size - 1) piece hpiece
      | succ room => simpa [batchesFrom] using ih room

/-- The pieces hold the list. -/
theorem batches_flatten (size : Nat) (list : List α) : (batches size list).flatten = list := by
  have h := batches_from_flatten (max size 1) 0 list
  have none : (batchesFrom (max size 1) 0 list).1 = [] :=
    List.eq_nil_of_length_eq_zero (Nat.le_zero.1 (length_batches_from_le _ 0 list))
  rwa [none, List.nil_append] at h

/-- A list with elements has pieces. -/
theorem batches_ne_nil (size : Nat) {list : List α} (hlist : list ≠ []) :
    batches size list ≠ [] := by
  intro hnone
  have hflatten := batches_flatten size list
  rw [hnone] at hflatten
  exact hlist hflatten.symm

/-- Every piece has an element. -/
theorem ne_nil_of_mem_batches (size : Nat) (list : List α) :
    ∀ piece ∈ batches size list, piece ≠ [] := fun piece hpiece =>
  (length_of_mem_batches_from (max size 1) 0 (by omega) list piece hpiece).1

/-- No piece is larger than the size. -/
theorem length_le_of_mem_batches (size : Nat) (list : List α) :
    ∀ piece ∈ batches size list, piece.length ≤ max size 1 := fun piece hpiece =>
  (length_of_mem_batches_from (max size 1) 0 (by omega) list piece hpiece).2

end GameLibrary
