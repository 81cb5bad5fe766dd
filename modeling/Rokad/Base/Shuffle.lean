import Mathlib.Algebra.Order.Floor.Semiring
import Mathlib.Data.Rat.Floor

/-!
# Shuffles

The shuffle that walks a list from its end and swaps each place with one drawn at or before it.
Whatever is drawn, it permutes the list (`shuffleArray_perm`), and what is drawn is no matter of
what stands in the list (`shuffleArray_map`).
-/

namespace Rokad.Base

/-- A value of `Math.random()`. -/
structure Random where
  value : ℚ
  range : 0 ≤ value ∧ value < 1

/-- The values still to be drawn. -/
abbrev Draws := ℕ → Random

namespace Draws

variable (draws : Draws)

def rest (k : ℕ) : Draws := fun i => draws (i + k)

/-- `Math.floor(Math.random() * n)` -/
def below (n : ℕ) : ℕ := ⌊(draws 0).value * n⌋₊

theorem below_lt {n : ℕ} (pos : 0 < n) : draws.below n < n := by
  obtain ⟨nonneg, less⟩ := (draws 0).range
  have positive : (0 : ℚ) < n := Nat.cast_pos.mpr pos
  refine (Nat.floor_lt (mul_nonneg nonneg positive.le)).mpr ?_
  exact (mul_lt_mul_of_pos_right less positive).trans_eq (one_mul _)

end Draws

variable {α β : Type} {n : ℕ}

/-- The loop from place `i` on. -/
def shuffleFrom : (i : ℕ) → i < n → Draws → Vector α n → Vector α n
  | 0, _, _, arr => arr
  | i + 1, inside, draws, arr =>
    shuffleFrom i (Nat.lt_of_succ_lt inside) (draws.rest 1)
      (arr.swap (i + 1) (draws.below (i + 2)) inside
        ((Nat.lt_of_lt_of_le (draws.below_lt (Nat.succ_pos _)) inside)))

def shuffleArray (draws : Draws) (array : List α) : List α :=
  if nonempty : 0 < array.length then
    (shuffleFrom (array.length - 1) (Nat.sub_lt nonempty one_pos) draws
      ⟨array.toArray, rfl⟩).toList
  else array

theorem shuffleFrom_perm (i : ℕ) (inside : i < n) (draws : Draws) (arr : Vector α n) :
    (shuffleFrom i inside draws arr).toList.Perm arr.toList := by
  induction i generalizing draws arr with
  | zero => exact List.Perm.refl _
  | succ i ih =>
    refine (ih _ _ _).trans ?_
    exact (Vector.swap_perm _ _).toList

/-- **Shuffle.** A shuffled list holds what it held. -/
theorem shuffleArray_perm (draws : Draws) (array : List α) :
    (shuffleArray draws array).Perm array := by
  unfold shuffleArray
  split
  · exact shuffleFrom_perm _ _ _ _
  · exact List.Perm.refl _

theorem map_swap (f : α → β) (arr : Vector α n) {i j : ℕ} (hi : i < n) (hj : j < n) :
    (arr.map f).swap i j hi hj = (arr.swap i j hi hj).map f := by
  ext k inside
  simp only [Vector.getElem_map, Vector.getElem_swap]
  split_ifs <;> rfl

theorem shuffleFrom_map (f : α → β) (i : ℕ) (inside : i < n) (draws : Draws) (arr : Vector α n) :
    shuffleFrom i inside draws (arr.map f) = (shuffleFrom i inside draws arr).map f := by
  induction i generalizing draws arr with
  | zero => rfl
  | succ i ih =>
    unfold shuffleFrom
    rw [map_swap, ih]

theorem shuffleArray_toList (draws : Draws) (arr : Vector α n) (nonempty : 0 < n) :
    shuffleArray draws arr.toList =
      (shuffleFrom (n - 1) (Nat.sub_lt nonempty one_pos) draws arr).toList := by
  obtain ⟨⟨array⟩, rfl⟩ := arr
  exact dif_pos nonempty

/-- The draws do not look at what they move. -/
theorem shuffleArray_map (f : α → β) (draws : Draws) (array : List α) :
    shuffleArray draws (array.map f) = (shuffleArray draws array).map f := by
  obtain ⟨n, arr, rfl⟩ : ∃ (n : ℕ) (arr : Vector α n), arr.toList = array :=
    ⟨_, ⟨array.toArray, rfl⟩, rfl⟩
  by_cases nonempty : 0 < n
  · rw [← Vector.toList_map, shuffleArray_toList draws _ nonempty, shuffleFrom_map,
      Vector.toList_map, ← shuffleArray_toList draws arr nonempty]
  · obtain rfl := Nat.eq_zero_of_not_pos nonempty
    obtain ⟨⟨array⟩, none⟩ := arr
    obtain rfl := List.eq_nil_of_length_eq_zero none
    rfl

end Rokad.Base
