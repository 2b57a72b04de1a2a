import Mathlib.Data.Nat.ModEq
import Mathlib.Logic.Function.Basic

/-!
# Items in a ring of cells

A list lies in a ring of `capacity` cells from a start on: each item in the cell
after the one before it, the first cell after the last. As long as they leave a
cell free, one more item can be written behind them.
-/

namespace Ring

variable {α : Type}

/-- The items lie in consecutive cells from `start` on. -/
def Lies (cells : Nat → α) (capacity start : Nat) (items : List α) : Prop :=
  ∀ index, (within : index < items.length) → cells ((start + index) % capacity) = items[index]

namespace Lies

variable {cells : Nat → α} {capacity start : Nat} {items others : List α} {item : α}

theorem nil : Lies cells capacity start [] := fun _ within => absurd within (Nat.not_lt_zero _)

/-- The first items may go. -/
theorem drop (lies : Lies cells capacity start items) (count : Nat) :
    Lies cells capacity (start + count) (items.drop count) := by
  intro index within
  rw [List.length_drop] at within
  rw [Nat.add_assoc, lies (count + index) (by omega), List.getElem_drop]

/-- Only the place of the start in the ring matters. -/
theorem congr (lies : Lies cells capacity start items) {other : Nat}
    (same : other % capacity = start % capacity) : Lies cells capacity other items := by
  intro index within
  rw [Nat.add_mod, same, ← Nat.add_mod]
  exact lies index within

/-- Two places less than a round behind the same start are different cells. -/
theorem cell_inj {first second : Nat} (near : first < capacity) (also : second < capacity)
    (same : (start + first) % capacity = (start + second) % capacity) : first = second := by
  have places := Nat.ModEq.add_left_cancel' start same
  rwa [Nat.ModEq, Nat.mod_eq_of_lt near, Nat.mod_eq_of_lt also] at places

/-- An item is written behind the last one. -/
theorem write (lies : Lies cells capacity start items) (room : items.length < capacity) :
    Lies (Function.update cells ((start + items.length) % capacity) item) capacity start
      (items ++ [item]) := by
  intro index within
  rw [List.length_append, List.length_singleton] at within
  by_cases last : index = items.length
  · subst last
    simp
  · have before : index < items.length := by omega
    have away : (start + index) % capacity ≠ (start + items.length) % capacity := fun same =>
      last (cell_inj (by omega) room same)
    rw [Function.update_of_ne away, lies index before, List.getElem_append_left before]

/-- The first item is changed where it lies. -/
theorem change (lies : Lies cells capacity start (item :: items))
    (few : items.length < capacity) (new : α) :
    Lies (Function.update cells (start % capacity) new) capacity start (new :: items) := by
  intro index within
  rw [List.length_cons] at within
  cases index with
  | zero => simp
  | succ index =>
      have away : (start + (index + 1)) % capacity ≠ start % capacity := fun same =>
        Nat.succ_ne_zero index (cell_inj (by omega) (by omega) same)
      rw [Function.update_of_ne away, lies (index + 1) (by rw [List.length_cons]; omega)]
      rfl

/-- A cell in which no item lies may be written. -/
theorem outside (lies : Lies cells capacity start items) {place : Nat}
    (away : ∀ index < items.length, place ≠ (start + index) % capacity) (new : α) :
    Lies (Function.update cells place new) capacity start items := by
  intro index within
  rw [Function.update_of_ne (away index within).symm, lies index within]

/-- What lies before the end of the ring is read in one piece. -/
theorem piece (lies : Lies cells capacity start items) {count : Nat} (few : count ≤ items.length)
    (inside : start % capacity + count ≤ capacity) :
    (List.range count).map (fun offset => cells (start % capacity + offset)) =
      items.take count := by
  apply List.ext_getElem
  · simp [few]
  intro offset within _
  rw [List.length_map, List.length_range] at within
  have place : (start + offset) % capacity = start % capacity + offset := by
    rw [← Nat.mod_add_mod, Nat.mod_eq_of_lt (by omega)]
  rw [List.getElem_map, List.getElem_range, ← place, lies offset (by omega), List.getElem_take]

end Lies

end Ring
