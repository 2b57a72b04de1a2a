import Mathlib.Data.List.ReduceOption

/-!
# Walking over a hash table

A hash table with open addressing is a row of slots, and an iterator over it is a
position in the row. While the row stays as it is, the iterator comes by every
entry once. A row that is laid out anew has its entries elsewhere, and the
position says nothing about it.
-/

universe u

namespace Cursor

variable {α : Type u}

/-- The first entry of a row, with the number of slots that it takes to get past it. -/
def scan : List (Option α) → Option (α × Nat)
  | [] => none
  | some entry :: _ => some (entry, 1)
  | none :: slots => (scan slots).map fun found => (found.1, found.2 + 1)

/-- The next entry from a position on, and the position after it. -/
def next (slots : List (Option α)) (index : Nat) : Option (α × Nat) :=
  (scan (slots.drop index)).map fun found => (found.1, index + found.2)

/-- The entries that have been come by at a position. -/
def passed (slots : List (Option α)) (index : Nat) : List α := (slots.take index).reduceOption

theorem scan_eq_none {slots : List (Option α)} (none_ : scan slots = none) :
    slots.reduceOption = [] := by
  induction slots with
  | nil => rfl
  | cons slot slots ih =>
      cases slot with
      | none => exact ih (Option.map_eq_none_iff.mp none_)
      | some entry => cases none_

theorem scan_eq_some {slots : List (Option α)} {entry : α} {count : Nat}
    (found : scan slots = some (entry, count)) : (slots.take count).reduceOption = [entry] := by
  induction slots generalizing count with
  | nil => cases found
  | cons slot slots ih =>
      cases slot with
      | none =>
          obtain ⟨⟨own, before⟩, first, same⟩ := Option.map_eq_some_iff.mp found
          obtain ⟨rfl, rfl⟩ := Prod.mk.inj same
          exact ih first
      | some own =>
          cases found
          rfl

/-- An iterator that has come to its end has come by every entry. -/
theorem passed_of_next_none {slots : List (Option α)} {index : Nat}
    (ended : next slots index = none) : passed slots index = slots.reduceOption := by
  have rest := scan_eq_none (Option.map_eq_none_iff.mp ended)
  calc passed slots index
      = (slots.take index).reduceOption ++ (slots.drop index).reduceOption := by
        rw [rest, List.append_nil, passed]
    _ = slots.reduceOption := by
        rw [← List.reduceOption_append, List.take_append_drop]

theorem passed_of_next_some {slots : List (Option α)} {index position : Nat} {entry : α}
    (found : next slots index = some (entry, position)) :
    passed slots position = passed slots index ++ [entry] := by
  obtain ⟨⟨own, count⟩, first, same⟩ := Option.map_eq_some_iff.mp found
  obtain ⟨rfl, rfl⟩ := Prod.mk.inj same
  rw [passed, List.take_add, List.reduceOption_append, scan_eq_some first, passed]

theorem passed_isPrefix (slots : List (Option α)) (index : Nat) :
    passed slots index <+: slots.reduceOption := by
  have parts := List.reduceOption_append (slots.take index) (slots.drop index)
  rw [List.take_append_drop] at parts
  exact parts ▸ List.prefix_append _ _

/-- One place further on, the entry of the place has been come by, if there is one. -/
theorem passed_succ {slots : List (Option α)} {index : Nat} {slot : Option α}
    (held : slots[index]? = some slot) :
    passed slots (index + 1) = passed slots index ++ slot.toList := by
  rw [passed, List.take_add_one, List.reduceOption_append, held, passed]
  cases slot <;> rfl

theorem passed_prefix {slots : List (Option α)} {index further : Nat} (forward : index ≤ further) :
    passed slots index <+: passed slots further := by
  obtain ⟨count, rfl⟩ := Nat.exists_eq_add_of_le forward
  rw [passed, passed, List.take_add, List.reduceOption_append]
  exact List.prefix_append _ _

end Cursor
