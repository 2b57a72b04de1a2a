import Mathlib.Data.List.Infix

/-!
# Slabs that only grow

A slab is a fixed number of slots, of which the first ones are published. A
writer fills the next slot and then publishes it; what is published is never
written again. So whoever reads the length first, and the slots below it later,
reads what everyone reads.
-/

universe u

structure Slab (α : Type u) where
  slots : List α
  len : Nat
  fits : len ≤ slots.length

namespace Slab

variable {α : Type u} {slab middle after : Slab α}

/-- The published part. -/
def entries (slab : Slab α) : List α := slab.slots.take slab.len

def full (slab : Slab α) : Bool := slab.len = slab.slots.length

/-- Write to the slot that comes next. -/
def write (slab : Slab α) (value : α) : Slab α where
  slots := slab.slots.set slab.len value
  len := slab.len
  fits := by simpa using slab.fits

/-- Publish the slot that comes next. -/
def publish (slab : Slab α) : Slab α where
  slots := slab.slots
  len := min (slab.len + 1) slab.slots.length
  fits := Nat.min_le_right _ _

def push (slab : Slab α) (value : α) : Slab α := (slab.write value).publish

@[simp] theorem length_entries (slab : Slab α) : slab.entries.length = slab.len := by
  rw [entries, List.length_take, Nat.min_eq_left slab.fits]

@[simp] theorem entries_write (slab : Slab α) (value : α) :
    (slab.write value).entries = slab.entries := by
  simp [entries, write, List.take_set_of_le]

@[simp] theorem length_slots_push (slab : Slab α) (value : α) :
    (slab.push value).slots.length = slab.slots.length := by
  simp [push, publish, write]

theorem lt_of_not_full (room : slab.full = false) : slab.len < slab.slots.length := by
  have fits := slab.fits
  simp only [full, decide_eq_false_iff_not] at room
  omega

theorem len_push (room : slab.full = false) (value : α) :
    (slab.push value).len = slab.len + 1 := by
  have below := lt_of_not_full room
  simp only [push, publish, write, List.length_set]
  omega

theorem entries_push (room : slab.full = false) (value : α) :
    (slab.push value).entries = slab.entries ++ [value] := by
  have below := lt_of_not_full room
  have published : min (slab.len + 1) slab.slots.length = slab.len + 1 := by omega
  simp [entries, push, publish, write, published, List.take_add_one, List.take_set_of_le, below]

/-- Everything published stays, in its place. -/
def Extends (slab after : Slab α) : Prop := slab.entries <+: after.entries

namespace Extends

theorem refl : Extends slab slab := List.prefix_rfl

theorem trans (first : Extends slab middle) (second : Extends middle after) : Extends slab after :=
  List.IsPrefix.trans first second

theorem write (value : α) : Extends slab (slab.write value) := by
  rw [Extends, entries_write]

theorem push (value : α) : Extends slab (slab.push value) := by
  unfold Extends
  cases room : slab.full with
  | false =>
      rw [entries_push room]
      exact List.prefix_append _ _
  | true =>
      have full : slab.len = slab.slots.length := by simpa [Slab.full] using room
      have same : (slab.push value).entries = slab.entries := by
        simp [entries, Slab.push, publish, Slab.write, full, List.set_eq_of_length_le]
      rw [same]

/-- Writing the next slot again loses nothing. -/
theorem rewrite_ (value other : α) : Extends (slab.write value) (slab.write other) := by
  rw [Extends, entries_write, entries_write]

theorem publish (value : α) : Extends (slab.write value) (slab.push value) := by
  rw [Extends, entries_write]
  exact push value

theorem len_le (extends_ : Extends slab after) : slab.len ≤ after.len := by
  have shorter := extends_.length_le
  simpa using shorter

/-- A slot below a length that was read holds the same when it is read later, and in the end. -/
theorem slot (extends_ : Extends slab middle) (ends : Extends slab after) {i : Nat}
    (below : i < slab.len) :
    ∃ value, middle.slots[i]? = some value ∧ after.entries[i]? = some value := by
  have longer := extends_.len_le
  have listed : i < slab.entries.length := by simpa using below
  obtain ⟨more, continues⟩ := extends_
  obtain ⟨rest, finishes⟩ := ends
  refine ⟨slab.entries[i], ?_, ?_⟩
  · have kept : middle.entries[i]? = some slab.entries[i] := by
      rw [← continues, List.getElem?_append_left listed, List.getElem?_eq_getElem listed]
    rw [entries, List.getElem?_take_of_lt (Nat.lt_of_lt_of_le below longer)] at kept
    exact kept
  · rw [← finishes, List.getElem?_append_left listed, List.getElem?_eq_getElem listed]

end Extends

end Slab
