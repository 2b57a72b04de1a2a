import Mathlib.Data.Finsupp.Basic

/-!
# Totals over many holders

Each of any number of holders has an amount, and only finitely many have any.
A tally says what all amounts come to.
-/

/-- The amounts come to the total. -/
def Tally {ι : Type} (amount : ι → Nat) (total : Nat) : Prop :=
  ∃ held : ι →₀ Nat, ⇑held = amount ∧ held.sum (fun _ amount => amount) = total

namespace Tally

variable {ι : Type} {amount : ι → Nat} {total : Nat}

theorem zero : Tally (fun _ : ι => 0) 0 := ⟨0, rfl, Finsupp.sum_zero_index⟩

/-- One holder's amount changes, and the total by as much. -/
theorem update [DecidableEq ι] (tally : Tally amount total) (holder : ι) {new after : Nat}
    (balance : after + amount holder = total + new) :
    Tally (Function.update amount holder new) after := by
  obtain ⟨held, rfl, rfl⟩ := tally
  refine ⟨held.update holder new, Finsupp.coe_update held holder new, ?_⟩
  have moved := Finsupp.sum_update_add held holder new (fun _ amount => amount)
    (fun _ => rfl) fun _ _ _ => rfl
  omega

theorem eq_zero (tally : Tally amount total) (none : ∀ holder, amount holder = 0) : total = 0 := by
  obtain ⟨held, rfl, rfl⟩ := tally
  obtain rfl : held = 0 := Finsupp.ext none
  exact Finsupp.sum_zero_index

/-- No holder has more than the total. -/
theorem le (tally : Tally amount total) (holder : ι) : amount holder ≤ total := by
  classical
  obtain ⟨held, rfl, rfl⟩ := tally
  have moved := Finsupp.sum_update_add held holder 0 (fun _ amount => amount)
    (fun _ => rfl) fun _ _ _ => rfl
  omega

end Tally
