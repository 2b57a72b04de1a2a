import Mathlib.Data.Finset.Insert

/-!
# A bitmap over the numbers below the highest one

Bit `age` of the map stands for the number `age` below the highest number that
was marked. The map forgets what lies a whole width below, and nothing else.
-/

namespace Bitmap

variable {width : Nat}

/-- The map shows which numbers are marked, as far down as it reaches. -/
structure Marks (highest : Nat) (seen : BitVec width) (marked : Finset Nat) : Prop where
  top : highest ∈ marked
  bounded : ∀ number ∈ marked, number ≤ highest
  shown : ∀ age, age < width → age ≤ highest →
    (seen.getLsbD age = true ↔ highest - age ∈ marked)

/-- One marked number and nothing below it. -/
theorem Marks.singleton (positive : 0 < width) (number : Nat) :
    Marks number (BitVec.ofNat width 1) {number} where
  top := Finset.mem_singleton_self number
  bounded other marked := (Finset.mem_singleton.mp marked).le
  shown age reached below := by
    simp only [BitVec.getLsbD_one, Finset.mem_singleton]
    simp [positive]
    omega

/-- The bit of an age, tested by a mask. -/
theorem test_mask (seen : BitVec width) {age : Nat} (reached : age < width) :
    seen &&& (BitVec.ofNat width 1 <<< age) ≠ BitVec.ofNat width 0 ↔ seen.getLsbD age = true := by
  rw [← BitVec.twoPow_eq, BitVec.and_twoPow]
  by_cases marked : seen.getLsbD age = true
  · simp only [marked, if_true, iff_true, ne_eq]
    intro empty
    have bit := congrArg (fun bits => bits.getLsbD age) empty
    simp [reached] at bit
  · simp [marked]

namespace Marks

variable {highest number : Nat} {seen : BitVec width} {marked : Finset Nat}

/-- A new highest number moves every mark up by the distance. -/
theorem advance (marks : Marks highest seen marked) (above : highest < number)
    (near : number - highest < width) :
    Marks number (seen <<< (number - highest) ||| BitVec.ofNat width 1) (insert number marked) where
  top := Finset.mem_insert_self number marked
  bounded other listed := by
    obtain rfl | listed := Finset.mem_insert.mp listed
    · exact le_rfl
    · exact (marks.bounded other listed).trans above.le
  shown age reached below := by
    have positive : 0 < width := by omega
    simp only [BitVec.getLsbD_or, BitVec.getLsbD_shiftLeft, BitVec.getLsbD_one,
      Finset.mem_insert, Bool.or_eq_true, Bool.and_eq_true, decide_eq_true_eq,
      Bool.not_eq_true', decide_eq_false_iff_not, positive, reached, true_and]
    obtain rfl | later := Nat.eq_zero_or_pos age
    · simp
    by_cases skipped : age < number - highest
    · -- between the old highest number and the new one nothing is marked
      have unmarked : number - age ∉ marked := fun listed => by
        have := marks.bounded _ listed
        omega
      simp only [skipped, not_true, false_and, false_or, unmarked, or_false]
      omega
    · have same : number - age = highest - (age - (number - highest)) := by omega
      have shown := marks.shown (age - (number - highest)) (by omega) (by omega)
      rw [same, ← shown]
      have notNew : highest - (age - (number - highest)) ≠ number := by omega
      simp only [skipped, not_false_eq_true, true_and, later.ne', or_false, notNew, false_or]

/-- A jump over the whole width leaves only the new number in reach. -/
theorem jump (marks : Marks highest seen marked) (positive : 0 < width)
    (far : width ≤ number - highest) :
    Marks number (BitVec.ofNat width 1) (insert number marked) where
  top := Finset.mem_insert_self number marked
  bounded other listed := by
    obtain rfl | listed := Finset.mem_insert.mp listed
    · exact le_rfl
    · have := marks.bounded other listed
      omega
  shown age reached below := by
    have unmarked : number - age ∉ marked := fun listed => by
      have := marks.bounded _ listed
      omega
    simp only [BitVec.getLsbD_one, Finset.mem_insert, unmarked, or_false]
    simp [positive]
    omega

/-- Marking a number within reach sets its bit. -/
theorem mark (marks : Marks highest seen marked) (below : number ≤ highest)
    (near : highest - number < width) :
    Marks highest (seen ||| BitVec.ofNat width 1 <<< (highest - number)) (insert number marked) where
  top := Finset.mem_insert_of_mem marks.top
  bounded other listed := by
    obtain rfl | listed := Finset.mem_insert.mp listed
    · exact below
    · exact marks.bounded other listed
  shown age reached old := by
    rw [← BitVec.twoPow_eq]
    simp only [BitVec.getLsbD_or, BitVec.getLsbD_twoPow, Bool.or_eq_true, Finset.mem_insert,
      marks.shown age reached old]
    have same : highest - number = age ↔ highest - age = number := by omega
    simp only [near, decide_true, Bool.true_and, decide_eq_true_eq, same]
    exact or_comm

end Marks

end Bitmap
