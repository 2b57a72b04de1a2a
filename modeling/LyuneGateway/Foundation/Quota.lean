import Mathlib.Data.Finset.Card
import Mathlib.Data.Finset.Dedup
import Mathlib.Logic.Function.Basic
import LyuneGateway.Protocol.Frame

/-!
# Shares of a bounded resource

Below a watermark every realm may take what it asks for. Above it a realm is
held to an equal share of the capacity among the realms that hold anything.
-/

namespace LyuneGateway.Foundation

def maxTrackedRealms : Nat := 1024
def defaultWatermarkPercent : Nat := 70

structure Quota where
  counts : RealmId → Nat
  tracked : Nat
  capacity : Nat
  total : Nat
  activeRealms : Nat
  watermarkPercent : Nat

namespace Quota

def init (maxRealms capacity watermarkPercent : Nat) : Quota where
  counts := fun _ => 0
  tracked := max maxRealms 1
  capacity := max capacity 1
  total := 0
  activeRealms := 0
  watermarkPercent := min watermarkPercent 100

def allows (quota : Quota) (realm : RealmId) : Bool :=
  if quota.tracked ≤ realm then true
  else if quota.total * 100 < quota.capacity * quota.watermarkPercent then true
  else quota.counts realm < quota.capacity / max quota.activeRealms 1

def acquire (quota : Quota) (realm : RealmId) : Quota :=
  if quota.tracked ≤ realm then quota
  else { quota with
    activeRealms := if quota.counts realm = 0 then quota.activeRealms + 1 else quota.activeRealms
    counts := Function.update quota.counts realm (quota.counts realm + 1)
    total := quota.total + 1 }

def release (quota : Quota) (realm : RealmId) : Quota :=
  if quota.tracked ≤ realm then quota
  else if quota.counts realm = 0 then quota
  else { quota with
    activeRealms := if quota.counts realm = 1 then quota.activeRealms - 1 else quota.activeRealms
    counts := Function.update quota.counts realm (quota.counts realm - 1)
    total := quota.total - 1 }

/-- The quota counts one unit for each realm of the list, and nothing else. -/
structure Holds (quota : Quota) (realms : List RealmId) : Prop where
  tracked : ∀ realm ∈ realms, realm < quota.tracked
  counts : ∀ realm, quota.counts realm = realms.count realm
  total : quota.total = realms.length
  active : quota.activeRealms = realms.toFinset.card

namespace Holds

variable {quota : Quota} {realm : RealmId} {realms others : List RealmId}

theorem init (maxRealms capacity watermarkPercent : Nat) :
    (Quota.init maxRealms capacity watermarkPercent).Holds [] where
  tracked := by simp
  counts := fun _ => rfl
  total := rfl
  active := rfl

theorem perm (holds : quota.Holds realms) (same : realms.Perm others) : quota.Holds others where
  tracked := fun realm listed => holds.tracked realm (same.mem_iff.mpr listed)
  counts := fun realm => (holds.counts realm).trans (same.count_eq realm)
  total := holds.total.trans same.length_eq
  active := holds.active.trans (congrArg Finset.card (List.toFinset_eq_of_perm _ _ same))

theorem acquire (holds : quota.Holds realms) (known : realm < quota.tracked) :
    (quota.acquire realm).Holds (realm :: realms) := by
  rw [Quota.acquire, if_neg (not_le.mpr known)]
  constructor
  · intro other listed
    obtain rfl | listed := List.mem_cons.mp listed
    · exact known
    · exact holds.tracked other listed
  · intro other
    by_cases same : other = realm
    · subst same
      simp [holds.counts]
    · have different : realm ≠ other := Ne.symm same
      simp [same, different, holds.counts]
  · simp [holds.total]
  · simp only [List.toFinset_cons, holds.counts, holds.active]
    by_cases listed : realm ∈ realms
    · have counted : realms.count realm ≠ 0 := (List.count_pos_iff.mpr listed).ne'
      rw [if_neg counted, Finset.insert_eq_of_mem (List.mem_toFinset.mpr listed)]
    · rw [if_pos (List.count_eq_zero_of_not_mem listed),
        Finset.card_insert_of_notMem (by simpa using listed)]

theorem release (holds : quota.Holds (realm :: realms)) : (quota.release realm).Holds realms := by
  have known : realm < quota.tracked := holds.tracked realm List.mem_cons_self
  have counted : quota.counts realm = realms.count realm + 1 := by
    simp [holds.counts]
  rw [Quota.release, if_neg (not_le.mpr known), if_neg (by omega)]
  constructor
  · exact fun other listed => holds.tracked other (List.mem_cons_of_mem _ listed)
  · intro other
    by_cases same : other = realm
    · subst same
      simp [counted]
    · have different : realm ≠ other := Ne.symm same
      simp [same, different, holds.counts]
  · simp [holds.total]
  · have active := holds.active
    rw [List.toFinset_cons] at active
    by_cases listed : realm ∈ realms
    · have several : 0 < realms.count realm := List.count_pos_iff.mpr listed
      rw [Finset.insert_eq_of_mem (List.mem_toFinset.mpr listed)] at active
      simp only [counted]
      rw [if_neg (by omega), active]
    · rw [Finset.card_insert_of_notMem (by simpa using listed)] at active
      simp only [counted, List.count_eq_zero_of_not_mem listed]
      rw [if_pos trivial, active, Nat.add_sub_cancel]

end Holds

/-- What a quota is set up with. -/
def limits (quota : Quota) : Nat × Nat × Nat :=
  (quota.tracked, quota.capacity, quota.watermarkPercent)

@[simp] theorem limits_acquire (quota : Quota) (realm : RealmId) :
    (quota.acquire realm).limits = quota.limits := by
  unfold acquire
  split <;> rfl

@[simp] theorem limits_release (quota : Quota) (realm : RealmId) :
    (quota.release realm).limits = quota.limits := by
  unfold release
  split
  · rfl
  split <;> rfl

theorem limits_foldl_release {α : Type} (realm : α → RealmId) (items : List α) (quota : Quota) :
    (items.foldl (fun quota item => quota.release (realm item)) quota).limits = quota.limits := by
  induction items generalizing quota with
  | nil => rfl
  | cons item items ih => exact (ih _).trans (limits_release _ _)

/-- Quotas with the same limits that count the same are the same. -/
theorem eq_of_holds {quota other : Quota} {realms : List RealmId} (holds : quota.Holds realms)
    (also : other.Holds realms) (limits : quota.limits = other.limits) : quota = other := by
  obtain ⟨counts, _, _, _, _, _⟩ := quota
  obtain ⟨others, _, _, _, _, _⟩ := other
  obtain ⟨-, counted, totalled, activated⟩ := holds
  obtain ⟨-, otherCounted, otherTotalled, otherActivated⟩ := also
  simp only [Quota.limits, Prod.mk.injEq] at limits
  obtain ⟨tracked, capacity, watermark⟩ := limits
  have same : counts = others :=
    funext fun realm => (counted realm).trans (otherCounted realm).symm
  rw [Quota.mk.injEq]
  exact ⟨same, tracked, capacity, totalled.trans otherTotalled.symm,
    activated.trans otherActivated.symm, watermark⟩

end Quota

end LyuneGateway.Foundation
