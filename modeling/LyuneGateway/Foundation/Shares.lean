import LyuneGateway.Foundation.Quota
import LyuneGateway.Lib.Run
import Mathlib.Algebra.BigOperators.Group.Finset.Basic

/-!
# Fairness of the shares

A realm asks before it takes a unit, and gives back only what it took. Over any
such run the counters agree with what is held, nobody who holds nothing is
locked out of a pool that has room, and who is over its share stays refused
until something is given back.
-/

namespace LyuneGateway.Foundation

namespace Quota

variable {quota : Quota} {realm other : RealmId} {realms : List RealmId}

theorem allows_untracked (untracked : quota.tracked ≤ realm) : quota.allows realm = true :=
  if_pos untracked

theorem acquire_untracked (untracked : quota.tracked ≤ realm) : quota.acquire realm = quota :=
  if_pos untracked

theorem release_untracked (untracked : quota.tracked ≤ realm) : quota.release realm = quota :=
  if_pos untracked

theorem allows_below (below : quota.total * 100 < quota.capacity * quota.watermarkPercent)
    (realm : RealmId) : quota.allows realm = true := by
  unfold allows
  split
  · rfl
  · rfl

/-- What a tracked realm may hold once the watermark is reached. -/
def share (quota : Quota) : Nat := quota.capacity / max quota.activeRealms 1

theorem allows_above (known : realm < quota.tracked)
    (full : quota.capacity * quota.watermarkPercent ≤ quota.total * 100) :
    quota.allows realm = true ↔ quota.counts realm < quota.share := by
  rw [allows, if_neg (not_le.mpr known), if_neg (not_lt.mpr full), decide_eq_true_iff, share]

/-- The watermark is reached, and the realm has its share or more. -/
structure Refuses (quota : Quota) (realm : RealmId) : Prop where
  known : realm < quota.tracked
  full : quota.capacity * quota.watermarkPercent ≤ quota.total * 100
  spent : quota.share ≤ quota.counts realm

theorem Refuses.allows (refuses : quota.Refuses realm) : quota.allows realm = false := by
  rw [Bool.eq_false_iff, Ne, allows_above refuses.known refuses.full]
  exact not_lt.mpr refuses.spent

/-- Whoever takes a unit, nobody's share grows by it. -/
theorem Refuses.acquire (refuses : quota.Refuses realm) (taker : RealmId) :
    (quota.acquire taker).Refuses realm := by
  unfold Quota.acquire
  split
  · exact refuses
  obtain ⟨known, full, spent⟩ := refuses
  refine ⟨known, ?_, ?_⟩
  · show quota.capacity * quota.watermarkPercent ≤ (quota.total + 1) * 100
    omega
  · have smaller : quota.capacity / max (if quota.counts taker = 0 then quota.activeRealms + 1
        else quota.activeRealms) 1 ≤ quota.share := by
      apply Nat.div_le_div_left
      · split <;> omega
      · omega
    refine (smaller.trans spent).trans ?_
    by_cases same : realm = taker
    · simp [same]
    · simp [same]

namespace Holds

/-- Realms that hold nothing are not counted. -/
theorem absent (holds : quota.Holds realms) : quota.counts realm ≠ 0 ↔ realm ∈ realms := by
  rw [holds.counts, Ne, List.count_eq_zero, not_not]

theorem sum_counts (holds : quota.Holds realms) :
    ∑ realm ∈ Finset.range quota.tracked, quota.counts realm = quota.total := by
  have inside : realms.toFinset ⊆ Finset.range quota.tracked := fun realm listed =>
    Finset.mem_range.mpr (holds.tracked realm (List.mem_toFinset.mp listed))
  rw [holds.total, ← List.sum_toFinset_count_eq_length]
  refine (Finset.sum_congr rfl fun realm _ => holds.counts realm).trans
    (Finset.sum_subset inside fun realm _ outside => ?_).symm
  exact List.count_eq_zero_of_not_mem fun listed => outside (List.mem_toFinset.mpr listed)

theorem active_eq (holds : quota.Holds realms) : quota.activeRealms =
    ((Finset.range quota.tracked).filter fun realm => quota.counts realm ≠ 0).card := by
  rw [holds.active]
  congr 1
  ext realm
  rw [List.mem_toFinset, Finset.mem_filter, Finset.mem_range, holds.absent]
  exact ⟨fun listed => ⟨holds.tracked realm listed, listed⟩, And.right⟩

/-- No more realms are active than units are taken. -/
theorem active_le (holds : quota.Holds realms) : quota.activeRealms ≤ quota.total := by
  rw [holds.active, holds.total]
  exact List.toFinset_card_le realms

theorem counts_le (holds : quota.Holds realms) (realm : RealmId) :
    quota.counts realm ≤ quota.total := by
  rw [holds.counts, holds.total]
  exact List.count_le_length

/-- A realm that holds nothing is let into a pool that has room. -/
theorem allows_newcomer (holds : quota.Holds realms) (nothing : quota.counts realm = 0)
    (room : quota.total < quota.capacity) : quota.allows realm = true := by
  by_cases known : realm < quota.tracked
  · by_cases below : quota.total * 100 < quota.capacity * quota.watermarkPercent
    · exact allows_below below realm
    rw [allows_above known (not_lt.mp below), nothing]
    have few := holds.active_le
    exact Nat.div_pos (by omega) (by omega)
  · exact allows_untracked (not_lt.mp known)

/-- Who is refused though there is room has used up a share, and holds something. -/
theorem refuses (holds : quota.Holds realms) (room : quota.total < quota.capacity)
    (refused : quota.allows realm = false) : quota.Refuses realm ∧ quota.counts realm ≠ 0 := by
  have known : realm < quota.tracked := by
    by_contra untracked
    rw [allows_untracked (not_lt.mp untracked)] at refused
    cases refused
  have full : quota.capacity * quota.watermarkPercent ≤ quota.total * 100 := by
    by_contra below
    rw [allows_below (not_le.mp below)] at refused
    cases refused
  refine ⟨⟨known, full, ?_⟩, fun nothing => ?_⟩
  · rw [Bool.eq_false_iff, Ne, allows_above known full] at refused
    exact not_lt.mp refused
  · rw [holds.allows_newcomer nothing room] at refused
    cases refused

theorem active_pos (holds : quota.Holds realms) (listed : realm ∈ realms) :
    0 < quota.activeRealms := by
  rw [holds.active]
  exact Finset.card_pos.mpr ⟨realm, List.mem_toFinset.mpr listed⟩

end Holds

end Quota

/-- What a realm asks of a quota. -/
inductive Charge where
  | acquire (realm : RealmId)
  | release (realm : RealmId)
  deriving DecidableEq, Repr

/-- A quota and a list with one entry for each unit that a tracked realm has taken and not given
back. -/
structure Account where
  quota : Quota
  held : List RealmId := []

namespace Account

variable {account : Account} {call : Charge} {realm : RealmId} {calls : List Charge}

def opened (maxRealms capacity watermarkPercent : Nat) : Account where
  quota := Quota.init maxRealms capacity watermarkPercent

def step (account : Account) : Charge → Account
  | .acquire realm => {
      quota := account.quota.acquire realm
      held := if realm < account.quota.tracked then realm :: account.held else account.held }
  | .release realm => {
      quota := account.quota.release realm
      held := account.held.erase realm }

/-- A tracked realm takes what it is allowed and what there is, and gives back what it took. -/
def Permits (account : Account) : Charge → Prop
  | .acquire realm => realm < account.quota.tracked →
      account.quota.allows realm = true ∧ account.quota.total < account.quota.capacity
  | .release realm => realm < account.quota.tracked → realm ∈ account.held

instance (account : Account) : (call : Charge) → Decidable (account.Permits call)
  | .acquire _ => inferInstanceAs (Decidable (_ → _ ∧ _))
  | .release _ => inferInstanceAs (Decidable (_ → _))

/-- The counters agree with what is held, and no more is held than there is. -/
structure Sound (account : Account) : Prop where
  holds : account.quota.Holds account.held
  bounded : account.quota.total ≤ account.quota.capacity

@[simp] theorem limits_step (account : Account) (call : Charge) :
    (account.step call).quota.limits = account.quota.limits := by
  cases call with
  | acquire realm => exact Quota.limits_acquire _ _
  | release realm => exact Quota.limits_release _ _

theorem capacity_step (account : Account) (call : Charge) :
    (account.step call).quota.capacity = account.quota.capacity :=
  congrArg (fun limits => limits.2.1) (limits_step account call)

theorem Sound.opened (maxRealms capacity watermarkPercent : Nat) :
    (opened maxRealms capacity watermarkPercent).Sound :=
  ⟨Quota.Holds.init _ _ _, Nat.zero_le _⟩

theorem Sound.step (sound : account.Sound) (permits : account.Permits call) :
    (account.step call).Sound := by
  obtain ⟨holds, bounded⟩ := sound
  cases call with
  | acquire realm =>
      by_cases known : realm < account.quota.tracked
      · have taken : (account.quota.acquire realm).total = account.quota.total + 1 := by
          rw [Quota.acquire, if_neg (not_le.mpr known)]
        have limit := capacity_step account (.acquire realm)
        have room := (permits known).2
        refine ⟨?_, ?_⟩
        · simp only [Account.step, known, if_true]
          exact holds.acquire known
        · simp only [Account.step] at limit ⊢
          omega
      · simp only [Account.step, known, if_false, Quota.acquire_untracked (not_lt.mp known)]
        exact ⟨holds, bounded⟩
  | release realm =>
      by_cases known : realm < account.quota.tracked
      · have back : (account.quota.release realm).Holds (account.held.erase realm) :=
          (holds.perm (List.perm_cons_erase (permits known))).release
        have limit := capacity_step account (.release realm)
        have fewer := back.total
        have before := holds.total
        have shorter := @List.length_erase_le _ _ realm account.held
        refine ⟨back, ?_⟩
        simp only [Account.step] at limit ⊢
        omega
      · have absent : realm ∉ account.held := fun listed => known (holds.tracked realm listed)
        simp only [Account.step, Quota.release_untracked (not_lt.mp known),
          List.erase_of_not_mem absent]
        exact ⟨holds, bounded⟩

theorem sound_run (sound : account.Sound) (proper : Run.Meets step Permits account calls) :
    (Run.final step account calls).Sound :=
  Run.invariant (fun _ _ => Sound.step) sound proper

theorem limits_run (proper : Run.Meets step Permits account calls) :
    (Run.final step account calls).quota.limits = account.quota.limits :=
  Run.Reaches.preserves (fun account : Account => account.quota.limits)
    (fun account call _ => limits_step account call) ⟨calls, proper, rfl⟩

/-- Nothing a tracked realm has taken is given back. -/
def NoReturn (account : Account) : Charge → Prop
  | .acquire _ => True
  | .release realm => account.quota.tracked ≤ realm

/-- Who is refused stays refused until something is given back. -/
theorem refuses_run (refuses : account.quota.Refuses realm)
    (onward : Run.Meets step NoReturn account calls) :
    (Run.final step account calls).quota.Refuses realm := by
  refine @Run.invariant _ _ _ _ (fun account => account.quota.Refuses realm) ?_ calls _
    refuses onward
  intro account call refuses kept
  cases call with
  | acquire taker => exact refuses.acquire taker
  | release giver =>
      rw [show account.step (.release giver) = { account with
        quota := account.quota, held := account.held.erase giver } by
          simp only [step, Quota.release_untracked kept]]
      exact refuses

end Account

/-- What holds of a quota at every point of a run. -/
structure Quota.Fair (quota : Quota) : Prop where
  sum : ∑ realm ∈ Finset.range quota.tracked, quota.counts realm = quota.total
  bounded : quota.total ≤ quota.capacity
  active : quota.activeRealms =
    ((Finset.range quota.tracked).filter fun realm => quota.counts realm ≠ 0).card
  newcomer : ∀ realm, quota.counts realm = 0 → quota.total < quota.capacity →
    quota.allows realm = true
  burst : quota.total * 100 < quota.capacity * quota.watermarkPercent →
    ∀ realm, quota.allows realm = true
  untracked : ∀ realm, quota.tracked ≤ realm →
    quota.allows realm = true ∧ quota.acquire realm = quota ∧ quota.release realm = quota
  divisor : max quota.activeRealms 1 ≠ 0

theorem Quota.Holds.fair {quota : Quota} {realms : List RealmId} (holds : quota.Holds realms)
    (bounded : quota.total ≤ quota.capacity) : quota.Fair where
  sum := holds.sum_counts
  bounded := bounded
  active := holds.active_eq
  newcomer := fun _ nothing room => holds.allows_newcomer nothing room
  burst := Quota.allows_below
  untracked := fun _ untracked => ⟨Quota.allows_untracked untracked,
    Quota.acquire_untracked untracked, Quota.release_untracked untracked⟩
  divisor := by omega

/-- A run in which tracked realms take only what they are allowed and what there is, and give back
only what they took, keeps the quota fair. Who has its share at or above the watermark is refused
until something is given back. Whatever is given back next, no counter is at zero; and what is
taken next fits the counters if the capacity does. -/
theorem shares_are_fair (maxRealms capacity watermarkPercent : Nat) (calls : List Charge)
    (proper : Run.Meets Account.step Account.Permits
      (Account.opened maxRealms capacity watermarkPercent) calls) :
    let account := Run.final Account.step (Account.opened maxRealms capacity watermarkPercent) calls
    account.quota.Fair ∧
      (∀ realm < account.quota.tracked,
        account.quota.capacity * account.quota.watermarkPercent ≤ account.quota.total * 100 →
        account.quota.capacity / max account.quota.activeRealms 1 ≤ account.quota.counts realm →
        ∀ more, Run.Meets Account.step Account.NoReturn account more →
          (Run.final Account.step account more).quota.allows realm = false) ∧
      (∀ realm < account.quota.tracked, account.Permits (.release realm) →
        0 < account.quota.counts realm ∧ 0 < account.quota.total ∧
          0 < account.quota.activeRealms) ∧
      (account.quota.capacity < 2 ^ 32 →
        account.quota.total * 100 < 2 ^ 64 ∧
        account.quota.capacity * account.quota.watermarkPercent < 2 ^ 64 ∧
        ∀ realm < account.quota.tracked, account.Permits (.acquire realm) →
          account.quota.counts realm + 1 < 2 ^ 32) := by
  intro account
  have sound : account.Sound := Account.sound_run (Account.Sound.opened _ _ _) proper
  refine ⟨sound.holds.fair sound.bounded, ?_, ?_, ?_⟩
  · intro realm known full spent more onward
    exact (Account.refuses_run ⟨known, full, spent⟩ onward).allows
  · intro realm known permits
    have listed := permits known
    have counted := sound.holds.absent.mpr listed
    have below := sound.holds.counts_le realm
    exact ⟨Nat.pos_of_ne_zero counted, by omega, sound.holds.active_pos listed⟩
  · intro narrow
    have bounded := sound.bounded
    have percent : account.quota.watermarkPercent ≤ 100 := by
      have same := congrArg (fun limits => limits.2.2) (Account.limits_run proper)
      exact (show account.quota.watermarkPercent = min watermarkPercent 100 from same) ▸
        Nat.min_le_right _ _
    refine ⟨by omega, ?_, ?_⟩
    · calc account.quota.capacity * account.quota.watermarkPercent
          ≤ account.quota.capacity * 100 := Nat.mul_le_mul_left _ percent
        _ < 2 ^ 64 := by omega
    · intro realm known permits
      have room := (permits known).2
      have below := sound.holds.counts_le realm
      omega

/-- One realm up to the watermark of a small pool, then another, a refusal and a return. -/
theorem shares_are_fair_pair :
    let calls : List Charge := [.acquire 1, .acquire 1, .acquire 1, .acquire 2, .acquire 9,
      .release 1, .acquire 2]
    (Run.final Account.step (Account.opened 8 4 70) calls).quota.Fair := by
  intro calls
  exact (shares_are_fair 8 4 70 calls (by decide)).1

end LyuneGateway.Foundation
