import LyuneGateway.Control.Coordinator
import LyuneGateway.Lib.Faulty
import Mathlib.Algebra.GroupWithZero.Nat
import Mathlib.Data.Finset.Card
import Mathlib.Data.Finset.Range

/-!
# The table of cluster members

Each node has a slot of four buffers, which take turns: a record is written to the
buffer after the published one, and its number is published then. Only the
protocol thread writes; it also counts the members and the active ones.
-/

namespace LyuneGateway.Membership

open Control (NodeStatus)

/-- An address with its port, both read as numbers. -/
inductive Address where
  | ip4 (host : Fin (2 ^ 32)) (port : Fin (2 ^ 16))
  | ip6 (host : Fin (2 ^ 128)) (port : Fin (2 ^ 16))
  deriving DecidableEq

instance hosts_ne_zero : NeZero (2 ^ 32 : Nat) := ⟨by decide⟩

instance longHosts_ne_zero : NeZero (2 ^ 128 : Nat) := ⟨by decide⟩

instance ports_ne_zero : NeZero (2 ^ 16 : Nat) := ⟨by decide⟩

structure Member where
  nodeId : Nat
  address : Address
  status : NodeStatus
  incarnation : Nat
  deriving DecidableEq

def Active (status : NodeStatus) : Prop := status = .alive ∨ status = .suspect

instance (status : NodeStatus) : Decidable (Active status) := inferInstanceAs (Decidable (_ ∨ _))

def bufferCount : Nat := 4

/-- The numbers of records are counted modulo this. -/
def sequenceRange : Nat := 2 ^ 32

/-- What a buffer holds; before it is written for the first time, the address is not defined. -/
structure Data where
  used : Bool := false
  address : Option Address := none
  status : NodeStatus := .alive
  incarnation : Nat := 0
  deriving DecidableEq

structure Slot where
  sequence : Nat := 0
  buffers : Nat → Data := fun _ => {}

namespace Slot

/-- The record that is published; none when the number is that of a slot never written. -/
def published (slot : Slot) : Option Data :=
  if slot.sequence = 0 then none else some (slot.buffers (slot.sequence % bufferCount))

def nextSequence (slot : Slot) : Nat := (slot.sequence + 1) % sequenceRange

/-- Write a record and publish it. -/
def publish (slot : Slot) (data : Data) : Slot where
  sequence := slot.nextSequence
  buffers := Function.update slot.buffers (slot.nextSequence % bufferCount) data

end Slot

def Member.data (member : Member) : Data where
  used := true
  address := some member.address
  status := member.status
  incarnation := member.incarnation

/-- The member that a record is about. -/
def Data.member (data : Data) (nodeId : Nat) : Option Member :=
  match data.used, data.address with
  | true, some address => some {
      nodeId := nodeId
      address := address
      status := data.status
      incarnation := data.incarnation }
  | _, _ => none

structure Table where
  capacity : Nat
  slots : Nat → Slot := fun _ => {}
  usedCount : Nat := 0
  activeCount : Nat := 0

/-- What stops the process: a number that leaves its range, or a value that is not there. -/
inductive Fault where
  | range
  | absent
  deriving DecidableEq

inductive UpsertResult where
  | inserted
  | updated
  deriving DecidableEq

namespace Table

/-- The current record of a node. -/
def get (table : Table) (nodeId : Nat) : Option Member :=
  if nodeId = 0 ∨ table.capacity ≤ nodeId then none
  else (table.slots nodeId).published.bind fun data => data.member nodeId

def isActive (table : Table) (nodeId : Nat) : Prop :=
  ∃ member, table.get nodeId = some member ∧ Active member.status

instance (table : Table) (nodeId : Nat) : Decidable (table.isActive nodeId) :=
  decidable_of_iff ((table.get nodeId).any fun member => Active member.status) (by
    rw [isActive]
    cases table.get nodeId <;> simp)

/-- Count one more, or one less, on sixteen bits. -/
def count16 (change : Table → Nat → Table) (view : Table → Nat) (up : Bool) : Faulty Fault Table Unit := do
  let count ← Faulty.read view
  if up then
    Faulty.require .range (count + 1 < 2 ^ 16)
    Faulty.modify fun table => change table (count + 1)
  else
    Faulty.require .range (0 < count)
    Faulty.modify fun table => change table (count - 1)

def countUsed : Faulty Fault Table Unit :=
  count16 (fun table count => { table with usedCount := count }) usedCount true

def countActive (up : Bool) : Faulty Fault Table Unit :=
  count16 (fun table count => { table with activeCount := count }) activeCount up

/-- Insert or replace the record of a node. -/
def upsert (member : Member) : Faulty Fault Table UpsertResult := do
  let table ← Faulty.self
  if member.nodeId = 0 ∨ table.capacity ≤ member.nodeId then Faulty.fail
  else
    let current := table.get member.nodeId
    let wasActive : Bool := table.isActive member.nodeId
    let nowActive : Bool := Active member.status
    Faulty.modify fun table => { table with
      slots := Function.update table.slots member.nodeId
        ((table.slots member.nodeId).publish member.data) }
    Faulty.when (current.isNone = true) countUsed
    Faulty.when (wasActive = true ∧ nowActive = false) (countActive false)
    Faulty.when (wasActive = false ∧ nowActive = true) (countActive true)
    pure (if current.isNone then .inserted else .updated)

/-- The table with a record replaced. -/
def written (table : Table) (member : Member) : Table where
  capacity := table.capacity
  slots := Function.update table.slots member.nodeId
    ((table.slots member.nodeId).publish member.data)
  usedCount := if (table.get member.nodeId).isNone then table.usedCount + 1 else table.usedCount
  activeCount :=
    if table.isActive member.nodeId then
      if Active member.status then table.activeCount else table.activeCount - 1
    else if Active member.status then table.activeCount + 1
    else table.activeCount

/-- The number of a slot can be counted up. -/
def Room (table : Table) (nodeId : Nat) : Prop :=
  (table.slots nodeId).sequence + 1 < sequenceRange

instance (table : Table) (nodeId : Nat) : Decidable (table.Room nodeId) :=
  inferInstanceAs (Decidable (_ < _))

def known (table : Table) : Finset Nat :=
  (Finset.range table.capacity).filter fun nodeId => (table.get nodeId).isSome

def active (table : Table) : Finset Nat :=
  (Finset.range table.capacity).filter table.isActive

/-- The counts are those of the members and of the active ones. -/
structure Counted (table : Table) : Prop where
  capacity : table.capacity < 2 ^ 16
  used : table.usedCount = table.known.card
  active : table.activeCount = table.active.card

variable {table : Table} {member : Member} {nodeId : Nat}

theorem get_valid (held : table.get nodeId = some member) :
    nodeId ≠ 0 ∧ nodeId < table.capacity := by
  unfold get at held
  split at held
  · cases held
  · rename_i valid
    omega

theorem get_written_self (valid : member.nodeId ≠ 0 ∧ member.nodeId < table.capacity)
    (room : table.Room member.nodeId) : (table.written member).get member.nodeId = some member := by
  have next : (table.slots member.nodeId).nextSequence =
      (table.slots member.nodeId).sequence + 1 := Nat.mod_eq_of_lt room
  have inside : ¬ (member.nodeId = 0 ∨ table.capacity ≤ member.nodeId) := by omega
  simp only [get, written, if_neg inside, Function.update_self, Slot.published, Slot.publish, next]
  rw [if_neg (by omega), Option.bind_some]
  rfl

/-- Where the number of the slot starts over, the member is not found any more. -/
theorem get_written_or (valid : member.nodeId ≠ 0 ∧ member.nodeId < table.capacity) :
    (table.written member).get member.nodeId = some member ∨
      (table.written member).get member.nodeId = none := by
  have inside : ¬ (member.nodeId = 0 ∨ table.capacity ≤ member.nodeId) := by omega
  simp only [get, written, if_neg inside, Function.update_self, Slot.published, Slot.publish]
  split
  · exact .inr rfl
  · exact .inl rfl

theorem get_congr {other : Table} (slots : other.slots = table.slots)
    (capacity : other.capacity = table.capacity) (nodeId : Nat) :
    other.get nodeId = table.get nodeId := by
  simp only [get, slots, capacity]

theorem get_written_ne (other : nodeId ≠ member.nodeId) :
    (table.written member).get nodeId = table.get nodeId := by
  simp [get, written, other]

theorem mem_known : nodeId ∈ table.known ↔ (table.get nodeId).isSome := by
  rw [known, Finset.mem_filter, Finset.mem_range, and_iff_right_iff_imp]
  intro held
  obtain ⟨member, held⟩ := Option.isSome_iff_exists.mp held
  exact (get_valid held).2

theorem mem_active : nodeId ∈ table.active ↔ table.isActive nodeId := by
  rw [active, Finset.mem_filter, Finset.mem_range, and_iff_right_iff_imp]
  rintro ⟨member, held, -⟩
  exact (get_valid held).2

theorem zero_notMem_known : 0 ∉ table.known := by
  rw [mem_known, get]
  simp

theorem active_subset_known : table.active ⊆ table.known := by
  intro nodeId listed
  obtain ⟨member, held, -⟩ := mem_active.mp listed
  simp [mem_known, held]

/-- There are fewer members than nodes, since no member has the id zero. -/
theorem card_known_lt (positive : 0 < table.capacity) : table.known.card < table.capacity := by
  have inside : table.known ⊆ (Finset.range table.capacity).erase 0 := by
    intro nodeId listed
    rw [Finset.mem_erase]
    refine ⟨?_, Finset.mem_of_mem_filter _ listed⟩
    rintro rfl
    exact zero_notMem_known listed
  have card := Finset.card_le_card inside
  rw [Finset.card_erase_of_mem (by simpa using positive), Finset.card_range] at card
  omega

theorem known_written (valid : member.nodeId ≠ 0 ∧ member.nodeId < table.capacity)
    (room : table.Room member.nodeId) :
    (table.written member).known = insert member.nodeId table.known := by
  ext nodeId
  rw [mem_known, Finset.mem_insert, mem_known]
  by_cases same : nodeId = member.nodeId
  · subst same
    simp [get_written_self valid room]
  · simp [get_written_ne same, same]

theorem active_written (valid : member.nodeId ≠ 0 ∧ member.nodeId < table.capacity)
    (room : table.Room member.nodeId) :
    (table.written member).active = if Active member.status then insert member.nodeId table.active
      else table.active.erase member.nodeId := by
  ext nodeId
  rw [mem_active, isActive]
  by_cases same : nodeId = member.nodeId
  · subst same
    rw [get_written_self valid room]
    split <;> rename_i status <;> simp [status]
  · rw [get_written_ne same]
    split <;> simp [same, mem_active, isActive]

theorem Counted.written (counted : table.Counted)
    (valid : member.nodeId ≠ 0 ∧ member.nodeId < table.capacity) (room : table.Room member.nodeId) :
    (table.written member).Counted where
  capacity := counted.capacity
  used := by
    rw [known_written valid room]
    by_cases absent : (table.get member.nodeId).isNone
    · rw [Finset.card_insert_of_notMem (by simpa [mem_known] using absent), ← counted.used]
      exact if_pos absent
    · rw [Finset.insert_eq_of_mem (by simpa [mem_known, Option.isSome_iff_ne_none] using absent),
        ← counted.used]
      exact if_neg absent
  active := by
    rw [active_written valid room]
    simp only [Table.written]
    by_cases was : table.isActive member.nodeId <;> by_cases now : Active member.status <;>
      simp only [was, now, if_true, if_false]
    · rw [Finset.insert_eq_of_mem (mem_active.mpr was), counted.active]
    · rw [Finset.card_erase_of_mem (mem_active.mpr was), counted.active]
    · rw [Finset.card_insert_of_notMem (mt mem_active.mp was), counted.active]
    · rw [Finset.erase_eq_of_notMem (mt mem_active.mp was), counted.active]

theorem countUsed_eq (few : table.usedCount + 1 < 2 ^ 16) :
    countUsed table = .done () { table with usedCount := table.usedCount + 1 } :=
  Faulty.require_bind few

theorem countActive_up (few : table.activeCount + 1 < 2 ^ 16) :
    countActive true table = .done () { table with activeCount := table.activeCount + 1 } :=
  Faulty.require_bind few

theorem countActive_down (some_ : 0 < table.activeCount) :
    countActive false table = .done () { table with activeCount := table.activeCount - 1 } :=
  Faulty.require_bind some_

/-- There is room in the counts for one member more, and for one less if there is one. -/
structure Spacious (table : Table) (nodeId : Nat) : Prop where
  used : table.usedCount + 1 < 2 ^ 16
  active : table.activeCount + 1 < 2 ^ 16
  held : table.isActive nodeId → 0 < table.activeCount

/-- There are fewer members than nodes. -/
theorem Counted.spacious (counted : table.Counted) (inside : nodeId < table.capacity) :
    table.Spacious nodeId := by
  have few := @card_known_lt table (by omega)
  have fewer := Finset.card_le_card (@active_subset_known table)
  have narrow := counted.capacity
  have used := counted.used
  have active := counted.active
  refine ⟨by omega, by omega, fun was => ?_⟩
  rw [counted.active]
  exact Finset.card_pos.mpr ⟨_, mem_active.mpr was⟩

/-- A record is replaced without a trap as long as there is room in the counts. -/
theorem upsert_eq (valid : member.nodeId ≠ 0 ∧ member.nodeId < table.capacity)
    (spacious : table.Spacious member.nodeId) :
    ∃ result, upsert member table = .done result (table.written member) := by
  have inside : ¬ (member.nodeId = 0 ∨ table.capacity ≤ member.nodeId) := by omega
  obtain ⟨more, moreActive, held⟩ := spacious
  let stored : Table := { table with
    slots := Function.update table.slots member.nodeId
      ((table.slots member.nodeId).publish member.data) }
  let used' := if (table.get member.nodeId).isNone then table.usedCount + 1 else table.usedCount
  let left :=
    if table.isActive member.nodeId ∧ ¬ Active member.status then table.activeCount - 1
    else table.activeCount
  refine ⟨if (table.get member.nodeId).isNone then .inserted else .updated, ?_⟩
  rw [upsert, Faulty.self_bind, Faulty.ite_neg inside, Faulty.modify_bind,
    Faulty.when_bind { stored with usedCount := used' } ?inserted ?replaced,
    Faulty.when_bind { stored with usedCount := used', activeCount := left } ?leaves ?stays,
    Faulty.when_bind (table.written member) ?enters ?still]
  · rfl
  case inserted =>
    intro absent
    rw [countUsed_eq (by simp; omega)]
    simp [stored, used', absent]
  case replaced =>
    intro present
    simp [stored, used', present]
  case leaves =>
    intro leaves
    rw [countActive_down (by simpa [stored] using held (by simpa using leaves.1))]
    simp_all [left, stored]
  case stays =>
    intro stays
    have same : ¬ (table.isActive member.nodeId ∧ ¬ Active member.status) := by simpa using stays
    simp [left, stored, same]
  case enters =>
    intro enters
    rw [countActive_up (by simp_all [left])]
    simp_all [left, written, stored, used']
  case still =>
    intro still
    by_cases was : table.isActive member.nodeId <;> by_cases now : Active member.status <;>
      simp_all [left, written, stored, used']

/-- The counts aside, the record of this node is replaced and nothing else. -/
theorem upsert_writes (inside : ¬ (member.nodeId = 0 ∨ table.capacity ≤ member.nodeId)) :
    (upsert member table).Meets (fun _ => True)
      (fun _ after => after.slots = (table.written member).slots ∧
        after.capacity = table.capacity)
      fun after => after.slots = (table.written member).slots ∧
        after.capacity = table.capacity := by
  have counting : ∀ {change : Table → Nat → Table} {view : Table → Nat} {up : Bool},
      (∀ t count, (change t count).slots = t.slots ∧ (change t count).capacity = t.capacity) →
      Faulty.Keeps (fun _ => True) (fun t : Table => t.slots = (table.written member).slots ∧
        t.capacity = table.capacity) (count16 change view up) := by
    intro change view up kept
    apply Faulty.Keeps.bind Faulty.Keeps.read
    intro count
    cases up <;>
    · apply Faulty.Keeps.bind (Faulty.Keeps.require (.inl trivial))
      intro _ t same
      exact ⟨(kept t _).1.trans same.1, (kept t _).2.trans same.2⟩
  have used : Faulty.Keeps (fun _ => True) (fun t : Table =>
      t.slots = (table.written member).slots ∧ t.capacity = table.capacity) countUsed :=
    counting fun _ _ => ⟨rfl, rfl⟩
  have active : ∀ up, Faulty.Keeps (fun _ => True) (fun t : Table =>
      t.slots = (table.written member).slots ∧ t.capacity = table.capacity) (countActive up) :=
    fun _ => counting fun _ _ => ⟨rfl, rfl⟩
  rw [upsert, Faulty.self_bind, Faulty.ite_neg inside, Faulty.modify_bind]
  apply (Faulty.Keeps.when fun _ => used).bind fun _ => (Faulty.Keeps.when fun _ => active _).bind
    fun _ => (Faulty.Keeps.when fun _ => active _).bind fun _ => Faulty.Keeps.pure
  exact ⟨rfl, rfl⟩

theorem upsert_refused (outside : member.nodeId = 0 ∨ table.capacity ≤ member.nodeId) :
    upsert member table = .failed table := by
  rw [upsert, Faulty.self_bind, Faulty.ite_pos outside]
  rfl

/-- All current records, in the order of their nodes. -/
def members (table : Table) : List Member :=
  (List.range table.capacity).filterMap table.get

end Table

end LyuneGateway.Membership
