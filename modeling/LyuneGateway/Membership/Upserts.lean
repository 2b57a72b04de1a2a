import LyuneGateway.Lib.Run
import LyuneGateway.Membership.Table

/-!
# The table as a finite map

After a list of writes the table holds the last record of every node, and counts
the nodes and the active ones. The number of a slot tells that the slot has been
written, so that holds as long as no number comes round.
-/

namespace LyuneGateway.Membership

open Control (NodeStatus)

namespace Table

variable {table : Table} {capacity nodeId : Nat} {member : Member} {members : List Member}

/-- Write a record, if nothing has trapped yet. A record that is refused leaves the table as it
is. -/
def put (table : Option Table) (member : Member) : Option Table :=
  table.bind fun table => (upsert member table).state?

/-- The table after a list of writes; none if one of them has trapped. -/
def written? (capacity : Nat) (members : List Member) : Option Table :=
  Run.final put (some { capacity := capacity }) members

/-- The record is about a node that has a slot. -/
def Fits (capacity nodeId : Nat) : Prop := nodeId ≠ 0 ∧ nodeId < capacity

instance (capacity nodeId : Nat) : Decidable (Fits capacity nodeId) :=
  inferInstanceAs (Decidable (_ ∧ _))

/-- The last record of a node. -/
def lastOf (capacity : Nat) (members : List Member) (nodeId : Nat) : Option Member :=
  if Fits capacity nodeId then (members.filter fun member => member.nodeId = nodeId).getLast?
  else none

/-- The nodes that records were written of. -/
def nodes (capacity : Nat) (members : List Member) : Finset Nat :=
  (Finset.range capacity).filter fun nodeId => Fits capacity nodeId ∧
    ∃ member ∈ members, member.nodeId = nodeId

/-- The nodes whose last record says that they are active. -/
def activeNodes (capacity : Nat) (members : List Member) : Finset Nat :=
  (Finset.range capacity).filter fun nodeId =>
    ((lastOf capacity members nodeId).any fun member => Active member.status) = true

/-- The table is the finite map that the writes make. -/
structure Mirrors (capacity : Nat) (members : List Member) (table : Table) : Prop where
  get : ∀ nodeId, table.get nodeId = lastOf capacity members nodeId
  used : table.usedCount = (nodes capacity members).card
  active : table.activeCount = (activeNodes capacity members).card

/-- How often a record of the node was written. -/
def times (members : List Member) (nodeId : Nat) : Nat :=
  members.countP fun member => member.nodeId = nodeId

theorem lastOf_self (fits : Fits capacity member.nodeId) :
    lastOf capacity (members ++ [member]) member.nodeId = some member := by
  rw [lastOf, if_pos fits, List.filter_append]
  simp

theorem lastOf_ne (other : nodeId ≠ member.nodeId) :
    lastOf capacity (members ++ [member]) nodeId = lastOf capacity members nodeId := by
  simp [lastOf, List.filter_append, other.symm]

theorem lastOf_outside (outside : ¬ Fits capacity member.nodeId) :
    lastOf capacity (members ++ [member]) nodeId = lastOf capacity members nodeId := by
  by_cases same : nodeId = member.nodeId
  · simp [lastOf, same, outside]
  · exact lastOf_ne same

theorem isSome_lastOf : (lastOf capacity members nodeId).isSome ↔
    Fits capacity nodeId ∧ ∃ member ∈ members, member.nodeId = nodeId := by
  rw [lastOf]
  split
  · rename_i fits
    simp [fits]
  · rename_i outside
    simp [outside]

/-- What the table holds after a list of writes in which no number has come round. -/
structure Follows (capacity : Nat) (members : List Member) (table : Table) : Prop where
  size : table.capacity = capacity
  counted : table.Counted
  get : ∀ nodeId, table.get nodeId = lastOf capacity members nodeId
  sequence : ∀ nodeId, Fits capacity nodeId →
    (table.slots nodeId).sequence = times members nodeId

theorem Follows.mirrors (follows : Follows capacity members table) :
    Mirrors capacity members table where
  get := follows.get
  used := by
    rw [follows.counted.used]
    congr 1
    ext nodeId
    rw [mem_known, follows.get, isSome_lastOf, nodes, Finset.mem_filter, Finset.mem_range,
      iff_and_self]
    exact fun written => written.1.2
  active := by
    rw [follows.counted.active, active, activeNodes, follows.size]
    congr 1
    apply Finset.filter_congr
    intro nodeId _
    rw [isActive, follows.get]
    cases lastOf capacity members nodeId <;> simp

theorem times_append (nodeId : Nat) : times (members ++ [member]) nodeId =
    times members nodeId + if member.nodeId = nodeId then 1 else 0 := by
  simp [times, List.countP_append, List.countP_cons]

/-- One write more, and the number of its slot does not come round. -/
theorem Follows.put (follows : Follows capacity members table)
    (few : Fits capacity member.nodeId → times members member.nodeId + 1 < 2 ^ 32) :
    ∃ after, Table.put (some table) member = some after ∧
      Follows capacity (members ++ [member]) after := by
  by_cases fits : Fits capacity member.nodeId
  · have valid : member.nodeId ≠ 0 ∧ member.nodeId < table.capacity :=
      ⟨fits.1, follows.size.symm ▸ fits.2⟩
    have room : table.Room member.nodeId := by
      rw [Room, follows.sequence _ fits]
      exact few fits
    obtain ⟨result, answer⟩ := upsert_eq valid (follows.counted.spacious valid.2)
    refine ⟨table.written member, ?_, follows.size, follows.counted.written valid room, ?_, ?_⟩
    · rw [Table.put, Option.bind_some, answer]
      rfl
    · intro nodeId
      by_cases same : nodeId = member.nodeId
      · rw [same, get_written_self valid room, lastOf_self fits]
      · rw [get_written_ne same, follows.get, lastOf_ne same]
    · intro nodeId inside
      rw [times_append, ← follows.sequence nodeId inside]
      by_cases same : nodeId = member.nodeId
      · subst same
        rw [if_pos rfl]
        change (Function.update table.slots member.nodeId _ member.nodeId).sequence = _
        rw [Function.update_self]
        exact Nat.mod_eq_of_lt room
      · rw [if_neg (Ne.symm same)]
        change (Function.update table.slots member.nodeId _ nodeId).sequence = _
        rw [Function.update_of_ne same, Nat.add_zero]
  · have outside : member.nodeId = 0 ∨ table.capacity ≤ member.nodeId := by
      rw [follows.size]
      rw [Fits] at fits
      omega
    refine ⟨table, ?_, follows.size, follows.counted, ?_, ?_⟩
    · rw [Table.put, Option.bind_some, upsert_refused outside]
      rfl
    · intro nodeId
      rw [follows.get, lastOf_outside fits]
    · intro nodeId inside
      have other : member.nodeId ≠ nodeId := by
        rintro rfl
        exact fits inside
      rw [follows.sequence nodeId inside, times_append, if_neg other, Nat.add_zero]

/-- No number comes round. -/
def Countable (capacity : Nat) (members : List Member) : Prop :=
  ∀ nodeId, Fits capacity nodeId → times members nodeId < 2 ^ 32

theorem Countable.of_append {more : List Member} (countable : Countable capacity (members ++ more)) :
    Countable capacity members := by
  intro nodeId fits
  refine lt_of_le_of_lt ?_ (countable nodeId fits)
  rw [times, times, List.countP_append]
  exact Nat.le_add_right _ _

theorem written?_append : written? capacity (members ++ [member]) =
    put (written? capacity members) member := by
  rw [written?, Run.final_append]
  rfl

theorem follows_written (narrow : capacity < 2 ^ 16) (countable : Countable capacity members) :
    ∃ table, written? capacity members = some table ∧ Follows capacity members table := by
  induction members using List.reverseRecOn with
  | nil =>
      have empty : ∀ nodeId, ({ capacity := capacity } : Table).get nodeId = none := by
        intro nodeId
        simp [Table.get, Slot.published]
      refine ⟨_, rfl, rfl, ⟨narrow, ?_, ?_⟩, ?_, fun _ _ => rfl⟩
      · simp [known, empty]
      · have none_ : ({ capacity := capacity } : Table).active = ∅ :=
          Finset.filter_eq_empty_iff.mpr fun nodeId _ was => by simp [isActive, empty] at was
        rw [none_]
        rfl
      · intro nodeId
        simp [empty, lastOf]
  | append_singleton members member ih =>
      obtain ⟨table, reached, follows⟩ := ih countable.of_append
      have few : Fits capacity member.nodeId → times members member.nodeId + 1 < 2 ^ 32 := by
        intro fits
        have few := countable member.nodeId fits
        rwa [times_append, if_pos rfl] at few
      obtain ⟨after, performed, follows⟩ := follows.put few
      exact ⟨after, by rw [written?_append, reached, performed], follows⟩

/-- The write that lets a number come round hides the record. -/
theorem Follows.wraps (follows : Follows capacity members table) (fits : Fits capacity member.nodeId)
    (whole : times members member.nodeId + 1 = 2 ^ 32) :
    ∃ after, Table.put (some table) member = some after ∧ after.get member.nodeId = none := by
  have valid : member.nodeId ≠ 0 ∧ member.nodeId < table.capacity :=
    ⟨fits.1, follows.size.symm ▸ fits.2⟩
  obtain ⟨result, answer⟩ := upsert_eq valid (follows.counted.spacious valid.2)
  refine ⟨table.written member, ?_, ?_⟩
  · rw [Table.put, Option.bind_some, answer]
    rfl
  · have number : ((table.written member).slots member.nodeId).sequence = 0 := by
      change (Function.update table.slots member.nodeId _ member.nodeId).sequence = 0
      rw [Function.update_self]
      change (table.slots member.nodeId).nextSequence = 0
      rw [Slot.nextSequence, follows.sequence _ fits, whole]
      exact Nat.mod_self _
    rw [Table.get]
    split
    · rfl
    · rw [Slot.published, if_pos number]
      rfl

/-- The table is the finite map that the writes make, at all times, if and only if no node is
written so often that the number of its slot comes round. -/
theorem table_is_finite_map (maxNodes : Fin (2 ^ 16)) (members : List Member) :
    (∀ before, before <+: members → ∃ table, written? maxNodes before = some table ∧
      Mirrors maxNodes before table) ↔
    ∀ nodeId : Nat, nodeId ≠ 0 → nodeId < maxNodes →
      members.countP (fun member => member.nodeId = nodeId) < 2 ^ 32 := by
  constructor
  · intro mirrors
    suffices countable : Countable maxNodes members from
      fun nodeId positive inside => countable nodeId ⟨positive, inside⟩
    induction members using List.reverseRecOn with
    | nil => exact fun _ _ => Nat.two_pow_pos 32
    | append_singleton members member ih =>
        have countable := ih fun before first => mirrors before (first.trans (List.prefix_append _ _))
        intro nodeId fits
        rw [times_append]
        split
        · rename_i same
          subst same
          have few := countable member.nodeId fits
          by_contra whole
          obtain ⟨table, reached, follows⟩ := follows_written maxNodes.isLt countable
          obtain ⟨after, performed, hidden⟩ := follows.wraps fits (by omega)
          obtain ⟨last, came, mirror⟩ := mirrors _ (List.prefix_refl _)
          rw [written?_append, reached, performed, Option.some.injEq] at came
          rw [← came] at mirror
          have shown := mirror.get member.nodeId
          rw [hidden, lastOf_self fits] at shown
          cases shown
        · exact countable nodeId fits
  · rintro few _ ⟨more, rfl⟩
    have countable : Countable maxNodes _ := fun nodeId fits => few nodeId fits.1 fits.2
    obtain ⟨table, reached, follows⟩ := follows_written maxNodes.isLt countable.of_append
    exact ⟨table, reached, follows.mirrors⟩

/-- A node that is alive. -/
private def alive : Member where
  nodeId := 1
  address := .ip4 (Fin.ofNat _ 0xc0000201) (Fin.ofNat _ 7000)
  status := .alive
  incarnation := 0

/-- The record of a node is written as often as there are numbers, and is not there any more. -/
theorem alive_is_hidden : ∃ table, written? 2 (List.replicate (2 ^ 32) alive) = some table ∧
    lastOf 2 (List.replicate (2 ^ 32) alive) 1 = some alive ∧ table.get 1 = none := by
  have fits : Fits 2 alive.nodeId := by decide
  have counted (count : Nat) : times (List.replicate count alive) alive.nodeId = count := by
    rw [times, List.countP_replicate, if_pos (by decide)]
  have countable : Countable 2 (List.replicate (2 ^ 32 - 1) alive) := by
    intro nodeId _
    exact lt_of_le_of_lt List.countP_le_length (by rw [List.length_replicate]; omega)
  obtain ⟨table, reached, follows⟩ := follows_written (by decide) countable
  obtain ⟨after, performed, hidden⟩ := follows.wraps fits
    ((congrArg (· + 1) (counted _)).trans (by omega))
  have whole : List.replicate (2 ^ 32) alive = List.replicate (2 ^ 32 - 1) alive ++ [alive] :=
    List.replicate_succ'
  rw [whole]
  exact ⟨after, by rw [written?_append, reached, performed], lastOf_self fits, hidden⟩

end Table

end LyuneGateway.Membership
