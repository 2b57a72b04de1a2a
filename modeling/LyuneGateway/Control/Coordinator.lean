import Mathlib.Data.List.Basic

/-!
# The coordinator of a gateway node

The membership table says what is known of every node of the cluster. The nodes
that destinations are placed on are read from it.
-/

namespace LyuneGateway.Control

inductive NodeStatus where
  | alive
  | suspect
  | dead
  | left
  deriving DecidableEq, Repr

structure Member where
  nodeId : Nat
  status : NodeStatus
  deriving DecidableEq, Repr

def Member.isForwardable (member : Member) : Bool :=
  member.status = .alive || member.status = .suspect

namespace Membership

/-- A slot for each node below the capacity; nothing is known of a node whose slot has never been
written. -/
structure Table where
  capacity : Nat
  slots : Nat → Option NodeStatus := fun _ => none

def Table.lookup (table : Table) (nodeId : Nat) : Option Member :=
  if nodeId = 0 ∨ table.capacity ≤ nodeId then none
  else (table.slots nodeId).map fun status => { nodeId := nodeId, status := status }

end Membership

/-- `membership` is absent on a node that runs alone. -/
structure Coordinator where
  nodeId : Nat
  maxNodes : Nat
  membership : Option Membership.Table := none

namespace Coordinator

/-- The nodes that can be delivered to, the node itself first, as far as there is room. -/
def nodeSnapshot (coordinator : Coordinator) (room : Nat) : List Nat :=
  if room = 0 then []
  else
    match coordinator.membership with
    | none => [coordinator.nodeId]
    | some view =>
        (coordinator.nodeId :: (List.range' 1 (coordinator.maxNodes - 1)).filter fun nodeId =>
          nodeId ≠ coordinator.nodeId && (view.lookup nodeId).any Member.isForwardable).take room

/-- A worker has room for as many nodes as the cluster may have, and for one at least. -/
def snapshot (coordinator : Coordinator) : List Nat :=
  coordinator.nodeSnapshot (max coordinator.maxNodes 1)

/-- A node places destinations on itself and on all others known as forwardable. -/
theorem mem_snapshot {coordinator : Coordinator} {view : Membership.Table} {nodeId : Nat}
    (clustered : coordinator.membership = some view) :
    nodeId ∈ coordinator.snapshot ↔ nodeId = coordinator.nodeId ∨
      0 < nodeId ∧ nodeId < coordinator.maxNodes ∧
        (view.lookup nodeId).any Member.isForwardable = true := by
  have room : max coordinator.maxNodes 1 ≠ 0 := by omega
  have fits : (coordinator.nodeId :: (List.range' 1 (coordinator.maxNodes - 1)).filter
      fun nodeId => nodeId ≠ coordinator.nodeId &&
        (view.lookup nodeId).any Member.isForwardable).length ≤ max coordinator.maxNodes 1 := by
    have kept := List.length_filter_le (fun nodeId => decide (nodeId ≠ coordinator.nodeId) &&
      (view.lookup nodeId).any Member.isForwardable) (List.range' 1 (coordinator.maxNodes - 1))
    rw [List.length_range'] at kept
    rw [List.length_cons]
    omega
  simp only [snapshot, nodeSnapshot, room, if_false, clustered, List.take_of_length_le fits,
    List.mem_cons, List.mem_filter, List.mem_range'_1, Bool.and_eq_true, decide_eq_true_eq]
  constructor
  · rintro (same | ⟨bounds, -, known⟩)
    · exact .inl same
    · exact .inr ⟨by omega, by omega, known⟩
  · rintro (same | ⟨positive, below, known⟩)
    · exact .inl same
    · by_cases own : nodeId = coordinator.nodeId
      · exact .inl own
      · exact .inr ⟨by omega, own, known⟩

end Coordinator

end LyuneGateway.Control
