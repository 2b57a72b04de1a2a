import LyuneGateway.Lib.Run
import LyuneGateway.Membership.Table

/-!
# Looking a member up while its record is being replaced

The protocol thread writes a record field by field before it publishes its
number, and a lookup reads field by field between two loads of the number. Any
step of one may come between two steps of the other. A lookup is accepted if
fewer records than there are buffers have been published meanwhile; by then the
next one may already be on its way into the buffer that was read.
-/

namespace LyuneGateway.Membership

inductive Field where
  | used
  | address
  | status
  | incarnation
  deriving DecidableEq

def Field.all : List Field := [.used, .address, .status, .incarnation]

/-- Take one field over from another record. -/
def Data.copy (data source : Data) : Field → Data
  | .used => { data with used := source.used }
  | .address => { data with address := source.address }
  | .status => { data with status := source.status }
  | .incarnation => { data with incarnation := source.incarnation }

/-- Both records have the field in common. -/
def Data.agrees (data source : Data) : Field → Prop
  | .used => data.used = source.used
  | .address => data.address = source.address
  | .status => data.status = source.status
  | .incarnation => data.incarnation = source.incarnation

theorem Data.Agrees.copy {data other source : Data} {field copied : Field}
    (agrees : data.agrees source field) (same : other.agrees source copied) :
    (data.copy other copied).agrees source field := by
  cases copied <;> cases field <;> assumption

namespace Slot

/-- Write one field of a buffer. -/
def write (slot : Slot) (buffer : Nat) (source : Data) (field : Field) : Slot :=
  { slot with
    buffers := Function.update slot.buffers buffer ((slot.buffers buffer).copy source field) }

end Slot

/-- An upsert under way: the fields that are not written yet. -/
structure Upsert where
  member : Member
  pending : List Field

/-- A lookup under way: the number it loaded first, what it has read, and the fields it has not read
yet. It is disturbed if the buffer has been written to before it was through with it. -/
structure Lookup where
  nodeId : Nat
  first : Nat
  data : Data
  pending : List Field
  disturbed : Bool := false

def Lookup.buffer (lookup : Lookup) : Nat := lookup.first % bufferCount

/-- The lookup is reading the buffer that a field is written to. -/
def Lookup.overlaps (lookup : Lookup) (nodeId buffer : Nat) : Bool :=
  lookup.nodeId = nodeId && lookup.buffer = buffer && lookup.pending ≠ []

/-- The records of a table, the one that is being written, the lookup of a reader, the members
published so far, and the answers that the reader was given. -/
structure Race where
  capacity : Nat
  slots : Nat → Slot := fun _ => {}
  upsert : Option Upsert := none
  lookup : Option Lookup := none
  published : List Member := []
  answers : List (Option Member) := []

inductive Race.Step where
  | upsert (member : Member)
  | write
  | publish
  | lookup (nodeId : Nat)
  | read
  | finish
  deriving DecidableEq

namespace Race

open Race (Step)

variable {race : Race}

def setSlot (race : Race) (nodeId : Nat) (slot : Slot) : Race :=
  { race with slots := Function.update race.slots nodeId slot }

/-- A lookup gets its first number; it has an answer already if nothing was ever written. -/
def load (race : Race) (nodeId : Nat) : Race :=
  let first := (race.slots nodeId).sequence
  if first = 0 then { race with lookup := none, answers := race.answers ++ [none] }
  else { race with lookup := some {
    nodeId := nodeId
    first := first
    data := {}
    pending := Field.all } }

/-- How many records have been published since the first load, as far as the numbers tell. -/
def distance (race : Race) (lookup : Lookup) : Nat :=
  ((race.slots lookup.nodeId).sequence + sequenceRange - lookup.first) % sequenceRange

def take (race : Race) : Step → Race
  | .upsert member =>
      if race.upsert.isNone ∧ member.nodeId ≠ 0 ∧ member.nodeId < race.capacity then
        { race with upsert := some { member := member, pending := Field.all } }
      else race
  | .write =>
      match race.upsert with
      | some ⟨member, field :: pending⟩ =>
          let slot := race.slots member.nodeId
          let buffer := slot.nextSequence % bufferCount
          { race.setSlot member.nodeId (slot.write buffer member.data field) with
            upsert := some ⟨member, pending⟩
            lookup := race.lookup.map fun lookup =>
              { lookup with
                disturbed := lookup.disturbed || lookup.overlaps member.nodeId buffer } }
      | _ => race
  | .publish =>
      match race.upsert with
      | some ⟨member, []⟩ =>
          let slot := race.slots member.nodeId
          { race.setSlot member.nodeId { slot with sequence := slot.nextSequence } with
            upsert := none
            published := race.published ++ [member] }
      | _ => race
  | .lookup nodeId =>
      if race.lookup.isSome then race
      else if nodeId = 0 ∨ race.capacity ≤ nodeId then
        { race with answers := race.answers ++ [none] }
      else race.load nodeId
  | .read =>
      match race.lookup with
      | some ⟨nodeId, first, data, field :: pending, disturbed⟩ =>
          let source := (race.slots nodeId).buffers (first % bufferCount)
          { race with lookup := some ⟨nodeId, first, data.copy source field, pending, disturbed⟩ }
      | _ => race
  | .finish =>
      match race.lookup with
      | some ⟨nodeId, first, data, [], disturbed⟩ =>
          if bufferCount ≤ race.distance ⟨nodeId, first, data, [], disturbed⟩ then race.load nodeId
          else { race with lookup := none, answers := race.answers ++ [data.member nodeId] }
      | _ => race

/-- Every record that is published is complete, and the one that is being written is not published:
it has the fields that are not pending. -/
structure Orderly (race : Race) : Prop where
  bounded : ∀ nodeId, (race.slots nodeId).sequence < sequenceRange
  recorded : ∀ nodeId, (race.slots nodeId).sequence ≠ 0 → ∃ member ∈ race.published,
    member.nodeId = nodeId ∧
      (race.slots nodeId).buffers ((race.slots nodeId).sequence % bufferCount) = member.data
  writing : ∀ upsert, race.upsert = some upsert → ∀ field, field ∉ upsert.pending →
    ((race.slots upsert.member.nodeId).buffers
      ((race.slots upsert.member.nodeId).nextSequence % bufferCount)).agrees upsert.member.data field
  reading : ∀ lookup, race.lookup = some lookup → lookup.disturbed = false →
    ∃ member ∈ race.published, member.nodeId = lookup.nodeId ∧
      (∀ field, field ∉ lookup.pending → lookup.data.agrees member.data field) ∧
      (lookup.pending ≠ [] → (race.slots lookup.nodeId).buffers lookup.buffer = member.data)

theorem Orderly.setSlot (orderly : race.Orderly) {nodeId : Nat} {slot : Slot}
    (bounded : slot.sequence < sequenceRange) (other : Nat) :
    ((race.setSlot nodeId slot).slots other).sequence < sequenceRange := by
  by_cases same : other = nodeId
  · subst same
    simpa [Race.setSlot] using bounded
  · simpa [Race.setSlot, same] using orderly.bounded other

/-- A lookup is accepted only if its buffer was left alone while it was read. -/
def Undisturbed (race : Race) : Step → Prop
  | .finish => ∀ lookup, race.lookup = some lookup → lookup.pending = [] →
      race.distance lookup < bufferCount → lookup.disturbed = false
  | _ => True

instance decidableUndisturbed (race : Race) : ∀ step : Step, Decidable (race.Undisturbed step)
  | .finish =>
      match held : race.lookup with
      | none => isTrue fun lookup same => by simp [held] at same
      | some lookup => decidable_of_iff (lookup.pending = [] →
          race.distance lookup < bufferCount → lookup.disturbed = false)
          (by simp [Undisturbed, held])
  | .upsert _ | .write | .publish | .lookup _ | .read => isTrue trivial

/-- Every answer is a record as it was published. -/
def Sound (race : Race) : Prop :=
  ∀ member, some member ∈ race.answers → member ∈ race.published

theorem Sound.answer (sound : race.Sound) {answer : Option Member} {lookup : Option Lookup}
    (published : ∀ member, answer = some member → member ∈ race.published) :
    Sound { race with lookup := lookup, answers := race.answers ++ [answer] } := by
  intro member listed
  obtain listed | same := List.mem_append.mp listed
  · exact sound member listed
  · exact published member (List.mem_singleton.mp same).symm

def init (capacity : Nat) : Race := { capacity := capacity }

/-- All steps of replacing a record. -/
def replace (member : Member) : List Step := [.upsert member] ++ .replicate 4 .write ++ [.publish]

/-- The first node, in its `n`-th incarnation. -/
def record (n : Nat) : Member where
  nodeId := 1
  address := .ip4 0 0
  status := if n % 2 = 0 then .alive else .suspect
  incarnation := n

end Race

end LyuneGateway.Membership
