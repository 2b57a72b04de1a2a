import LyuneGateway.Foundation.Realm
import LyuneGateway.Lib.Probing

/-!
# The indexes of the connections

Three tables are searched for every packet or message: the slot of a QUIC
connection, the head of the list for a destination or a group, and the owner of
a connection to a backend. Each is a hash table with linear probing whose size is
fixed when it is made. A zero or a null marks an empty slot.
-/

namespace LyuneGateway.Worker

open Foundation

/-- The size of a table is doubled from 8 until it is twice the capacity. -/
def growBits (capacity : Nat) : Nat → Nat → Nat
  | 0, bits => bits
  | fuel + 1, bits => if 2 ^ bits < capacity * 2 then growBits capacity fuel (bits + 1) else bits

def tableBits (capacity : Nat) : Nat := growBits capacity capacity 3

/-- The multiplier of the hash. -/
def fibonacci : UInt64 := 0x9E3779B97F4A7C15

theorem growBits_large {capacity fuel bits : Nat} (several : 0 < bits)
    (enough : capacity * 2 ≤ 2 * fuel + 2 ^ bits) :
    capacity * 2 ≤ 2 ^ growBits capacity fuel bits := by
  induction fuel generalizing bits with
  | zero => simpa [growBits] using enough
  | succ fuel ih =>
      rw [growBits]
      split
      · have two : 2 ^ 1 ≤ 2 ^ bits := Nat.pow_le_pow_right (by decide) several
        exact ih (Nat.succ_pos bits) (by rw [pow_succ]; omega)
      · omega

/-- A table is never full. -/
theorem capacity_lt (capacity : Nat) : capacity < 2 ^ tableBits capacity := by
  have large : capacity * 2 ≤ 2 ^ tableBits capacity := growBits_large (by decide) (by omega)
  have some := Nat.two_pow_pos (tableBits capacity)
  omega

/-! ## From the key of a connection to its slot -/

namespace IndexTable

structure Entry where
  key : UInt64 := 0
  slot : UInt32 := 0
  deriving DecidableEq, Repr

end IndexTable

structure IndexTable where
  entries : Nat → IndexTable.Entry
  bits : Nat

namespace IndexTable

def init (capacity : Nat) : IndexTable := ⟨fun _ => {}, tableBits capacity⟩

/-- The low bits of a pointer are zero. -/
def hashKey (key : UInt64) : Nat := (((key >>> 4) * fibonacci) >>> 32).toNat

variable (hash : UInt64 → Nat)

abbrev shape (bits : Nat) : Probing Entry UInt64 UInt32 where
  bits := bits
  blank := {}
  key? entry := if entry.key = 0 then none else some entry.key
  value := Entry.slot
  hash := hash
  empty := rfl

def put (table : IndexTable) (key : UInt64) (slot : UInt32) : Option IndexTable :=
  ((shape hash table.bits).put table.entries key ⟨key, slot⟩).map fun entries =>
    { table with entries := entries }

def get (table : IndexTable) (key : UInt64) : Option (Option UInt32) :=
  if key = 0 then some none
  else ((shape hash table.bits).get table.entries key).map (Option.map Entry.slot)

def remove (table : IndexTable) (key : UInt64) : Option (Option UInt32 × IndexTable) :=
  if key = 0 then some (none, table)
  else ((shape hash table.bits).remove table.entries key).map fun (removed, entries) =>
    (removed.map Entry.slot, { table with entries := entries })

def perform : Probing.Call UInt64 UInt32 → IndexTable → Option (Option UInt32 × IndexTable)
  | .put key slot, table => (table.put hash key slot).map fun table => (none, table)
  | .get key, table => (table.get hash key).map fun slot => (slot, table)
  | .remove key, table => table.remove hash key

/-- The table has the slots of the map. -/
structure Refines (capacity : Nat) (table : IndexTable) (map : Table UInt64 UInt32) : Prop where
  bits : table.bits = tableBits capacity
  implements : (shape hash table.bits).Implements table.entries map

variable {hash} {capacity : Nat} {table : IndexTable} {map : Table UInt64 UInt32}

theorem Refines.few (refines : Refines hash capacity table map) (few : map.size ≤ capacity) :
    map.size < (shape hash table.bits).size := by
  rw [Probing.size, refines.bits]
  exact few.trans_lt (capacity_lt capacity)

/-- Zero is the key of no entry. -/
theorem Refines.lookup_zero (refines : Refines hash capacity table map) : map.lookup 0 = none := by
  refine Option.eq_none_iff_forall_ne_some.mpr fun slot held => ?_
  obtain ⟨i, _, here, _⟩ := (refines.implements.holds _ _).mp held
  dsimp only at here
  split at here
  · cases here
  · rename_i named
    exact named (Option.some.inj here)

theorem Refines.perform (refines : Refines hash capacity table map) (few : map.size ≤ capacity)
    (call : Probing.Call UInt64 UInt32) (proper : ∀ key slot, call = .put key slot → key ≠ 0) :
    ∃ after, perform hash call table = some ((call.onMap map).1, after) ∧
      Refines hash capacity after (call.onMap map).2 := by
  have room := refines.few few
  cases call with
  | put key slot =>
      have named : (shape hash table.bits).key? ⟨key, slot⟩ = some key :=
        if_neg (proper key slot rfl)
      obtain ⟨entries, written, implements⟩ := refines.implements.put room named
      exact ⟨{ table with entries := entries },
        by rw [IndexTable.perform, IndexTable.put, written]; rfl, refines.bits, implements⟩
  | get key =>
      refine ⟨table, ?_, refines⟩
      rw [IndexTable.perform, IndexTable.get, Probing.Call.onMap]
      by_cases zero : key = 0
      · rw [if_pos zero, zero, refines.lookup_zero]
        rfl
      · obtain ⟨answer, read, same⟩ := refines.implements.get room key
        rw [if_neg zero, read, ← same]
        rfl
  | remove key =>
      rw [IndexTable.perform, IndexTable.remove, Probing.Call.onMap]
      by_cases zero : key = 0
      · subst zero
        exact ⟨table, by rw [if_pos rfl, refines.lookup_zero], refines.bits,
          refines.implements.erase_absent refines.lookup_zero⟩
      · obtain ⟨answer, entries, removed, same, implements⟩ := refines.implements.remove room key
        exact ⟨{ table with entries := entries }, by rw [if_neg zero, removed, ← same]; rfl,
          refines.bits, implements⟩

end IndexTable

/-! ## From an identity in a realm to the head of a list -/

namespace HeadTable

structure Entry where
  key : UInt64 := 0
  realm : RealmId := 0
  head : UInt32 := 0
  deriving DecidableEq, Repr

end HeadTable

structure HeadTable where
  entries : Nat → HeadTable.Entry
  bits : Nat

namespace HeadTable

def init (capacity : Nat) : HeadTable := ⟨fun _ => {}, tableBits capacity⟩

/-- The realm takes part, so that equal identities of different realms do not meet. -/
def hashKey (key : RealmId × UInt64) : Nat :=
  (((key.2 ^^^ (UInt64.ofNat key.1 * 0xD6E8FEB86659FD93)) * fibonacci) >>> 32).toNat

variable (hash : RealmId × UInt64 → Nat)

abbrev shape (bits : Nat) : Probing Entry (RealmId × UInt64) UInt32 where
  bits := bits
  blank := {}
  key? entry := if entry.key = 0 then none else some (entry.realm, entry.key)
  value := Entry.head
  hash := hash
  empty := rfl

/-- The place of an entry, through which its head may be written. -/
def find (table : HeadTable) (realm : RealmId) (key : UInt64) : Option (Option Nat) :=
  ((shape hash table.bits).search table.entries (realm, key)).map fun
    | .found i => some i
    | .vacant _ => none

/-- The key must not be there. -/
def insert (table : HeadTable) (realm : RealmId) (key : UInt64) (head : UInt32) :
    Option HeadTable :=
  let shape := shape hash table.bits
  (shape.room table.entries shape.size (shape.home (realm, key))).map fun i =>
    { table with entries := Function.update table.entries i ⟨key, realm, head⟩ }

def remove (table : HeadTable) (realm : RealmId) (key : UInt64) : Option HeadTable :=
  ((shape hash table.bits).remove table.entries (realm, key)).map fun (_, entries) =>
    { table with entries := entries }

/-- What an entry is given by those who use the table: a new head in its place, or a place. -/
def put (table : HeadTable) (realm : RealmId) (key : UInt64) (head : UInt32) :
    Option HeadTable := do
  match ← table.find hash realm key with
  | some i => some { table with
      entries := Function.update table.entries i { table.entries i with head := head } }
  | none => table.insert hash realm key head

def get (table : HeadTable) (realm : RealmId) (key : UInt64) : Option (Option UInt32) :=
  (table.find hash realm key).map fun place => place.map fun i => (table.entries i).head

def perform : Probing.Call (RealmId × UInt64) UInt32 → HeadTable →
    Option (Option UInt32 × HeadTable)
  | .put (realm, key) head, table => (table.put hash realm key head).map fun table => (none, table)
  | .get (realm, key), table => (table.get hash realm key).map fun head => (head, table)
  | .remove (realm, key), table => do
      let head ← table.get hash realm key
      let table ← table.remove hash realm key
      pure (head, table)

/-- The table has the heads of the map. -/
structure Refines (capacity : Nat) (table : HeadTable) (map : Table (RealmId × UInt64) UInt32) :
    Prop where
  bits : table.bits = tableBits capacity
  implements : (shape hash table.bits).Implements table.entries map

variable {hash} {capacity : Nat} {table : HeadTable} {map : Table (RealmId × UInt64) UInt32}

theorem Refines.few (refines : Refines hash capacity table map) (few : map.size ≤ capacity) :
    map.size < (shape hash table.bits).size := by
  rw [Probing.size, refines.bits]
  exact few.trans_lt (capacity_lt capacity)

theorem key_of_entry {bits : Nat} {entry : Entry} {key : RealmId × UInt64}
    (named : (shape hash bits).key? entry = some key) :
    entry.realm = key.1 ∧ entry.key = key.2 ∧ key.2 ≠ 0 := by
  dsimp only at named
  split at named
  · cases named
  · rename_i nonzero
    cases named
    exact ⟨rfl, rfl, nonzero⟩

/-- What `find` answers is the place of the key, if it has one. -/
theorem Refines.find (refines : Refines hash capacity table map) (few : map.size ≤ capacity)
    (realm : RealmId) (key : UInt64) :
    (table.find hash realm key = some none ∧ map.lookup (realm, key) = none) ∨
      ∃ i, table.find hash realm key = some (some i) ∧ i < (shape hash table.bits).size ∧
        (shape hash table.bits).key? (table.entries i) = some (realm, key) := by
  obtain ⟨v, free, empty⟩ := refines.implements.vacancy (refines.few few)
  obtain ⟨place, searched, finds⟩ := Probing.search_finds free empty (realm, key)
  cases finds with
  | vacant inside vacant passed =>
      exact .inl ⟨by rw [HeadTable.find, searched]; rfl,
        refines.implements.lookup_vacant inside vacant passed⟩
  | found inside here => exact .inr ⟨_, by rw [HeadTable.find, searched]; rfl, inside, here⟩

theorem Refines.get (refines : Refines hash capacity table map) (few : map.size ≤ capacity)
    (realm : RealmId) (key : UInt64) :
    table.get hash realm key = some (map.lookup (realm, key)) := by
  rcases refines.find few realm key with ⟨found, absent⟩ | ⟨i, found, inside, here⟩
  · rw [HeadTable.get, found, absent]
    rfl
  · rw [HeadTable.get, found, (refines.implements.holds _ _).mpr ⟨i, inside, here, rfl⟩]
    rfl

theorem Refines.put (refines : Refines hash capacity table map) (few : map.size ≤ capacity)
    {realm : RealmId} {key : UInt64} (proper : key ≠ 0) (head : UInt32) :
    ∃ after, table.put hash realm key head = some after ∧
      Refines hash capacity after (map.insert (realm, key) head) := by
  have implements := refines.implements
  rcases refines.find few realm key with ⟨found, absent⟩ | ⟨i, found, inside, here⟩
  · have named : (shape hash table.bits).key? ⟨key, realm, head⟩ = some (realm, key) :=
      if_neg proper
    obtain ⟨i, free, fits⟩ := implements.room (refines.few few) absent
    refine ⟨{ table with entries := Function.update table.entries i ⟨key, realm, head⟩ }, ?_,
      refines.bits, implements.write fits named⟩
    simp only [HeadTable.put, found, HeadTable.insert, free]
    rfl
  · obtain ⟨same, equal, _⟩ := key_of_entry here
    have named : (shape hash table.bits).key? { table.entries i with head := head } =
        some (realm, key) := here
    refine ⟨{ table with
      entries := Function.update table.entries i { table.entries i with head := head } }, ?_,
      refines.bits, implements.write (implements.toSound.fits_found inside here) named⟩
    simp only [HeadTable.put, found]
    rfl

theorem Refines.perform (refines : Refines hash capacity table map) (few : map.size ≤ capacity)
    (call : Probing.Call (RealmId × UInt64) UInt32)
    (proper : ∀ key head, call = .put key head → key.2 ≠ 0) :
    ∃ after, perform hash call table = some ((call.onMap map).1, after) ∧
      Refines hash capacity after (call.onMap map).2 := by
  rcases call with ⟨⟨realm, key⟩, head⟩ | ⟨realm, key⟩ | ⟨realm, key⟩
  · obtain ⟨after, written, refined⟩ := refines.put few (proper (realm, key) head rfl) head
    exact ⟨after, by rw [HeadTable.perform, written]; rfl, refined⟩
  · exact ⟨table, by rw [HeadTable.perform, refines.get few]; rfl, refines⟩
  · obtain ⟨answer, entries, removed, _, implements⟩ :=
      refines.implements.remove (refines.few few) (realm, key)
    refine ⟨{ table with entries := entries }, ?_, refines.bits, implements⟩
    simp only [HeadTable.perform, refines.get few, HeadTable.remove, removed]
    rfl

end HeadTable

end LyuneGateway.Worker

/-! ## From a connection to its owner -/

namespace LyuneGateway.Backend

namespace CnxIndex

/-- `ctx` and `hooks` stand for pointers. -/
structure Entry where
  cnx : Option UInt64 := none
  ctx : Option Nat := none
  hooks : Option Nat := none
  deriving DecidableEq, Repr

end CnxIndex

structure CnxIndex where
  entries : Nat → CnxIndex.Entry
  bits : Nat

namespace CnxIndex

def init (capacity : Nat) : CnxIndex := ⟨fun _ => {}, Worker.tableBits capacity⟩

def hash (cnx : UInt64) : Nat := ((cnx * Worker.fibonacci) >>> 32).toNat

variable (hash : UInt64 → Nat)

abbrev shape (bits : Nat) : Probing Entry UInt64 (Nat × Nat) where
  bits := bits
  blank := {}
  key? := Entry.cnx
  value entry := (entry.ctx.getD 0, entry.hooks.getD 0)
  hash := hash
  empty := rfl

def find (index : CnxIndex) (cnx : UInt64) : Option (Option Entry) :=
  (shape hash index.bits).get index.entries cnx

def put (index : CnxIndex) (cnx : UInt64) (ctx hooks : Nat) : Option CnxIndex :=
  ((shape hash index.bits).put index.entries cnx ⟨some cnx, some ctx, some hooks⟩).map fun entries =>
    { index with entries := entries }

def remove (index : CnxIndex) (cnx : UInt64) : Option CnxIndex :=
  ((shape hash index.bits).remove index.entries cnx).map fun (_, entries) =>
    { index with entries := entries }

def get (index : CnxIndex) (cnx : UInt64) : Option (Option (Nat × Nat)) :=
  (index.find hash cnx).map (Option.map (shape hash index.bits).value)

def perform : Probing.Call UInt64 (Nat × Nat) → CnxIndex →
    Option (Option (Nat × Nat) × CnxIndex)
  | .put cnx (ctx, hooks), index => (index.put hash cnx ctx hooks).map fun index => (none, index)
  | .get cnx, index => (index.get hash cnx).map fun owner => (owner, index)
  | .remove cnx, index => do
      let owner ← index.get hash cnx
      let index ← index.remove hash cnx
      pure (owner, index)

/-- The index has the owners of the map. -/
structure Refines (capacity : Nat) (index : CnxIndex) (map : Table UInt64 (Nat × Nat)) : Prop where
  bits : index.bits = Worker.tableBits capacity
  implements : (shape hash index.bits).Implements index.entries map

variable {hash} {capacity : Nat} {index : CnxIndex} {map : Table UInt64 (Nat × Nat)}

theorem Refines.few (refines : Refines hash capacity index map) (few : map.size ≤ capacity) :
    map.size < (shape hash index.bits).size := by
  rw [Probing.size, refines.bits]
  exact few.trans_lt (Worker.capacity_lt capacity)

theorem Refines.get (refines : Refines hash capacity index map) (few : map.size ≤ capacity)
    (cnx : UInt64) : index.get hash cnx = some (map.lookup cnx) := by
  obtain ⟨answer, read, same⟩ := refines.implements.get (refines.few few) cnx
  rw [CnxIndex.get, CnxIndex.find, read, Option.map_some, same]

theorem Refines.perform (refines : Refines hash capacity index map) (few : map.size ≤ capacity)
    (call : Probing.Call UInt64 (Nat × Nat)) :
    ∃ after, perform hash call index = some ((call.onMap map).1, after) ∧
      Refines hash capacity after (call.onMap map).2 := by
  have room := refines.few few
  rcases call with ⟨cnx, ctx, hooks⟩ | cnx | cnx
  · have named : (shape hash index.bits).key? ⟨some cnx, some ctx, some hooks⟩ = some cnx := rfl
    obtain ⟨entries, written, implements⟩ := refines.implements.put room named
    exact ⟨{ index with entries := entries },
      by rw [CnxIndex.perform, CnxIndex.put, written]; rfl, refines.bits, implements⟩
  · exact ⟨index, by rw [CnxIndex.perform, refines.get few]; rfl, refines⟩
  · obtain ⟨answer, entries, removed, _, implements⟩ := refines.implements.remove room cnx
    refine ⟨{ index with entries := entries }, ?_, refines.bits, implements⟩
    simp only [CnxIndex.perform, refines.get few, CnxIndex.remove, removed]
    rfl

end CnxIndex

end LyuneGateway.Backend

namespace LyuneGateway.Worker

open Foundation Probing
open Backend (CnxIndex)

/-- In every run with no more keys than declared the indexes answer what a map answers, whatever the
hash; so all their loops end. What they leave has every key once, and no empty slot between an entry
and its home. -/
theorem indexes_are_maps (capacity : Nat) :
    (∀ (hash : UInt64 → Nat) (calls : List (Call UInt64 UInt32)),
      Within (· ≠ 0) capacity calls ∅ →
      ∃ table, run (IndexTable.perform hash) calls (IndexTable.init capacity) =
          some (answers calls ∅, table) ∧
        (IndexTable.shape hash table.bits).Implements table.entries (final calls ∅)) ∧
    (∀ (hash : RealmId × UInt64 → Nat) (calls : List (Call (RealmId × UInt64) UInt32)),
      Within (fun key => key.2 ≠ 0) capacity calls ∅ →
      ∃ table, run (HeadTable.perform hash) calls (HeadTable.init capacity) =
          some (answers calls ∅, table) ∧
        (HeadTable.shape hash table.bits).Implements table.entries (final calls ∅)) ∧
    ∀ (hash : UInt64 → Nat) (calls : List (Call UInt64 (Nat × Nat))),
      Within (fun _ => True) capacity calls ∅ →
      ∃ index, run (CnxIndex.perform hash) calls (CnxIndex.init capacity) =
          some (answers calls ∅, index) ∧
        (CnxIndex.shape hash index.bits).Implements index.entries (final calls ∅) := by
  refine ⟨fun hash calls within => ?_, fun hash calls within => ?_, fun hash calls within => ?_⟩
  · have start : IndexTable.Refines hash capacity (IndexTable.init capacity) ∅ :=
      ⟨rfl, implements_blank _⟩
    obtain ⟨table, ran, refines⟩ := run_answers
      (fun call _ _ refines few proper => refines.perform few call proper) calls start
      (Nat.zero_le _) within
    exact ⟨table, ran, refines.implements⟩
  · have start : HeadTable.Refines hash capacity (HeadTable.init capacity) ∅ :=
      ⟨rfl, implements_blank _⟩
    obtain ⟨table, ran, refines⟩ := run_answers
      (fun call _ _ refines few proper => refines.perform few call proper) calls start
      (Nat.zero_le _) within
    exact ⟨table, ran, refines.implements⟩
  · have start : CnxIndex.Refines hash capacity (CnxIndex.init capacity) ∅ :=
      ⟨rfl, implements_blank _⟩
    obtain ⟨index, ran, refines⟩ := run_answers
      (fun call _ _ refines few _ => refines.perform few call) calls start
      (Nat.zero_le _) within
    exact ⟨index, ran, refines.implements⟩

/-- Three keys whose home is the last slot; two of them move back when the first goes. -/
example : (run (IndexTable.perform fun _ => 7)
    [.put 1 10, .put 2 20, .put 3 30, .remove 1, .get 1, .get 2, .get 3]
    (IndexTable.init 4)).map Prod.fst =
      some [none, none, none, some 10, none, some 20, some 30] := by decide +kernel

end LyuneGateway.Worker
