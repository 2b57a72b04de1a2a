import LyuneGateway.Lib.BigEndian
import LyuneGateway.Lib.Table
import LyuneGateway.Membership.Table

/-!
# Return paths

A packet that has come to the wrong node is sent on to the one that owns its
connection, and the answer has to come back the same way. The owner keeps the
route of the answer; the node in between keeps who may answer to a client. Both
are tables of a fixed size, from which idle entries are removed, and the oldest
one when there is no room.
-/

namespace LyuneGateway.Reactor

open LyuneGateway.Membership (Address)

def purgeBatch : Nat := 64

/-- The family, the host, and the port of an address. -/
abbrev AddressKey := List UInt8

def addressKey : Address → AddressKey
  | .ip4 host port =>
      4 :: (BigEndian.write 4 host ++ (List.replicate 12 0 ++ BigEndian.write 2 port))
  | .ip6 host port => 6 :: (BigEndian.write 16 host ++ BigEndian.write 2 port)

/-- No two addresses have the same key. -/
theorem addressKey_inj {address other : Address} (same : addressKey address = addressKey other) :
    address = other := by
  have back : ∀ {width n : Nat} {value value' : Fin n}, n = 256 ^ width →
      BigEndian.write width value = BigEndian.write width value' → value = value' := by
    intro width n value value' size equal
    have numbers := congrArg BigEndian.read equal
    rw [BigEndian.read_write_of_lt (size ▸ value.isLt), BigEndian.read_write_of_lt (size ▸ value'.isLt)]
      at numbers
    exact Fin.ext numbers
  cases address with
  | ip4 host port =>
      cases other with
      | ip4 host' port' =>
          obtain ⟨hosts, rest⟩ := List.append_inj (List.cons.inj same).2 (by simp)
          have ports := (List.append_inj rest rfl).2
          rw [back (by norm_num) hosts, back (by norm_num) ports]
      | ip6 host' port' => exact absurd (List.cons.inj same).1 (by decide)
  | ip6 host port =>
      cases other with
      | ip4 host' port' => exact absurd (List.cons.inj same).1 (by decide)
      | ip6 host' port' =>
          obtain ⟨hosts, ports⟩ := List.append_inj (List.cons.inj same).2 (by simp)
          rw [back (by norm_num) hosts, back (by norm_num) ports]

/-- A worker of another node: where answers go to, or who may answer. -/
structure Peer where
  nodeId : Nat
  workerId : Nat
  lastSeen : Nat
  deriving DecidableEq, Repr

/-- The order in which a hash map is gone through may be any. -/
structure Iterator where
  items : Table AddressKey Peer → List (AddressKey × Peer)
  perm : ∀ entries, (items entries).Perm (entries.entries.map fun entry => (entry.1, entry.2))

structure PeerTable where
  entries : Table AddressKey Peer := ∅
  capacity : Nat
  timeoutUs : Nat

/-- An entry is not idle for too long if the clock has been set back. -/
def isExpired (lastSeen now timeoutUs : Nat) : Bool := lastSeen < now && timeoutUs < now - lastSeen

namespace PeerTable

def init (capacity timeoutUs : Nat) : Option PeerTable :=
  if 2 ^ 32 - 1 < capacity then none else some { capacity := capacity, timeoutUs := timeoutUs }

def expired (table : PeerTable) (now : Nat) (peer : Peer) : Bool :=
  isExpired peer.lastSeen now table.timeoutUs

/-- The first keys of idle entries. -/
def batch (iterator : Iterator) (now : Nat) (table : PeerTable) : List AddressKey :=
  (((iterator.items table.entries).filter fun item => table.expired now item.2).map Prod.fst).take
    purgeBatch

/-- Remove idle entries in batches, until a batch is not full. -/
def removeExpired (iterator : Iterator) (now : Nat) : Nat → PeerTable → PeerTable
  | 0, table => table
  | rounds + 1, table =>
      let keys := batch iterator now table
      let table := { table with
        entries := keys.foldl (fun entries key => entries.erase key) table.entries }
      if keys.length < purgeBatch then table else removeExpired iterator now rounds table

/-- The key of the first entry with the lowest time, of those below the highest time of all. -/
def oldest (items : List (AddressKey × Peer)) : Option AddressKey × Nat :=
  items.foldl (fun (found : Option AddressKey × Nat) item =>
    if found.2 ≤ item.2.lastSeen then found else (some item.1, item.2.lastSeen)) (none, 2 ^ 64 - 1)

def removeOldest (iterator : Iterator) (table : PeerTable) : PeerTable :=
  match (oldest (iterator.items table.entries)).1 with
  | none => table
  | some key => { table with entries := table.entries.erase key }

/-- Add or refresh an entry. The map was made for as many entries as its capacity; `spare` says
whether it has or gets room for another one. False if it does not. -/
def remember (table : PeerTable) (iterator : Iterator) (spare : Bool) (address : Address)
    (nodeId workerId now : Nat) : Bool × PeerTable :=
  let key := addressKey address
  let peer : Peer := { nodeId := nodeId, workerId := workerId, lastSeen := now }
  if (table.entries.lookup key).isSome then
    (true, { table with entries := table.entries.insert key peer })
  else
    let table := removeExpired iterator now (table.entries.size + 1) table
    let table := if table.capacity ≤ table.entries.size then removeOldest iterator table else table
    if table.entries.size < table.capacity ∨ spare = true then
      (true, { table with entries := table.entries.insert key peer })
    else (false, table)

/-- An entry that has been idle for too long is removed when it is found. -/
def lookup (table : PeerTable) (address : Address) (now : Nat) : Option Peer × PeerTable :=
  let key := addressKey address
  match table.entries.lookup key with
  | none => (none, table)
  | some peer =>
      if table.expired now peer then (none, { table with entries := table.entries.erase key })
      else (some peer, table)

def remove (table : PeerTable) (address : Address) : PeerTable :=
  { table with entries := table.entries.erase (addressKey address) }

end PeerTable

inductive TunnelKind where
  | request
  | response
  deriving DecidableEq, Repr

/-- Where a packet of the tunnel comes from. -/
structure TunnelMetadata where
  kind : TunnelKind
  sourceNodeId : Nat
  sourceWorkerId : Nat
  deriving DecidableEq, Repr

def matchesPeer (peer : Peer) (metadata : TunnelMetadata) : Bool :=
  peer.nodeId = metadata.sourceNodeId && peer.workerId = metadata.sourceWorkerId

/-- The routes of answers to clients whose connections a worker owns, and the grants of answers to
clients whose packets it has sent on. -/
structure Tracker where
  routes : PeerTable
  grants : PeerTable

namespace Tracker

def init (capacity timeoutUs : Nat) : Option Tracker := do
  let routes ← PeerTable.init capacity timeoutUs
  let grants ← PeerTable.init capacity timeoutUs
  some { routes := routes, grants := grants }

def rememberRoute (tracker : Tracker) (iterator : Iterator) (spare : Bool) (client : Address)
    (nodeId workerId now : Nat) : Bool × Tracker :=
  let (stored, routes) := tracker.routes.remember iterator spare client nodeId workerId now
  (stored, { tracker with routes := routes })

def lookupRoute (tracker : Tracker) (client : Address) (now : Nat) : Option Peer × Tracker :=
  let (route, routes) := tracker.routes.lookup client now
  (route, { tracker with routes := routes })

def forgetRoute (tracker : Tracker) (client : Address) : Tracker :=
  { tracker with routes := tracker.routes.remove client }

def grantResponse (tracker : Tracker) (iterator : Iterator) (spare : Bool) (client : Address)
    (nodeId workerId now : Nat) : Bool × Tracker :=
  let (stored, grants) := tracker.grants.remember iterator spare client nodeId workerId now
  (stored, { tracker with grants := grants })

def isGranted (tracker : Tracker) (client : Address) (metadata : TunnelMetadata) (now : Nat) :
    Bool × Tracker :=
  let (expected, grants) := tracker.grants.lookup client now
  (expected.any fun peer => matchesPeer peer metadata, { tracker with grants := grants })

end Tracker

/-! ## One operation on a table -/

namespace PeerTable

variable {table : PeerTable} {iterator : Iterator} {address : Address} {now : Nat} {spare : Bool}

/-- The entries that have not been idle for too long. -/
def live (table : PeerTable) (now : Nat) : Table AddressKey Peer :=
  table.entries.keep fun _ peer => !table.expired now peer

theorem mem_items {entries : Table AddressKey Peer} {key : AddressKey} {peer : Peer} :
    (key, peer) ∈ iterator.items entries ↔ entries.lookup key = some peer := by
  rw [(iterator.perm entries).mem_iff, ← Option.mem_def, AList.mem_lookup_iff]
  constructor
  · intro listed
    obtain ⟨⟨own, held⟩, member, same⟩ := List.mem_map.mp listed
    cases same
    exact member
  · exact fun listed => List.mem_map.mpr ⟨⟨key, peer⟩, listed, rfl⟩

theorem mem_of_batch {key : AddressKey} (listed : key ∈ batch iterator now table) :
    ∃ peer, table.entries.lookup key = some peer ∧ table.expired now peer = true := by
  obtain ⟨⟨own, peer⟩, member, rfl⟩ := List.mem_map.mp (List.mem_of_mem_take listed)
  obtain ⟨held, idle⟩ := List.mem_filter.mp member
  exact ⟨peer, mem_items.mp held, idle⟩

/-- A batch that is not full has the keys of all idle entries. -/
theorem batch_complete {key : AddressKey} {peer : Peer}
    (short : (batch iterator now table).length < purgeBatch)
    (held : table.entries.lookup key = some peer) (idle : table.expired now peer = true) :
    key ∈ batch iterator now table := by
  rw [batch, List.length_take] at short
  rw [batch, List.take_of_length_le (by omega)]
  exact List.mem_map.mpr ⟨(key, peer), List.mem_filter.mpr ⟨mem_items.mpr held, idle⟩, rfl⟩

theorem not_mem_batch (entry : Sigma fun _ : AddressKey => Peer) (listed : entry ∈ table.entries.entries)
    (fresh : table.expired now entry.2 = false) : entry.1 ∉ batch iterator now table := by
  intro chosen
  obtain ⟨peer, held, idle⟩ := mem_of_batch chosen
  cases held.symm.trans (AList.mem_lookup_iff.mpr listed)
  exact absurd idle (by simp [fresh])

/-- However long it takes, exactly the idle entries are removed. -/
theorem removeExpired_eq {rounds : Nat} (enough : table.entries.size < rounds) :
    removeExpired iterator now rounds table = { table with entries := table.live now } := by
  induction rounds generalizing table with
  | zero => omega
  | succ rounds ih =>
      have left := @Table.entries_foldl_erase _ _ _ table.entries (batch iterator now table)
      rw [removeExpired]
      set entries : Table AddressKey Peer := (batch iterator now table).foldl
        (fun entries key => AList.erase key entries) table.entries with taken
      split
      · rename_i short
        congr 1
        refine AList.ext (left.trans (List.filter_congr fun entry listed => ?_))
        cases idle : table.expired now entry.2 with
        | true => simp [idle, batch_complete short (AList.mem_lookup_iff.mpr listed) idle]
        | false => simp [idle, not_mem_batch entry listed idle]
      · rename_i full
        have smaller : Table.size entries < table.entries.size := by
          have nonempty : batch iterator now table ≠ [] := by
            rintro empty
            rw [empty] at full
            exact full (by decide)
          obtain ⟨key, chosen⟩ := List.exists_mem_of_ne_nil _ nonempty
          obtain ⟨peer, held, -⟩ := mem_of_batch chosen
          rw [Table.size, left]
          apply List.length_filter_lt_length_iff_exists.mpr
          exact ⟨⟨key, peer⟩, AList.mem_lookup_iff.mp held, by simpa using chosen⟩
        have enough' : Table.size entries < rounds := by omega
        refine (@ih { table with entries := entries } enough').trans ?_
        congr 1
        refine AList.ext ?_
        change entries.entries.filter _ = table.entries.entries.filter _
        rw [left, List.filter_filter]
        refine List.filter_congr fun entry listed => ?_
        change ((!table.expired now entry.2) && _) = !table.expired now entry.2
        cases idle : table.expired now entry.2 with
        | true => rfl
        | false => simp [not_mem_batch entry listed idle]

/-- The time that is found is the lowest one, and the key is of an entry with it, if there is one
below the highest time of all. -/
theorem oldest_spec (items : List (AddressKey × Peer)) :
    (∀ item ∈ items, (oldest items).2 ≤ item.2.lastSeen) ∧
    ((oldest items).1 = none → (oldest items).2 = 2 ^ 64 - 1) ∧
    ∀ key, (oldest items).1 = some key → (oldest items).2 < 2 ^ 64 - 1 ∧
      ∃ peer, (key, peer) ∈ items ∧ peer.lastSeen = (oldest items).2 := by
  unfold oldest
  generalize 2 ^ 64 - 1 = top
  induction items using List.reverseRecOn with
  | nil => simp
  | append_singleton items item ih =>
      rw [List.foldl_append, List.foldl_cons, List.foldl_nil]
      generalize items.foldl _ (none, top) = found at ih ⊢
      obtain ⟨lowest, missing, present⟩ := ih
      by_cases later : found.2 ≤ item.2.lastSeen
      · rw [if_pos later]
        refine ⟨fun other listed => ?_, missing, fun key chosen => ?_⟩
        · obtain before | last := List.mem_append.mp listed
          · exact lowest other before
          · exact List.mem_singleton.mp last ▸ later
        · obtain ⟨below, peer, listed, time⟩ := present key chosen
          exact ⟨below, peer, List.mem_append_left _ listed, time⟩
      · rw [if_neg later]
        have earlier := not_le.mp later
        refine ⟨fun other listed => ?_, by simp, fun key chosen => ?_⟩
        · obtain before | last := List.mem_append.mp listed
          · exact earlier.le.trans (lowest other before)
          · exact (List.mem_singleton.mp last ▸ le_rfl)
        · cases chosen
          refine ⟨?_, item.2, List.mem_append_right _ (List.mem_singleton.mpr rfl), rfl⟩
          cases chosen : found.1 with
          | none => exact missing chosen ▸ earlier
          | some other => exact earlier.trans (present other chosen).1

/-- The oldest entry is removed, unless all entries are of the last instant of the clock. -/
theorem removeOldest_cases :
    (∃ victim old, table.entries.lookup victim = some old ∧ old.lastSeen < 2 ^ 64 - 1 ∧
      (∀ key peer, table.entries.lookup key = some peer → old.lastSeen ≤ peer.lastSeen) ∧
      removeOldest iterator table = { table with entries := table.entries.erase victim }) ∨
    (∀ key peer, table.entries.lookup key = some peer → 2 ^ 64 - 1 ≤ peer.lastSeen) ∧
      removeOldest iterator table = table := by
  obtain ⟨lowest, missing, present⟩ := oldest_spec (iterator.items table.entries)
  have low : ∀ key peer, table.entries.lookup key = some peer →
      (oldest (iterator.items table.entries)).2 ≤ peer.lastSeen :=
    fun key peer held => lowest (key, peer) (mem_items.mpr held)
  unfold removeOldest
  cases found : (oldest (iterator.items table.entries)).1 with
  | none => exact .inr ⟨fun key peer held => missing found ▸ low key peer held, rfl⟩
  | some victim =>
      obtain ⟨below, old, listed, time⟩ := present victim found
      exact .inl ⟨victim, old, mem_items.mp listed, time ▸ below, time ▸ low, rfl⟩

section Remember

variable {nodeId workerId : Nat}

/-- An entry is refreshed; or it is added when the idle ones have been removed, and the oldest one
if there is no room then. -/
theorem remember_cases (fits : table.entries.size ≤ table.capacity) :
    let key := addressKey address
    let peer : Peer := { nodeId := nodeId, workerId := workerId, lastSeen := now }
    let answer := table.remember iterator spare address nodeId workerId now
    (∃ old, table.entries.lookup key = some old) ∧
        answer = (true, { table with entries := table.entries.insert key peer }) ∨
    table.entries.lookup key = none ∧ ((table.live now).size < table.capacity ∧
        answer = (true, { table with entries := (table.live now).insert key peer }) ∨
      table.capacity ≤ (table.live now).size ∧
        ((∃ victim old, (table.live now).lookup victim = some old ∧ old.lastSeen < 2 ^ 64 - 1 ∧
          (∀ other held, (table.live now).lookup other = some held →
            old.lastSeen ≤ held.lastSeen) ∧
          answer = (true, { table with
            entries := ((table.live now).erase victim).insert key peer })) ∨
        (∀ other held, (table.live now).lookup other = some held →
          2 ^ 64 - 1 ≤ held.lastSeen) ∧
          answer = if spare = true then
            (true, { table with entries := (table.live now).insert key peer })
            else (false, { table with entries := table.live now }))) := by
  intro key peer answer
  have smaller : (table.live now).size ≤ table.entries.size := Table.Shrinks.keep.size_le
  cases held : table.entries.lookup key with
  | some old =>
      refine .inl ⟨⟨old, rfl⟩, ?_⟩
      simp only [answer, remember, key] at held ⊢
      rw [held, Option.isSome_some, if_pos rfl]
  | none =>
      refine .inr ⟨rfl, ?_⟩
      have unfolded : answer =
          let table' : PeerTable := { table with entries := table.live now }
          let next := if table'.capacity ≤ table'.entries.size then removeOldest iterator table'
            else table'
          if next.entries.size < next.capacity ∨ spare = true then
            (true, { next with entries := next.entries.insert key peer })
          else (false, next) := by
        simp only [answer, remember, key] at held ⊢
        rw [held, removeExpired_eq (Nat.lt_succ_self _)]
        rfl
      by_cases room : (table.live now).size < table.capacity
      · refine .inl ⟨room, ?_⟩
        rw [unfolded]
        simp only [not_le.mpr room, room, if_false, true_or, if_true]
      · refine .inr ⟨not_lt.mp room, ?_⟩
        rw [unfolded]
        simp only [not_lt.mp room, if_true]
        obtain ⟨victim, old, found, below, lowest, removed⟩ | ⟨last, kept⟩ :=
          @removeOldest_cases { table with entries := table.live now } iterator
        · refine .inl ⟨victim, old, found, below, lowest, ?_⟩
          have left : Table.size ((table.live now).erase victim) < table.capacity := by
            have counted := (Table.perm_erase found).length_eq
            rw [List.length_cons] at counted
            simp only [Table.size] at *
            omega
          rw [removed]
          simp only [left, true_or, if_true]
        · refine .inr ⟨last, ?_⟩
          rw [kept]
          simp only [room, false_or]

end Remember

/-! ## What an operation leaves alone -/

/-- No room is left for another address, and there is no entry that could be removed as the oldest
one: all are of the last instant of the clock. -/
def Jammed (table : PeerTable) (address : Address) : Prop :=
  table.capacity ≤ table.entries.size ∧ table.entries.lookup (addressKey address) = none ∧
    ∀ key peer, table.entries.lookup key = some peer → peer.lastSeen = 2 ^ 64 - 1

/-- The entry may be removed to make room for another one: the table is full, even without the idle
entries, and no entry is older. -/
structure Evictable (table : PeerTable) (now : Nat) (key : AddressKey) : Prop where
  full : table.capacity ≤ (table.live now).size
  oldest : ∃ old, (table.live now).lookup key = some old ∧
    ∀ other peer, (table.live now).lookup other = some peer → old.lastSeen ≤ peer.lastSeen

/-- What becomes of the entries of other addresses: they stay as they are, except that idle ones may
be removed, and one that may be evicted in favour of an address without an entry. -/
structure Spares (table after : PeerTable) (address : Address) (now : Nat) : Prop where
  capacity : after.capacity = table.capacity
  timeoutUs : after.timeoutUs = table.timeoutUs
  others : ∃ victim : Option AddressKey,
    (∀ key ∈ victim, table.Evictable now key ∧ after.entries.lookup key = none ∧
      table.entries.lookup (addressKey address) = none) ∧
    ∀ key, key ≠ addressKey address → key ∉ victim →
      after.entries.lookup key = table.entries.lookup key ∨ after.entries.lookup key = none ∧
        ∃ peer, table.entries.lookup key = some peer ∧ table.expired now peer = true

theorem Spares.refl : table.Spares table address now where
  capacity := rfl
  timeoutUs := rfl
  others := ⟨none, by simp, fun _ _ _ => .inl rfl⟩

/-- Removing the entry of the address itself leaves all others. -/
theorem spares_erase : table.Spares { table with
    entries := table.entries.erase (addressKey address) } address now where
  capacity := rfl
  timeoutUs := rfl
  others := ⟨none, by simp, fun _ other _ => .inl (AList.lookup_erase_ne other)⟩

theorem spares_lookup : table.Spares (table.lookup address now).2 address now := by
  unfold lookup
  simp only
  split
  · exact Spares.refl
  · split
    · exact spares_erase
    · exact Spares.refl

/-- Going over to the entries that are not idle changes no other ones. -/
theorem lookup_live (key : AddressKey) :
    (table.live now).lookup key = table.entries.lookup key ∨ (table.live now).lookup key = none ∧
      ∃ peer, table.entries.lookup key = some peer ∧ table.expired now peer = true := by
  cases held : table.entries.lookup key with
  | none => exact .inl (Table.Shrinks.keep key held)
  | some peer =>
      cases idle : table.expired now peer with
      | false => exact .inl (Table.lookup_keep_eq_some.mpr ⟨held, by simp [idle]⟩)
      | true =>
          refine .inr ⟨?_, peer, rfl, idle⟩
          by_contra present
          obtain ⟨other, found⟩ := Option.ne_none_iff_exists'.mp present
          obtain ⟨same, fresh⟩ := Table.lookup_keep_eq_some.mp found
          cases held.symm.trans same
          simp [idle] at fresh

section Remember

variable {nodeId workerId : Nat}

theorem spares_remember (fits : table.entries.size ≤ table.capacity) :
    table.Spares (table.remember iterator spare address nodeId workerId now).2 address now := by
  have added : ∀ peer, table.Spares { table with
      entries := (table.live now).insert (addressKey address) peer } address now := by
    refine fun peer => ⟨rfl, rfl, none, by simp, fun key other _ => ?_⟩
    rw [AList.lookup_insert_ne other]
    exact lookup_live key
  obtain ⟨-, answer⟩ | ⟨absent, ⟨-, answer⟩ | ⟨full, ⟨victim, old, found, below, lowest, answer⟩ |
    ⟨-, answer⟩⟩⟩ := @remember_cases table iterator address now spare nodeId workerId fits
  · rw [answer]
    exact ⟨rfl, rfl, none, by simp, fun key other _ => .inl (AList.lookup_insert_ne other)⟩
  · rw [answer]
    exact added _
  · rw [answer]
    refine ⟨rfl, rfl, some victim, ?_, fun key other spared => ?_⟩
    · rintro _ ⟨⟩
      have other : victim ≠ addressKey address := by
        rintro rfl
        cases (Table.Shrinks.keep _ absent).symm.trans found
      rw [AList.lookup_insert_ne other, AList.lookup_erase]
      exact ⟨⟨full, old, found, lowest⟩, rfl, absent⟩
    · rw [AList.lookup_insert_ne other, AList.lookup_erase_ne (by simpa [eq_comm] using spared)]
      exact lookup_live key
  · rw [answer]
    split
    · exact added _
    · exact ⟨rfl, rfl, none, by simp, fun key _ _ => lookup_live key⟩

/-- The entry of the address itself is the new one, if there is one. -/
theorem lookup_remember_self (fits : table.entries.size ≤ table.capacity) {peer : Peer}
    (held : (table.remember iterator spare address nodeId workerId now).2.entries.lookup
      (addressKey address) = some peer) :
    peer = { nodeId := nodeId, workerId := workerId, lastSeen := now } := by
  obtain ⟨-, answer⟩ | ⟨absent, ⟨-, answer⟩ | ⟨full, ⟨victim, old, found, below, lowest, answer⟩ |
    ⟨-, answer⟩⟩⟩ := @remember_cases table iterator address now spare nodeId workerId fits
  · rw [answer, AList.lookup_insert] at held
    exact (Option.some.inj held).symm
  · rw [answer, AList.lookup_insert] at held
    exact (Option.some.inj held).symm
  · rw [answer, AList.lookup_insert] at held
    exact (Option.some.inj held).symm
  · rw [answer] at held
    split at held
    · rw [AList.lookup_insert] at held
      exact (Option.some.inj held).symm
    · cases (Table.Shrinks.keep _ absent).symm.trans held

/-- What is of the last instant of the clock is never idle. -/
theorem live_eq_of_last (last : ∀ key peer, table.entries.lookup key = some peer →
    peer.lastSeen = 2 ^ 64 - 1) (before : now < 2 ^ 64) : table.live now = table.entries := by
  refine AList.ext (List.filter_eq_self.mpr fun entry listed => ?_)
  have time := last entry.1 entry.2 (AList.mem_lookup_iff.mpr listed)
  have late : ¬entry.2.lastSeen < now := by omega
  simp [expired, isExpired, late]

/-- A table outgrows its capacity exactly when it is jammed and there is room all the same. -/
theorem size_remember (fits : table.entries.size ≤ table.capacity)
    (times : ∀ key peer, table.entries.lookup key = some peer → peer.lastSeen < 2 ^ 64)
    (before : now < 2 ^ 64) :
    (table.remember iterator spare address nodeId workerId now).2.entries.size ≤ table.capacity ↔
      ¬(table.Jammed address ∧ spare = true) := by
  have smaller : (table.live now).size ≤ table.entries.size := Table.Shrinks.keep.size_le
  have gone : table.entries.lookup (addressKey address) = none →
      (table.live now).lookup (addressKey address) = none := fun absent =>
    Table.Shrinks.keep _ absent
  obtain ⟨⟨old, held⟩, answer⟩ | ⟨absent, ⟨room, answer⟩ | ⟨full,
    ⟨victim, old, found, below, lowest, answer⟩ | ⟨last, answer⟩⟩⟩ :=
      @remember_cases table iterator address now spare nodeId workerId fits
  · rw [answer]
    refine iff_of_true ?_ fun ⟨jammed, _⟩ => by simp [jammed.2.1] at held
    refine (Table.Shrinks.size_le fun key absent => ?_).trans fits
    rw [AList.lookup_insert_ne]
    · exact absent
    · rintro rfl
      cases held.symm.trans absent
  · rw [answer]
    refine iff_of_true ?_ fun ⟨jammed, _⟩ => ?_
    · rw [Table.size_insert_of_absent (gone absent)]
      exact room
    · rw [live_eq_of_last jammed.2.2 before] at room
      exact absurd jammed.1 (not_le.mpr room)
  · rw [answer]
    refine iff_of_true ?_ fun ⟨jammed, _⟩ => ?_
    · have counted := (Table.perm_erase found).length_eq
      rw [List.length_cons] at counted
      rw [Table.size_insert_of_absent (Table.Shrinks.erase _ (gone absent))]
      simp only [Table.size] at *
      omega
    · have time := jammed.2.2 victim old (Table.lookup_keep_eq_some.mp found).1
      omega
  · rw [answer]
    cases spare with
    | false => exact iff_of_true (smaller.trans fits) (by simp)
    | true =>
        refine iff_of_false ?_ (not_not.mpr ⟨⟨full.trans smaller, absent, fun key peer held => ?_⟩,
          rfl⟩)
        · rw [if_pos rfl, Table.size_insert_of_absent (gone absent)]
          omega
        · have all := List.length_filter_eq_length_iff.mp
            (le_antisymm smaller (fits.trans full))
          have fresh := all ⟨key, peer⟩ (AList.mem_lookup_iff.mp held)
          have time := last key peer (Table.lookup_keep_eq_some.mpr ⟨held, fresh⟩)
          have limit := times key peer held
          omega

end Remember

end PeerTable

end LyuneGateway.Reactor
