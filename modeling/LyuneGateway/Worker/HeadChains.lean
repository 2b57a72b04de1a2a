import LyuneGateway.Lib.Chain
import LyuneGateway.Worker.Indexes

/-!
# Chains whose heads lie in a table

The connections of a destination are chained through their slots, and the members
of a group through the edges. A table has the head of every chain that is not
empty; an empty chain has no entry.
-/

namespace LyuneGateway.Worker.HeadTable

open Foundation

def headAt (table : HeadTable) (place : Nat) : Nat := (table.entries place).head.toNat

/-- Write the head of an entry in its place. -/
def write (table : HeadTable) (place head : Nat) : HeadTable :=
  { table with
    entries := Function.update table.entries place
      { table.entries place with head := .ofNat head } }

/-- Put a cell before the chain of its key: the table and the links after it. -/
def link (table : HeadTable) (next : Nat → Option Nat) (realm : RealmId) (key : UInt64)
    (cell : Nat) : Option (HeadTable × (Nat → Option Nat)) :=
  (table.find hashKey realm key).bind fun
    | some place =>
        some (table.write place cell, Function.update next cell (some (table.headAt place)))
    | none => (table.insert hashKey realm key (.ofNat cell)).map fun table =>
        (table, Function.update next cell none)

/-- Take a cell out of the chain of its key, whose entry is at `place`. An entry whose chain
would be empty goes too. -/
def unlink (table : HeadTable) (next : Nat → Option Nat) (fuel place : Nat) (realm : RealmId)
    (key : UInt64) (cell : Nat) : Option (HeadTable × (Nat → Option Nat)) :=
  if table.headAt place = cell then
    match next cell with
    | some rest => some (table.write place rest, next)
    | none => (table.remove hashKey realm key).map fun table => (table, next)
  else (Chain.skip next cell fuel (table.headAt place)).map fun next => (table, next)

/-- The heads in the table and the links of the cells make the chains of the entries. -/
structure Chained (capacity : Nat) (table : HeadTable) (next : Nat → Option Nat)
    (entries : List ((RealmId × UInt64) × Nat)) : Prop where
  heads : ∃ map, Refines hashKey capacity table map ∧
    Chain.Threads (fun key => (map.lookup key).map UInt32.toNat) next entries
  few : entries.length ≤ capacity
  fits : ∀ entry ∈ entries, entry.2 < 2 ^ 32
  proper : ∀ entry ∈ entries, entry.1.2 ≠ 0

variable {capacity : Nat} {table : HeadTable} {map : Table (RealmId × UInt64) UInt32}
  {next after : Nat → Option Nat} {entries : List ((RealmId × UInt64) × Nat)}

theorem toNat_ofNat {cell : Nat} (fits : cell < 2 ^ 32) : (UInt32.ofNat cell).toNat = cell :=
  UInt32.toNat_ofNat_of_lt' fits

/-- There are no more heads than cells. -/
theorem size_le_of_threads
    (threads : Chain.Threads (fun key => (map.lookup key).map UInt32.toNat) next entries) :
    map.size ≤ entries.length := by
  have within : map.keys ⊆ entries.map Prod.fst := by
    intro key listed
    by_contra outside
    have empty := threads.head_eq_none key
    rw [Option.map_eq_none_iff, AList.lookup_eq_none] at empty
    refine empty.mpr (fun entry there same => outside ?_) listed
    exact same ▸ List.mem_map_of_mem there
  have short := (List.subperm_of_subset map.keys_nodup within).length_le
  simpa [Table.size, AList.keys, List.keys] using short

section Heads

variable (key : RealmId × UInt64) (map)

theorem heads_insert (head : UInt32) :
    (fun other => ((map.insert key head).lookup other).map UInt32.toNat) =
      Function.update (fun other => (map.lookup other).map UInt32.toNat) key (some head.toNat) := by
  funext other
  by_cases same : other = key
  · subst same
    simp
  · simp [same, AList.lookup_insert_ne]

theorem heads_erase :
    (fun other => ((map.erase key).lookup other).map UInt32.toNat) =
      Function.update (fun other => (map.lookup other).map UInt32.toNat) key none := by
  funext other
  by_cases same : other = key
  · subst same
    simp
  · simp [same, AList.lookup_erase_ne]

end Heads

/-- A new head in the place of a key. -/
theorem Refines.write (refines : Refines hashKey capacity table map) {place head : Nat}
    {key : RealmId × UInt64} (inside : place < (shape hashKey table.bits).size)
    (here : (shape hashKey table.bits).key? (table.entries place) = some key) :
    Refines hashKey capacity (table.write place head) (map.insert key (.ofNat head)) where
  bits := refines.bits
  implements := by
    have named : (shape hashKey table.bits).key?
        { table.entries place with head := .ofNat head } = some key := here
    exact refines.implements.write (refines.implements.toSound.fits_found inside here) named

theorem Refines.insert (refines : Refines hashKey capacity table map) (few : map.size ≤ capacity)
    {realm : RealmId} {key : UInt64} (proper : key ≠ 0) (absent : map.lookup (realm, key) = none)
    (head : UInt32) : ∃ grown, table.insert hashKey realm key head = some grown ∧
      Refines hashKey capacity grown (map.insert (realm, key) head) := by
  have named : (shape hashKey table.bits).key? ⟨key, realm, head⟩ = some (realm, key) :=
    if_neg proper
  obtain ⟨i, free, fits⟩ := refines.implements.room (refines.few few) absent
  refine ⟨{ table with entries := Function.update table.entries i ⟨key, realm, head⟩ }, ?_,
    refines.bits, refines.implements.write fits named⟩
  rw [HeadTable.insert, free]
  rfl

theorem Refines.remove (refines : Refines hashKey capacity table map) (few : map.size ≤ capacity)
    (realm : RealmId) (key : UInt64) : ∃ cut, table.remove hashKey realm key = some cut ∧
      Refines hashKey capacity cut (map.erase (realm, key)) := by
  obtain ⟨answer, entries, removed, -, implements⟩ :=
    refines.implements.remove (refines.few few) (realm, key)
  refine ⟨{ table with entries := entries }, ?_, refines.bits, implements⟩
  rw [HeadTable.remove, removed]
  rfl

namespace Chained

theorem init (capacity : Nat) (next : Nat → Option Nat) :
    Chained capacity (HeadTable.init capacity) next [] where
  heads := ⟨∅, ⟨rfl, Probing.implements_blank _⟩, Chain.Threads.empty⟩
  few := Nat.zero_le _
  fits := by simp
  proper := by simp

theorem congr (chained : Chained capacity table next entries)
    (same : ∀ entry ∈ entries, after entry.2 = next entry.2) :
    Chained capacity table after entries where
  heads := by
    obtain ⟨map, refines, threads⟩ := chained.heads
    exact ⟨map, refines, threads.congr (fun _ => rfl) same⟩
  few := chained.few
  fits := chained.fits
  proper := chained.proper

theorem once (chained : Chained capacity table next entries) : (entries.map Prod.snd).Nodup := by
  obtain ⟨map, -, threads⟩ := chained.heads
  exact threads.once

/-- A search finds the head of the chain, or that there is none. -/
theorem find (chained : Chained capacity table next entries) (realm : RealmId) (key : UInt64) :
    (table.find hashKey realm key = some none ∧ Chain.cells (realm, key) entries = []) ∨
      ∃ place rest, table.find hashKey realm key = some (some place) ∧
        Chain.cells (realm, key) entries = table.headAt place :: rest := by
  obtain ⟨map, refines, threads⟩ := chained.heads
  have few := (size_le_of_threads threads).trans chained.few
  have links := threads.links (realm, key)
  rcases refines.find few realm key with ⟨found, absent⟩ | ⟨place, found, inside, here⟩
  · simp only [absent, Option.map_none] at links
    exact .inl ⟨found, links.unique rfl⟩
  · have held : map.lookup (realm, key) = some (table.entries place).head :=
      (refines.implements.holds _ _).mpr ⟨place, inside, here, rfl⟩
    simp only [held, Option.map_some] at links
    cases listed : Chain.cells (realm, key) entries with
    | nil =>
        rw [listed] at links
        cases links
    | cons first rest =>
        rw [listed] at links
        obtain rfl := Option.some.inj links.1
        exact .inr ⟨place, rest, found, rfl⟩

/-- The loop along the chain of a key meets its cells. -/
theorem walk (chained : Chained capacity table next entries) {realm : RealmId} {key : UInt64}
    {place fuel : Nat} (found : table.find hashKey realm key = some (some place))
    (enough : entries.length ≤ fuel) :
    Chain.walk next fuel (some (table.headAt place)) =
      some (Chain.cells (realm, key) entries) := by
  obtain ⟨map, refines, threads⟩ := chained.heads
  have links := threads.links (realm, key)
  rcases chained.find realm key with ⟨none_, -⟩ | ⟨other, rest, there, listed⟩
  · cases found.symm.trans none_
  · cases found.symm.trans there
    rw [listed] at links ⊢
    refine Chain.Links.walk ⟨rfl, links.2⟩ ?_
    exact ((listed ▸ Chain.length_cells_le (realm, key) entries).trans enough)

/-- A new cell comes first in the chain of its key. -/
theorem link (chained : Chained capacity table next entries) (realm : RealmId) {key : UInt64}
    {cell : Nat} (proper : key ≠ 0) (fits : cell < 2 ^ 32) (room : entries.length < capacity)
    (fresh : cell ∉ entries.map Prod.snd) :
    ∃ grown links, table.link next realm key cell = some (grown, links) ∧
      Chained capacity grown links (((realm, key), cell) :: entries) ∧
      ∀ other ≠ cell, links other = next other := by
  obtain ⟨map, refines, threads⟩ := chained.heads
  have few := (size_le_of_threads threads).trans chained.few
  have pushed := threads.push (realm, key) fresh
  rw [← toNat_ofNat fits, ← heads_insert map (realm, key), toNat_ofNat fits] at pushed
  have bounds (grown : HeadTable) (links : Nat → Option Nat)
      (refined : Refines hashKey capacity grown (map.insert (realm, key) (.ofNat cell)))
      (same : links = Function.update next cell ((map.lookup (realm, key)).map UInt32.toNat)) :
      Chained capacity grown links (((realm, key), cell) :: entries) ∧
        ∀ other ≠ cell, links other = next other := by
    subst same
    refine ⟨⟨⟨_, refined, pushed⟩, room, ?_, ?_⟩, fun other differ => ?_⟩
    · exact List.forall_mem_cons.mpr ⟨fits, chained.fits⟩
    · exact List.forall_mem_cons.mpr ⟨proper, chained.proper⟩
    · rw [Function.update_of_ne differ]
  rcases refines.find few realm key with ⟨found, absent⟩ | ⟨place, found, inside, here⟩
  · obtain ⟨grown, inserted, refined⟩ := refines.insert few proper absent (.ofNat cell)
    refine ⟨grown, _, ?_, bounds grown _ refined rfl⟩
    rw [HeadTable.link, found, Option.bind_some, inserted, absent]
    rfl
  · have held : map.lookup (realm, key) = some (table.entries place).head :=
      (refines.implements.holds _ _).mpr ⟨place, inside, here, rfl⟩
    refine ⟨table.write place cell, _, ?_, bounds _ _ (refines.write inside here) rfl⟩
    rw [HeadTable.link, found, Option.bind_some, held]
    rfl

/-- A cell leaves the chain of its key; no other cell but the one before it is written. -/
theorem unlink (chained : Chained capacity table next entries) {realm : RealmId} {key : UInt64}
    {cell place fuel : Nat} (there : ((realm, key), cell) ∈ entries)
    (found : table.find hashKey realm key = some (some place)) (enough : entries.length ≤ fuel) :
    ∃ cut links, table.unlink next fuel place realm key cell = some (cut, links) ∧
      Chained capacity cut links (Chain.without cell entries) ∧
      links cell = next cell ∧ ∀ other ∉ entries.map Prod.snd, links other = next other := by
  obtain ⟨map, refines, threads⟩ := chained.heads
  have few := (size_le_of_threads threads).trans chained.few
  have bounds {cut : HeadTable} {links : Nat → Option Nat} {left : Table (RealmId × UInt64) UInt32}
      (refined : Refines hashKey capacity cut left)
      (kept : Chain.Threads (fun key => (left.lookup key).map UInt32.toNat) links
        (Chain.without cell entries)) :
      Chained capacity cut links (Chain.without cell entries) :=
    ⟨⟨left, refined, kept⟩, (List.length_filter_le _ _).trans chained.few,
      fun entry listed => chained.fits entry (Chain.mem_without.mp listed).1,
      fun entry listed => chained.proper entry (Chain.mem_without.mp listed).1⟩
  rcases refines.find few realm key with ⟨none_, -⟩ | ⟨other, at_, inside, here⟩
  · cases found.symm.trans none_
  cases found.symm.trans at_
  have held : map.lookup (realm, key) = some (table.entries place).head :=
    (refines.implements.holds _ _).mpr ⟨place, inside, here, rfl⟩
  have head : (map.lookup (realm, key)).map UInt32.toNat = some (table.headAt place) := by
    rw [held]
    rfl
  by_cases first : table.headAt place = cell
  · have shifted := threads.shift (realm, key) (first ▸ head)
    rw [HeadTable.unlink, if_pos first]
    cases behind : next cell with
    | none =>
        obtain ⟨cut, removed, refined⟩ := refines.remove few realm key
        rw [behind, ← heads_erase] at shifted
        exact ⟨cut, next, by rw [removed]; rfl, bounds refined shifted, behind, fun _ _ => rfl⟩
    | some rest =>
        have later : ((realm, key), rest) ∈ Chain.without cell entries := by
          have links := shifted.links (realm, key)
          rw [Function.update_self, behind] at links
          cases listed : Chain.cells (realm, key) (Chain.without cell entries) with
          | nil =>
              rw [listed] at links
              cases links
          | cons second more =>
              rw [listed] at links
              obtain rfl := Option.some.inj links.1
              exact Chain.mem_cells.mp (listed ▸ List.mem_cons_self)
        have fits : rest < 2 ^ 32 := chained.fits _ (Chain.mem_without.mp later).1
        rw [behind, ← toNat_ofNat fits, ← heads_insert] at shifted
        exact ⟨table.write place rest, next, rfl, bounds (refines.write inside here) shifted,
          behind, fun _ _ => rfl⟩
  · obtain ⟨prior, listed, differ, skipped, passed⟩ := threads.skip head first there enough
    rw [HeadTable.unlink, if_neg first, skipped]
    refine ⟨table, _, rfl, bounds refines passed, ?_, fun other outside => ?_⟩
    · rw [Function.update_of_ne differ.symm]
    · rw [Function.update_of_ne (ne_of_mem_of_not_mem listed outside).symm]

end Chained

end LyuneGateway.Worker.HeadTable
