import Mathlib.Data.List.AList
import Mathlib.Data.List.Nodup
import Mathlib.Data.List.Perm.Subperm

/-!
# Finite tables

A table is an association list without repeated keys. Besides insertion and
erasure it can change one entry in place, and keep or list the entries that
satisfy a condition.
-/

abbrev Table (κ ν : Type) := AList fun _ : κ => ν

namespace Table

variable {κ ν : Type} [DecidableEq κ]

/-- Change the entry of a key, if there is one. -/
def adjust (table : Table κ ν) (key : κ) (change : ν → ν) : Table κ ν :=
  match table.lookup key with
  | none => table
  | some value => table.insert key (change value)

/-- The entries that satisfy a condition. -/
def keep (table : Table κ ν) (which : κ → ν → Bool) : Table κ ν where
  entries := table.entries.filter fun entry => which entry.1 entry.2
  nodupKeys := table.nodupKeys.sublist List.filter_sublist

def select (table : Table κ ν) (which : κ → ν → Bool) : List (κ × ν) :=
  (table.keep which).entries.map fun entry => (entry.1, entry.2)

/-- The first key whose entry satisfies a condition. -/
def findKey (table : Table κ ν) (which : κ → ν → Bool) : Option κ :=
  (table.entries.find? fun entry => which entry.1 entry.2).map Sigma.fst

def size (table : Table κ ν) : Nat := table.entries.length

variable {table : Table κ ν} {key other : κ} {which : κ → ν → Bool}

theorem lookup_adjust (change : ν → ν) :
    (table.adjust key change).lookup key = (table.lookup key).map change := by
  unfold adjust
  split
  · rename_i absent
    simp [absent]
  · rename_i found
    simp [found]

theorem lookup_adjust_ne (different : other ≠ key) (change : ν → ν) :
    (table.adjust key change).lookup other = table.lookup other := by
  unfold adjust
  split
  · rfl
  · exact AList.lookup_insert_ne different

theorem lookup_adjust_cases {change : ν → ν} {value : ν}
    (found : (table.adjust key change).lookup other = some value) :
    (other = key ∧ ∃ old, table.lookup key = some old ∧ change old = value) ∨
      other ≠ key ∧ table.lookup other = some value := by
  by_cases same : other = key
  · subst same
    rw [lookup_adjust, Option.map_eq_some_iff] at found
    exact .inl ⟨rfl, found⟩
  · rw [lookup_adjust_ne same] at found
    exact .inr ⟨same, found⟩

theorem lookup_insert_cases {value new : ν}
    (found : (table.insert key new).lookup other = some value) :
    (other = key ∧ new = value) ∨ other ≠ key ∧ table.lookup other = some value := by
  by_cases same : other = key
  · subst same
    rw [AList.lookup_insert] at found
    exact .inl ⟨rfl, Option.some.inj found⟩
  · rw [AList.lookup_insert_ne same] at found
    exact .inr ⟨same, found⟩

theorem lookup_erase_eq_some {value : ν} :
    (table.erase key).lookup other = some value ↔ other ≠ key ∧ table.lookup other = some value := by
  by_cases same : other = key
  · subst same
    simp
  · simp [same, AList.lookup_erase_ne same]

theorem lookup_keep_eq_some {value : ν} :
    (table.keep which).lookup key = some value ↔
      table.lookup key = some value ∧ which key value = true := by
  rw [← Option.mem_def, AList.mem_lookup_iff, ← Option.mem_def, AList.mem_lookup_iff]
  exact List.mem_filter

theorem mem_select {value : ν} :
    (key, value) ∈ table.select which ↔ table.lookup key = some value ∧ which key value = true := by
  rw [← lookup_keep_eq_some, ← Option.mem_def, AList.mem_lookup_iff]
  constructor
  · intro member
    obtain ⟨⟨found, held⟩, listed, same⟩ := List.mem_map.mp member
    cases same
    exact listed
  · intro listed
    exact List.mem_map.mpr ⟨⟨key, value⟩, listed, rfl⟩

/-- The other table has entries only for keys that this one has entries for. -/
def Shrinks (table after : Table κ ν) : Prop :=
  ∀ key, table.lookup key = none → after.lookup key = none

namespace Shrinks

theorem refl : table.Shrinks table := fun _ absent => absent

theorem trans {middle after : Table κ ν} (first : table.Shrinks middle)
    (second : middle.Shrinks after) : table.Shrinks after :=
  fun key absent => second key (first key absent)

theorem erase : table.Shrinks (table.erase key) := by
  intro other absent
  by_cases same : other = key
  · rw [same, AList.lookup_erase]
  · rwa [AList.lookup_erase_ne same]

theorem adjust (change : ν → ν) : table.Shrinks (table.adjust key change) := by
  intro other absent
  by_cases same : other = key
  · subst same
    rw [lookup_adjust, absent]
    rfl
  · rwa [lookup_adjust_ne same]

theorem keep : table.Shrinks (table.keep which) := by
  intro other absent
  by_contra present
  obtain ⟨value, found⟩ := Option.ne_none_iff_exists'.mp present
  exact absurd (absent.symm.trans (lookup_keep_eq_some.mp found).1) nofun

/-- A table is no longer than one that has all its keys, and perhaps one more. -/
theorem size_le_succ {after : Table κ ν} (key : κ)
    (others : ∀ other, other ≠ key → table.lookup other = none → after.lookup other = none) :
    after.size ≤ table.size + 1 := by
  have within : after.keys ⊆ key :: table.keys := by
    intro other listed
    by_contra outside
    rw [List.mem_cons, not_or] at outside
    have absent := others other outside.1 (AList.lookup_eq_none.mpr outside.2)
    exact AList.lookup_eq_none.mp absent listed
  have counted := (after.nodupKeys.subperm within).length_le
  simpa [AList.keys, List.keys, size] using counted

theorem size_le {after : Table κ ν} (shrinks : table.Shrinks after) : after.size ≤ table.size := by
  have within : after.keys ⊆ table.keys := by
    intro other listed
    by_contra outside
    exact AList.lookup_eq_none.mp (shrinks other (AList.lookup_eq_none.mpr outside)) listed
  have counted := (after.nodupKeys.subperm within).length_le
  simpa [AList.keys, List.keys, size] using counted

end Shrinks

/-- The entries of the other table come from entries of this one, in a way that may be. -/
def Derives (may : ν → ν → Prop) (table after : Table κ ν) : Prop :=
  ∀ key value, after.lookup key = some value → ∃ old, table.lookup key = some old ∧ may old value

namespace Derives

variable {may : ν → ν → Prop}

theorem refl (same : ∀ value, may value value) : table.Derives may table :=
  fun _ value found => ⟨value, found, same value⟩

theorem trans (chain : ∀ old middle value, may old middle → may middle value → may old value)
    {middle after : Table κ ν} (first : table.Derives may middle)
    (second : middle.Derives may after) : table.Derives may after := by
  intro key value found
  obtain ⟨between, held, later⟩ := second key value found
  obtain ⟨old, known, earlier⟩ := first key between held
  exact ⟨old, known, chain old between value earlier later⟩

theorem shrinks {after : Table κ ν} (derives : table.Derives may after) : table.Shrinks after := by
  intro key absent
  by_contra present
  obtain ⟨value, found⟩ := Option.ne_none_iff_exists'.mp present
  obtain ⟨old, known, -⟩ := derives key value found
  exact absurd (absent.symm.trans known) nofun

theorem erase (same : ∀ value, may value value) : table.Derives may (table.erase key) :=
  fun _ value found => ⟨value, (lookup_erase_eq_some.mp found).2, same value⟩

theorem keep (same : ∀ value, may value value) : table.Derives may (table.keep which) :=
  fun _ value found => ⟨value, (lookup_keep_eq_some.mp found).1, same value⟩

theorem adjust (same : ∀ value, may value value) {change : ν → ν}
    (changed : ∀ value, may value (change value)) : table.Derives may (table.adjust key change) := by
  intro other value found
  obtain ⟨rfl, old, known, rfl⟩ | ⟨-, known⟩ := lookup_adjust_cases found
  · exact ⟨old, known, changed old⟩
  · exact ⟨value, known, same value⟩

end Derives

theorem size_insert_of_absent {value : ν} (absent : table.lookup key = none) :
    size (table.insert key value) = table.size + 1 := by
  simp [size, List.kerase_of_notMem_keys (AList.lookup_eq_none.mp absent)]

/-- An entry and what is left when it is erased. -/
theorem perm_erase {value : ν} (found : table.lookup key = some value) :
    table.entries.Perm (⟨key, value⟩ :: (table.erase key).entries) := by
  have listed : key ∈ table.entries.keys :=
    AList.mem_keys.mp (AList.lookup_isSome.mp (found ▸ rfl))
  obtain ⟨held, first, rest, fresh, entries, erased⟩ := List.exists_of_kerase listed
  have same : held = value := by
    have lookup : table.lookup key = some held := by
      rw [AList.lookup, entries, List.dlookup_append, List.dlookup_eq_none.mpr fresh]
      simp
    exact Option.some.inj (lookup.symm.trans found)
  change table.entries.Perm (⟨key, value⟩ :: table.entries.kerase key)
  rw [erased, entries, same]
  exact List.perm_middle

theorem erase_of_absent (absent : table.lookup key = none) : table.erase key = table := by
  refine AList.ext (List.kerase_of_notMem_keys ?_)
  exact AList.mem_keys.not.mp (AList.lookup_eq_none.mp absent)

/-- Changing an entry does not change what is read off the entries, when it reads the same. -/
theorem map_adjust {β : Type} (read : ν → β) {change : ν → ν}
    (same : ∀ value, read (change value) = read value) :
    ((table.adjust key change).entries.map fun entry => read entry.2).Perm
      (table.entries.map fun entry => read entry.2) := by
  unfold adjust
  cases found : table.lookup key with
  | none => exact List.Perm.refl _
  | some value =>
      refine List.Perm.trans ?_ ((perm_erase found).map fun entry => read entry.2).symm
      rw [AList.entries_insert, List.map_cons, List.map_cons, same]
      exact List.Perm.refl _

/-- Keys of distinct entries that satisfy a condition: all of them, or as many as the limit. -/
structure Picks (table : Table κ ν) (which : κ → ν → Bool) (limit : Nat) (picked : List κ) :
    Prop where
  distinct : picked.Nodup
  chosen : ∀ key ∈ picked, ∃ value, table.lookup key = some value ∧ which key value = true
  length : picked.length = min limit (table.select which).length

/-- A batch with room to spare has taken everything. -/
theorem Picks.complete {limit : Nat} {picked : List κ} (picks : table.Picks which limit picked)
    (short : picked.length < limit) {value : ν} (found : table.lookup key = some value)
    (chosen : which key value = true) : key ∈ picked := by
  have listed : picked ⊆ (table.select which).map Prod.fst := by
    intro own member
    obtain ⟨held, present, holds⟩ := picks.chosen own member
    exact List.mem_map.mpr ⟨(own, held), mem_select.mpr ⟨present, holds⟩, rfl⟩
  have enough : ((table.select which).map Prod.fst).length ≤ picked.length := by
    rw [List.length_map]
    have := picks.length
    omega
  apply ((picks.distinct.subperm listed).perm_of_length_le enough).mem_iff.mpr
  exact List.mem_map.mpr ⟨(key, value), mem_select.mpr ⟨found, chosen⟩, rfl⟩

theorem entries_erase : (table.erase key).entries = table.entries.filter fun entry => entry.1 ≠ key := by
  have erased (entries : List (Sigma fun _ : κ => ν)) (distinct : entries.NodupKeys) :
      entries.kerase key = entries.filter fun entry => entry.1 ≠ key := by
    induction entries with
    | nil => rfl
    | cons entry entries ih =>
        obtain ⟨fresh, rest⟩ := List.nodupKeys_cons.mp distinct
        by_cases same : entry.1 = key
        · rw [List.kerase_cons_eq same.symm, List.filter_cons_of_neg (by simpa using same)]
          refine (List.filter_eq_self.mpr fun own listed => ?_).symm
          have apart : own.1 ≠ key := fun also =>
            fresh (same.trans also.symm ▸ List.mem_map_of_mem listed)
          simpa using apart
        · rw [List.kerase_cons_ne (Ne.symm same), List.filter_cons_of_pos (by simpa using same),
            ih rest]
  exact erased table.entries table.nodupKeys

theorem entries_foldl_erase (keys : List κ) :
    (keys.foldl (fun table key => AList.erase key table) table).entries =
      table.entries.filter fun entry => entry.1 ∉ keys := by
  induction keys generalizing table with
  | nil => simp
  | cons key keys ih =>
      rw [List.foldl_cons, ih, entries_erase, List.filter_filter]
      congr 1
      funext entry
      by_cases same : entry.1 = key <;> simp [same]

theorem exists_picks (table : Table κ ν) (which : κ → ν → Bool) (limit : Nat) :
    ∃ picked, table.Picks which limit picked := by
  refine ⟨((table.select which).map Prod.fst).take limit, ?_, ?_, ?_⟩
  · refine List.Nodup.sublist (List.take_sublist _ _) ?_
    have keys : (table.select which).map Prod.fst = (table.keep which).entries.keys := by
      simp [select, List.keys]
    rw [keys]
    exact (table.keep which).nodupKeys
  · intro key listed
    obtain ⟨⟨own, value⟩, member, rfl⟩ := List.mem_map.mp (List.mem_of_mem_take listed)
    exact ⟨value, mem_select.mp member⟩
  · simp

end Table
