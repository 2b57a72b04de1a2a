import Mathlib.Data.List.Basic
import Mathlib.Data.List.Nodup
import Mathlib.Logic.Function.Basic

/-!
# Chains threaded through cells

Each cell of a chain names the next one; whoever has the chain names the first.
No cell names the one before it, so a cell is taken out by going along the chain
until the next one is it. Several chains, each found by its key, share one field
of the cells as long as no cell is in two of them.
-/

namespace Chain

variable {ι κ : Type} {next after : ι → Option ι}

/-- The chain that starts at `head` has these cells. -/
def Links (next : ι → Option ι) : Option ι → List ι → Prop
  | head, [] => head = none
  | head, cell :: rest => head = some cell ∧ Links next (next cell) rest

/-- The cells that a loop along a chain meets; `none` when the fuel ends first. -/
def walk (next : ι → Option ι) : Nat → Option ι → Option (List ι)
  | _, none => some []
  | 0, some _ => none
  | fuel + 1, some cell => (walk next fuel (next cell)).map (cell :: ·)

/-- The first cell that passes a test. -/
def seek (next : ι → Option ι) (test : ι → Bool) : Nat → Option ι → Option (Option ι)
  | _, none => some none
  | 0, some _ => none
  | fuel + 1, some cell =>
      if test cell then some (some cell) else seek next test fuel (next cell)

variable [DecidableEq ι]

/-- Go along a chain from a cell until the next one is the given cell, and pass that over. -/
def skip (next : ι → Option ι) (cell : ι) : Nat → ι → Option (ι → Option ι)
  | 0, _ => none
  | fuel + 1, cursor =>
      match next cursor with
      | none => some next
      | some other =>
          if other = cell then some (Function.update next cursor (next cell))
          else skip next cell fuel other

namespace Links

omit [DecidableEq ι]

variable {head : Option ι} {cell : ι} {cells rest : List ι}

/-- A chain depends on the fields of its own cells only. -/
theorem congr (links : Links next head cells) (same : ∀ cell ∈ cells, after cell = next cell) :
    Links after head cells := by
  induction cells generalizing head with
  | nil => exact links
  | cons cell rest ih =>
      refine ⟨links.1, ?_⟩
      rw [same cell List.mem_cons_self]
      exact ih links.2 fun other listed => same other (List.mem_cons_of_mem cell listed)

theorem unique {others : List ι} (links : Links next head cells) (also : Links next head others) :
    cells = others := by
  induction cells generalizing head others with
  | nil =>
      cases others with
      | nil => rfl
      | cons other others =>
          cases links.symm.trans also.1
  | cons cell rest ih =>
      cases others with
      | nil => cases links.1.symm.trans also
      | cons other others =>
          obtain rfl := Option.some.inj (links.1.symm.trans also.1)
          rw [ih links.2 also.2]

/-- What comes after some of the cells. -/
theorem suffix {first : List ι} (links : Links next head (first ++ cell :: rest)) :
    Links next (some cell) (cell :: rest) := by
  induction first generalizing head with
  | nil =>
      obtain rfl : head = some cell := links.1
      exact links
  | cons other first ih => exact ih links.2

/-- A chain that ends passes no cell twice. -/
theorem nodup (links : Links next head cells) : cells.Nodup := by
  induction cells generalizing head with
  | nil => exact List.nodup_nil
  | cons cell rest ih =>
      refine List.nodup_cons.mpr ⟨fun again => ?_, ih links.2⟩
      obtain ⟨first, last, rfl⟩ := List.append_of_mem again
      -- the same cell cannot have two different chains behind it
      have whole : Links next (some cell) (cell :: (first ++ cell :: last)) := ⟨rfl, links.2⟩
      have same := links.2.suffix.unique whole
      have lengths := congrArg List.length same
      simp at lengths
      omega

theorem walk {fuel : Nat} (links : Links next head cells) (enough : cells.length ≤ fuel) :
    Chain.walk next fuel head = some cells := by
  induction cells generalizing head fuel with
  | nil =>
      obtain rfl : head = none := links
      cases fuel <;> rfl
  | cons cell rest ih =>
      obtain rfl := links.1
      cases fuel with
      | zero => simp at enough
      | succ fuel =>
          rw [Chain.walk, ih links.2 (Nat.le_of_succ_le_succ enough)]
          rfl

theorem seek {test : ι → Bool} {fuel : Nat} (links : Links next head cells)
    (enough : cells.length ≤ fuel) : Chain.seek next test fuel head = some (cells.find? test) := by
  induction cells generalizing head fuel with
  | nil =>
      obtain rfl : head = none := links
      cases fuel <;> rfl
  | cons cell rest ih =>
      obtain rfl := links.1
      cases fuel with
      | zero => simp at enough
      | succ fuel =>
          rw [Chain.seek, List.find?_cons]
          split
          · simp [*]
          · rename_i fails
            rw [Bool.not_eq_true] at fails
            rw [fails, ih links.2 (Nat.le_of_succ_le_succ enough)]

section Change

variable [DecidableEq ι]

/-- A new cell comes first. -/
theorem push (links : Links next head cells) (fresh : cell ∉ cells) :
    Links (Function.update next cell head) (some cell) (cell :: cells) := by
  refine ⟨rfl, ?_⟩
  rw [Function.update_self]
  refine links.congr fun other listed => ?_
  have differ : other ≠ cell := ne_of_mem_of_not_mem listed fresh
  rw [Function.update_of_ne differ]

/-- A cell that is not the first is passed over, and only the one before it is written. -/
theorem skip {first : ι} {fuel : Nat} (links : Links next (some first) (first :: rest))
    (inside : cell ∈ rest) (enough : rest.length ≤ fuel) :
    ∃ prior ∈ first :: rest, prior ≠ cell ∧
      Chain.skip next cell fuel first = some (Function.update next prior (next cell)) ∧
      Links (Function.update next prior (next cell)) (some first)
        (first :: rest.filter (· ≠ cell)) := by
  induction rest generalizing first fuel with
  | nil => simp at inside
  | cons second rest ih =>
      obtain ⟨leads, onward⟩ := links.2
      have once := links.nodup
      simp only [List.nodup_cons, List.mem_cons, not_or] at once
      obtain ⟨⟨differ, outside⟩, foreign, -⟩ := once
      cases fuel with
      | zero => simp at enough
      | succ fuel =>
          by_cases here : second = cell
          · subst here
            refine ⟨first, List.mem_cons_self, differ, ?_, rfl, ?_⟩
            · simp [Chain.skip, leads]
            · rw [Function.update_self, List.filter_cons_of_neg (by simp),
                List.filter_eq_self.mpr fun other listed => by
                  simpa using ne_of_mem_of_not_mem listed foreign]
              refine onward.congr fun other listed => ?_
              rw [Function.update_of_ne (ne_of_mem_of_not_mem listed outside)]
          · have later : cell ∈ rest := (List.mem_cons.mp inside).resolve_left (Ne.symm here)
            have behind : Links next (some second) (second :: rest) := ⟨rfl, onward⟩
            obtain ⟨prior, listed, other, skipped, passed⟩ := ih behind later
              (Nat.le_of_succ_le_succ enough)
            have elsewhere : first ≠ prior := by
              rintro rfl
              exact (List.mem_cons.mp listed).elim differ outside
            refine ⟨prior, List.mem_cons_of_mem first listed, other, ?_, rfl, ?_⟩
            · simp [Chain.skip, leads, here, skipped]
            · rw [Function.update_of_ne elsewhere, leads, List.filter_cons_of_pos (by simpa using here)]
              exact passed

end Change

end Links

/-! ## Chains found by their keys -/

variable [DecidableEq κ]

/-- The cells in the chain of a key, of the entries of all chains. -/
def cells (key : κ) (entries : List (κ × ι)) : List ι :=
  (entries.filter fun entry => entry.1 = key).map Prod.snd

omit [DecidableEq ι] in
@[simp] theorem mem_cells {key : κ} {cell : ι} {entries : List (κ × ι)} :
    cell ∈ cells key entries ↔ (key, cell) ∈ entries := by
  simp [cells]

omit [DecidableEq ι] in
theorem length_cells_le (key : κ) (entries : List (κ × ι)) :
    (cells key entries).length ≤ entries.length := by
  rw [cells, List.length_map]
  exact List.length_filter_le _ _

/-- The entries of the other cells. -/
def without (cell : ι) (entries : List (κ × ι)) : List (κ × ι) :=
  entries.filter fun entry => entry.2 ≠ cell

omit [DecidableEq κ] in
@[simp] theorem mem_without {cell : ι} {entry : κ × ι} {entries : List (κ × ι)} :
    entry ∈ without cell entries ↔ entry ∈ entries ∧ entry.2 ≠ cell := by
  simp [without]

theorem cells_without (key : κ) (cell : ι) (entries : List (κ × ι)) :
    cells key (without cell entries) = (cells key entries).filter (· ≠ cell) := by
  simp only [cells, without, List.filter_filter, List.filter_map, Function.comp_def]
  congr 1
  exact List.filter_congr fun entry _ => Bool.and_comm _ _

/-- Every key has the chain of its entries, and no cell is in two. -/
structure Threads (heads : κ → Option ι) (next : ι → Option ι) (entries : List (κ × ι)) : Prop where
  links : ∀ key, Links next (heads key) (cells key entries)
  once : (entries.map Prod.snd).Nodup

namespace Threads

variable {heads changed : κ → Option ι} {key : κ} {cell : ι} {entries : List (κ × ι)}

omit [DecidableEq ι] in
theorem empty : Threads (fun _ : κ => none) next [] where
  links := fun _ => rfl
  once := List.nodup_nil

omit [DecidableEq ι] in
theorem congr (threads : Threads heads next entries) (sameHeads : ∀ key, changed key = heads key)
    (same : ∀ entry ∈ entries, after entry.2 = next entry.2) : Threads changed after entries where
  links key := by
    rw [sameHeads]
    exact (threads.links key).congr fun cell listed => same (key, cell) (mem_cells.mp listed)
  once := threads.once

omit [DecidableEq ι] in
/-- The chain of a key without entries is empty. -/
theorem head_eq_none (threads : Threads heads next entries) (key : κ) :
    heads key = none ↔ ∀ entry ∈ entries, entry.1 ≠ key := by
  have links := threads.links key
  cases listed : cells key entries with
  | nil =>
      rw [listed] at links
      refine iff_of_true links fun entry there same => ?_
      have inside : entry.2 ∈ cells key entries := mem_cells.mpr (same ▸ there)
      simp [listed] at inside
  | cons cell rest =>
      rw [listed] at links
      have there : (key, cell) ∈ entries := mem_cells.mp (listed ▸ List.mem_cons_self)
      exact iff_of_false (by simp [links.1]) fun none_ => none_ _ there rfl

theorem push (threads : Threads heads next entries) (key : κ) (fresh : cell ∉ entries.map Prod.snd) :
    Threads (Function.update heads key (some cell)) (Function.update next cell (heads key))
      ((key, cell) :: entries) where
  links other := by
    have foreign : cell ∉ cells other entries := by
      rw [mem_cells]
      exact fun listed => fresh (List.mem_map_of_mem listed)
    by_cases same : other = key
    · subst same
      rw [Function.update_self]
      simpa [cells] using (threads.links other).push foreign
    · rw [Function.update_of_ne same]
      have kept : cells other ((key, cell) :: entries) = cells other entries := by
        simp [cells, Ne.symm same]
      rw [kept]
      refine (threads.links other).congr fun listed inside => ?_
      rw [Function.update_of_ne (ne_of_mem_of_not_mem inside foreign)]
  once := List.nodup_cons.mpr ⟨fresh, threads.once⟩

theorem once_without (threads : Threads heads next entries) :
    ((without cell entries).map Prod.snd).Nodup :=
  threads.once.sublist (List.filter_sublist.map _)

/-- Nothing changes for the keys that have the cell not in their chain. -/
theorem cells_without_ne (threads : Threads heads next entries) (there : (key, cell) ∈ entries)
    {other : κ} (differ : other ≠ key) :
    cells other (without cell entries) = cells other entries := by
  rw [cells_without, List.filter_eq_self]
  intro listed inside
  have elsewhere : listed ≠ cell := by
    rintro rfl
    have twice := List.inj_on_of_nodup_map threads.once (mem_cells.mp inside) there rfl
    exact differ (congrArg Prod.fst twice)
  simpa using elsewhere

/-- The first cell of a chain leaves it. -/
theorem shift (threads : Threads heads next entries) (key : κ) (first : heads key = some cell) :
    Threads (Function.update heads key (next cell)) next (without cell entries) := by
  have links := threads.links key
  rw [first] at links
  cases listed : cells key entries with
  | nil =>
      rw [listed] at links
      cases links
  | cons head rest =>
      rw [listed] at links
      obtain rfl := Option.some.inj links.1
      have there : (key, cell) ∈ entries := mem_cells.mp (listed ▸ List.mem_cons_self)
      have outside := (List.nodup_cons.mp links.nodup).1
      refine ⟨fun other => ?_, threads.once_without⟩
      by_cases same : other = key
      · subst same
        rw [Function.update_self, cells_without, listed, List.filter_cons_of_neg (by simp),
          List.filter_eq_self.mpr fun later inside => by
            simpa using ne_of_mem_of_not_mem inside outside]
        exact links.2
      · rw [Function.update_of_ne same, threads.cells_without_ne there same]
        exact threads.links other

/-- A later cell of a chain leaves it. -/
theorem skip (threads : Threads heads next entries) {first : ι} {fuel : Nat}
    (starts : heads key = some first) (later : first ≠ cell) (inside : (key, cell) ∈ entries)
    (enough : entries.length ≤ fuel) :
    ∃ prior ∈ entries.map Prod.snd, prior ≠ cell ∧
      Chain.skip next cell fuel first = some (Function.update next prior (next cell)) ∧
      Threads heads (Function.update next prior (next cell)) (without cell entries) := by
  have links := threads.links key
  rw [starts] at links
  cases listed : cells key entries with
  | nil =>
      rw [listed] at links
      cases links
  | cons head rest =>
      rw [listed] at links
      obtain rfl := Option.some.inj links.1
      have member : cell ∈ first :: rest := listed ▸ mem_cells.mpr inside
      have behind : cell ∈ rest := (List.mem_cons.mp member).resolve_left (Ne.symm later)
      have short : rest.length ≤ fuel := by
        have most := length_cells_le key entries
        rw [listed, List.length_cons] at most
        omega
      obtain ⟨prior, there, differ, skipped, passed⟩ := links.skip behind short
      have held : (key, prior) ∈ entries := mem_cells.mp (listed ▸ there)
      refine ⟨prior, List.mem_map_of_mem held, differ, skipped, fun other => ?_,
        threads.once_without⟩
      by_cases same : other = key
      · subst same
        rw [starts, cells_without, listed, List.filter_cons_of_pos (by simpa using later)]
        exact passed
      · rw [threads.cells_without_ne inside same]
        refine (threads.links other).congr fun foreign listed => ?_
        have elsewhere : foreign ≠ prior := by
          rintro rfl
          have twice := List.inj_on_of_nodup_map threads.once (mem_cells.mp listed) held rfl
          exact same (congrArg Prod.fst twice)
        rw [Function.update_of_ne elsewhere]

end Threads

end Chain
