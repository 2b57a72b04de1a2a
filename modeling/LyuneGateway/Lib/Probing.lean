import Mathlib.Algebra.Group.Nat.Defs
import Mathlib.Data.Finset.Card
import Mathlib.Logic.Function.Basic
import LyuneGateway.Lib.Table

/-!
# Hash tables with linear probing

The entries lie in a ring of `2 ^ bits` slots. The search for a key starts at
its home and goes on slot by slot until it meets the key or an empty slot. To
remove an entry, those behind it move up, as far as each may without standing
before its own home. So no empty slot ever comes between an entry and its home.
-/

/-- What a table is made of. An entry has a key unless it is blank; the hash of a key is any
number. -/
structure Probing (ε κ ν : Type) where
  bits : Nat
  blank : ε
  key? : ε → Option κ
  value : ε → ν
  hash : κ → Nat
  empty : key? blank = none

namespace Probing

variable {ε κ ν : Type} (shape : Probing ε κ ν)

def size : Nat := 2 ^ shape.bits

def mask : Nat := shape.size - 1

def home (key : κ) : Nat := shape.hash key &&& shape.mask

def next (i : Nat) : Nat := (i + 1) &&& shape.mask

/-- How many steps it is from one slot to another: the wrapping difference, cut by the mask. -/
def distance (start finish : Nat) : Nat := (finish + shape.size - start) &&& shape.mask

/-- Where a search ends. -/
inductive Place where
  | found (i : Nat)
  | vacant (i : Nat)
  deriving DecidableEq, Repr

variable [DecidableEq κ]

/-- Search for a key from a slot on. -/
def probe (entries : Nat → ε) (key : κ) : Nat → Nat → Option Place
  | 0, _ => none
  | fuel + 1, i =>
      match shape.key? (entries i) with
      | none => some (.vacant i)
      | some other =>
          if other = key then some (.found i) else probe entries key fuel (shape.next i)

/-- There are as many steps as slots in a search. -/
def search (entries : Nat → ε) (key : κ) : Option Place :=
  shape.probe entries key shape.size (shape.home key)

/-- Search for an empty slot. -/
def room (entries : Nat → ε) : Nat → Nat → Option Nat
  | 0, _ => none
  | fuel + 1, i =>
      match shape.key? (entries i) with
      | none => some i
      | some _ => room entries fuel (shape.next i)

def get (entries : Nat → ε) (key : κ) : Option (Option ε) :=
  (shape.search entries key).map fun
    | .found i => some (entries i)
    | .vacant _ => none

/-- Write an entry over the one with its key, or into the empty slot that the search has met. -/
def put (entries : Nat → ε) (key : κ) (entry : ε) : Option (Nat → ε) :=
  (shape.search entries key).map fun
    | .found i | .vacant i => Function.update entries i entry

/-- Move up what may stand at the hole, until an empty slot. -/
def shift : Nat → (Nat → ε) → Nat → Nat → Option (Nat → ε)
  | 0, _, _, _ => none
  | fuel + 1, entries, hole, j =>
      match shape.key? (entries j) with
      | none => some (Function.update entries hole shape.blank)
      | some key =>
          if shape.distance (shape.home key) hole ≤ shape.distance (shape.home key) j then
            shift fuel (Function.update (Function.update entries hole (entries j)) j shape.blank) j
              (shape.next j)
          else shift fuel entries hole (shape.next j)

/-- Remove the entry of a key, if there is one. -/
def remove (entries : Nat → ε) (key : κ) : Option (Option ε × (Nat → ε)) :=
  match shape.search entries key with
  | none => none
  | some (.vacant _) => some (none, entries)
  | some (.found hole) =>
      (shape.shift shape.size entries hole (shape.next hole)).map fun after =>
        (some (entries hole), after)

/-! ## The ring -/

section Ring

omit [DecidableEq κ]

variable {a b c : Nat}

theorem size_pos : 0 < shape.size := Nat.two_pow_pos _

theorem and_mask (n : Nat) : n &&& shape.mask = n % shape.size :=
  Nat.and_two_pow_sub_one_eq_mod n shape.bits

theorem home_lt (key : κ) : shape.home key < shape.size := by
  rw [home, and_mask]
  exact Nat.mod_lt _ shape.size_pos

theorem next_lt (i : Nat) : shape.next i < shape.size := by
  rw [next, and_mask]
  exact Nat.mod_lt _ shape.size_pos

theorem distance_lt (a b : Nat) : shape.distance a b < shape.size := by
  rw [distance, and_mask]
  exact Nat.mod_lt _ shape.size_pos

theorem distance_eq (ha : a < shape.size) (hb : b < shape.size) :
    shape.distance a b = if a ≤ b then b - a else b + shape.size - a := by
  rw [distance, and_mask]
  split
  · rw [show b + shape.size - a = b - a + shape.size by omega, Nat.add_mod_right,
      Nat.mod_eq_of_lt (by omega)]
  · rw [Nat.mod_eq_of_lt (by omega)]

theorem next_eq (ha : a < shape.size) :
    shape.next a = if a + 1 = shape.size then 0 else a + 1 := by
  rw [next, and_mask]
  split
  · rename_i last
    rw [last, Nat.mod_self]
  · rw [Nat.mod_eq_of_lt (by omega)]

variable {shape}

theorem distance_self (ha : a < shape.size) : shape.distance a a = 0 := by
  rw [distance_eq shape ha ha, if_pos le_rfl, Nat.sub_self]

theorem eq_of_distance (ha : a < shape.size) (hb : b < shape.size) (hc : c < shape.size)
    (same : shape.distance a b = shape.distance a c) : b = c := by
  rw [distance_eq shape ha hb, distance_eq shape ha hc] at same
  split_ifs at same <;> omega

theorem distance_pos (ha : a < shape.size) (hb : b < shape.size) (differ : a ≠ b) :
    0 < shape.distance a b := by
  rw [distance_eq shape ha hb]
  split_ifs <;> omega

/-- Two ways one after the other are one way, or a round more. -/
theorem distance_add (ha : a < shape.size) (hb : b < shape.size) (hc : c < shape.size) :
    shape.distance a b + shape.distance b c = shape.distance a c ∨
      shape.distance a b + shape.distance b c = shape.distance a c + shape.size := by
  rw [distance_eq shape ha hb, distance_eq shape hb hc, distance_eq shape ha hc]
  split_ifs <;> omega

/-- A slot that comes before another on the way lies between. -/
theorem distance_add_of_le (ha : a < shape.size) (hb : b < shape.size) (hc : c < shape.size)
    (before : shape.distance a b ≤ shape.distance a c) :
    shape.distance a b + shape.distance b c = shape.distance a c := by
  have far := shape.distance_lt b c
  rcases distance_add ha hb hc with same | round <;> omega

/-- The next slot is one step nearer. -/
theorem distance_next (ha : a < shape.size) (hb : b < shape.size) (differ : a ≠ b) :
    shape.distance (shape.next a) b + 1 = shape.distance a b := by
  rw [distance_eq shape (shape.next_lt a) hb, distance_eq shape ha hb, next_eq shape ha]
  split_ifs <;> omega

/-- The next slot is one step farther, if there is one left before the end of the round. -/
theorem distance_next_right (ha : a < shape.size) (hb : b < shape.size)
    (less : shape.distance a b + 1 < shape.size) :
    shape.distance a (shape.next b) = shape.distance a b + 1 := by
  rw [distance_eq shape ha hb] at less ⊢
  rw [distance_eq shape ha (shape.next_lt b), next_eq shape hb]
  split_ifs at * <;> omega

end Ring

/-! ## Tables that are maps -/

/-- No key stands in two slots, and there is no empty slot between an entry and its home. -/
structure Sound (entries : Nat → ε) : Prop where
  unique : ∀ i < shape.size, ∀ j < shape.size, ∀ key, shape.key? (entries i) = some key →
    shape.key? (entries j) = some key → i = j
  unbroken : ∀ i < shape.size, ∀ key, shape.key? (entries i) = some key → ∀ p < shape.size,
    shape.distance (shape.home key) p < shape.distance (shape.home key) i →
    shape.key? (entries p) ≠ none

/-- An entry of the table. -/
def Holds (entries : Nat → ε) (key : κ) (value : ν) : Prop :=
  ∃ i < shape.size, shape.key? (entries i) = some key ∧ shape.value (entries i) = value

/-- The table is sound, and its entries are those of the map. -/
structure Implements (entries : Nat → ε) (map : Table κ ν) : Prop extends
    shape.Sound entries where
  holds : ∀ key value, map.lookup key = some value ↔ shape.Holds entries key value

/-- A search has not met the key before a slot, and no empty slot either. -/
def Passed (entries : Nat → ε) (key : κ) (i : Nat) : Prop :=
  ∀ p < shape.size, shape.distance (shape.home key) p < shape.distance (shape.home key) i →
    ∃ other, shape.key? (entries p) = some other ∧ other ≠ key

/-- What a search finds. -/
inductive Finds (entries : Nat → ε) (key : κ) : Place → Prop where
  | found {i : Nat} (inside : i < shape.size) (here : shape.key? (entries i) = some key) :
      Finds entries key (.found i)
  | vacant {i : Nat} (inside : i < shape.size) (empty : shape.key? (entries i) = none)
      (passed : shape.Passed entries key i) : Finds entries key (.vacant i)

variable {shape} {entries : Nat → ε} {map : Table κ ν} {key : κ} {value : ν}

/-- There is an empty slot as long as there are fewer keys than slots. -/
theorem Implements.vacancy (implements : shape.Implements entries map)
    (few : map.size < shape.size) : ∃ v < shape.size, shape.key? (entries v) = none := by
  by_contra full
  have filled (i : Nat) (inside : i < shape.size) : ∃ key, shape.key? (entries i) = some key := by
    cases here : shape.key? (entries i) with
    | none => exact absurd ⟨i, inside, here⟩ full
    | some key => exact ⟨key, rfl⟩
  have many : (Finset.range shape.size).card ≤ (map.keys.toFinset.image some).card := by
    refine Finset.card_le_card_of_injOn (fun i => shape.key? (entries i)) (fun i inside => ?_)
      fun i one j other same => ?_
    · obtain ⟨key, here⟩ := filled i (Finset.mem_range.mp inside)
      have held : map.lookup key = some (shape.value (entries i)) :=
        (implements.holds _ _).mpr ⟨i, Finset.mem_range.mp inside, here, rfl⟩
      have listed : key ∈ map.keys := by
        rw [← AList.mem_keys, ← AList.lookup_isSome, held]
        rfl
      exact Finset.mem_image.mpr ⟨key, List.mem_toFinset.mpr listed, here.symm⟩
    · obtain ⟨key, here⟩ := filled i (Finset.mem_range.mp one)
      exact implements.unique i (Finset.mem_range.mp one) j (Finset.mem_range.mp other) key here
        (same.symm.trans here)
  have bound := (many.trans Finset.card_image_le).trans (List.toFinset_card_le map.keys)
  rw [Finset.card_range, AList.keys, List.keys, List.length_map] at bound
  exact absurd bound (Nat.not_le.mpr few)

omit [DecidableEq κ] in
/-- A search that passes a slot goes on behind it. -/
theorem Passed.next {v i : Nat} (passed : shape.Passed entries key i) (inside : i < shape.size)
    (free : v < shape.size) (empty : shape.key? (entries v) = none) {other : κ}
    (here : shape.key? (entries i) = some other) (differs : other ≠ key) :
    shape.Passed entries key (shape.next i) := by
  have home := shape.home_lt key
  have behind : shape.distance (shape.home key) i < shape.distance (shape.home key) v := by
    rcases Nat.lt_trichotomy (shape.distance (shape.home key) i)
      (shape.distance (shape.home key) v) with before | same | after
    · exact before
    · rw [eq_of_distance home inside free same, empty] at here
      cases here
    · obtain ⟨_, held, _⟩ := passed v free after
      rw [empty] at held
      cases held
  have far := shape.distance_lt (shape.home key) v
  intro p within before
  rw [distance_next_right home inside (by omega)] at before
  rcases Nat.lt_succ_iff_lt_or_eq.mp before with earlier | same
  · exact passed p within earlier
  · rw [eq_of_distance home within inside same]
    exact ⟨other, here, differs⟩

theorem probe_finds {v : Nat} (free : v < shape.size) (empty : shape.key? (entries v) = none)
    (fuel i : Nat) (inside : i < shape.size) (enough : shape.distance i v < fuel)
    (passed : shape.Passed entries key i) :
    ∃ place, shape.probe entries key fuel i = some place ∧ shape.Finds entries key place := by
  induction fuel generalizing i with
  | zero => omega
  | succ fuel ih =>
      rw [probe]
      cases here : shape.key? (entries i) with
      | none => exact ⟨.vacant i, rfl, .vacant inside here passed⟩
      | some other =>
          by_cases same : other = key
          · subst same
            exact ⟨.found i, by simp only [if_true], .found inside here⟩
          · have differ : i ≠ v := by
              rintro rfl
              rw [empty] at here
              cases here
            have nearer := distance_next inside free differ
            obtain ⟨place, searched, finds⟩ := ih (shape.next i) (shape.next_lt i) (by omega)
              (passed.next inside free empty here same)
            exact ⟨place, by simpa only [if_neg same] using searched, finds⟩

/-- A search of a table with an empty slot ends. -/
theorem search_finds {v : Nat} (free : v < shape.size) (empty : shape.key? (entries v) = none)
    (key : κ) : ∃ place, shape.search entries key = some place ∧ shape.Finds entries key place := by
  refine probe_finds free empty shape.size (shape.home key) (shape.home_lt key)
    (shape.distance_lt _ v) fun p within before => ?_
  rw [distance_self (shape.home_lt key)] at before
  exact absurd before (Nat.not_lt_zero _)

omit [DecidableEq κ] in
/-- A key whose search meets an empty slot is not in the table. -/
theorem Sound.absent (sound : shape.Sound entries) {i : Nat} (inside : i < shape.size)
    (empty : shape.key? (entries i) = none) (passed : shape.Passed entries key i) :
    ∀ q < shape.size, shape.key? (entries q) ≠ some key := by
  intro q within held
  have home := shape.home_lt key
  rcases Nat.lt_trichotomy (shape.distance (shape.home key) q)
    (shape.distance (shape.home key) i) with before | same | after
  · obtain ⟨other, held', differs⟩ := passed q within before
    rw [held] at held'
    exact differs (Option.some.inj held').symm
  · rw [eq_of_distance home within inside same, empty] at held
    cases held
  · exact sound.unbroken q within key held i inside after empty

/-! ## Reading -/

theorem Implements.lookup_vacant (implements : shape.Implements entries map) {i : Nat}
    (inside : i < shape.size) (empty : shape.key? (entries i) = none)
    (passed : shape.Passed entries key i) : map.lookup key = none := by
  refine Option.eq_none_iff_forall_ne_some.mpr fun value held => ?_
  obtain ⟨q, within, here, _⟩ := (implements.holds _ _).mp held
  exact implements.toSound.absent inside empty passed q within here

/-- What is read is the value of the key, if it has one. -/
theorem Implements.get (implements : shape.Implements entries map) (few : map.size < shape.size)
    (key : κ) : ∃ answer, shape.get entries key = some answer ∧
      answer.map shape.value = map.lookup key := by
  obtain ⟨v, free, empty⟩ := implements.vacancy few
  obtain ⟨place, searched, finds⟩ := search_finds free empty key
  cases finds with
  | @found i inside here =>
      refine ⟨some (entries i), by rw [Probing.get, searched]; rfl, ?_⟩
      exact ((implements.holds _ _).mpr ⟨i, inside, here, rfl⟩).symm
  | vacant inside empty passed =>
      refine ⟨none, by rw [Probing.get, searched]; rfl, ?_⟩
      exact (implements.lookup_vacant inside empty passed).symm

/-! ## Writing -/

section Writing

variable {i : Nat} {entry : ε}

/-- An entry may be written where its search ends. -/
structure Fits (shape : Probing ε κ ν) (entries : Nat → ε) (key : κ) (i : Nat) : Prop where
  inside : i < shape.size
  own : ∀ other, shape.key? (entries i) = some other → other = key
  elsewhere : ∀ q < shape.size, q ≠ i → shape.key? (entries q) ≠ some key
  passed : ∀ p < shape.size,
    shape.distance (shape.home key) p < shape.distance (shape.home key) i →
    shape.key? (entries p) ≠ none

omit [DecidableEq κ] in
theorem Sound.fits_found (sound : shape.Sound entries) (inside : i < shape.size)
    (here : shape.key? (entries i) = some key) : shape.Fits entries key i where
  inside := inside
  own _ held := Option.some.inj (held.symm.trans here)
  elsewhere q within differ held := differ (sound.unique q within i inside key held here)
  passed := sound.unbroken i inside key here

omit [DecidableEq κ] in
theorem Sound.fits_vacant (sound : shape.Sound entries) (inside : i < shape.size)
    (empty : shape.key? (entries i) = none) (passed : shape.Passed entries key i) :
    shape.Fits entries key i where
  inside := inside
  own _ held := by
    rw [empty] at held
    cases held
  elsewhere q within _ := sound.absent inside empty passed q within
  passed p within before := by
    obtain ⟨other, held, _⟩ := passed p within before
    rw [held]
    nofun

omit [DecidableEq κ] in
theorem Sound.write (sound : shape.Sound entries) (fits : shape.Fits entries key i)
    (named : shape.key? entry = some key) :
    shape.Sound (Function.update entries i entry) where
  unique a ha b hb other one two := by
    by_cases first : a = i <;> by_cases second : b = i
    · rw [first, second]
    · subst first
      rw [Function.update_self, named] at one
      rw [Function.update_of_ne second] at two
      cases one
      exact absurd two (fits.elsewhere b hb second)
    · subst second
      rw [Function.update_self, named] at two
      rw [Function.update_of_ne first] at one
      cases two
      exact absurd one (fits.elsewhere a ha first)
    · rw [Function.update_of_ne first] at one
      rw [Function.update_of_ne second] at two
      exact sound.unique a ha b hb other one two
  unbroken a ha other one p within before := by
    by_cases there : p = i
    · rw [there, Function.update_self, named]
      nofun
    rw [Function.update_of_ne there]
    by_cases here : a = i
    · subst here
      rw [Function.update_self, named] at one
      cases one
      exact fits.passed p within before
    · rw [Function.update_of_ne here] at one
      exact sound.unbroken a ha other one p within before

theorem Implements.write (implements : shape.Implements entries map)
    (fits : shape.Fits entries key i) (named : shape.key? entry = some key) :
    shape.Implements (Function.update entries i entry) (map.insert key (shape.value entry)) where
  toSound := implements.toSound.write fits named
  holds other value := by
    by_cases same : other = key
    · subst same
      rw [AList.lookup_insert]
      constructor
      · rintro ⟨⟩
        exact ⟨i, fits.inside, by rwa [Function.update_self], by rw [Function.update_self]⟩
      · rintro ⟨q, within, here, held⟩
        by_cases there : q = i
        · subst there
          rw [Function.update_self] at held
          rw [held]
        · rw [Function.update_of_ne there] at here
          exact absurd here (fits.elsewhere q within there)
    · rw [AList.lookup_insert_ne same, implements.holds]
      constructor
      · rintro ⟨q, within, here, held⟩
        have there : q ≠ i := by
          rintro rfl
          exact same (fits.own other here)
        exact ⟨q, within, by rwa [Function.update_of_ne there], by rwa [Function.update_of_ne there]⟩
      · rintro ⟨q, within, here, held⟩
        by_cases there : q = i
        · subst there
          rw [Function.update_self, named] at here
          exact absurd (Option.some.inj here).symm same
        · rw [Function.update_of_ne there] at here held
          exact ⟨q, within, here, held⟩

/-- After a write the key has the new value, and the others have theirs. -/
theorem Implements.put (implements : shape.Implements entries map) (few : map.size < shape.size)
    (named : shape.key? entry = some key) : ∃ after, shape.put entries key entry = some after ∧
      shape.Implements after (map.insert key (shape.value entry)) := by
  obtain ⟨v, free, empty⟩ := implements.vacancy few
  obtain ⟨place, searched, finds⟩ := search_finds free empty key
  cases finds with
  | found inside here =>
      have fits := implements.toSound.fits_found inside here
      exact ⟨_, by rw [Probing.put, searched]; rfl, implements.write fits named⟩
  | vacant inside empty passed =>
      have fits := implements.toSound.fits_vacant inside empty passed
      exact ⟨_, by rw [Probing.put, searched]; rfl, implements.write fits named⟩

end Writing

/-! ## Removing -/

section Removing

variable {hole j v i : Nat}

/-- In the course of a removal there is a hole, and the slots from it to `j` have been looked at.
Nothing but the hole comes between an entry and its home, and for the entries looked at not even
that. An empty slot is still ahead. -/
structure Shifting (shape : Probing ε κ ν) (entries : Nat → ε) (hole j v : Nat) : Prop where
  hole_lt : hole < shape.size
  j_lt : j < shape.size
  free : v < shape.size
  empty : shape.key? (entries v) = none
  apart : hole ≠ v
  ahead : 0 < shape.distance hole j
  between : shape.distance hole j + shape.distance j v = shape.distance hole v
  unique : ∀ a < shape.size, ∀ b < shape.size, a ≠ hole → b ≠ hole → ∀ key,
    shape.key? (entries a) = some key → shape.key? (entries b) = some key → a = b
  unbroken : ∀ i < shape.size, i ≠ hole → ∀ key, shape.key? (entries i) = some key →
    ∀ p < shape.size, p ≠ hole →
    shape.distance (shape.home key) p < shape.distance (shape.home key) i →
    shape.key? (entries p) ≠ none
  looked : ∀ i < shape.size, ∀ key, shape.key? (entries i) = some key →
    0 < shape.distance hole i → shape.distance hole i < shape.distance hole j →
    shape.distance (shape.home key) i < shape.distance (shape.home key) hole

/-- The entries outside the hole. -/
def Rest (shape : Probing ε κ ν) (entries : Nat → ε) (hole : Nat) (entry : ε) : Prop :=
  ∃ i < shape.size, i ≠ hole ∧ entries i = entry ∧ shape.key? entry ≠ none

omit [DecidableEq κ]

theorem Shifting.hole_ne (shifting : shape.Shifting entries hole j v) : j ≠ hole := by
  rintro rfl
  have ahead := shifting.ahead
  rw [distance_self shifting.hole_lt] at ahead
  exact absurd ahead (lt_irrefl 0)

/-- The end: the hole becomes an empty slot. -/
theorem Shifting.finish (shifting : shape.Shifting entries hole j v)
    (last : shape.key? (entries j) = none) :
    shape.Sound (Function.update entries hole shape.blank) := by
  have kept {i : Nat} {key : κ}
      (here : shape.key? (Function.update entries hole shape.blank i) = some key) :
      i ≠ hole ∧ shape.key? (entries i) = some key := by
    by_cases same : i = hole
    · rw [same, Function.update_self, shape.empty] at here
      cases here
    · exact ⟨same, by rwa [Function.update_of_ne same] at here⟩
  constructor
  · intro a ha b hb key one two
    exact shifting.unique a ha b hb (kept one).1 (kept two).1 key (kept one).2 (kept two).2
  · intro i inside key one p within before
    obtain ⟨differ, here⟩ := kept one
    have home := shape.home_lt key
    have aside : p ≠ hole := by
      rintro rfl
      -- an entry behind the hole stands beyond the empty slot, or it has been looked at
      have way := distance_add_of_le home within inside before.le
      rcases Nat.lt_or_ge (shape.distance p i) (shape.distance p j) with near | far
      · have away := distance_pos within inside differ.symm
        exact absurd (shifting.looked i inside key here away near) (by omega)
      · have other : shape.distance p i ≠ shape.distance p j := by
          intro same
          rw [eq_of_distance within inside shifting.j_lt same, last] at here
          cases here
        have far_lt := shape.distance_lt (shape.home key) i
        have way' : shape.distance (shape.home key) j < shape.distance (shape.home key) i := by
          rcases distance_add home within shifting.j_lt with same | round <;> omega
        exact shifting.unbroken i inside differ key here j shifting.j_lt shifting.hole_ne way' last
    rw [Function.update_of_ne aside]
    exact shifting.unbroken i inside differ key here p within aside before

/-- The next slot is not beyond the empty one. -/
theorem Shifting.nearer (shifting : shape.Shifting entries hole j v) {key : κ}
    (here : shape.key? (entries j) = some key) :
    shape.distance (shape.next j) v + 1 = shape.distance j v := by
  refine distance_next shifting.j_lt shifting.free ?_
  rintro rfl
  rw [shifting.empty] at here
  cases here

/-- An entry that the hole does not separate from its home stays. -/
theorem Shifting.stay (shifting : shape.Shifting entries hole j v) {key : κ}
    (here : shape.key? (entries j) = some key)
    (before : shape.distance (shape.home key) j < shape.distance (shape.home key) hole) :
    shape.Shifting entries hole (shape.next j) v := by
  have nearer := shifting.nearer here
  have between := shifting.between
  have round := shape.distance_lt hole v
  have farther : shape.distance hole (shape.next j) = shape.distance hole j + 1 :=
    distance_next_right shifting.hole_lt shifting.j_lt (by omega)
  refine { shifting with j_lt := shape.next_lt j, ahead := ?_, between := ?_, looked := ?_ }
  · omega
  · omega
  · intro i inside other held behind less
    rw [farther] at less
    rcases Nat.lt_succ_iff_lt_or_eq.mp less with earlier | same
    · exact shifting.looked i inside other held behind earlier
    · rw [eq_of_distance shifting.hole_lt inside shifting.j_lt same] at held ⊢
      cases here.symm.trans held
      exact before

/-- The entry at `j` moves into the hole. -/
abbrev moved (shape : Probing ε κ ν) (entries : Nat → ε) (hole j : Nat) : Nat → ε :=
  Function.update (Function.update entries hole (entries j)) j shape.blank

theorem moved_hole (differ : j ≠ hole) : shape.moved entries hole j hole = entries j := by
  rw [moved, Function.update_of_ne differ.symm, Function.update_self]

theorem moved_other (first : i ≠ j) (second : i ≠ hole) :
    shape.moved entries hole j i = entries i := by
  rw [moved, Function.update_of_ne first, Function.update_of_ne second]

/-- An entry that the hole separates from its home moves into the hole. -/
theorem Shifting.move (shifting : shape.Shifting entries hole j v) {key : κ}
    (here : shape.key? (entries j) = some key)
    (behind : shape.distance (shape.home key) hole ≤ shape.distance (shape.home key) j) :
    shape.Shifting (shape.moved entries hole j) j (shape.next j) v := by
  have nearer := shifting.nearer here
  have differ := shifting.hole_ne
  have apart : j ≠ v := by
    rintro rfl
    rw [shifting.empty] at here
    cases here
  have far := shape.distance_lt j v
  have one : shape.distance j (shape.next j) = 1 := by
    rw [distance_next_right shifting.j_lt shifting.j_lt, distance_self shifting.j_lt]
    rw [distance_self shifting.j_lt]
    omega
  refine {
    hole_lt := shifting.j_lt
    j_lt := shape.next_lt j
    free := shifting.free
    empty := ?_
    apart := apart
    ahead := by omega
    between := by omega
    unique := ?_
    unbroken := ?_
    looked := fun i inside other held away less => by omega }
  · rw [moved_other apart.symm shifting.apart.symm]
    exact shifting.empty
  · intro a ha b hb first second other held held'
    by_cases atHole : a = hole <;> by_cases atHole' : b = hole
    · rw [atHole, atHole']
    · rw [atHole, moved_hole differ] at held
      rw [moved_other second atHole'] at held'
      exact absurd (shifting.unique b hb j shifting.j_lt atHole' differ other held' held) second
    · rw [atHole', moved_hole differ] at held'
      rw [moved_other first atHole] at held
      exact absurd (shifting.unique a ha j shifting.j_lt atHole differ other held held') first
    · rw [moved_other first atHole] at held
      rw [moved_other second atHole'] at held'
      exact shifting.unique a ha b hb atHole atHole' other held held'
  · intro i inside first other held p within aside before
    by_cases filled : p = hole
    · rw [filled, moved_hole differ, here]
      nofun
    rw [moved_other aside filled]
    by_cases atHole : i = hole
    · rw [atHole, moved_hole differ] at held
      cases here.symm.trans held
      rw [atHole] at before
      exact shifting.unbroken j shifting.j_lt differ key here p within filled (by omega)
    · rw [moved_other first atHole] at held
      exact shifting.unbroken i inside atHole other held p within filled before

theorem rest_moved (shifting : shape.Shifting entries hole j v) (entry : ε) :
    shape.Rest (shape.moved entries hole j) j entry ↔ shape.Rest entries hole entry := by
  have differ := shifting.hole_ne
  constructor
  · rintro ⟨i, inside, first, same, named⟩
    by_cases atHole : i = hole
    · rw [atHole, moved_hole differ] at same
      exact ⟨j, shifting.j_lt, differ, same, named⟩
    · rw [moved_other first atHole] at same
      exact ⟨i, inside, atHole, same, named⟩
  · rintro ⟨i, inside, second, same, named⟩
    by_cases atJ : i = j
    · exact ⟨hole, shifting.hole_lt, differ.symm, by rw [moved_hole differ, ← atJ, same], named⟩
    · exact ⟨i, inside, atJ, by rw [moved_other atJ second, same], named⟩

/-- The shift comes to its end, and every entry outside the hole is still there. -/
theorem Shifting.shift (fuel : Nat) (shifting : shape.Shifting entries hole j v)
    (enough : shape.distance j v < fuel) :
    ∃ after, shape.shift fuel entries hole j = some after ∧ shape.Sound after ∧
      ∀ entry, (∃ i < shape.size, after i = entry ∧ shape.key? entry ≠ none) ↔
        shape.Rest entries hole entry := by
  induction fuel generalizing entries hole j with
  | zero => omega
  | succ fuel ih =>
      rw [Probing.shift]
      cases here : shape.key? (entries j) with
      | none =>
          refine ⟨_, rfl, shifting.finish here, fun entry => ⟨?_, ?_⟩⟩
          · rintro ⟨i, inside, same, named⟩
            by_cases atHole : i = hole
            · rw [atHole, Function.update_self] at same
              rw [← same] at named
              exact absurd shape.empty named
            · rw [Function.update_of_ne atHole] at same
              exact ⟨i, inside, atHole, same, named⟩
          · rintro ⟨i, inside, differ, same, named⟩
            exact ⟨i, inside, by rwa [Function.update_of_ne differ], named⟩
      | some key =>
          have nearer := shifting.nearer here
          dsimp only
          split
          · rename_i behind
            obtain ⟨after, ends, sound, rest⟩ := ih (shifting.move here behind) (by omega)
            exact ⟨after, ends, sound, fun entry =>
              (rest entry).trans (rest_moved shifting entry)⟩
          · rename_i before
            exact ih (shifting.stay here (Nat.not_le.mp before)) (by omega)

/-- Where a removal starts. -/
theorem Sound.shifting (sound : shape.Sound entries) (inside : hole < shape.size) {key : κ}
    (here : shape.key? (entries hole) = some key) (free : v < shape.size)
    (empty : shape.key? (entries v) = none) :
    shape.Shifting entries hole (shape.next hole) v := by
  have apart : hole ≠ v := by
    rintro rfl
    rw [empty] at here
    cases here
  have nearer := distance_next inside free apart
  have far := shape.distance_lt hole v
  have one : shape.distance hole (shape.next hole) = 1 := by
    rw [distance_next_right inside inside, distance_self inside]
    rw [distance_self inside]
    omega
  exact {
    hole_lt := inside
    j_lt := shape.next_lt hole
    free := free
    empty := empty
    apart := apart
    ahead := by omega
    between := by omega
    unique := fun a ha b hb _ _ => sound.unique a ha b hb
    unbroken := fun i inside _ key held p within _ => sound.unbroken i inside key held p within
    looked := fun i _ _ _ away less => by omega }

end Removing

/-- There is nothing to do for a key that is not in the table. -/
theorem Implements.erase_absent (implements : shape.Implements entries map)
    (absent : map.lookup key = none) : shape.Implements entries (map.erase key) where
  toSound := implements.toSound
  holds other value := by
    by_cases same : other = key
    · subst same
      rw [AList.lookup_erase, ← implements.holds, absent]
    · rw [AList.lookup_erase_ne same, implements.holds]

/-- A key that is removed is in the table no more, and the others have their values. -/
theorem Implements.remove (implements : shape.Implements entries map) (few : map.size < shape.size)
    (key : κ) : ∃ answer after, shape.remove entries key = some (answer, after) ∧
      answer.map shape.value = map.lookup key ∧ shape.Implements after (map.erase key) := by
  obtain ⟨v, free, empty⟩ := implements.vacancy few
  obtain ⟨place, searched, finds⟩ := search_finds free empty key
  cases finds with
  | vacant inside vacant passed =>
      have absent := implements.lookup_vacant inside vacant passed
      exact ⟨none, entries, by rw [Probing.remove, searched], absent.symm,
        implements.erase_absent absent⟩
  | @found hole inside here =>
      have shifting := implements.toSound.shifting inside here free empty
      obtain ⟨after, ends, sound, rest⟩ := shifting.shift shape.size (shape.distance_lt _ v)
      refine ⟨some (entries hole), after, by rw [Probing.remove, searched]; simp only [ends]; rfl,
        ((implements.holds _ _).mpr ⟨hole, inside, here, rfl⟩).symm, sound, fun other value => ?_⟩
      have holds : shape.Holds after other value ↔
          ∃ entry, shape.Rest entries hole entry ∧ shape.key? entry = some other ∧
            shape.value entry = value := by
        constructor
        · rintro ⟨i, within, named, same⟩
          exact ⟨after i, (rest _).mp ⟨i, within, rfl, by rw [named]; nofun⟩, named, same⟩
        · rintro ⟨entry, kept, named, same⟩
          obtain ⟨i, within, rfl, _⟩ := (rest entry).mpr kept
          exact ⟨i, within, named, same⟩
      rw [holds]
      by_cases same : other = key
      · subst same
        rw [AList.lookup_erase]
        refine ⟨nofun, ?_⟩
        rintro ⟨entry, ⟨i, within, differ, rfl, _⟩, named, _⟩
        exact absurd (implements.unique i within hole inside other named here) differ
      · rw [AList.lookup_erase_ne same, implements.holds]
        constructor
        · rintro ⟨i, within, named, rfl⟩
          refine ⟨entries i, ⟨i, within, ?_, rfl, by rw [named]; nofun⟩, named, rfl⟩
          rintro rfl
          exact same (Option.some.inj (named.symm.trans here))
        · rintro ⟨entry, ⟨i, within, _, rfl, _⟩, named, same⟩
          exact ⟨i, within, named, same⟩

theorem implements_blank (shape : Probing ε κ ν) :
    shape.Implements (fun _ => shape.blank) ∅ where
  unique i _ j _ key here _ := by
    rw [shape.empty] at here
    cases here
  unbroken i _ key here := by
    rw [shape.empty] at here
    cases here
  holds key value := by
    rw [AList.lookup_empty]
    refine ⟨nofun, ?_⟩
    rintro ⟨i, _, here, _⟩
    rw [shape.empty] at here
    cases here

/-- If the key is not there, any empty slot will do, and the search for one finds the same. -/
theorem room_of_vacant {fuel i q : Nat} (searched : shape.probe entries key fuel i = some (.vacant q)) :
    shape.room entries fuel i = some q := by
  induction fuel generalizing i with
  | zero => cases searched
  | succ fuel ih =>
      rw [probe] at searched
      rw [room]
      cases here : shape.key? (entries i) with
      | none =>
          rw [here] at searched
          cases searched
          rfl
      | some other =>
          rw [here] at searched
          by_cases same : other = key
          · simp only [if_pos same] at searched
            cases searched
          · simp only [if_neg same] at searched
            exact ih searched

theorem Implements.room (implements : shape.Implements entries map) (few : map.size < shape.size)
    (absent : map.lookup key = none) :
    ∃ i, shape.room entries shape.size (shape.home key) = some i ∧ shape.Fits entries key i := by
  obtain ⟨v, free, empty⟩ := implements.vacancy few
  obtain ⟨place, searched, finds⟩ := search_finds free empty key
  cases finds with
  | @found i inside here =>
      have held := (implements.holds key _).mpr ⟨i, inside, here, rfl⟩
      rw [absent] at held
      cases held
  | vacant inside vacant passed =>
      exact ⟨_, room_of_vacant searched, implements.toSound.fits_vacant inside vacant passed⟩

/-! ## Runs -/

/-- A call of a table. -/
inductive Call (κ ν : Type) where
  | put (key : κ) (value : ν)
  | get (key : κ)
  | remove (key : κ)
  deriving DecidableEq, Repr

/-- What a call does to a map, and what it answers. -/
def Call.onMap : Call κ ν → Table κ ν → Option ν × Table κ ν
  | put key value, map => (none, map.insert key value)
  | get key, map => (map.lookup key, map)
  | remove key, map => (map.lookup key, map.erase key)

/-- The answers of a map to some calls. -/
def answers : List (Call κ ν) → Table κ ν → List (Option ν)
  | [], _ => []
  | call :: calls, map => (call.onMap map).1 :: answers calls (call.onMap map).2

/-- The map that some calls leave. -/
def final (calls : List (Call κ ν)) (map : Table κ ν) : Table κ ν :=
  calls.foldl (fun map call => (call.onMap map).2) map

/-- There are never more keys than declared, and they are all proper keys. -/
def Within (proper : κ → Prop) (capacity : Nat) : List (Call κ ν) → Table κ ν → Prop
  | [], _ => True
  | call :: calls, map =>
      (∀ key value, call = .put key value → proper key) ∧ (call.onMap map).2.size ≤ capacity ∧
        Within proper capacity calls (call.onMap map).2

section Runs

variable {τ : Type}

/-- Calls one after the other; there is no result if one of them does not end. -/
def run (perform : Call κ ν → τ → Option (Option ν × τ)) :
    List (Call κ ν) → τ → Option (List (Option ν) × τ)
  | [], table => some ([], table)
  | call :: calls, table => do
      let (answer, table) ← perform call table
      let (answers, table) ← run perform calls table
      pure (answer :: answers, table)

/-- A table does in every run what a map does, as long as it does so in every call. -/
theorem run_answers {perform : Call κ ν → τ → Option (Option ν × τ)} {proper : κ → Prop}
    {capacity : Nat} {refines : τ → Table κ ν → Prop}
    (step : ∀ call table map, refines table map → map.size ≤ capacity →
      (∀ key value, call = .put key value → proper key) →
      ∃ after, perform call table = some ((call.onMap map).1, after) ∧
        refines after (call.onMap map).2)
    (calls : List (Call κ ν)) {table : τ} {map : Table κ ν} (start : refines table map)
    (few : map.size ≤ capacity) (within : Within proper capacity calls map) :
    ∃ after, run perform calls table = some (answers calls map, after) ∧
      refines after (final calls map) := by
  induction calls generalizing table map with
  | nil => exact ⟨table, rfl, start⟩
  | cons call calls ih =>
      obtain ⟨proper, fits, within⟩ := within
      obtain ⟨middle, performed, refined⟩ := step call table map start few proper
      obtain ⟨after, ran, ends⟩ := ih refined fits within
      exact ⟨after, by simp [run, performed, ran, answers], ends⟩

end Runs

end Probing
