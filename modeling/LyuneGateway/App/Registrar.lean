import LyuneGateway.App.Reload

/-!
# Adding what is missing

Both tables are extended in the same way: an entry takes a number of allocations
and a free slot. So whether all of the missing entries can be added, and what is
left when they cannot, is proved once for both.
-/

namespace LyuneGateway.App

open Backend Foundation Protocol Worker

namespace Reloader

/-- All of the next allocations succeed. -/
def grants (reloader : Reloader) (count : Nat) : Bool :=
  (List.range count).all fun k => reloader.fate (reloader.asked + k)

/-- After some allocations that have succeeded. -/
def spend (reloader : Reloader) (count : Nat) : Reloader :=
  { reloader with asked := reloader.asked + count }

theorem grants_iff {reloader : Reloader} {count : Nat} :
    reloader.grants count = true ↔ ∀ k < count, reloader.fate (reloader.asked + k) = true := by
  simp [grants]

theorem grants_add {reloader : Reloader} (first second : Nat) :
    reloader.grants (first + second) =
      (reloader.grants first && (reloader.spend first).grants second) := by
  rw [Bool.eq_iff_iff, Bool.and_eq_true]
  simp only [grants_iff, spend]
  constructor
  · intro all
    refine ⟨fun k below => all k (by omega), fun k below => ?_⟩
    rw [Nat.add_assoc]
    exact all (first + k) (by omega)
  · rintro ⟨early, late⟩ k below
    by_cases here : k < first
    · exact early k here
    · have after := late (k - first) (by omega)
      rwa [show reloader.asked + first + (k - first) = reloader.asked + k by omega] at after

theorem allocate_of_grants {count : Nat} {reloader : Reloader}
    (granted : reloader.grants count = true) :
    reloader.allocate count = (true, reloader.spend count) := by
  induction count generalizing reloader with
  | zero => rfl
  | succ count ih =>
      rw [Nat.add_comm, grants_add, Bool.and_eq_true] at granted
      have first : reloader.fate reloader.asked = true := grants_iff.mp granted.1 0 Nat.one_pos
      simp only [allocate, first, if_true]
      rw [show ({ reloader with asked := reloader.asked + 1 } : Reloader) = reloader.spend 1 from rfl,
        ih granted.2]
      simp [spend, Nat.add_assoc, Nat.add_comm 1 count]

theorem allocate_of_not_grants {count : Nat} {reloader : Reloader}
    (refused : reloader.grants count = false) :
    ∃ asked, reloader.allocate count = (false, { reloader with asked := asked }) := by
  induction count generalizing reloader with
  | zero => cases refused
  | succ count ih =>
      cases first : reloader.fate reloader.asked with
      | false => exact ⟨reloader.asked + 1, by simp [allocate, first]⟩
      | true =>
          have one : reloader.grants 1 = true := grants_iff.mpr fun k below => by
            obtain rfl : k = 0 := by omega
            exact first
          rw [Nat.add_comm, grants_add, one, Bool.true_and] at refused
          obtain ⟨asked, rest⟩ := ih refused
          refine ⟨asked, ?_⟩
          simp only [allocate, first, if_true]
          exact rest

end Reloader

/-- How entries of one kind are added to their table. -/
structure Registrar (Item : Type) where
  present : Reloader → Item → Bool
  register : Reloader → Item → Except ReloadError Unit × Reloader
  /-- The state with one more entry. -/
  add : Reloader → Item → Reloader
  /-- The allocations that an entry takes. -/
  cost : Item → Nat
  /-- The slots that entries may still take. -/
  free : Reloader → Nat
  /-- Entries for the same key. -/
  same : Item → Item → Bool
  register_ok : ∀ reloader raw, present reloader raw = false →
    reloader.grants (cost raw) = true → 0 < free reloader →
    register reloader raw = (.ok (), add reloader raw)
  register_error : ∀ reloader raw, present reloader raw = false →
    ¬ (reloader.grants (cost raw) = true ∧ 0 < free reloader) →
    ∃ error after, register reloader raw = (.error error, after) ∧
      after.directory = reloader.directory ∧ after.history = reloader.history
  fate_add : ∀ reloader raw, (add reloader raw).fate = reloader.fate
  asked_add : ∀ reloader raw, (add reloader raw).asked = reloader.asked + cost raw
  free_add : ∀ reloader raw, 0 < free reloader → free (add reloader raw) = free reloader - 1
  present_add : ∀ reloader raw other, 0 < free reloader →
    present (add reloader raw) other = (present reloader other || same raw other)

namespace Registrar

open Reloader

variable {Item : Type} (registrar : Registrar Item)

/-- The entries that the table does not have. -/
def missing (reloader : Reloader) (items : List Item) : List Item :=
  items.filter fun raw => !registrar.present reloader raw

def cost_ (items : List Item) : Nat := (items.map registrar.cost).sum

/-- There are slots and memory for all of the entries. -/
def fits (reloader : Reloader) (items : List Item) : Bool :=
  reloader.grants (registrar.cost_ items) && items.length ≤ registrar.free reloader

/-- There is no slot or no memory for the first of the entries. -/
def refusesFirst (reloader : Reloader) : List Item → Bool
  | [] => false
  | raw :: _ => !(reloader.grants (registrar.cost raw) && decide (0 < registrar.free reloader))

/-- The state with more entries. -/
def addAll (reloader : Reloader) (items : List Item) : Reloader :=
  items.foldl registrar.add reloader

variable {registrar} {reloader : Reloader} {raw : Item} {items : List Item}

theorem grants_add (count : Nat) :
    (registrar.add reloader raw).grants count = (reloader.spend (registrar.cost raw)).grants count := by
  simp [grants, spend, registrar.fate_add, registrar.asked_add]

theorem fits_cons : registrar.fits reloader (raw :: items) = true ↔
    (reloader.grants (registrar.cost raw) = true ∧ 0 < registrar.free reloader) ∧
      registrar.fits (registrar.add reloader raw) items = true := by
  have free := registrar.free_add reloader raw
  simp only [fits, cost_, List.map_cons, List.sum_cons, Reloader.grants_add, List.length_cons,
    Bool.and_eq_true, decide_eq_true_eq, grants_add]
  constructor
  · rintro ⟨⟨first, rest⟩, room⟩
    have some_ : 0 < registrar.free reloader := by omega
    exact ⟨⟨first, some_⟩, rest, by rw [free some_]; omega⟩
  · rintro ⟨⟨first, some_⟩, rest, room⟩
    rw [free some_] at room
    exact ⟨⟨first, rest⟩, by omega⟩

theorem fits_nil : registrar.fits reloader [] = true := by
  simp [fits, cost_, grants]

/-- Adding one entry does not make an entry of another key present. -/
theorem missing_add (room : 0 < registrar.free reloader)
    (others : ∀ other ∈ items, registrar.same raw other = false) :
    registrar.missing (registrar.add reloader raw) items = registrar.missing reloader items := by
  apply List.filter_congr
  intro other listed
  rw [registrar.present_add _ _ _ room, others other listed, Bool.or_false]

/-- What fits is added as a whole. -/
theorem appendMissing_of_fits (distinct : items.Pairwise fun raw other =>
      registrar.same raw other = false) (added : Nat)
    (fits : registrar.fits reloader (registrar.missing reloader items) = true) :
    appendMissing registrar.present registrar.register items added reloader =
      (.ok (added + (registrar.missing reloader items).length),
        registrar.addAll reloader (registrar.missing reloader items)) := by
  induction items generalizing reloader added with
  | nil => rfl
  | cons raw rest ih =>
      obtain ⟨others, distinct⟩ := List.pairwise_cons.mp distinct
      cases present : registrar.present reloader raw with
      | true =>
          simp only [missing, List.filter_cons, present, Bool.not_true] at fits ⊢
          simp only [appendMissing, present, if_true]
          exact ih distinct added fits
      | false =>
          have split : registrar.missing reloader (raw :: rest) =
              raw :: registrar.missing reloader rest := by
            simp [missing, present]
          rw [split] at fits ⊢
          obtain ⟨⟨granted, room⟩, fits⟩ := fits_cons.mp fits
          rw [← missing_add room others] at fits ⊢
          simp only [appendMissing, present, registrar.register_ok _ _ present granted room]
          rw [if_neg Bool.false_ne_true, ih distinct (added + 1) fits]
          simp [addAll, Nat.add_assoc, Nat.add_comm 1]

/-- When not everything fits, some of it is added before the failure; nothing is, only when there
is no room for the first entry. -/
theorem appendMissing_of_not_fits (distinct : items.Pairwise fun raw other =>
      registrar.same raw other = false) (added : Nat)
    (fits : registrar.fits reloader (registrar.missing reloader items) = false) :
    ∃ error after taken,
      appendMissing registrar.present registrar.register items added reloader =
        (.error error, after) ∧
      taken <+: registrar.missing reloader items ∧ registrar.fits reloader taken = true ∧
      after.directory = (registrar.addAll reloader taken).directory ∧
      after.history = (registrar.addAll reloader taken).history ∧
      (taken = [] ↔ registrar.refusesFirst reloader (registrar.missing reloader items) = true) := by
  induction items generalizing reloader added with
  | nil => simp [Registrar.fits, missing, cost_, grants] at fits
  | cons raw rest ih =>
      obtain ⟨others, distinct⟩ := List.pairwise_cons.mp distinct
      cases present : registrar.present reloader raw with
      | true =>
          simp only [missing, List.filter_cons, present, Bool.not_true] at fits ⊢
          simp only [appendMissing, present, if_true]
          exact ih distinct added fits
      | false =>
          have split : registrar.missing reloader (raw :: rest) =
              raw :: registrar.missing reloader rest := by
            simp [missing, present]
          rw [split] at fits ⊢
          by_cases takes : reloader.grants (registrar.cost raw) = true ∧ 0 < registrar.free reloader
          · have more : registrar.fits (registrar.add reloader raw)
                (registrar.missing reloader rest) = false := by
              cases left : registrar.fits (registrar.add reloader raw)
                (registrar.missing reloader rest) with
              | false => rfl
              | true => rw [fits_cons.mpr ⟨takes, left⟩] at fits; cases fits
            rw [← missing_add takes.2 others] at more
            obtain ⟨error, after, taken, fails, part, fitted, directory, history, -⟩ :=
              ih distinct (added + 1) more
            rw [missing_add takes.2 others] at part
            refine ⟨error, after, raw :: taken, ?_, ?_, fits_cons.mpr ⟨takes, fitted⟩, directory,
              history, ?_⟩
            · simp only [appendMissing, present, registrar.register_ok _ _ present takes.1 takes.2]
              rw [if_neg Bool.false_ne_true]
              exact fails
            · exact List.cons_prefix_cons.mpr ⟨rfl, part⟩
            · simp [refusesFirst, takes]
          · obtain ⟨error, after, fails, directory, history⟩ :=
              registrar.register_error reloader raw present takes
            refine ⟨error, after, [], ?_, List.nil_prefix, fits_nil, directory, history, ?_⟩
            · simp [appendMissing, present, fails]
            · simpa [refusesFirst, Classical.or_iff_not_imp_left] using takes

end Registrar

def Realm.entry (raw : Realm) : RealmEntry where
  sni := raw.serverName
  realm := raw.id

def Route.entry (raw : Route) : RouteEntry where
  route := raw.scope
  endpoints := raw.endpoints

namespace Reloader

def addRealm (reloader : Reloader) (raw : Realm) : Reloader :=
  { reloader.spend 2 with
    directory := { reloader.directory with
      realms := { reloader.realms with slab := reloader.realms.slab.push raw.entry } }
    history := reloader.history ++ (reloader.realms.stores raw.serverName raw.id).map
      fun realms => { reloader.directory with realms := realms } }

def addRoute (reloader : Reloader) (raw : Route) : Reloader :=
  { reloader.spend (2 + 2 * raw.endpoints.length) with
    directory := { reloader.directory with
      routes := { slab := reloader.routes.slab.push raw.entry } }
    history := reloader.history ++ (reloader.routes.stores raw.entry).map
      fun routes => { reloader.directory with routes := routes } }

@[simp] theorem realms_spend (reloader : Reloader) (count : Nat) :
    (reloader.spend count).realms = reloader.realms := rfl

@[simp] theorem routes_spend (reloader : Reloader) (count : Nat) :
    (reloader.spend count).routes = reloader.routes := rfl

/-- The slots for further realms; with a fallback there are none. -/
def freeRealms (reloader : Reloader) : Nat :=
  if reloader.realms.fallback.isSome then 0
  else reloader.realms.slab.slots.length - reloader.realms.slab.len

def freeRoutes (reloader : Reloader) : Nat :=
  reloader.routes.slab.slots.length - reloader.routes.slab.len

theorem realms_free {reloader : Reloader} :
    0 < reloader.freeRealms ↔
      reloader.realms.fallback = none ∧ reloader.realms.slab.full = false := by
  have fits := reloader.realms.slab.fits
  unfold freeRealms
  cases reloader.realms.fallback with
  | some realm => simp
  | none =>
      simp only [Option.isSome_none, Bool.false_eq_true, if_false, true_and, Slab.full,
        decide_eq_false_iff_not]
      omega

theorem routes_free {reloader : Reloader} :
    0 < reloader.freeRoutes ↔ reloader.routes.slab.full = false := by
  have fits := reloader.routes.slab.fits
  simp only [freeRoutes, Slab.full, decide_eq_false_iff_not]
  omega

theorem hasRealm_eq_any (reloader : Reloader) (raw : Realm) :
    reloader.hasRealm raw =
      reloader.realms.entries.any fun entry => eqlIgnoreCase entry.sni raw.serverName := by
  simp [hasRealm, findRealm, RealmTable.findRealm, List.isSome_find?]

theorem hasRoute_eq_any (reloader : Reloader) (raw : Route) :
    reloader.hasRoute raw = reloader.routes.entries.any fun entry => entry.route = raw.scope := by
  simp [hasRoute, RouteCatalog.find, List.isSome_find?]

end Reloader

open Reloader

/-- Realms are added by name. -/
def realmRegistrar : Registrar Realm where
  present := hasRealm
  register := registerRealm
  add := addRealm
  cost _ := 2
  free := freeRealms
  same raw other := eqlIgnoreCase raw.serverName other.serverName
  register_ok reloader raw present granted room := by
    obtain ⟨closed, notFull⟩ := realms_free.mp room
    rw [hasRealm_eq_any] at present
    have registered : (reloader.spend 2).realms.register raw.serverName raw.id =
        .ok { reloader.realms with slab := reloader.realms.slab.push raw.entry } := by
      simp [RealmTable.register, closed, present, notFull, Realm.entry]
    simp only [registerRealm, own, allocate_of_grants granted, registered]
    rfl
  register_error reloader raw present refused := by
    cases granted : reloader.grants 2 with
    | false =>
        obtain ⟨asked, refuses⟩ := allocate_of_not_grants granted
        exact ⟨.outOfMemory, { reloader with asked := asked },
          by simp only [registerRealm, own, refuses], rfl, rfl⟩
    | true =>
        have full : ∃ error, (reloader.spend 2).realms.register raw.serverName raw.id =
            .error error := by
          have closed := mt realms_free.mpr fun room => refused ⟨granted, room⟩
          unfold RealmTable.register
          split
          · exact ⟨_, rfl⟩
          split
          · exact ⟨_, rfl⟩
          split
          · exact ⟨_, rfl⟩
          rename_i open_ _ room
          exact absurd ⟨by simpa using open_, by simpa using room⟩ closed
        obtain ⟨error, fails⟩ := full
        exact ⟨.realm error, reloader.spend 2, by
          simp only [registerRealm, own, allocate_of_grants granted, fails], rfl, rfl⟩
  fate_add _ _ := rfl
  asked_add _ _ := rfl
  free_add reloader raw room := by
    obtain ⟨closed, notFull⟩ := realms_free.mp room
    have length := Slab.len_push notFull raw.entry
    have after : (reloader.addRealm raw).freeRealms = reloader.realms.slab.slots.length -
        (reloader.realms.slab.push raw.entry).len := by
      simp [freeRealms, addRealm, realms, show reloader.directory.realms.fallback = none from closed]
    rw [after, length, freeRealms, closed]
    simp only [Option.isSome_none, Bool.false_eq_true, if_false]
    omega
  present_add reloader raw other room := by
    obtain ⟨-, notFull⟩ := realms_free.mp room
    rw [hasRealm_eq_any, hasRealm_eq_any]
    have entries : (reloader.addRealm raw).realms.entries = reloader.realms.entries ++ [raw.entry] :=
      Slab.entries_push notFull raw.entry
    rw [entries]
    simp [Realm.entry]

/-- Routes are added by scope. -/
def routeRegistrar : Registrar Route where
  present := hasRoute
  register := registerRoute
  add := addRoute
  cost raw := 2 + 2 * raw.endpoints.length
  free := freeRoutes
  same raw other := raw.scope = other.scope
  register_ok reloader raw present granted room := by
    have notFull := routes_free.mp room
    have registered : (reloader.spend (2 + 2 * raw.endpoints.length)).routes.register
        { route := raw.scope, endpoints := raw.endpoints } =
        .ok { slab := reloader.routes.slab.push raw.entry } := by
      have fresh : (reloader.routes.find raw.scope).isSome = false := present
      simp [RouteCatalog.register, fresh, notFull, Route.entry]
    simp only [registerRoute, ownEndpoints, allocate_of_grants granted, registered]
    rfl
  register_error reloader raw present refused := by
    cases granted : reloader.grants (2 + 2 * raw.endpoints.length) with
    | false =>
        obtain ⟨asked, refuses⟩ := allocate_of_not_grants granted
        exact ⟨.outOfMemory, { reloader with asked := asked },
          by simp only [registerRoute, ownEndpoints, refuses], rfl, rfl⟩
    | true =>
        have full : ∃ error, (reloader.spend (2 + 2 * raw.endpoints.length)).routes.register
            { route := raw.scope, endpoints := raw.endpoints } = .error error := by
          have closed := mt routes_free.mpr fun room => refused ⟨granted, room⟩
          unfold RouteCatalog.register
          split
          · exact ⟨_, rfl⟩
          split
          · exact ⟨_, rfl⟩
          rename_i room
          exact absurd (by simpa using room) closed
        obtain ⟨error, fails⟩ := full
        exact ⟨.catalog error, reloader.spend (2 + 2 * raw.endpoints.length), by
          simp only [registerRoute, ownEndpoints, allocate_of_grants granted, fails], rfl, rfl⟩
  fate_add _ _ := rfl
  asked_add _ _ := rfl
  free_add reloader raw room := by
    have length := Slab.len_push (routes_free.mp room) raw.entry
    simp only [freeRoutes, addRoute, routes, Slab.length_slots_push] at length ⊢
    rw [length]
    omega
  present_add reloader raw other room := by
    rw [hasRoute_eq_any, hasRoute_eq_any]
    have entries : (reloader.addRoute raw).routes.entries = reloader.routes.entries ++ [raw.entry] :=
      Slab.entries_push (routes_free.mp room) raw.entry
    rw [entries]
    simp [Route.entry]

end LyuneGateway.App
