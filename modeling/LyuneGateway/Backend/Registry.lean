import LyuneGateway.Backend.Catalog
import LyuneGateway.Lib.Cursor

/-!
# The registry of transports

Every worker has a registry of the transports to its backends, by the path that
leads there and by route. A route that the catalog has declared and that the
worker has not used yet gets its transport when it is first looked up.
-/

namespace LyuneGateway.Backend

open Worker

inductive TransportPath where
  | relay
  | direct
  deriving DecidableEq, Repr

abbrev TransportEntry := ScopedRoute × Nat

/-- Where a hash table puts an entry with a new key. The table may have to grow for it, and is laid
out anew then. -/
structure Hashing where
  place : List (Option TransportEntry) → TransportEntry → List (Option TransportEntry)
  keeps : ∀ slots entry, (place slots entry).reduceOption.Perm (entry :: slots.reduceOption)

structure RouteTable where
  transports : List (Option TransportEntry) := []
  defaultTransport : Option Nat := none

namespace RouteTable

def entries (table : RouteTable) : List TransportEntry := table.transports.reduceOption

def getExact (table : RouteTable) (route : ScopedRoute) : Option Nat :=
  (table.entries.find? fun entry => entry.1 = route).map Prod.snd

def register (hashing : Hashing) (table : RouteTable) (route : ScopedRoute) (transport : Nat) :
    RouteTable :=
  let overwrite (entry : TransportEntry) : TransportEntry :=
    if entry.1 = route then (route, transport) else entry
  if (table.getExact route).isSome then
    { table with transports := table.transports.map (Option.map overwrite) }
  else { table with transports := hashing.place table.transports (route, transport) }

end RouteTable

structure TransportRegistry where
  relay : RouteTable := {}
  direct : RouteTable := {}

namespace TransportRegistry

def table (registry : TransportRegistry) : TransportPath → RouteTable
  | .relay => registry.relay
  | .direct => registry.direct

/-- A transport of the very route, or else one that takes any. -/
def find (registry : TransportRegistry) (route : ScopedRoute) : Option Nat :=
  (registry.direct.getExact route).or ((registry.relay.getExact route).or
    (registry.direct.defaultTransport.or registry.relay.defaultTransport))

end TransportRegistry

/-- The transports of a worker lie in slots that do not move, and are known by where they lie. -/
structure DirectFactory where
  capacity : Nat
  live : Nat := 0
  base : Nat := 0

/-- A new transport; `memory` tells whether there is any for what it needs. -/
def DirectFactory.create (factory : DirectFactory) (memory : Bool) :
    Option (Nat × DirectFactory) :=
  if factory.live = factory.capacity then none
  else if memory = false then none
  else some (factory.base + factory.live, { factory with live := factory.live + 1 })

/-- How a worker finds its transports: the registry, and what it makes new ones from. For each route
`memory` tells whether there is any for its transport, and for its entry. -/
structure Routing where
  registry : TransportRegistry := {}
  catalog : Option RouteCatalog := none
  factory : Option DirectFactory := none
  memory : ScopedRoute → Bool × Bool := fun _ => (true, true)

namespace Routing

/-- Find the transport of a route, or make it if the catalog declares the route. An instance that
cannot be registered is given back to the factory. -/
def findTransport (hashing : Hashing) (routing : Routing) (scope : ScopedRoute) :
    Option Nat × Routing :=
  match routing.registry.find scope with
  | some found => (some found, routing)
  | none =>
      match routing.catalog.bind fun catalog => catalog.find scope with
      | none => (none, routing)
      | some _ =>
          match routing.factory.bind fun factory => factory.create (routing.memory scope).1 with
          | none => (none, routing)
          | some (instance_, factory) =>
              if (routing.memory scope).2 = false then (none, routing)
              else (some instance_, { routing with
                registry := { routing.registry with
                  direct := routing.registry.direct.register hashing scope instance_ }
                factory := some factory })

/-- Looking a route up makes a transport for it. -/
def creates (routing : Routing) (scope : ScopedRoute) : Bool :=
  (routing.registry.find scope).isNone &&
    (routing.catalog.bind fun catalog => catalog.find scope).isSome &&
    (routing.factory.bind fun factory => factory.create (routing.memory scope).1).isSome &&
    (routing.memory scope).2

variable {hashing : Hashing} {routing : Routing} {scope : ScopedRoute}

theorem findTransport_of_not_creates (idle : routing.creates scope = false) :
    (routing.findTransport hashing scope).2 = routing := by
  unfold findTransport
  split
  · rfl
  rename_i missing
  split
  · rfl
  rename_i entry declared
  split
  · rfl
  rename_i instance_ factory made
  split
  · rfl
  rename_i remembered
  simp [creates, missing, declared, made, remembered] at idle

/-- The transport of a new route takes an entry of the direct path. -/
theorem findTransport_of_creates (creates : routing.creates scope = true) : ∃ transport,
    (routing.findTransport hashing scope).1 = some transport ∧
      (routing.findTransport hashing scope).2.registry.direct.entries.Perm
        ((scope, transport) :: routing.registry.direct.entries) := by
  simp only [Routing.creates, Bool.and_eq_true, Option.isNone_iff_eq_none] at creates
  obtain ⟨⟨⟨missing, declared⟩, made⟩, remembered⟩ := creates
  obtain ⟨entry, declares⟩ := Option.isSome_iff_exists.mp declared
  obtain ⟨⟨transport, factory⟩, makes⟩ := Option.isSome_iff_exists.mp made
  have unused : routing.registry.direct.getExact scope = none := by
    cases held : routing.registry.direct.getExact scope with
    | none => rfl
    | some other => simp [TransportRegistry.find, held] at missing
  refine ⟨transport, ?_, ?_⟩
  · simp [findTransport, missing, declares, makes, remembered]
  · simp only [findTransport, missing, declares, makes, remembered, Bool.true_eq_false, if_false,
      RouteTable.register, unused, Option.isSome_none, Bool.false_eq_true]
    exact hashing.keeps _ _

/-- Only the direct path gets new transports. -/
@[simp] theorem findTransport_relay :
    (routing.findTransport hashing scope).2.registry.relay = routing.registry.relay := by
  unfold findTransport
  split
  · rfl
  split
  · rfl
  split
  · rfl
  split <;> rfl

end Routing

end LyuneGateway.Backend
