import LyuneGateway.Backend.Direct
import LyuneGateway.Lib.Slab
import LyuneGateway.Worker.Connection

/-!
# The catalog of routes

The catalog says at which endpoints the backend of a route can be found. Like the
table of realms it only grows while the gateway runs.
-/

namespace LyuneGateway.Backend

open Worker

inductive CatalogError where
  | catalogFull
  | duplicateRoute
  deriving DecidableEq, Repr

structure RouteEntry where
  route : ScopedRoute := { realm := 0, route := {} }
  endpoints : List Endpoint := []
  deriving DecidableEq, Repr

structure RouteCatalog where
  slab : Slab RouteEntry

namespace RouteCatalog

def entries (catalog : RouteCatalog) : List RouteEntry := catalog.slab.entries

def find (catalog : RouteCatalog) (route : ScopedRoute) : Option RouteEntry :=
  catalog.entries.find? fun entry => entry.route = route

/-- The states that the catalog is in while an entry is stored: its route, its endpoints, the
length. -/
def stores (catalog : RouteCatalog) (entry : RouteEntry) : List RouteCatalog :=
  let slot := catalog.slab.slots.getD catalog.slab.len {}
  [{ slab := catalog.slab.write { slot with route := entry.route } },
    { slab := catalog.slab.write entry },
    { slab := catalog.slab.push entry }]

def register (catalog : RouteCatalog) (entry : RouteEntry) : Except CatalogError RouteCatalog :=
  if (catalog.find entry.route).isSome then .error .duplicateRoute
  else if catalog.slab.full then .error .catalogFull
  else .ok { slab := catalog.slab.push entry }

end RouteCatalog

end LyuneGateway.Backend
