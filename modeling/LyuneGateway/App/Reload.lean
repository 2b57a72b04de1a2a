import LyuneGateway.App.Config

/-!
# Reloading the configuration

A reload compares the file with the tables and refuses it when anything that is
there has changed or is missing. Then it adds what is new, one entry after the
other. It runs in a thread of its own; the workers read the tables meanwhile.
-/

namespace LyuneGateway.App

open Backend Foundation Protocol Worker

inductive ReloadError where
  | realmChanged
  | realmRemoved
  | routeChanged
  | routeRemoved
  | outOfMemory
  | realm (error : RealmError)
  | catalog (error : CatalogError)
  deriving DecidableEq, Repr

structure Summary where
  realmsAdded : Nat := 0
  routesAdded : Nat := 0
  deriving DecidableEq, Repr

/-- The two tables, as any thread sees them. -/
structure Directory where
  realms : RealmTable
  routes : RouteCatalog

/-- `fate` tells of every allocation whether it succeeds, of which `asked` have been made.
`history` has all the states that the tables have been in. -/
structure Reloader where
  directory : Directory
  fate : Nat → Bool := fun _ => true
  asked : Nat := 0
  history : List Directory := []

namespace Reloader

def realms (reloader : Reloader) : RealmTable := reloader.directory.realms

def routes (reloader : Reloader) : RouteCatalog := reloader.directory.routes

def findRealm (reloader : Reloader) (name : Bytes) : Option RealmId :=
  reloader.realms.findRealm name

/-- Make some allocations, up to the first that fails. -/
def allocate : Nat → Reloader → Bool × Reloader
  | 0, reloader => (true, reloader)
  | count + 1, reloader =>
      let after := { reloader with asked := reloader.asked + 1 }
      if reloader.fate reloader.asked then allocate count after else (false, after)

/-- Every name that is known leads to the realm it led to, and none has gone. -/
def checkRealms (reloader : Reloader) (config : GatewayConfig) : Except ReloadError Unit :=
  if config.realms.any fun raw =>
      (reloader.findRealm raw.serverName).any fun existing => existing ≠ raw.id then
    .error .realmChanged
  else if reloader.realms.entries.any fun entry =>
      !config.realms.any fun raw => eqlIgnoreCase entry.sni raw.serverName then
    .error .realmRemoved
  else .ok ()

def checkRoutes (reloader : Reloader) (config : GatewayConfig) : Except ReloadError Unit :=
  if config.routes.any fun raw =>
      (reloader.routes.find raw.scope).any fun existing => existing.endpoints ≠ raw.endpoints then
    .error .routeChanged
  else if reloader.routes.entries.any fun entry =>
      !config.routes.any fun raw => entry.route = raw.scope then
    .error .routeRemoved
  else .ok ()

/-- A copy of a name, and a place in the list of what is owned. -/
def own (reloader : Reloader) : Bool × Reloader := reloader.allocate 2

/-- The list and a place for it, and the same for the host of every endpoint. -/
def ownEndpoints (reloader : Reloader) (incoming : List Endpoint) : Bool × Reloader :=
  reloader.allocate (2 + 2 * incoming.length)

def registerRealm (reloader : Reloader) (raw : Realm) : Except ReloadError Unit × Reloader :=
  match reloader.own with
  | (false, reloader) => (.error .outOfMemory, reloader)
  | (true, reloader) =>
      match reloader.realms.register raw.serverName raw.id with
      | .error error => (.error (.realm error), reloader)
      | .ok realms => (.ok (), { reloader with
          directory := { reloader.directory with realms := realms }
          history := reloader.history ++ (reloader.realms.stores raw.serverName raw.id).map
            fun realms => { reloader.directory with realms := realms } })

def registerRoute (reloader : Reloader) (raw : Route) : Except ReloadError Unit × Reloader :=
  match reloader.ownEndpoints raw.endpoints with
  | (false, reloader) => (.error .outOfMemory, reloader)
  | (true, reloader) =>
      let entry : RouteEntry := { route := raw.scope, endpoints := raw.endpoints }
      match reloader.routes.register entry with
      | .error error => (.error (.catalog error), reloader)
      | .ok routes => (.ok (), { reloader with
          directory := { reloader.directory with routes := routes }
          history := reloader.history ++ (reloader.routes.stores entry).map
            fun routes => { reloader.directory with routes := routes } })

/-- Register what is missing; the first failure ends it. -/
def appendMissing {Item : Type} (present : Reloader → Item → Bool)
    (register : Reloader → Item → Except ReloadError Unit × Reloader) :
    List Item → Nat → Reloader → Except ReloadError Nat × Reloader
  | [], added, reloader => (.ok added, reloader)
  | raw :: rest, added, reloader =>
      if present reloader raw then appendMissing present register rest added reloader
      else
        match register reloader raw with
        | (.error error, reloader) => (.error error, reloader)
        | (.ok (), reloader) => appendMissing present register rest (added + 1) reloader

def hasRealm (reloader : Reloader) (raw : Realm) : Bool :=
  (reloader.findRealm raw.serverName).isSome

def hasRoute (reloader : Reloader) (raw : Route) : Bool := (reloader.routes.find raw.scope).isSome

/-- Add the new entries of a file that was read and accepted. -/
def apply (reloader : Reloader) (config : GatewayConfig) : Except ReloadError Summary × Reloader :=
  match reloader.checkRealms config with
  | .error error => (.error error, reloader)
  | .ok () =>
      match reloader.checkRoutes config with
      | .error error => (.error error, reloader)
      | .ok () =>
          match appendMissing hasRealm registerRealm config.realms 0 reloader with
          | (.error error, reloader) => (.error error, reloader)
          | (.ok realmsAdded, reloader) =>
              match appendMissing hasRoute registerRoute config.routes 0 reloader with
              | (.error error, reloader) => (.error error, reloader)
              | (.ok routesAdded, reloader) =>
                  (.ok { realmsAdded := realmsAdded, routesAdded := routesAdded }, reloader)

end Reloader

end LyuneGateway.App
