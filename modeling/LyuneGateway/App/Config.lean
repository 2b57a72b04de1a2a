import LyuneGateway.Backend.Catalog
import LyuneGateway.Foundation.Realm

/-!
# Realms and routes in the configuration

A configuration file that is accepted names no realm and no route twice, and
every route belongs to a realm that some name leads to.
-/

namespace LyuneGateway.App

open Backend Foundation Protocol Worker

inductive ConfigError where
  | invalidBackendConfig
  | invalidRealmConfig
  deriving DecidableEq, Repr

structure Realm where
  serverName : Bytes
  id : RealmId
  deriving DecidableEq, Repr

structure Route where
  realm : RealmId := 0
  group : UInt8
  routeKey : UInt8 := 0
  endpoints : List Endpoint
  deriving DecidableEq, Repr

namespace Route

def scope (route : Route) : ScopedRoute where
  realm := route.realm
  route := { group := route.group, routeKey := route.routeKey }

end Route

/-- The sections of the configuration that a reload looks at. -/
structure GatewayConfig where
  realms : List Realm := []
  realmCapacity : Nat := 256
  routes : List Route
  routeCapacity : Nat := 256
  deriving DecidableEq, Repr

namespace GatewayConfig

/-- Without names there is one realm, the default one. -/
def realmDeclared (config : GatewayConfig) (id : RealmId) : Bool :=
  if config.realms = [] then id = 0 else config.realms.any fun realm => realm.id = id

/-- Each name is checked against those before it. -/
def validateNames : List Realm → List Realm → Except ConfigError Unit
  | _, [] => .ok ()
  | earlier, realm :: rest =>
      if realm.serverName = [] then .error .invalidRealmConfig
      else if earlier.any fun previous => eqlIgnoreCase previous.serverName realm.serverName then
        .error .invalidRealmConfig
      else validateNames (earlier ++ [realm]) rest

def validateRealms (config : GatewayConfig) : Except ConfigError Unit :=
  if config.realmCapacity < config.realms.length then .error .invalidRealmConfig
  else validateNames [] config.realms

/-- Each route is checked against those before it. -/
def validateRoutes (config : GatewayConfig) : List Route → List Route → Except ConfigError Unit
  | _, [] => .ok ()
  | earlier, route :: rest =>
      if route.endpoints = [] then .error .invalidBackendConfig
      else if route.endpoints.any fun endpoint => endpoint.host = "" || endpoint.port = 0 then
        .error .invalidBackendConfig
      else if config.realmDeclared route.realm = false then .error .invalidRealmConfig
      else if earlier.any fun previous => previous.realm = route.realm &&
          previous.group = route.group && previous.routeKey = route.routeKey then
        .error .invalidRealmConfig
      else config.validateRoutes (earlier ++ [route]) rest

def validate (config : GatewayConfig) : Except ConfigError Unit :=
  if config.routes = [] ∨ config.routeCapacity < config.routes.length then
    .error .invalidBackendConfig
  else
    match config.validateRealms with
    | .error error => .error error
    | .ok () => config.validateRoutes [] config.routes

end GatewayConfig

end LyuneGateway.App
