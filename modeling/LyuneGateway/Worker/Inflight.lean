import LyuneGateway.Foundation.Quota
import LyuneGateway.Lib.Table
import LyuneGateway.Session.Transport

/-!
# Requests in flight

A worker keeps one table of the backend streams whose response it relays and one
of the backend streams that answer an authentication request. Both are keyed by
transport and stream, bounded, and shared among realms by a quota.
-/

namespace LyuneGateway.Worker

open Foundation Session

/-- A stream of a backend transport. -/
structure StreamKey where
  transport : Nat
  stream : Nat
  deriving DecidableEq, Repr

def maxRequests : Nat := 16384
def requestTimeoutUs : Nat := 60000000

/-- One scan of a table takes at most so many entries. -/
def purgeBatch : Nat := 64

/-- When an entry that was active, or made, at a time runs out. -/
def deadline (timestamp : Nat) : Nat := min (timestamp + requestTimeoutUs) (2 ^ 64 - 1)

structure ClientResponse where
  session : SessionHandle
  streamId : Nat
  deriving DecidableEq, Repr

/-- Where the bytes of a response go. -/
inductive ResponseTarget where
  | client (response : ClientResponse)
  | discard
  deriving DecidableEq, Repr

structure Route where
  target : ResponseTarget
  realm : RealmId
  lastActiveAt : Nat
  deriving DecidableEq, Repr

structure PendingAuth where
  clientSession : SessionHandle
  clientStreamId : Nat
  realm : RealmId
  buffer : Bytes := []
  createdAt : Nat
  responseSuppressed : Bool := false
  deriving DecidableEq, Repr

inductive Admit where
  | ok
  | tableFull
  | realmOverShare
  deriving DecidableEq, Repr

/-- Which entries are to be dropped. -/
inductive Filter where
  | session (handle : SessionHandle)
  | olderThan (deadline : Nat)
  deriving DecidableEq, Repr

namespace Filter

def matchesAuth (filter : Filter) (pending : PendingAuth) : Bool :=
  match filter with
  | session handle => pending.clientSession = handle
  | olderThan deadline => pending.createdAt < deadline

def matchesRoute (filter : Filter) (route : Route) : Bool :=
  match filter with
  | session handle =>
      match route.target with
      | .client response => response.session = handle
      | .discard => false
  | olderThan deadline => route.lastActiveAt < deadline

end Filter

structure Tables where
  routes : Table StreamKey Route := ∅
  auths : Table StreamKey PendingAuth := ∅
  routeQuota : Quota
  authQuota : Quota
  nextExpiryAt : Option Nat := none

namespace Tables

def init : Tables where
  routeQuota := Quota.init maxTrackedRealms maxRequests defaultWatermarkPercent
  authQuota := Quota.init maxTrackedRealms maxRequests defaultWatermarkPercent

def noteExpiry (tables : Tables) (timestamp : Nat) : Tables :=
  if tables.nextExpiryAt.all fun earliest => deadline timestamp < earliest then
    { tables with nextExpiryAt := some (deadline timestamp) }
  else tables

def reserveRoute (tables : Tables) (realm : RealmId) : Admit :=
  if maxRequests ≤ tables.routes.size then .tableFull
  else if tables.routeQuota.allows realm = false then .realmOverShare
  else .ok

def openRoute (tables : Tables) (key : StreamKey) (route : Route) : Tables :=
  let quota := match tables.routes.lookup key with
    | none => tables.routeQuota
    | some old => tables.routeQuota.release old.realm
  { tables with
    routes := tables.routes.insert key route
    routeQuota := quota.acquire route.realm }.noteExpiry route.lastActiveAt

def lookupRoute (tables : Tables) (key : StreamKey) : Option Route := tables.routes.lookup key

def touchRoute (tables : Tables) (key : StreamKey) (now : Nat) : Tables :=
  { tables with routes := tables.routes.adjust key fun route => { route with lastActiveAt := now } }

def closeRoute (tables : Tables) (key : StreamKey) : Tables :=
  match tables.routes.lookup key with
  | none => tables
  | some route => { tables with
      routes := tables.routes.erase key
      routeQuota := tables.routeQuota.release route.realm }

/-- The response is no longer wanted; it is still received, so that the backend finishes. -/
def suppressClientResponse (tables : Tables) (session : SessionHandle) (streamId : Nat) : Tables :=
  match tables.routes.findKey fun _ route => route.target = .client ⟨session, streamId⟩ with
  | none => tables
  | some key => { tables with
      routes := tables.routes.adjust key fun route => { route with target := .discard } }

def reserveAuth (tables : Tables) (realm : RealmId) : Admit :=
  if maxRequests ≤ tables.auths.size then .tableFull
  else if tables.authQuota.allows realm = false then .realmOverShare
  else .ok

def trackAuth (tables : Tables) (key : StreamKey) (pending : PendingAuth) : Tables :=
  let quota := match tables.auths.lookup key with
    | none => tables.authQuota
    | some old => tables.authQuota.release old.realm
  { tables with
    auths := tables.auths.insert key pending
    authQuota := quota.acquire pending.realm }.noteExpiry pending.createdAt

def lookupAuth (tables : Tables) (key : StreamKey) : Option PendingAuth := tables.auths.lookup key

def appendAuth (tables : Tables) (key : StreamKey) (data : Bytes) : Tables :=
  { tables with
    auths := tables.auths.adjust key fun pending => { pending with buffer := pending.buffer ++ data } }

def takeAuth (tables : Tables) (key : StreamKey) : Tables :=
  match tables.auths.lookup key with
  | none => tables
  | some pending => { tables with
      auths := tables.auths.erase key
      authQuota := tables.authQuota.release pending.realm }

def suppressAuthResponse (tables : Tables) (session : SessionHandle) (streamId : Nat) : Tables :=
  match tables.auths.findKey fun _ pending =>
      pending.clientSession = session ∧ pending.clientStreamId = streamId with
  | none => tables
  | some key => { tables with
      auths := tables.auths.adjust key fun pending => { pending with responseSuppressed := true } }

/-- Take the routes that satisfy a condition off the table. -/
def takeRoutes (tables : Tables) (which : StreamKey → Route → Bool) :
    List (StreamKey × Route) × Tables :=
  let taken := tables.routes.select which
  (taken, { tables with
    routes := tables.routes.keep fun key route => !which key route
    routeQuota := taken.foldl (fun quota entry => quota.release entry.2.realm) tables.routeQuota })

def takeAuths (tables : Tables) (which : StreamKey → PendingAuth → Bool) :
    List (StreamKey × PendingAuth) × Tables :=
  let taken := tables.auths.select which
  (taken, { tables with
    auths := tables.auths.keep fun key pending => !which key pending
    authQuota := taken.foldl (fun quota entry => quota.release entry.2.realm) tables.authQuota })

/-- The requests of a failed part of a transport, which the selector tells by their stream. -/
def takeFailedRoutes (tables : Tables) (transport : Nat) (selector : Nat → Bool) :
    List (StreamKey × Route) × Tables :=
  tables.takeRoutes fun key _ => key.transport = transport && selector key.stream

def takeFailedAuths (tables : Tables) (transport : Nat) (selector : Nat → Bool) :
    List (StreamKey × PendingAuth) × Tables :=
  tables.takeAuths fun key _ => key.transport = transport && selector key.stream

def expirationDue (tables : Tables) (now : Nat) : Bool :=
  tables.nextExpiryAt.any fun deadline => deadline ≤ now

def takeExpiredRoutes (tables : Tables) (now : Nat) : List (StreamKey × Route) × Tables :=
  tables.takeRoutes fun _ route => requestTimeoutUs ≤ now - route.lastActiveAt

def takeExpiredAuths (tables : Tables) (now : Nat) : List (StreamKey × PendingAuth) × Tables :=
  tables.takeAuths fun _ pending => requestTimeoutUs ≤ now - pending.createdAt

def refreshExpiryDeadline (tables : Tables) : Tables :=
  let routes := tables.routes.entries.foldl
    (fun tables entry => tables.noteExpiry entry.2.lastActiveAt) { tables with nextExpiryAt := none }
  tables.auths.entries.foldl (fun tables entry => tables.noteExpiry entry.2.createdAt) routes

/-- Drop everything that belongs to a session that is closing. -/
def purge (tables : Tables) (session : SessionHandle) : Tables :=
  let routes := (tables.takeRoutes fun _ route => match route.target with
    | .client response => response.session = session
    | .discard => false).2
  (routes.takeAuths fun _ pending => pending.clientSession = session).2

def purgeBy (tables : Tables) (filter : Filter) : Tables :=
  ((tables.takeRoutes fun _ route => filter.matchesRoute route).2.takeAuths
    fun _ pending => filter.matchesAuth pending).2

theorem purge_eq (tables : Tables) (session : SessionHandle) :
    tables.purge session = tables.purgeBy (.session session) := rfl

@[simp] theorem noteExpiry_routes (tables : Tables) (timestamp : Nat) :
    (tables.noteExpiry timestamp).routes = tables.routes := by
  unfold noteExpiry
  split <;> rfl

@[simp] theorem noteExpiry_auths (tables : Tables) (timestamp : Nat) :
    (tables.noteExpiry timestamp).auths = tables.auths := by
  unfold noteExpiry
  split <;> rfl

@[simp] theorem openRoute_routes (tables : Tables) (key : StreamKey) (route : Route) :
    (tables.openRoute key route).routes = tables.routes.insert key route := by
  simp [openRoute]

@[simp] theorem openRoute_auths (tables : Tables) (key : StreamKey) (route : Route) :
    (tables.openRoute key route).auths = tables.auths := by
  simp [openRoute]

@[simp] theorem trackAuth_auths (tables : Tables) (key : StreamKey) (pending : PendingAuth) :
    (tables.trackAuth key pending).auths = tables.auths.insert key pending := by
  simp [trackAuth]

@[simp] theorem trackAuth_routes (tables : Tables) (key : StreamKey) (pending : PendingAuth) :
    (tables.trackAuth key pending).routes = tables.routes := by
  simp [trackAuth]

@[simp] theorem closeRoute_auths (tables : Tables) (key : StreamKey) :
    (tables.closeRoute key).auths = tables.auths := by
  unfold closeRoute
  split <;> rfl

@[simp] theorem takeAuth_routes (tables : Tables) (key : StreamKey) :
    (tables.takeAuth key).routes = tables.routes := by
  unfold takeAuth
  split <;> rfl

@[simp] theorem suppressClientResponse_auths (tables : Tables) (session : SessionHandle)
    (streamId : Nat) : (tables.suppressClientResponse session streamId).auths = tables.auths := by
  unfold suppressClientResponse
  split <;> rfl

@[simp] theorem suppressAuthResponse_routes (tables : Tables) (session : SessionHandle)
    (streamId : Nat) : (tables.suppressAuthResponse session streamId).routes = tables.routes := by
  unfold suppressAuthResponse
  split <;> rfl

theorem closeRoute_routes (tables : Tables) (key : StreamKey) :
    (tables.closeRoute key).routes = tables.routes.erase key := by
  unfold closeRoute
  split
  · rename_i absent
    refine AList.ext (Eq.symm (List.kerase_of_notMem_keys ?_))
    exact AList.mem_keys.not.mp (AList.lookup_eq_none.mp absent)
  · rfl

theorem takeAuth_auths (tables : Tables) (key : StreamKey) :
    (tables.takeAuth key).auths = tables.auths.erase key := by
  unfold takeAuth
  split
  · rename_i absent
    refine AList.ext (Eq.symm (List.kerase_of_notMem_keys ?_))
    exact AList.mem_keys.not.mp (AList.lookup_eq_none.mp absent)
  · rfl

end Tables

end LyuneGateway.Worker
