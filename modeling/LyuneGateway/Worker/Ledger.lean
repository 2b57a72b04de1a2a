import LyuneGateway.Lib.Run
import LyuneGateway.Worker.Drain

/-!
# The books of the requests in flight

Every entry of the two tables takes one unit of the share of its realm, and the
earliest deadline that is kept may be early but is never late. Entries that fail
or run out leave in batches, in an order that the tables do not promise.
-/

namespace LyuneGateway.Foundation.Quota

variable {κ ν : Type} {quota : Quota} {realm : ν → RealmId} {table : Table κ ν}
  {key : κ} {value : ν}

/-- The quota counts one unit for each entry of the table. -/
def Charges (quota : Quota) (realm : ν → RealmId) (table : Table κ ν) : Prop :=
  quota.Holds (table.entries.map fun entry => realm entry.2)

namespace Charges

theorem keep (charges : quota.Charges realm table) (which : κ → ν → Bool) :
    ((table.select which).foldl (fun quota entry => quota.release (realm entry.2)) quota).Charges
      realm (table.keep fun key value => !which key value) := by
  have released (taken rest : List RealmId) {quota : Quota} (holds : quota.Holds (taken ++ rest)) :
      (taken.foldl release quota).Holds rest := by
    induction taken generalizing quota with
    | nil => exact holds
    | cons first taken ih => exact ih holds.release
  have parted := (List.filter_append_perm (fun entry : Sigma fun _ : κ => ν =>
    which entry.1 entry.2) table.entries).symm.map fun entry => realm entry.2
  rw [List.map_append] at parted
  have left := released _ _ (charges.perm parted)
  simpa only [Table.select, Table.keep, Charges, List.foldl_map] using left

theorem counts [DecidableEq ν] (charges : quota.Charges realm table) (own : RealmId) :
    quota.counts own = (table.select fun _ value => realm value = own).length := by
  rw [Holds.counts charges, List.count, List.countP_map, List.countP_eq_length_filter]
  simp only [Table.select, Table.keep, List.length_map]
  rfl

variable [DecidableEq κ]

theorem erase (charges : quota.Charges realm table) (found : table.lookup key = some value) :
    (quota.release (realm value)).Charges realm (table.erase key) := by
  have charged := charges.perm ((Table.perm_erase found).map fun entry => realm entry.2)
  rw [List.map_cons] at charged
  exact charged.release

theorem insert (charges : quota.Charges realm (table.erase key))
    (known : realm value < quota.tracked) :
    (quota.acquire (realm value)).Charges realm (table.insert key value) := by
  unfold Charges
  rw [AList.entries_insert, List.map_cons]
  exact Holds.acquire charges known

theorem adjust (charges : quota.Charges realm table) {change : ν → ν}
    (same : ∀ value, realm (change value) = realm value) :
    quota.Charges realm (table.adjust key change) :=
  charges.perm (Table.map_adjust realm same).symm

end Charges

end LyuneGateway.Foundation.Quota

namespace LyuneGateway.Worker

open Foundation Protocol Session

namespace Tables

variable {tables after : Tables} {key : StreamKey}

/-- Each table and its quota agree, and the quotas have kept their limits. -/
structure Balanced (tables : Tables) : Prop where
  routes : tables.routeQuota.Charges Route.realm tables.routes
  auths : tables.authQuota.Charges PendingAuth.realm tables.auths
  routeLimits : tables.routeQuota.limits = init.routeQuota.limits
  authLimits : tables.authQuota.limits = init.authQuota.limits

namespace Balanced

theorem init : Tables.init.Balanced :=
  ⟨Quota.Holds.init _ _ _, Quota.Holds.init _ _ _, rfl, rfl⟩

theorem noteExpiry (balanced : tables.Balanced) (timestamp : Nat) :
    (tables.noteExpiry timestamp).Balanced := by
  unfold Tables.noteExpiry
  split
  · exact { balanced with }
  · exact balanced

theorem closeRoute (balanced : tables.Balanced) (key : StreamKey) :
    (tables.closeRoute key).Balanced := by
  unfold Tables.closeRoute
  split
  · exact balanced
  · rename_i route found
    exact { balanced with
      routes := balanced.routes.erase found
      routeLimits := by rw [Quota.limits_release, balanced.routeLimits] }

theorem takeAuth (balanced : tables.Balanced) (key : StreamKey) :
    (tables.takeAuth key).Balanced := by
  unfold Tables.takeAuth
  split
  · exact balanced
  · rename_i pending found
    exact { balanced with
      auths := balanced.auths.erase found
      authLimits := by rw [Quota.limits_release, balanced.authLimits] }

theorem openRoute (balanced : tables.Balanced) (key : StreamKey) {route : Route}
    (known : route.realm < maxTrackedRealms) : (tables.openRoute key route).Balanced := by
  have tracked {quota : Quota} (limits : quota.limits = Tables.init.routeQuota.limits) :
      route.realm < quota.tracked := lt_of_lt_of_eq known (congrArg Prod.fst limits).symm
  apply noteExpiry
  cases found : tables.routes.lookup key with
  | none =>
      refine { balanced with routes := ?_, routeLimits := ?_ }
      · refine Quota.Charges.insert ?_ (tracked balanced.routeLimits)
        rw [Table.erase_of_absent found]
        exact balanced.routes
      · rw [Quota.limits_acquire, balanced.routeLimits]
  | some old =>
      have limits : (tables.routeQuota.release old.realm).limits =
          Tables.init.routeQuota.limits := by rw [Quota.limits_release, balanced.routeLimits]
      refine { balanced with routes := ?_, routeLimits := ?_ }
      · exact (balanced.routes.erase found).insert (tracked limits)
      · rw [Quota.limits_acquire, limits]

theorem trackAuth (balanced : tables.Balanced) (key : StreamKey) {pending : PendingAuth}
    (known : pending.realm < maxTrackedRealms) : (tables.trackAuth key pending).Balanced := by
  have tracked {quota : Quota} (limits : quota.limits = Tables.init.authQuota.limits) :
      pending.realm < quota.tracked := lt_of_lt_of_eq known (congrArg Prod.fst limits).symm
  apply noteExpiry
  cases found : tables.auths.lookup key with
  | none =>
      refine { balanced with auths := ?_, authLimits := ?_ }
      · refine Quota.Charges.insert ?_ (tracked balanced.authLimits)
        rw [Table.erase_of_absent found]
        exact balanced.auths
      · rw [Quota.limits_acquire, balanced.authLimits]
  | some old =>
      have limits : (tables.authQuota.release old.realm).limits =
          Tables.init.authQuota.limits := by rw [Quota.limits_release, balanced.authLimits]
      refine { balanced with auths := ?_, authLimits := ?_ }
      · exact (balanced.auths.erase found).insert (tracked limits)
      · rw [Quota.limits_acquire, limits]

theorem touchRoute (balanced : tables.Balanced) (key : StreamKey) (now : Nat) :
    (tables.touchRoute key now).Balanced :=
  { balanced with routes := balanced.routes.adjust fun _ => rfl }

theorem suppressClientResponse (balanced : tables.Balanced) (session : SessionHandle)
    (streamId : Nat) : (tables.suppressClientResponse session streamId).Balanced := by
  unfold Tables.suppressClientResponse
  split
  · exact balanced
  · exact { balanced with routes := balanced.routes.adjust fun _ => rfl }

theorem appendAuth (balanced : tables.Balanced) (key : StreamKey) (data : Bytes) :
    (tables.appendAuth key data).Balanced :=
  { balanced with auths := balanced.auths.adjust fun _ => rfl }

theorem suppressAuthResponse (balanced : tables.Balanced) (session : SessionHandle)
    (streamId : Nat) : (tables.suppressAuthResponse session streamId).Balanced := by
  unfold Tables.suppressAuthResponse
  split
  · exact balanced
  · exact { balanced with auths := balanced.auths.adjust fun _ => rfl }

theorem takeRoutes (balanced : tables.Balanced) (which : StreamKey → Route → Bool) :
    (tables.takeRoutes which).2.Balanced :=
  { balanced with
    routes := balanced.routes.keep which
    routeLimits := (Quota.limits_foldl_release _ _ _).trans balanced.routeLimits }

theorem takeAuths (balanced : tables.Balanced) (which : StreamKey → PendingAuth → Bool) :
    (tables.takeAuths which).2.Balanced :=
  { balanced with
    auths := balanced.auths.keep which
    authLimits := (Quota.limits_foldl_release _ _ _).trans balanced.authLimits }

end Balanced

-- The arithmetic is done for any numbers: that of these numbers would be computed.
theorem deadline_mono {timestamp later : Nat} (grows : timestamp ≤ later) :
    deadline timestamp ≤ deadline later := by
  have general (span top : Nat) : min (timestamp + span) top ≤ min (later + span) top := by omega
  exact general requestTimeoutUs (2 ^ 64 - 1)

theorem deadline_le_of_expired {timestamp now : Nat}
    (expired : requestTimeoutUs ≤ now - timestamp) : deadline timestamp ≤ now := by
  have general {span : Nat} (top : Nat) (positive : 0 < span) (passed : span ≤ now - timestamp) :
      min (timestamp + span) top ≤ now := by omega
  have positive : 0 < requestTimeoutUs := by decide
  exact general (2 ^ 64 - 1) positive expired

/-- What is kept of a deadline and the earliest one so far is no later than either. -/
theorem sooner (known : Option Nat) (own : Nat) : ∃ earliest,
    (if known.all fun earliest => own < earliest then some own else known) = some earliest ∧
      earliest ≤ own ∧ ∀ other, known = some other → earliest ≤ other := by
  cases known with
  | none => exact ⟨own, rfl, Nat.le_refl own, nofun⟩
  | some earliest =>
      by_cases less : own < earliest
      · refine ⟨own, by simp [less], Nat.le_refl own, ?_⟩
        rintro _ ⟨⟩
        exact less.le
      · refine ⟨earliest, by simp [less], Nat.le_of_not_lt less, ?_⟩
        rintro _ ⟨⟩
        exact Nat.le_refl earliest

theorem nextExpiryAt_noteExpiry (tables : Tables) (timestamp : Nat) :
    (tables.noteExpiry timestamp).nextExpiryAt =
      if tables.nextExpiryAt.all fun earliest => deadline timestamp < earliest then
        some (deadline timestamp)
      else tables.nextExpiryAt := by
  unfold noteExpiry
  split
  · rfl
  · rfl

/-- The earliest deadline that is kept is no later than that of the time. -/
def Alert (tables : Tables) (timestamp : Nat) : Prop :=
  ∃ earliest, tables.nextExpiryAt = some earliest ∧ earliest ≤ deadline timestamp

namespace Alert

variable {timestamp : Nat}

theorem noted (tables : Tables) (timestamp : Nat) :
    (tables.noteExpiry timestamp).Alert timestamp := by
  unfold Alert
  rw [nextExpiryAt_noteExpiry]
  obtain ⟨earliest, known, early, -⟩ := sooner tables.nextExpiryAt (deadline timestamp)
  exact ⟨earliest, known, early⟩

theorem noteExpiry (alert : tables.Alert timestamp) (other : Nat) :
    (tables.noteExpiry other).Alert timestamp := by
  obtain ⟨before, held, early⟩ := alert
  unfold Alert
  rw [nextExpiryAt_noteExpiry]
  obtain ⟨earliest, known, -, least⟩ := sooner tables.nextExpiryAt (deadline other)
  exact ⟨earliest, known, (least before held).trans early⟩

theorem mono {later : Nat} (alert : tables.Alert timestamp) (after : timestamp ≤ later) :
    tables.Alert later := by
  obtain ⟨earliest, known, early⟩ := alert
  exact ⟨earliest, known, early.trans (deadline_mono after)⟩

theorem of_expiry (alert : tables.Alert timestamp)
    (same : after.nextExpiryAt = tables.nextExpiryAt) : after.Alert timestamp := by
  obtain ⟨earliest, known, early⟩ := alert
  exact ⟨earliest, same.trans known, early⟩

theorem openRoute (alert : tables.Alert timestamp) (key : StreamKey) (route : Route) :
    (tables.openRoute key route).Alert timestamp := by
  apply noteExpiry
  exact alert.of_expiry rfl

theorem trackAuth (alert : tables.Alert timestamp) (key : StreamKey) (pending : PendingAuth) :
    (tables.trackAuth key pending).Alert timestamp := by
  apply noteExpiry
  exact alert.of_expiry rfl

theorem foldl {α : Type} (note : α → Nat) (items : List α)
    (known : tables.Alert timestamp ∨ ∃ item ∈ items, note item = timestamp) :
    (items.foldl (fun tables item => tables.noteExpiry (note item)) tables).Alert timestamp := by
  induction items generalizing tables with
  | nil =>
      obtain alert | ⟨item, listed, -⟩ := known
      · exact alert
      · cases listed
  | cons item items ih =>
      apply ih
      obtain alert | ⟨own, listed, same⟩ := known
      · exact .inl (alert.noteExpiry _)
      · obtain rfl | later := List.mem_cons.mp listed
        · exact .inl (same ▸ noted tables _)
        · exact .inr ⟨own, later, same⟩

/-- Once the deadline of an entry has come, a scan is due. -/
theorem due (alert : tables.Alert timestamp) {now : Nat}
    (expired : requestTimeoutUs ≤ now - timestamp) :
    tables.expirationDue now = true := by
  obtain ⟨earliest, known, early⟩ := alert
  have come : earliest ≤ now := early.trans (deadline_le_of_expired expired)
  simpa [expirationDue, known] using come

end Alert

theorem refreshExpiryDeadline_entries (tables : Tables) :
    tables.refreshExpiryDeadline.routes = tables.routes ∧
      tables.refreshExpiryDeadline.auths = tables.auths := by
  have folded {α : Type} (note : α → Nat) (items : List α) (tables : Tables) :
      (items.foldl (fun tables item => tables.noteExpiry (note item)) tables).routes =
          tables.routes ∧
        (items.foldl (fun tables item => tables.noteExpiry (note item)) tables).auths =
          tables.auths := by
    induction items generalizing tables with
    | nil => exact ⟨rfl, rfl⟩
    | cons item items ih =>
        exact ⟨(ih _).1.trans (noteExpiry_routes _ _), (ih _).2.trans (noteExpiry_auths _ _)⟩
  constructor
  · exact (folded _ _ _).1.trans (folded _ _ _).1
  · exact (folded _ _ _).2.trans (folded _ _ _).2

theorem Balanced.refreshExpiryDeadline (balanced : tables.Balanced) :
    tables.refreshExpiryDeadline.Balanced := by
  have folded {α : Type} (note : α → Nat) (items : List α) {tables : Tables}
      (balanced : tables.Balanced) :
      (items.foldl (fun tables item => tables.noteExpiry (note item)) tables).Balanced := by
    induction items generalizing tables with
    | nil => exact balanced
    | cons item items ih => exact ih (balanced.noteExpiry _)
  exact folded _ _ (folded _ _ { balanced with })

theorem alert_refreshed_route {route : Route} (found : tables.routes.lookup key = some route) :
    tables.refreshExpiryDeadline.Alert route.lastActiveAt := by
  unfold Tables.refreshExpiryDeadline
  apply Alert.foldl fun entry : Sigma fun _ : StreamKey => PendingAuth => entry.2.createdAt
  apply Or.inl
  apply Alert.foldl fun entry : Sigma fun _ : StreamKey => Route => entry.2.lastActiveAt
  exact .inr ⟨⟨key, route⟩, AList.mem_lookup_iff.mp found, rfl⟩

theorem alert_refreshed_auth {pending : PendingAuth}
    (found : tables.auths.lookup key = some pending) :
    tables.refreshExpiryDeadline.Alert pending.createdAt := by
  unfold Tables.refreshExpiryDeadline
  apply Alert.foldl fun entry : Sigma fun _ : StreamKey => PendingAuth => entry.2.createdAt
  exact .inr ⟨⟨key, pending⟩, AList.mem_lookup_iff.mp found, rfl⟩

/-- Every entry was there before, with the same time, and the earliest deadline is the same. -/
structure Retains (tables after : Tables) : Prop where
  expiry : after.nextExpiryAt = tables.nextExpiryAt
  routes : ∀ key route, after.routes.lookup key = some route →
    ∃ old, tables.routes.lookup key = some old ∧ old.lastActiveAt = route.lastActiveAt
  auths : ∀ key pending, after.auths.lookup key = some pending →
    ∃ old, tables.auths.lookup key = some old ∧ old.createdAt = pending.createdAt

namespace Retains

theorem refl : tables.Retains tables :=
  ⟨rfl, fun _ route found => ⟨route, found, rfl⟩, fun _ pending found => ⟨pending, found, rfl⟩⟩

theorem trans {middle : Tables} (first : tables.Retains middle) (second : middle.Retains after) :
    tables.Retains after where
  expiry := second.expiry.trans first.expiry
  routes := by
    intro key route found
    obtain ⟨later, held, same⟩ := second.routes key route found
    obtain ⟨old, before, also⟩ := first.routes key later held
    exact ⟨old, before, also.trans same⟩
  auths := by
    intro key pending found
    obtain ⟨later, held, same⟩ := second.auths key pending found
    obtain ⟨old, before, also⟩ := first.auths key later held
    exact ⟨old, before, also.trans same⟩

/-- Only the routes change, each of which keeps its time. -/
theorem of_routes (expiry : after.nextExpiryAt = tables.nextExpiryAt)
    (auths : after.auths = tables.auths)
    (routes : ∀ key route, after.routes.lookup key = some route →
      ∃ old, tables.routes.lookup key = some old ∧ old.lastActiveAt = route.lastActiveAt) :
    tables.Retains after :=
  ⟨expiry, routes, fun _ pending found => ⟨pending, auths ▸ found, rfl⟩⟩

theorem of_auths (expiry : after.nextExpiryAt = tables.nextExpiryAt)
    (routes : after.routes = tables.routes)
    (auths : ∀ key pending, after.auths.lookup key = some pending →
      ∃ old, tables.auths.lookup key = some old ∧ old.createdAt = pending.createdAt) :
    tables.Retains after :=
  ⟨expiry, fun _ route found => ⟨route, routes ▸ found, rfl⟩, auths⟩

/-- An entry of a table that was changed in one place, which does not affect what is read. -/
theorem adjusted {ν : Type} {table : Table StreamKey ν} {own key : StreamKey} {change : ν → ν}
    (read : ν → Nat) {value : ν} (found : (table.adjust own change).lookup key = some value)
    (same : ∀ value, read (change value) = read value) :
    ∃ old, table.lookup key = some old ∧ read old = read value := by
  obtain ⟨rfl, old, before, rfl⟩ | ⟨-, before⟩ := Table.lookup_adjust_cases found
  · exact ⟨old, before, (same old).symm⟩
  · exact ⟨value, before, rfl⟩

theorem closeRoute (tables : Tables) (key : StreamKey) : tables.Retains (tables.closeRoute key) := by
  apply of_routes
  · unfold Tables.closeRoute
    split <;> rfl
  · exact closeRoute_auths tables key
  · intro own route found
    rw [closeRoute_routes] at found
    exact ⟨route, (Table.lookup_erase_eq_some.mp found).2, rfl⟩

theorem takeAuth (tables : Tables) (key : StreamKey) : tables.Retains (tables.takeAuth key) := by
  apply of_auths
  · unfold Tables.takeAuth
    split <;> rfl
  · exact takeAuth_routes tables key
  · intro own pending found
    rw [takeAuth_auths] at found
    exact ⟨pending, (Table.lookup_erase_eq_some.mp found).2, rfl⟩

theorem suppressClientResponse (tables : Tables) (session : SessionHandle) (streamId : Nat) :
    tables.Retains (tables.suppressClientResponse session streamId) := by
  unfold Tables.suppressClientResponse
  split
  · exact refl
  · exact of_routes rfl rfl fun _ _ found => adjusted Route.lastActiveAt found fun _ => rfl

theorem appendAuth (tables : Tables) (key : StreamKey) (data : Bytes) :
    tables.Retains (tables.appendAuth key data) :=
  of_auths rfl rfl fun _ _ found => adjusted PendingAuth.createdAt found fun _ => rfl

theorem suppressAuthResponse (tables : Tables) (session : SessionHandle) (streamId : Nat) :
    tables.Retains (tables.suppressAuthResponse session streamId) := by
  unfold Tables.suppressAuthResponse
  split
  · exact refl
  · exact of_auths rfl rfl fun _ _ found => adjusted PendingAuth.createdAt found fun _ => rfl

theorem takeRoutes (tables : Tables) (which : StreamKey → Route → Bool) :
    tables.Retains (tables.takeRoutes which).2 :=
  of_routes rfl rfl fun _ route found => ⟨route, (Table.lookup_keep_eq_some.mp found).1, rfl⟩

theorem takeAuths (tables : Tables) (which : StreamKey → PendingAuth → Bool) :
    tables.Retains (tables.takeAuths which).2 :=
  of_auths rfl rfl fun _ pending found => ⟨pending, (Table.lookup_keep_eq_some.mp found).1, rfl⟩

theorem foldl {drop : Tables → StreamKey → Tables}
    (each : ∀ tables key, Retains tables (drop tables key)) (picked : List StreamKey)
    (tables : Tables) : tables.Retains (picked.foldl drop tables) := by
  induction picked generalizing tables with
  | nil => exact refl
  | cons key picked ih => exact (each tables key).trans (ih _)

end Retains

theorem Balanced.foldl (balanced : tables.Balanced) {drop : Tables → StreamKey → Tables}
    (each : ∀ {tables : Tables}, tables.Balanced → ∀ key, (drop tables key).Balanced)
    (picked : List StreamKey) : (picked.foldl drop tables).Balanced := by
  induction picked generalizing tables with
  | nil => exact balanced
  | cons key picked ih => exact ih (each balanced key)

/-- Which requests have run out, and which authentications. -/
def expiredRoute (now : Nat) (_ : StreamKey) (route : Route) : Bool :=
  requestTimeoutUs ≤ now - route.lastActiveAt

def expiredAuth (now : Nat) (_ : StreamKey) (pending : PendingAuth) : Bool :=
  requestTimeoutUs ≤ now - pending.createdAt

/-- The streams of a failed part of a transport. -/
def failed (transport : Nat) (selector : StreamSelector) (key : StreamKey) : Bool :=
  key.transport = transport && selector.covers key.stream

/-- The operations of the tables. The tables find the entries of a batch in an order of their own:
the operation names the keys that it takes. -/
inductive Call where
  | reserveRoute (realm : RealmId)
  | openRoute (key : StreamKey) (route : Route) (memory : Bool)
  | touchRoute (key : StreamKey)
  | closeRoute (key : StreamKey)
  | suppressClientResponse (session : SessionHandle) (streamId : Nat)
  | reserveAuth (realm : RealmId)
  | trackAuth (key : StreamKey) (pending : PendingAuth) (memory : Bool)
  | appendAuth (key : StreamKey) (data : Bytes)
  | takeAuth (key : StreamKey)
  | suppressAuthResponse (session : SessionHandle) (streamId : Nat)
  | takeFailedRoutes (transport : Nat) (selector : StreamSelector) (room : Nat)
      (picked : List StreamKey)
  | takeFailedAuths (transport : Nat) (selector : StreamSelector) (room : Nat)
      (picked : List StreamKey)
  | takeExpiredRoutes (room : Nat) (picked : List StreamKey)
  | takeExpiredAuths (room : Nat) (picked : List StreamKey)
  | refreshExpiryDeadline
  | purge (filter : Filter)

/-- What an operation at a time does to the tables. -/
def perform (tables : Tables) (now : Nat) : Call → Tables
  | .reserveRoute _ | .reserveAuth _ => tables
  | .openRoute key route memory => if memory then tables.openRoute key route else tables
  | .touchRoute key => tables.touchRoute key now
  | .closeRoute key => tables.closeRoute key
  | .suppressClientResponse session streamId => tables.suppressClientResponse session streamId
  | .trackAuth key pending memory => if memory then tables.trackAuth key pending else tables
  | .appendAuth key data => tables.appendAuth key data
  | .takeAuth key => tables.takeAuth key
  | .suppressAuthResponse session streamId => tables.suppressAuthResponse session streamId
  | .takeFailedRoutes _ _ _ picked | .takeExpiredRoutes _ picked => picked.foldl closeRoute tables
  | .takeFailedAuths _ _ _ picked | .takeExpiredAuths _ picked => picked.foldl takeAuth tables
  | .refreshExpiryDeadline => tables.refreshExpiryDeadline
  | .purge filter => tables.purgeBy filter

/-- What an operation asks of its caller, and of the keys of a batch: an entry is of a realm that
is counted, and of no later time than the operation. -/
def Possible (tables : Tables) (now : Nat) : Call → Prop
  | .openRoute _ route _ => route.realm < maxTrackedRealms ∧ route.lastActiveAt ≤ now
  | .trackAuth _ pending _ => pending.realm < maxTrackedRealms ∧ pending.createdAt ≤ now
  | .takeFailedRoutes transport selector room picked =>
      tables.routes.Picks (fun key _ => failed transport selector key) (min purgeBatch room) picked
  | .takeFailedAuths transport selector room picked =>
      tables.auths.Picks (fun key _ => failed transport selector key) (min purgeBatch room) picked
  | .takeExpiredRoutes room picked =>
      tables.routes.Picks (expiredRoute now) (min purgeBatch room) picked
  | .takeExpiredAuths room picked =>
      tables.auths.Picks (expiredAuth now) (min purgeBatch room) picked
  | _ => True

theorem perform_balanced (balanced : tables.Balanced) {now : Nat} {call : Call}
    (possible : tables.Possible now call) : (tables.perform now call).Balanced := by
  cases call with
  | reserveRoute realm => exact balanced
  | reserveAuth realm => exact balanced
  | openRoute key route memory =>
      cases memory with
      | true => exact balanced.openRoute key possible.1
      | false => exact balanced
  | touchRoute key => exact balanced.touchRoute key now
  | closeRoute key => exact balanced.closeRoute key
  | suppressClientResponse session streamId => exact balanced.suppressClientResponse session streamId
  | trackAuth key pending memory =>
      cases memory with
      | true => exact balanced.trackAuth key possible.1
      | false => exact balanced
  | appendAuth key data => exact balanced.appendAuth key data
  | takeAuth key => exact balanced.takeAuth key
  | suppressAuthResponse session streamId => exact balanced.suppressAuthResponse session streamId
  | takeFailedRoutes transport selector room picked => exact balanced.foldl Balanced.closeRoute picked
  | takeFailedAuths transport selector room picked => exact balanced.foldl Balanced.takeAuth picked
  | takeExpiredRoutes room picked => exact balanced.foldl Balanced.closeRoute picked
  | takeExpiredAuths room picked => exact balanced.foldl Balanced.takeAuth picked
  | refreshExpiryDeadline => exact balanced.refreshExpiryDeadline
  | purge filter => exact (balanced.takeRoutes _).takeAuths _

/-- Batch after batch is taken off a table, until one is not full. -/
inductive Drains {ν : Type} (entries : Tables → Table StreamKey ν)
    (drop : Tables → StreamKey → Tables) (which : StreamKey → ν → Bool) : Tables → Tables → Prop
  | last {tables : Tables} {picked : List StreamKey} :
      (entries tables).Picks which purgeBatch picked → picked.length < purgeBatch →
      Drains entries drop which tables (picked.foldl drop tables)
  | more {tables after : Tables} {picked : List StreamKey} :
      (entries tables).Picks which purgeBatch picked → picked.length = purgeBatch →
      Drains entries drop which (picked.foldl drop tables) after →
      Drains entries drop which tables after

abbrev DrainsRoutes := Drains Tables.routes closeRoute
abbrev DrainsAuths := Drains Tables.auths takeAuth

namespace Drains

/-- A table whose entries are dropped one by one, and what its quota becomes. -/
theorem foldl_closeRoute (picked : List StreamKey) (tables : Tables) : ∃ quota,
    picked.foldl closeRoute tables =
      { tables with
        routes := picked.foldl (fun table key => AList.erase key table) tables.routes
        routeQuota := quota } := by
  induction picked generalizing tables with
  | nil => exact ⟨_, rfl⟩
  | cons key picked ih =>
      obtain ⟨quota, same⟩ := ih (tables.closeRoute key)
      have dropped : ∃ quota, tables.closeRoute key =
          { tables with routes := tables.routes.erase key, routeQuota := quota } := by
        cases found : tables.routes.lookup key with
        | none => exact ⟨tables.routeQuota, by simp [closeRoute, found, Table.erase_of_absent found]⟩
        | some route => exact ⟨_, by simp only [closeRoute, found]; rfl⟩
      obtain ⟨_, first⟩ := dropped
      refine ⟨quota, ?_⟩
      rw [List.foldl_cons, same, first]
      rfl

theorem foldl_takeAuth (picked : List StreamKey) (tables : Tables) : ∃ quota,
    picked.foldl takeAuth tables =
      { tables with
        auths := picked.foldl (fun table key => AList.erase key table) tables.auths
        authQuota := quota } := by
  induction picked generalizing tables with
  | nil => exact ⟨_, rfl⟩
  | cons key picked ih =>
      obtain ⟨quota, same⟩ := ih (tables.takeAuth key)
      have dropped : ∃ quota, tables.takeAuth key =
          { tables with auths := tables.auths.erase key, authQuota := quota } := by
        cases found : tables.auths.lookup key with
        | none => exact ⟨tables.authQuota, by simp [takeAuth, found, Table.erase_of_absent found]⟩
        | some pending => exact ⟨_, by simp only [takeAuth, found]; rfl⟩
      obtain ⟨_, first⟩ := dropped
      refine ⟨quota, ?_⟩
      rw [List.foldl_cons, same, first]
      rfl

/-- Nothing that is to be taken is left; of the rest nothing is lost. -/
theorem erased {ν : Type} {table : Table StreamKey ν} {which : StreamKey → ν → Bool} {limit : Nat}
    {picked : List StreamKey} (picks : table.Picks which limit picked)
    (short : picked.length < limit) :
    picked.foldl (fun table key => AList.erase key table) table =
      table.keep fun key value => !which key value := by
  refine AList.ext ((Table.entries_foldl_erase picked).trans ?_)
  refine List.filter_congr fun entry listed => ?_
  have found : table.lookup entry.1 = some entry.2 := AList.mem_lookup_iff.mpr listed
  by_cases chosen : which entry.1 entry.2 = true
  · simp [chosen, picks.complete short found chosen]
  · have kept : entry.1 ∉ picked := by
      intro taken
      obtain ⟨value, held, holds⟩ := picks.chosen entry.1 taken
      exact chosen (Option.some.inj (found.symm.trans held) ▸ holds)
    simp [chosen, kept]

theorem keep_erased {ν : Type} {table : Table StreamKey ν} {which : StreamKey → ν → Bool}
    {limit : Nat} {picked : List StreamKey} (picks : table.Picks which limit picked) :
    (picked.foldl (fun table key => AList.erase key table) table : Table StreamKey ν).keep
        (fun key value => !which key value) =
      table.keep fun key value => !which key value := by
  refine AList.ext ?_
  change List.filter _ _ = List.filter _ _
  rw [Table.entries_foldl_erase, List.filter_filter]
  refine List.filter_congr fun entry listed => ?_
  have found : table.lookup entry.1 = some entry.2 := AList.mem_lookup_iff.mpr listed
  by_cases chosen : which entry.1 entry.2 = true
  · simp [chosen]
  · have kept : entry.1 ∉ picked := by
      intro taken
      obtain ⟨value, held, holds⟩ := picks.chosen entry.1 taken
      exact chosen (Option.some.inj (found.symm.trans held) ▸ holds)
    simp [chosen, kept]

/-- Batches come to the same as taking everything at once. -/
theorem eq_takeRoutes {which : StreamKey → Route → Bool} (drains : DrainsRoutes which tables after)
    (balanced : tables.Balanced) : after = (tables.takeRoutes which).2 := by
  have left : after.Balanced ∧ ∃ quota, after =
      { tables with
        routes := tables.routes.keep fun key route => !which key route
        routeQuota := quota } := by
    induction drains with
    | @last tables picked picks short =>
        obtain ⟨quota, same⟩ := foldl_closeRoute picked tables
        refine ⟨balanced.foldl Balanced.closeRoute picked, quota, ?_⟩
        rw [same, erased picks short]
    | @more tables after picked picks full rest ih =>
        obtain ⟨quota, same⟩ := foldl_closeRoute picked tables
        obtain ⟨kept, last, finished⟩ := ih (balanced.foldl Balanced.closeRoute picked)
        refine ⟨kept, last, ?_⟩
        rw [finished, same]
        simp only [keep_erased picks]
  obtain ⟨kept, quota, rfl⟩ := left
  have also := balanced.takeRoutes which
  have same := Quota.eq_of_holds kept.routes also.routes
    (kept.routeLimits.trans also.routeLimits.symm)
  simp only at same
  rw [same]
  rfl

theorem eq_takeAuths {which : StreamKey → PendingAuth → Bool}
    (drains : DrainsAuths which tables after) (balanced : tables.Balanced) :
    after = (tables.takeAuths which).2 := by
  have left : after.Balanced ∧ ∃ quota, after =
      { tables with
        auths := tables.auths.keep fun key pending => !which key pending
        authQuota := quota } := by
    induction drains with
    | @last tables picked picks short =>
        obtain ⟨quota, same⟩ := foldl_takeAuth picked tables
        refine ⟨balanced.foldl Balanced.takeAuth picked, quota, ?_⟩
        rw [same, erased picks short]
    | @more tables after picked picks full rest ih =>
        obtain ⟨quota, same⟩ := foldl_takeAuth picked tables
        obtain ⟨kept, last, finished⟩ := ih (balanced.foldl Balanced.takeAuth picked)
        refine ⟨kept, last, ?_⟩
        rw [finished, same]
        simp only [keep_erased picks]
  obtain ⟨kept, quota, rfl⟩ := left
  have also := balanced.takeAuths which
  have same := Quota.eq_of_holds kept.auths also.auths
    (kept.authLimits.trans also.authLimits.symm)
  simp only at same
  rw [same]
  rfl

/-- The loop ends: a full batch leaves fewer entries. -/
theorem exists_of_shrinks {ν : Type} {entries : Tables → Table StreamKey ν}
    {drop : Tables → StreamKey → Tables} (which : StreamKey → ν → Bool)
    (drops : ∀ (picked : List StreamKey) (tables : Tables),
      entries (picked.foldl drop tables) =
        picked.foldl (fun table key => AList.erase key table) (entries tables))
    (tables : Tables) : ∃ after, Drains entries drop which tables after := by
  induction held : (entries tables).entries.length using Nat.strong_induction_on
    generalizing tables with
  | _ size ih =>
      obtain ⟨picked, picks⟩ := (entries tables).exists_picks which purgeBatch
      have most : picked.length ≤ purgeBatch := picks.length ▸ Nat.min_le_left _ _
      obtain short | full := Nat.lt_or_eq_of_le most
      · exact ⟨_, .last picks short⟩
      · have some_ : 0 < picked.length := full ▸ (by decide : 0 < purgeBatch)
        obtain ⟨key, listed⟩ := List.exists_mem_of_length_pos some_
        obtain ⟨value, found, -⟩ := picks.chosen key listed
        have fewer : (entries (picked.foldl drop tables)).entries.length < size := by
          rw [drops, Table.entries_foldl_erase, ← held]
          refine List.length_filter_lt_length_iff_exists.mpr ?_
          exact ⟨⟨key, value⟩, AList.mem_lookup_iff.mp found, by simpa using listed⟩
        obtain ⟨after, rest⟩ := ih _ fewer _ rfl
        exact ⟨after, .more picks full rest⟩

theorem exists_routes (which : StreamKey → Route → Bool) (tables : Tables) :
    ∃ after, DrainsRoutes which tables after := by
  refine exists_of_shrinks which (fun picked tables => ?_) tables
  obtain ⟨_, same⟩ := foldl_closeRoute picked tables
  rw [same]

theorem exists_auths (which : StreamKey → PendingAuth → Bool) (tables : Tables) :
    ∃ after, DrainsAuths which tables after := by
  refine exists_of_shrinks which (fun picked tables => ?_) tables
  obtain ⟨_, same⟩ := foldl_takeAuth picked tables
  rw [same]

end Drains

/-- Some entry has run out. -/
def Overdue (tables : Tables) (now : Nat) : Prop :=
  (∃ key route, tables.routes.lookup key = some route ∧ expiredRoute now key route = true) ∨
    ∃ key pending, tables.auths.lookup key = some pending ∧ expiredAuth now key pending = true

/-- When a scan is due, both tables are drained of what has run out, and the earliest deadline is
looked up again. -/
def Expires (now : Nat) (tables after : Tables) : Prop :=
  if tables.expirationDue now = false then after = tables
  else ∃ routes auths, DrainsRoutes (expiredRoute now) tables routes ∧
    DrainsAuths (expiredAuth now) routes auths ∧ after = auths.refreshExpiryDeadline

theorem exists_expires (now : Nat) (tables : Tables) : ∃ after, Expires now tables after := by
  unfold Expires
  split
  · exact ⟨tables, rfl⟩
  · obtain ⟨routes, first⟩ := Drains.exists_routes (expiredRoute now) tables
    obtain ⟨auths, second⟩ := Drains.exists_auths (expiredAuth now) routes
    exact ⟨_, routes, auths, first, second, rfl⟩

/-- The tables after everything that has run out is taken at once. -/
def expire (tables : Tables) (now : Nat) : Tables :=
  if tables.expirationDue now = false then tables
  else ((tables.takeExpiredRoutes now).2.takeExpiredAuths now).2.refreshExpiryDeadline

theorem Expires.eq_expire {now : Nat} (expires : Expires now tables after)
    (balanced : tables.Balanced) : after = tables.expire now := by
  unfold Expires at expires
  unfold expire
  split at expires
  · rename_i idle
    rw [if_pos idle, expires]
  · rename_i due
    obtain ⟨routes, auths, first, second, rfl⟩ := expires
    have routesTaken := first.eq_takeRoutes balanced
    have authsTaken := second.eq_takeAuths (routesTaken ▸ balanced.takeRoutes _)
    rw [if_neg due, authsTaken, routesTaken]
    rfl

theorem not_overdue_expire {now : Nat} (tables : Tables)
    (aware : tables.Overdue now → tables.expirationDue now = true) :
    ¬ (tables.expire now).Overdue now := by
  unfold expire
  split
  · rename_i idle
    exact fun overdue => absurd (aware overdue) (by simp [idle])
  · have entries := refreshExpiryDeadline_entries ((tables.takeExpiredRoutes now).2.takeExpiredAuths now).2
    rintro (⟨key, route, found, expired⟩ | ⟨key, pending, found, expired⟩)
    · rw [entries.1] at found
      have kept := (Table.lookup_keep_eq_some.mp found).2
      simp only [expiredRoute, decide_eq_true_eq] at expired
      simp [expired] at kept
    · rw [entries.2] at found
      have kept := (Table.lookup_keep_eq_some.mp found).2
      simp only [expiredAuth, decide_eq_true_eq] at expired
      simp [expired] at kept

end Tables

namespace GatewayWorker

theorem inflight_failRoute (worker : GatewayWorker) (message : String) (route : Route) :
    (worker.failRoute message route).inflight = worker.inflight := by
  unfold failRoute
  split
  · unfold reject replyControl
    split
    · rfl
    split
    · rfl
    · rfl
  · rfl

theorem inflight_failAuth (worker : GatewayWorker) (message : String) (pending : PendingAuth) :
    (worker.failAuth message pending).inflight = worker.inflight := by
  unfold failAuth
  split
  · rfl
  · unfold replyControl
    split
    · rfl
    split
    · rfl
    · rfl

theorem inflight_failRequests (worker : GatewayWorker) (message authMessage : String)
    {release : GatewayWorker → StreamKey → GatewayWorker}
    (released : ∀ worker key, (release worker key).inflight = worker.inflight)
    (pickRoutes : Tables → List (StreamKey × Route) × Tables)
    (pickAuths : Tables → List (StreamKey × PendingAuth) × Tables) :
    (worker.failRequests message authMessage release pickRoutes pickAuths).inflight =
      (pickAuths (pickRoutes worker.inflight).2).2 := by
  have each {Item : Type} (items : List Item) {change : GatewayWorker → Item → GatewayWorker}
      (kept : ∀ worker item, (change worker item).inflight = worker.inflight)
      (worker : GatewayWorker) : (items.foldl change worker).inflight = worker.inflight := by
    induction items generalizing worker with
    | nil => rfl
    | cons item items ih => exact (ih _).trans (kept worker item)
  unfold failRequests
  simp only
  rw [each _ fun worker entry => (released _ _).trans (inflight_failAuth _ _ _)]
  rw [each _ fun worker entry => (released _ _).trans (inflight_failRoute _ _ _)]

/-- The worker drops what the loops over batches drop. -/
theorem inflight_expireInflight (worker : GatewayWorker) (now : Nat) :
    (worker.expireInflight now).inflight = worker.inflight.expire now := by
  unfold expireInflight Tables.expire
  split
  · rfl
  · have released (worker : GatewayWorker) (key : StreamKey) :
        (worker.invalidateStream key).inflight = worker.inflight := rfl
    simp only [inflight_failRequests _ _ _ released]

end GatewayWorker

open Tables

/-- The tables, and what a reader of all operations would note beside them: the time, when each
stream last carried a frame of a request, and when it was handed an authentication. -/
structure Ledger where
  tables : Tables
  clock : Nat
  lastActive : StreamKey → Option Nat
  created : StreamKey → Option Nat

/-- The stream that a request is active on, and when. -/
def Tables.Call.activity (now : Nat) : Call → Option (StreamKey × Nat)
  | .openRoute key route true => some (key, route.lastActiveAt)
  | .touchRoute key => some (key, now)
  | _ => none

/-- The stream that an authentication begins on, and when. -/
def Tables.Call.creation : Call → Option (StreamKey × Nat)
  | .trackAuth key pending true => some (key, pending.createdAt)
  | _ => none

namespace Ledger

variable {ledger : Ledger} {key : StreamKey}

def init : Ledger where
  tables := Tables.init
  clock := 0
  lastActive := fun _ => none
  created := fun _ => none

def noted (notes : StreamKey → Option Nat) : Option (StreamKey × Nat) → StreamKey → Option Nat
  | none => notes
  | some (key, time) => Function.update notes key (some time)

def step (ledger : Ledger) (event : Nat × Call) : Ledger where
  tables := ledger.tables.perform event.1 event.2
  clock := event.1
  lastActive := noted ledger.lastActive (event.2.activity event.1)
  created := noted ledger.created event.2.creation

/-- Time does not go back. -/
def Possible (ledger : Ledger) (event : Nat × Call) : Prop :=
  ledger.clock ≤ event.1 ∧ ledger.tables.Possible event.1 event.2

/-- Every entry has the time that was noted for its stream, and the tables know its deadline. -/
structure Dated (ledger : Ledger) : Prop where
  routes : ∀ key route, ledger.tables.routes.lookup key = some route →
    ledger.lastActive key = some route.lastActiveAt ∧ route.lastActiveAt ≤ ledger.clock ∧
      ledger.tables.Alert route.lastActiveAt
  auths : ∀ key pending, ledger.tables.auths.lookup key = some pending →
    ledger.created key = some pending.createdAt ∧ ledger.tables.Alert pending.createdAt

namespace Dated

variable {after : Tables} {now : Nat}

theorem init : Ledger.init.Dated := ⟨nofun, nofun⟩

theorem retain (dated : ledger.Dated) (later : ledger.clock ≤ now)
    (retains : ledger.tables.Retains after) :
    Dated { ledger with tables := after, clock := now } where
  routes := by
    intro key route found
    obtain ⟨old, before, same⟩ := retains.routes key route found
    obtain ⟨noted, past, alert⟩ := dated.routes key old before
    rw [same] at noted past alert
    exact ⟨noted, past.trans later, alert.of_expiry retains.expiry⟩
  auths := by
    intro key pending found
    obtain ⟨old, before, same⟩ := retains.auths key pending found
    obtain ⟨noted, alert⟩ := dated.auths key old before
    rw [same] at noted alert
    exact ⟨noted, alert.of_expiry retains.expiry⟩

theorem openRoute (dated : ledger.Dated) (later : ledger.clock ≤ now) (key : StreamKey)
    {route : Route} (past : route.lastActiveAt ≤ now) :
    Dated { ledger with
      tables := ledger.tables.openRoute key route
      clock := now
      lastActive := Function.update ledger.lastActive key (some route.lastActiveAt) } where
  routes := by
    intro own held found
    simp only [openRoute_routes] at found
    obtain ⟨rfl, rfl⟩ | ⟨other, before⟩ := Table.lookup_insert_cases found
    · exact ⟨Function.update_self _ _ _, past, .noted _ _⟩
    · obtain ⟨noted, old, alert⟩ := dated.routes own held before
      exact ⟨(Function.update_of_ne other _ _).trans noted, old.trans later, alert.openRoute _ _⟩
  auths := by
    intro own pending found
    simp only [openRoute_auths] at found
    obtain ⟨noted, alert⟩ := dated.auths own pending found
    exact ⟨noted, alert.openRoute _ _⟩

theorem trackAuth (dated : ledger.Dated) (later : ledger.clock ≤ now) (key : StreamKey)
    (pending : PendingAuth) :
    Dated { ledger with
      tables := ledger.tables.trackAuth key pending
      clock := now
      created := Function.update ledger.created key (some pending.createdAt) } where
  routes := by
    intro own route found
    simp only [trackAuth_routes] at found
    obtain ⟨noted, past, alert⟩ := dated.routes own route found
    exact ⟨noted, past.trans later, alert.trackAuth _ _⟩
  auths := by
    intro own held found
    simp only [trackAuth_auths] at found
    obtain ⟨rfl, rfl⟩ | ⟨other, before⟩ := Table.lookup_insert_cases found
    · exact ⟨Function.update_self _ _ _, .noted _ _⟩
    · obtain ⟨noted, alert⟩ := dated.auths own held before
      exact ⟨(Function.update_of_ne other _ _).trans noted, alert.trackAuth _ _⟩

/-- A request that is active again runs out later. -/
theorem touchRoute (dated : ledger.Dated) (later : ledger.clock ≤ now) (key : StreamKey) :
    Dated { ledger with
      tables := ledger.tables.touchRoute key now
      clock := now
      lastActive := Function.update ledger.lastActive key (some now) } where
  routes := by
    intro own route found
    obtain ⟨rfl, old, before, rfl⟩ | ⟨other, before⟩ := Table.lookup_adjust_cases found
    · obtain ⟨-, past, alert⟩ := dated.routes own old before
      exact ⟨Function.update_self _ _ _, le_rfl, (alert.mono (past.trans later)).of_expiry rfl⟩
    · obtain ⟨noted, past, alert⟩ := dated.routes own route before
      exact ⟨(Function.update_of_ne other _ _).trans noted, past.trans later, alert.of_expiry rfl⟩
  auths := by
    intro own pending found
    obtain ⟨noted, alert⟩ := dated.auths own pending found
    exact ⟨noted, alert.of_expiry rfl⟩

theorem refreshExpiryDeadline (dated : ledger.Dated) (later : ledger.clock ≤ now) :
    Dated { ledger with tables := ledger.tables.refreshExpiryDeadline, clock := now } where
  routes := by
    intro key route found
    simp only [(refreshExpiryDeadline_entries ledger.tables).1] at found
    obtain ⟨noted, past, -⟩ := dated.routes key route found
    exact ⟨noted, past.trans later, alert_refreshed_route found⟩
  auths := by
    intro key pending found
    simp only [(refreshExpiryDeadline_entries ledger.tables).2] at found
    exact ⟨(dated.auths key pending found).1, alert_refreshed_auth found⟩

theorem step (dated : ledger.Dated) {event : Nat × Call} (possible : ledger.Possible event) :
    (ledger.step event).Dated := by
  obtain ⟨now, call⟩ := event
  obtain ⟨later, possible⟩ := possible
  cases call with
  | reserveRoute realm => exact dated.retain later .refl
  | reserveAuth realm => exact dated.retain later .refl
  | openRoute key route memory =>
      cases memory with
      | true => exact dated.openRoute later key possible.2
      | false => exact dated.retain later .refl
  | touchRoute key => exact dated.touchRoute later key
  | closeRoute key => exact dated.retain later (.closeRoute _ key)
  | suppressClientResponse session streamId =>
      exact dated.retain later (.suppressClientResponse _ session streamId)
  | trackAuth key pending memory =>
      cases memory with
      | true => exact dated.trackAuth later key pending
      | false => exact dated.retain later .refl
  | appendAuth key data => exact dated.retain later (.appendAuth _ key data)
  | takeAuth key => exact dated.retain later (.takeAuth _ key)
  | suppressAuthResponse session streamId =>
      exact dated.retain later (.suppressAuthResponse _ session streamId)
  | takeFailedRoutes transport selector room picked =>
      exact dated.retain later (.foldl .closeRoute picked _)
  | takeFailedAuths transport selector room picked =>
      exact dated.retain later (.foldl .takeAuth picked _)
  | takeExpiredRoutes room picked => exact dated.retain later (.foldl .closeRoute picked _)
  | takeExpiredAuths room picked => exact dated.retain later (.foldl .takeAuth picked _)
  | refreshExpiryDeadline => exact dated.refreshExpiryDeadline later
  | purge filter => exact dated.retain later ((Retains.takeRoutes _ _).trans (.takeAuths _ _))

end Dated

/-- Quotas and deadlines are what the entries say. -/
structure Exact (ledger : Ledger) : Prop where
  routeShares : ∀ realm, ledger.tables.routeQuota.counts realm =
    (ledger.tables.routes.select fun _ route => route.realm = realm).length
  authShares : ∀ realm, ledger.tables.authQuota.counts realm =
    (ledger.tables.auths.select fun _ pending => pending.realm = realm).length
  routeDeadlines : ∀ key route, ledger.tables.routes.lookup key = some route →
    ∃ earliest, ledger.tables.nextExpiryAt = some earliest ∧ earliest ≤ deadline route.lastActiveAt
  authDeadlines : ∀ key pending, ledger.tables.auths.lookup key = some pending →
    ∃ earliest, ledger.tables.nextExpiryAt = some earliest ∧ earliest ≤ deadline pending.createdAt
  due : ∀ now, ledger.tables.Overdue now → ledger.tables.expirationDue now = true
  expires : ∀ now, ∃ after, Expires now ledger.tables after
  expired : ∀ now after, Expires now ledger.tables after → ¬ after.Overdue now
  activity : ∀ key route, ledger.tables.routes.lookup key = some route →
    ∃ last, ledger.lastActive key = some last ∧
      ∀ now, expiredRoute now key route = true ↔ requestTimeoutUs ≤ now - last
  creation : ∀ key pending, ledger.tables.auths.lookup key = some pending →
    ∃ made, ledger.created key = some made ∧
      ∀ now, expiredAuth now key pending = true ↔ requestTimeoutUs ≤ now - made
  noRoutes : ledger.tables.routes = ∅ → ledger.tables.routeQuota = Tables.init.routeQuota
  noAuths : ledger.tables.auths = ∅ → ledger.tables.authQuota = Tables.init.authQuota

theorem Dated.due (dated : ledger.Dated) (now : Nat) (overdue : ledger.tables.Overdue now) :
    ledger.tables.expirationDue now = true := by
  obtain ⟨key, route, found, expired⟩ | ⟨key, pending, found, expired⟩ := overdue
  · exact (dated.routes key route found).2.2.due (of_decide_eq_true expired)
  · exact (dated.auths key pending found).2.due (of_decide_eq_true expired)

theorem exact (balanced : ledger.tables.Balanced) (dated : ledger.Dated) : ledger.Exact where
  routeShares := balanced.routes.counts
  authShares := balanced.auths.counts
  routeDeadlines key route found := (dated.routes key route found).2.2
  authDeadlines key pending found := (dated.auths key pending found).2
  due := dated.due
  expires now := exists_expires now ledger.tables
  expired := by
    intro now after expires
    rw [expires.eq_expire balanced]
    exact not_overdue_expire ledger.tables (dated.due now)
  activity := by
    intro key route found
    exact ⟨_, (dated.routes key route found).1, fun _ => decide_eq_true_iff⟩
  creation := by
    intro key pending found
    exact ⟨_, (dated.auths key pending found).1, fun _ => decide_eq_true_iff⟩
  noRoutes := by
    intro empty
    have holds := balanced.routes
    rw [empty] at holds
    exact Quota.eq_of_holds holds (Quota.Holds.init _ _ _) balanced.routeLimits
  noAuths := by
    intro empty
    have holds := balanced.auths
    rw [empty] at holds
    exact Quota.eq_of_holds holds (Quota.Holds.init _ _ _) balanced.authLimits

/-- After any operations, in whatever order and whatever the tables find first. -/
theorem books_are_exact {calls : List (Nat × Call)}
    (possible : Run.Meets step Possible init calls) : (Run.final step init calls).Exact := by
  have kept : (Run.final step init calls).tables.Balanced ∧ (Run.final step init calls).Dated := by
    apply @Run.invariant _ _ step Possible fun ledger => ledger.tables.Balanced ∧ ledger.Dated
    · rintro ledger event ⟨balanced, dated⟩ may
      exact ⟨perform_balanced balanced may.2, dated.step may⟩
    · exact ⟨.init, .init⟩
    · exact possible
  exact exact kept.1 kept.2

/-- A request that is active again in time, and one that is not. -/
def shortBooks : List (Nat × Call) :=
  [(10, .openRoute ⟨1, 0⟩ { target := .discard, realm := 3, lastActiveAt := 10 } true),
    (20, .trackAuth ⟨1, 4⟩
      { clientSession := ⟨0, 1⟩, clientStreamId := 0, realm := 3, createdAt := 20 } true),
    (50, .touchRoute ⟨1, 0⟩), (60, .closeRoute ⟨1, 0⟩)]

theorem books_are_exact_short : (Run.final step init shortBooks).Exact := by
  apply books_are_exact
  refine ⟨⟨by decide, by decide, by decide⟩, ⟨by decide, by decide, by decide⟩, ?_, ?_, trivial⟩
  · exact ⟨by decide, trivial⟩
  · exact ⟨by decide, trivial⟩

end Ledger

end LyuneGateway.Worker
