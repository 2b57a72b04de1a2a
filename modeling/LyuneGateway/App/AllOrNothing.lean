import LyuneGateway.App.Registrar

/-!
# All or nothing

A reload is meant to take over a whole file or none of it. The comparison comes
before the first entry is added, so a file that it refuses changes nothing. When
the memory or the slots end later, some entries have been added for good.
-/

namespace LyuneGateway.App

open Backend Foundation Protocol Worker

theorem eqlIgnoreCase_iff {name other : Bytes} :
    eqlIgnoreCase name other = true ↔ name.map toLower = other.map toLower := by
  simp [eqlIgnoreCase]

namespace GatewayConfig

/-- A file that is accepted has every name once. -/
theorem names_distinct {earlier rest : List Realm} (accepted : validateNames earlier rest = .ok ()) :
    rest.Pairwise (fun raw other => eqlIgnoreCase raw.serverName other.serverName = false) ∧
      ∀ previous ∈ earlier, ∀ raw ∈ rest,
        eqlIgnoreCase previous.serverName raw.serverName = false := by
  induction rest generalizing earlier with
  | nil => simp
  | cons realm rest ih =>
      unfold validateNames at accepted
      split at accepted
      · cases accepted
      split at accepted
      · cases accepted
      rename_i fresh
      obtain ⟨distinct, later⟩ := ih accepted
      simp only [Bool.not_eq_true, List.any_eq_false] at fresh
      refine ⟨List.pairwise_cons.mpr ⟨fun raw listed => later realm (by simp) raw listed, distinct⟩, ?_⟩
      intro previous known raw listed
      obtain rfl | listed := List.mem_cons.mp listed
      · exact fresh previous known
      · exact later previous (List.mem_append_left _ known) raw listed

/-- And every route. -/
theorem routes_distinct {config : GatewayConfig} {earlier rest : List Route}
    (accepted : config.validateRoutes earlier rest = .ok ()) :
    rest.Pairwise (fun raw other => decide (raw.scope = other.scope) = false) ∧
      ∀ previous ∈ earlier, ∀ raw ∈ rest, decide (previous.scope = raw.scope) = false := by
  induction rest generalizing earlier with
  | nil => simp
  | cons route rest ih =>
      unfold validateRoutes at accepted
      split at accepted
      · cases accepted
      split at accepted
      · cases accepted
      split at accepted
      · cases accepted
      split at accepted
      · cases accepted
      rename_i fresh
      obtain ⟨distinct, later⟩ := ih accepted
      refine ⟨List.pairwise_cons.mpr ⟨fun raw listed => later route (by simp) raw listed, distinct⟩, ?_⟩
      intro previous known raw listed
      obtain rfl | listed := List.mem_cons.mp listed
      · rw [decide_eq_false_iff_not]
        intro same
        refine fresh (List.any_eq_true.mpr ⟨previous, known, ?_⟩)
        simp only [Route.scope, ScopedRoute.mk.injEq, RouteId.mk.injEq] at same
        simp [same]
      · exact later previous (List.mem_append_left _ known) raw listed

theorem distinct_of_validate {config : GatewayConfig} (accepted : config.validate = .ok ()) :
    config.realms.Pairwise (fun raw other =>
        eqlIgnoreCase raw.serverName other.serverName = false) ∧
      config.routes.Pairwise (fun raw other => decide (raw.scope = other.scope) = false) := by
  unfold validate at accepted
  split at accepted
  · cases accepted
  split at accepted
  · cases accepted
  rename_i realms
  unfold validateRealms at realms
  split at realms
  · cases realms
  exact ⟨(names_distinct realms).1, (routes_distinct accepted).1⟩

end GatewayConfig

/-- Everything published stays where it is, in both tables. -/
def Directory.Extends (directory after : Directory) : Prop :=
  directory.realms.slab.Extends after.realms.slab ∧ directory.routes.slab.Extends after.routes.slab

/-- The states are in the order of their growth, up to the present one. -/
structure Ordered (moments : List Directory) (now : Directory) : Prop where
  pairwise : moments.Pairwise Directory.Extends
  present : ∀ moment ∈ moments, moment.Extends now

namespace Ordered

variable {moments : List Directory} {now next : Directory}

theorem store (ordered : Ordered moments now) (extends_ : now.Extends next) :
    Ordered (moments ++ [next]) next := by
  have before : ∀ moment ∈ moments, moment.Extends next := fun moment listed =>
    ⟨(ordered.present moment listed).1.trans extends_.1,
      (ordered.present moment listed).2.trans extends_.2⟩
  constructor
  · refine List.pairwise_append.mpr ⟨ordered.pairwise, List.pairwise_singleton _ _, ?_⟩
    intro moment listed other last
    rw [List.mem_singleton.mp last]
    exact before moment listed
  · intro moment listed
    rcases List.mem_append.mp listed with earlier | last
    · exact before moment earlier
    · rw [List.mem_singleton.mp last]
      exact ⟨.refl, .refl⟩

end Ordered

namespace Reloader

variable {reloader : Reloader}

theorem ordered_addRealm {moments : List Directory}
    (ordered : Ordered (moments ++ reloader.history) reloader.directory) (raw : Realm) :
    Ordered (moments ++ (reloader.addRealm raw).history) (reloader.addRealm raw).directory := by
  have grows (slab : Slab RealmEntry) (extends_ : reloader.realms.slab.Extends slab) :
      reloader.directory.Extends { reloader.directory with
        realms := { reloader.realms with slab := slab } } := ⟨extends_, .refl⟩
  have again {slab : Slab RealmEntry} (after : Slab RealmEntry) (extends_ : slab.Extends after) :
      Directory.Extends
        { reloader.directory with realms := { reloader.realms with slab := slab } }
        { reloader.directory with realms := { reloader.realms with slab := after } } :=
    ⟨extends_, .refl⟩
  have named := ordered.store (grows _ (.write
    { reloader.realms.slab.slots.getD reloader.realms.slab.len {} with sni := raw.serverName }))
  have written := named.store (again (reloader.realms.slab.write raw.entry) (.rewrite_ _ _))
  have published := written.store (again (reloader.realms.slab.push raw.entry) (.publish _))
  simpa [addRealm, RealmTable.stores, Realm.entry, List.append_assoc] using published

theorem ordered_addRoute {moments : List Directory}
    (ordered : Ordered (moments ++ reloader.history) reloader.directory) (raw : Route) :
    Ordered (moments ++ (reloader.addRoute raw).history) (reloader.addRoute raw).directory := by
  have again {slab : Slab RouteEntry} (after : Slab RouteEntry) (extends_ : slab.Extends after) :
      Directory.Extends { reloader.directory with routes := { slab := slab } }
        { reloader.directory with routes := { slab := after } } :=
    ⟨.refl, extends_⟩
  have named := ordered.store (@again reloader.routes.slab _ (.write
    { reloader.routes.slab.slots.getD reloader.routes.slab.len {} with route := raw.entry.route }))
  have written := named.store (again (reloader.routes.slab.write raw.entry) (.rewrite_ _ _))
  have published := written.store (again (reloader.routes.slab.push raw.entry) (.publish _))
  simpa [addRoute, RouteCatalog.stores, List.append_assoc] using published

theorem ordered_addRealms {moments : List Directory} (taken : List Realm)
    (ordered : Ordered (moments ++ reloader.history) reloader.directory) :
    Ordered (moments ++ (realmRegistrar.addAll reloader taken).history)
      (realmRegistrar.addAll reloader taken).directory := by
  induction taken generalizing reloader with
  | nil => exact ordered
  | cons raw taken ih => exact ih (ordered_addRealm ordered raw)

theorem ordered_addRoutes {moments : List Directory} (taken : List Route)
    (ordered : Ordered (moments ++ reloader.history) reloader.directory) :
    Ordered (moments ++ (routeRegistrar.addAll reloader taken).history)
      (routeRegistrar.addAll reloader taken).directory := by
  induction taken generalizing reloader with
  | nil => exact ordered
  | cons raw taken ih => exact ih (ordered_addRoute ordered raw)

/-- What adding realms changes, when there is room for them. -/
theorem addRealms_frame (taken : List Realm) (fits : realmRegistrar.fits reloader taken = true) :
    (realmRegistrar.addAll reloader taken).realms.entries =
        reloader.realms.entries ++ taken.map Realm.entry ∧
      (realmRegistrar.addAll reloader taken).realms.fallback = reloader.realms.fallback ∧
      (realmRegistrar.addAll reloader taken).routes = reloader.routes ∧
      (realmRegistrar.addAll reloader taken).fate = reloader.fate ∧
      (realmRegistrar.addAll reloader taken).asked = reloader.asked + 2 * taken.length := by
  induction taken generalizing reloader with
  | nil => simp [Registrar.addAll]
  | cons raw taken ih =>
      obtain ⟨⟨-, room⟩, fits⟩ := Registrar.fits_cons.mp fits
      obtain ⟨entries, fallback, routes, fate, asked⟩ := ih fits
      have first : (realmRegistrar.add reloader raw).realms.entries =
          reloader.realms.entries ++ [raw.entry] :=
        Slab.entries_push (realms_free.mp room).2 raw.entry
      refine ⟨?_, fallback, routes, fate, ?_⟩
      · rw [Registrar.addAll, List.foldl_cons]
        rw [Registrar.addAll] at entries
        rw [entries, first]
        simp
      · rw [Registrar.addAll, List.foldl_cons]
        rw [Registrar.addAll] at asked
        rw [asked, realmRegistrar.asked_add]
        simp only [realmRegistrar, List.length_cons]
        omega

theorem addRoutes_frame (taken : List Route) (fits : routeRegistrar.fits reloader taken = true) :
    (routeRegistrar.addAll reloader taken).routes.entries =
        reloader.routes.entries ++ taken.map Route.entry ∧
      (routeRegistrar.addAll reloader taken).realms = reloader.realms := by
  induction taken generalizing reloader with
  | nil => simp [Registrar.addAll]
  | cons raw taken ih =>
      obtain ⟨⟨-, room⟩, fits⟩ := Registrar.fits_cons.mp fits
      obtain ⟨entries, realms⟩ := ih fits
      have first : (routeRegistrar.add reloader raw).routes.entries =
          reloader.routes.entries ++ [raw.entry] :=
        Slab.entries_push (routes_free.mp room) raw.entry
      refine ⟨?_, realms⟩
      rw [Registrar.addAll, List.foldl_cons]
      rw [Registrar.addAll] at entries
      rw [entries, first]
      simp

end Reloader

/-- Every name and every route leads to what it led to. -/
structure Untouched (before after : Reloader) : Prop where
  realms : ∀ sni, after.realms.resolve sni = before.realms.resolve sni
  routes : ∀ route, after.routes.find route = before.routes.find route

/-- The file has been taken over, and nothing that was there has changed. -/
structure Reloaded (before : Reloader) (config : GatewayConfig) (summary : Summary)
    (after : Reloader) : Prop where
  realms : ∀ raw ∈ config.realms, after.realms.resolve (some raw.serverName) = some raw.id
  routes : ∀ raw ∈ config.routes, after.routes.find raw.scope = some raw.entry
  realmsAdded : after.realms.entries = before.realms.entries ++
    (config.realms.filter fun raw => !before.hasRealm raw).map Realm.entry
  routesAdded : after.routes.entries = before.routes.entries ++
    (config.routes.filter fun raw => !before.hasRoute raw).map Route.entry
  counted : summary.realmsAdded = (config.realms.filter fun raw => !before.hasRealm raw).length ∧
    summary.routesAdded = (config.routes.filter fun raw => !before.hasRoute raw).length
  fallback : after.realms.fallback = before.realms.fallback
  realmsKept : ∀ name realm, before.realms.findRealm name = some realm →
    after.realms.findRealm name = some realm
  routesKept : ∀ route entry, before.routes.find route = some entry →
    after.routes.find route = some entry
  unnamed : ∀ name, (∀ raw ∈ config.realms, eqlIgnoreCase raw.serverName name = false) →
    after.realms.findRealm name = before.realms.findRealm name
  again : after.apply config = (.ok {}, after)

/-- A thread that reads the lengths at one moment, and a slot below them at any later one, reads
what has its place in the final tables. -/
def ReadersAgree (moments : List Directory) (final : Directory) : Prop :=
  ∀ earlier loaded later, moments = earlier ++ loaded :: later → ∀ seen ∈ loaded :: later, ∀ i,
    (i < loaded.realms.slab.len → ∃ entry, seen.realms.slab.slots[i]? = some entry ∧
      final.realms.entries[i]? = some entry) ∧
    (i < loaded.routes.slab.len → ∃ entry, seen.routes.slab.slots[i]? = some entry ∧
      final.routes.entries[i]? = some entry)

/-- A reload that fails has changed nothing, one that succeeds has taken over the file, and who
reads meanwhile reads a part of what is there in the end. -/
def AllOrNothing (before : Reloader) (config : GatewayConfig) : Prop :=
  (match before.apply config with
    | (.error _, after) => Untouched before after
    | (.ok summary, after) => Reloaded before config summary after) ∧
  ReadersAgree (before.directory :: (before.apply config).2.history)
    (before.apply config).2.directory

/-- The file is refused, or there are slots and memory for everything that is missing, or there is
neither slot nor memory for the first of it. -/
def wholeOrNone (before : Reloader) (config : GatewayConfig) : Bool :=
  let realms := config.realms.filter fun raw => !before.hasRealm raw
  let routes := config.routes.filter fun raw => !before.hasRoute raw
  !(before.checkRealms config).isOk || !(before.checkRoutes config).isOk ||
    (realms.length ≤ before.freeRealms && routes.length ≤ before.freeRoutes &&
      before.grants (2 * realms.length +
        (routes.map fun raw => 2 + 2 * raw.endpoints.length).sum)) ||
    (match realms with
      | _ :: _ => !(before.grants 2 && decide (0 < before.freeRealms))
      | [] =>
          match routes with
          | raw :: _ => !(before.grants (2 + 2 * raw.endpoints.length) &&
              decide (0 < before.freeRoutes))
          | [] => false)

theorem AllOrNothing.untouched {before : Reloader} {config : GatewayConfig}
    (whole : AllOrNothing before config) (failed : (before.apply config).1.isOk = false) :
    Untouched before (before.apply config).2 := by
  have outcome := whole.1
  split at outcome
  · rename_i applied
    rw [applied]
    exact outcome
  · rename_i applied
    rw [applied] at failed
    cases failed

theorem Ordered.readersAgree {moments : List Directory} {now : Directory}
    (ordered : Ordered moments now) : ReadersAgree moments now := by
  rintro earlier loaded later rfl seen listed i
  have grows : loaded.Extends seen := by
    obtain rfl | after := List.mem_cons.mp listed
    · exact ⟨.refl, .refl⟩
    · exact (List.pairwise_cons.mp (List.pairwise_append.mp ordered.pairwise).2.1).1 seen after
  have ends : loaded.Extends now := ordered.present loaded (by simp)
  exact ⟨grows.1.slot ends.1, grows.2.slot ends.2⟩

theorem find?_of_pairwise {α : Type*} {same : α → α → Bool} {items : List α} {raw : α}
    (own : same raw raw = true) (distinct : items.Pairwise fun one other => same one other = false)
    (listed : raw ∈ items) : items.find? (fun other => same other raw) = some raw := by
  induction items with
  | nil => cases listed
  | cons item items ih =>
      obtain ⟨others, distinct⟩ := List.pairwise_cons.mp distinct
      obtain rfl | listed := List.mem_cons.mp listed
      · simp [own]
      · simp [others raw listed, ih distinct listed]

theorem findRealm_append {table after : RealmTable} {more : List Realm}
    (entries : after.entries = table.entries ++ more.map Realm.entry) (name : Bytes) :
    after.findRealm name = (table.findRealm name).or
      ((more.find? fun raw => eqlIgnoreCase raw.serverName name).map Realm.id) := by
  have found : (more.map Realm.entry).find? (fun entry => eqlIgnoreCase entry.sni name) =
      (more.find? fun raw => eqlIgnoreCase raw.serverName name).map Realm.entry := by
    rw [List.find?_map]
    rfl
  rw [RealmTable.findRealm, entries, List.find?_append, found, Option.map_or, Option.map_map]
  rfl

theorem find_append {catalog after : RouteCatalog} {more : List Route}
    (entries : after.entries = catalog.entries ++ more.map Route.entry) (route : ScopedRoute) :
    after.find route = (catalog.find route).or
      ((more.find? fun raw => raw.scope = route).map Route.entry) := by
  have found : (more.map Route.entry).find? (fun entry => decide (entry.route = route)) =
      (more.find? fun raw => raw.scope = route).map Route.entry := by
    rw [List.find?_map]
    rfl
  rw [RouteCatalog.find, entries, List.find?_append, found]
  rfl

namespace Reloader

variable {before after : Reloader} {config : GatewayConfig}

/-- What the comparison of the realms has found. -/
theorem checkRealms_eq_ok : before.checkRealms config = .ok () ↔
    (∀ raw ∈ config.realms, ∀ existing, before.findRealm raw.serverName = some existing →
      existing = raw.id) ∧
    ∀ entry ∈ before.realms.entries, ∃ raw ∈ config.realms,
      eqlIgnoreCase entry.sni raw.serverName = true := by
  unfold checkRealms
  constructor
  · intro passed
    split at passed
    · cases passed
    rename_i unchanged
    split at passed
    · cases passed
    rename_i kept
    simp only [List.any_eq_true, Option.any_eq_true, decide_eq_true_eq, not_exists, not_and,
      ne_eq, not_not, Bool.not_eq_true', Bool.not_eq_false] at unchanged kept
    exact ⟨fun raw listed existing found => unchanged raw listed existing found, kept⟩
  · rintro ⟨unchanged, kept⟩
    rw [if_neg, if_neg]
    · simpa using kept
    · simp only [List.any_eq_true, Option.any_eq_true, decide_eq_true_eq, not_exists, not_and,
        ne_eq, not_not]
      exact fun raw listed existing found => unchanged raw listed existing found

theorem checkRoutes_eq_ok : before.checkRoutes config = .ok () ↔
    (∀ raw ∈ config.routes, ∀ existing, before.routes.find raw.scope = some existing →
      existing.endpoints = raw.endpoints) ∧
    ∀ entry ∈ before.routes.entries, ∃ raw ∈ config.routes, entry.route = raw.scope := by
  unfold checkRoutes
  constructor
  · intro passed
    split at passed
    · cases passed
    rename_i unchanged
    split at passed
    · cases passed
    rename_i kept
    simp only [List.any_eq_true, Option.any_eq_true, decide_eq_true_eq, not_exists, not_and,
      ne_eq, not_not, Bool.not_eq_true', Bool.not_eq_false] at unchanged kept
    exact ⟨fun raw listed existing found => unchanged raw listed existing found, kept⟩
  · rintro ⟨unchanged, kept⟩
    rw [if_neg, if_neg]
    · simpa using kept
    · simp only [List.any_eq_true, Option.any_eq_true, decide_eq_true_eq, not_exists, not_and,
        ne_eq, not_not]
      exact fun raw listed existing found => unchanged raw listed existing found

theorem mem_missing_realms {raw : Realm} :
    raw ∈ config.realms.filter (fun raw => !before.hasRealm raw) ↔
      raw ∈ config.realms ∧ before.findRealm raw.serverName = none := by
  simp [hasRealm]

theorem mem_missing_routes {raw : Route} :
    raw ∈ config.routes.filter (fun raw => !before.hasRoute raw) ↔
      raw ∈ config.routes ∧ before.routes.find raw.scope = none := by
  simp [hasRoute]

/-- Once everything that was missing has been added, every entry of the file is there. -/
theorem findRealm_added (accepted : config.validate = .ok ())
    (checked : before.checkRealms config = .ok ())
    (entries : after.realms.entries = before.realms.entries ++
      (config.realms.filter fun raw => !before.hasRealm raw).map Realm.entry) {raw : Realm}
    (listed : raw ∈ config.realms) : after.findRealm raw.serverName = some raw.id := by
  have distinct := (GatewayConfig.distinct_of_validate accepted).1
  rw [findRealm, findRealm_append entries]
  cases known : before.findRealm raw.serverName with
  | some existing =>
      rw [show before.realms.findRealm raw.serverName = some existing from known, Option.some_or]
      exact congrArg some ((checkRealms_eq_ok.mp checked).1 raw listed existing known)
  | none =>
      rw [show before.realms.findRealm raw.serverName = none from known, Option.none_or]
      have found := @find?_of_pairwise _
        (fun one other : Realm => eqlIgnoreCase one.serverName other.serverName) _ raw
        (by simp [eqlIgnoreCase]) (distinct.filter fun raw => !before.hasRealm raw)
        (mem_missing_realms.mpr ⟨listed, known⟩)
      rw [found]
      rfl

theorem find_added (accepted : config.validate = .ok ())
    (checked : before.checkRoutes config = .ok ())
    (entries : after.routes.entries = before.routes.entries ++
      (config.routes.filter fun raw => !before.hasRoute raw).map Route.entry) {raw : Route}
    (listed : raw ∈ config.routes) : after.routes.find raw.scope = some raw.entry := by
  have distinct := (GatewayConfig.distinct_of_validate accepted).2
  rw [find_append entries]
  cases known : before.routes.find raw.scope with
  | some existing =>
      have endpoints := (checkRoutes_eq_ok.mp checked).1 raw listed existing known
      have route := List.find?_some known
      simp only [decide_eq_true_eq] at route
      rw [Option.some_or, ← show existing = raw.entry from by
        cases existing
        simp only at endpoints route
        rw [Route.entry, endpoints, route]]
  | none =>
      have found := @find?_of_pairwise _
        (fun one other : Route => decide (one.scope = other.scope)) _ raw
        (by simp) (distinct.filter fun raw => !before.hasRoute raw)
        (mem_missing_routes.mpr ⟨listed, known⟩)
      rw [Option.none_or, found]
      rfl

/-- A second reload of the same file finds nothing to do. -/
theorem apply_again (accepted : config.validate = .ok ())
    (realmsChecked : before.checkRealms config = .ok ())
    (routesChecked : before.checkRoutes config = .ok ())
    (realms : after.realms.entries = before.realms.entries ++
      (config.realms.filter fun raw => !before.hasRealm raw).map Realm.entry)
    (routes : after.routes.entries = before.routes.entries ++
      (config.routes.filter fun raw => !before.hasRoute raw).map Route.entry) :
    after.apply config = (.ok {}, after) := by
  have realmsThere := fun raw listed => @findRealm_added before after config accepted realmsChecked
    realms raw listed
  have routesThere := fun raw listed => @find_added before after config accepted routesChecked
    routes raw listed
  have realmsPass : after.checkRealms config = .ok () := by
    refine checkRealms_eq_ok.mpr ⟨fun raw listed existing found => ?_, fun entry listed => ?_⟩
    · rw [realmsThere raw listed] at found
      exact (Option.some.inj found).symm
    · rw [realms] at listed
      rcases List.mem_append.mp listed with old | new
      · exact (checkRealms_eq_ok.mp realmsChecked).2 entry old
      · obtain ⟨raw, missing, rfl⟩ := List.mem_map.mp new
        exact ⟨raw, (mem_missing_realms.mp missing).1, by simp [Realm.entry, eqlIgnoreCase]⟩
  have routesPass : after.checkRoutes config = .ok () := by
    refine checkRoutes_eq_ok.mpr ⟨fun raw listed existing found => ?_, fun entry listed => ?_⟩
    · rw [routesThere raw listed] at found
      rw [← Option.some.inj found]
      rfl
    · rw [routes] at listed
      rcases List.mem_append.mp listed with old | new
      · exact (checkRoutes_eq_ok.mp routesChecked).2 entry old
      · obtain ⟨raw, missing, rfl⟩ := List.mem_map.mp new
        exact ⟨raw, (mem_missing_routes.mp missing).1, rfl⟩
  have idle {Item : Type} (present : Reloader → Item → Bool)
      (register : Reloader → Item → Except ReloadError Unit × Reloader) (items : List Item)
      (all : ∀ raw ∈ items, present after raw = true) :
      appendMissing present register items 0 after = (.ok 0, after) := by
    induction items with
    | nil => rfl
    | cons raw items ih =>
        simp only [appendMissing, all raw (by simp), if_true]
        exact ih fun other listed => all other (by simp [listed])
  rw [apply, realmsPass, routesPass]
  simp only
  rw [idle hasRealm registerRealm config.realms fun raw listed => by
    simp [hasRealm, realmsThere raw listed]]
  simp only
  rw [idle hasRoute registerRoute config.routes fun raw listed => by
    simp [hasRoute, routesThere raw listed]]

theorem reloaded (accepted : config.validate = .ok ())
    (realmsChecked : before.checkRealms config = .ok ())
    (routesChecked : before.checkRoutes config = .ok ())
    (realms : after.realms.entries = before.realms.entries ++
      (config.realms.filter fun raw => !before.hasRealm raw).map Realm.entry)
    (routes : after.routes.entries = before.routes.entries ++
      (config.routes.filter fun raw => !before.hasRoute raw).map Route.entry)
    (fallback : after.realms.fallback = before.realms.fallback) :
    Reloaded before config {
      realmsAdded := (config.realms.filter fun raw => !before.hasRealm raw).length
      routesAdded := (config.routes.filter fun raw => !before.hasRoute raw).length } after where
  realms raw listed := by
    have found : after.realms.findRealm raw.serverName = some raw.id :=
      findRealm_added accepted realmsChecked realms listed
    simp [RealmTable.resolve, found]
  routes raw listed := find_added accepted routesChecked routes listed
  realmsAdded := realms
  routesAdded := routes
  counted := ⟨rfl, rfl⟩
  fallback := fallback
  realmsKept name realm known := by rw [findRealm_append realms, known, Option.some_or]
  routesKept route entry known := by rw [find_append routes, known, Option.some_or]
  unnamed name others := by
    have absent : (config.realms.filter fun raw => !before.hasRealm raw).find? (fun raw =>
        eqlIgnoreCase raw.serverName name) = none := by
      refine List.find?_eq_none.mpr fun raw listed => ?_
      simp [others raw (List.mem_of_mem_filter listed)]
    rw [findRealm_append realms, absent, Option.map_none, Option.or_none]
  again := apply_again accepted realmsChecked routesChecked realms routes

/-- An entry that was added leads somewhere, where there was nothing. -/
theorem untouched_iff_realms {taken : List Realm}
    (part : ∀ raw ∈ taken, before.findRealm raw.serverName = none)
    (closed : taken ≠ [] → before.realms.fallback = none)
    (entries : after.realms.entries = before.realms.entries ++ taken.map Realm.entry)
    (fallback : after.realms.fallback = before.realms.fallback) :
    (∀ sni, after.realms.resolve sni = before.realms.resolve sni) ↔ taken = [] := by
  constructor
  · intro same
    cases taken with
    | nil => rfl
    | cons raw taken =>
        have changed := same (some raw.serverName)
        have unknown : before.realms.findRealm raw.serverName = none := part raw (by simp)
        have named : eqlIgnoreCase raw.serverName raw.serverName = true := by simp [eqlIgnoreCase]
        simp only [RealmTable.resolve, findRealm_append entries, unknown, fallback,
          closed (by simp)] at changed
        simp [named] at changed
  · rintro rfl sni
    have same : after.realms.entries = before.realms.entries := by simpa using entries
    cases sni with
    | none => exact fallback
    | some name => simp only [RealmTable.resolve, RealmTable.findRealm, same, fallback]

theorem untouched_iff_routes {taken : List Route}
    (part : ∀ raw ∈ taken, before.routes.find raw.scope = none)
    (entries : after.routes.entries = before.routes.entries ++ taken.map Route.entry) :
    (∀ route, after.routes.find route = before.routes.find route) ↔ taken = [] := by
  constructor
  · intro same
    cases taken with
    | nil => rfl
    | cons raw taken =>
        have changed := same raw.scope
        rw [find_append entries, part raw (by simp)] at changed
        simp at changed
  · rintro rfl route
    have same : after.routes.entries = before.routes.entries := by simpa using entries
    rw [RouteCatalog.find, same]
    rfl

theorem fallback_of_fits {items : List Realm} (fits : realmRegistrar.fits before items = true)
    (some_ : items ≠ []) : before.realms.fallback = none := by
  cases items with
  | nil => exact absurd rfl some_
  | cons raw items => exact (realms_free.mp (Registrar.fits_cons.mp fits).1.2).1

/-- The outcome of a reload that both comparisons let pass. -/
theorem apply_of_checked (realmsChecked : before.checkRealms config = .ok ())
    (routesChecked : before.checkRoutes config = .ok ()) :
    before.apply config =
      match appendMissing hasRealm registerRealm config.realms 0 before with
      | (.error error, reloader) => (.error error, reloader)
      | (.ok realmsAdded, reloader) =>
          match appendMissing hasRoute registerRoute config.routes 0 reloader with
          | (.error error, reloader) => (.error error, reloader)
          | (.ok routesAdded, reloader) =>
              (.ok { realmsAdded := realmsAdded, routesAdded := routesAdded }, reloader) := by
  unfold apply
  generalize before.checkRealms config = realms at realmsChecked ⊢
  generalize before.checkRoutes config = routes at routesChecked ⊢
  subst realmsChecked routesChecked
  rfl

/-- What happens when the realms do not fit. -/
theorem realms_do_not_fit (accepted : config.validate = .ok ())
    (realmsChecked : before.checkRealms config = .ok ())
    (routesChecked : before.checkRoutes config = .ok ())
    (fits : realmRegistrar.fits before (realmRegistrar.missing before config.realms) = false) :
    ∃ error after, before.apply config = (.error error, after) ∧
      (Untouched before after ↔
        realmRegistrar.refusesFirst before (realmRegistrar.missing before config.realms) = true) ∧
      ∀ moments, Ordered (moments ++ before.history) before.directory →
        Ordered (moments ++ after.history) after.directory := by
  obtain ⟨error, after, taken, fails, part, fitted, directory, history, refuses⟩ :=
    Registrar.appendMissing_of_not_fits
      (GatewayConfig.distinct_of_validate accepted).1 0 fits
  obtain ⟨entries, fallback, routes, -, -⟩ := addRealms_frame taken fitted
  have applied : before.apply config = (.error error, after) := by
    rw [apply_of_checked realmsChecked routesChecked]
    rw [show appendMissing hasRealm registerRealm config.realms 0 before = _ from fails]
  have unknown : ∀ raw ∈ taken, before.findRealm raw.serverName = none := fun raw listed =>
    (mem_missing_realms.mp (part.subset listed)).2
  have same : after.realms = (realmRegistrar.addAll before taken).realms :=
    congrArg Directory.realms directory
  refine ⟨error, after, applied, ?_, fun moments ordered => ?_⟩
  · rw [← refuses]
    rw [← same] at entries fallback
    have realms := untouched_iff_realms unknown (fallback_of_fits fitted) entries fallback
    refine ⟨fun untouched => realms.mp untouched.realms, fun none_ => ⟨realms.mpr none_, ?_⟩⟩
    intro route
    rw [show after.routes = before.routes from
      (congrArg Directory.routes directory).trans routes]
  · rw [history, directory]
    exact ordered_addRealms taken ordered

/-- Adding realms leaves the slots for routes as they are. -/
theorem routes_fit_iff {taken : List Realm} (fits : realmRegistrar.fits before taken = true)
    (items : List Route) :
    routeRegistrar.fits (realmRegistrar.addAll before taken) items =
      ((before.spend (2 * taken.length)).grants (routeRegistrar.cost_ items) &&
        decide (items.length ≤ before.freeRoutes)) := by
  obtain ⟨-, -, routes, fate, asked⟩ := addRealms_frame taken fits
  have free : (realmRegistrar.addAll before taken).freeRoutes = before.freeRoutes := by
    rw [freeRoutes, routes, freeRoutes]
  have grants (count : Nat) : (realmRegistrar.addAll before taken).grants count =
      (before.spend (2 * taken.length)).grants count := by
    simp only [Reloader.grants, fate, asked, spend]
  rw [Registrar.fits, grants]
  exact congrArg _ (by rw [show routeRegistrar.free _ = _ from free])

theorem missing_routes_addRealms {taken : List Realm}
    (fits : realmRegistrar.fits before taken = true) (items : List Route) :
    routeRegistrar.missing (realmRegistrar.addAll before taken) items =
      routeRegistrar.missing before items := by
  obtain ⟨-, -, routes, -, -⟩ := addRealms_frame taken fits
  apply List.filter_congr
  intro raw _
  simp only [routeRegistrar, hasRoute, routes]

/-- What happens when the realms fit and the routes do not. -/
theorem routes_do_not_fit (accepted : config.validate = .ok ())
    (realmsChecked : before.checkRealms config = .ok ())
    (routesChecked : before.checkRoutes config = .ok ())
    (fits : realmRegistrar.fits before (realmRegistrar.missing before config.realms) = true)
    (notFits : routeRegistrar.fits (realmRegistrar.addAll before
      (realmRegistrar.missing before config.realms))
      (routeRegistrar.missing before config.routes) = false) :
    ∃ error after, before.apply config = (.error error, after) ∧
      (Untouched before after ↔ realmRegistrar.missing before config.realms = [] ∧
        routeRegistrar.refusesFirst before (routeRegistrar.missing before config.routes) = true) ∧
      ∀ moments, Ordered (moments ++ before.history) before.directory →
        Ordered (moments ++ after.history) after.directory := by
  obtain ⟨realmsDistinct, routesDistinct⟩ := GatewayConfig.distinct_of_validate accepted
  have added := Registrar.appendMissing_of_fits realmsDistinct 0 fits
  obtain ⟨realms, fallback, routes, -, -⟩ := addRealms_frame _ fits
  rw [← missing_routes_addRealms fits] at notFits
  obtain ⟨error, after, taken, fails, part, fitted, directory, history, refuses⟩ :=
    Registrar.appendMissing_of_not_fits routesDistinct 0 notFits
  obtain ⟨entries, unchanged⟩ := addRoutes_frame taken fitted
  have applied : before.apply config = (.error error, after) := by
    rw [apply_of_checked realmsChecked routesChecked]
    rw [show appendMissing hasRealm registerRealm config.realms 0 before = _ from added]
    simp only
    rw [show appendMissing hasRoute registerRoute config.routes 0 _ = _ from fails]
  have sameRealms := (congrArg Directory.realms directory).trans unchanged
  have sameRoutes : after.routes = (routeRegistrar.addAll (realmRegistrar.addAll before
      (realmRegistrar.missing before config.realms)) taken).routes :=
    congrArg Directory.routes directory
  refine ⟨error, after, applied, ?_, fun moments ordered => ?_⟩
  · rw [missing_routes_addRealms fits] at part refuses
    have unknown : ∀ raw ∈ taken, before.routes.find raw.scope = none := fun raw listed =>
      (mem_missing_routes.mp (part.subset listed)).2
    have untouchedRealms := @untouched_iff_realms before after
      (realmRegistrar.missing before config.realms)
      (fun raw listed => (mem_missing_realms.mp listed).2) (fallback_of_fits fits)
      (by rw [← realms]; exact congrArg RealmTable.entries sameRealms)
      (by rw [← fallback]; exact congrArg RealmTable.fallback sameRealms)
    rw [← sameRoutes, routes] at entries
    have untouchedRoutes := untouched_iff_routes unknown entries
    constructor
    · intro untouched
      have noRealms := untouchedRealms.mp untouched.realms
      refine ⟨noRealms, ?_⟩
      have none_ := refuses.mp (untouchedRoutes.mp untouched.routes)
      rw [noRealms] at none_
      exact none_
    · rintro ⟨noRealms, refusesFirst⟩
      refine ⟨untouchedRealms.mpr noRealms, untouchedRoutes.mpr (refuses.mpr ?_)⟩
      rw [noRealms]
      exact refusesFirst
  · rw [history, directory]
    exact ordered_addRoutes taken (ordered_addRealms _ ordered)

/-- What happens when everything fits. -/
theorem everything_fits (accepted : config.validate = .ok ())
    (realmsChecked : before.checkRealms config = .ok ())
    (routesChecked : before.checkRoutes config = .ok ())
    (fits : realmRegistrar.fits before (realmRegistrar.missing before config.realms) = true)
    (routesFit : routeRegistrar.fits (realmRegistrar.addAll before
      (realmRegistrar.missing before config.realms))
      (routeRegistrar.missing before config.routes) = true) :
    ∃ summary after, before.apply config = (.ok summary, after) ∧
      Reloaded before config summary after ∧
      ∀ moments, Ordered (moments ++ before.history) before.directory →
        Ordered (moments ++ after.history) after.directory := by
  obtain ⟨realmsDistinct, routesDistinct⟩ := GatewayConfig.distinct_of_validate accepted
  have added := Registrar.appendMissing_of_fits realmsDistinct 0 fits
  obtain ⟨realms, fallback, routes, -, -⟩ := addRealms_frame _ fits
  rw [← missing_routes_addRealms fits] at routesFit
  have routesAdded := Registrar.appendMissing_of_fits routesDistinct 0 routesFit
  rw [missing_routes_addRealms fits] at routesAdded routesFit
  obtain ⟨entries, unchanged⟩ := addRoutes_frame _ routesFit
  rw [routes] at entries
  have applied := apply_of_checked realmsChecked routesChecked
  rw [show appendMissing hasRealm registerRealm config.realms 0 before = _ from added] at applied
  simp only at applied
  rw [show appendMissing hasRoute registerRoute config.routes 0 _ = _ from routesAdded] at applied
  simp only [Nat.zero_add] at applied
  refine ⟨_, _, applied, ?_, fun moments ordered => ?_⟩
  · refine reloaded accepted realmsChecked routesChecked ?_ entries ?_
    · rw [unchanged]
      exact realms
    · rw [unchanged]
      exact fallback
  · exact ordered_addRoutes _ (ordered_addRealms _ ordered)

theorem wholeOrNone_of_refused (refused : before.checkRealms config ≠ .ok () ∨
    before.checkRoutes config ≠ .ok ()) : wholeOrNone before config = true := by
  have failed {check : Except ReloadError Unit} (fails : check ≠ .ok ()) : check.isOk = false := by
    cases check with
    | error => rfl
    | ok => exact absurd rfl fails
  unfold wholeOrNone
  obtain realms | routes := refused
  · simp [failed realms]
  · simp [failed routes]

/-- The condition, once the comparison has let the file pass. -/
theorem wholeOrNone_of_checked (realmsChecked : before.checkRealms config = .ok ())
    (routesChecked : before.checkRoutes config = .ok ()) :
    wholeOrNone before config = true ↔
      (realmRegistrar.fits before (realmRegistrar.missing before config.realms) = true ∧
        routeRegistrar.fits (realmRegistrar.addAll before
          (realmRegistrar.missing before config.realms))
          (routeRegistrar.missing before config.routes) = true) ∨
      (match realmRegistrar.missing before config.realms with
        | [] => routeRegistrar.refusesFirst before
            (routeRegistrar.missing before config.routes) = true
        | realms => realmRegistrar.refusesFirst before realms = true) := by
  have cost : realmRegistrar.cost_ (realmRegistrar.missing before config.realms) =
      2 * (realmRegistrar.missing before config.realms).length := by
    simp [Registrar.cost_, realmRegistrar, Nat.mul_comm]
  have all : (decide ((realmRegistrar.missing before config.realms).length ≤ before.freeRealms) &&
      decide ((routeRegistrar.missing before config.routes).length ≤ before.freeRoutes) &&
      before.grants (2 * (realmRegistrar.missing before config.realms).length +
        routeRegistrar.cost_ (routeRegistrar.missing before config.routes))) = true ↔
      realmRegistrar.fits before (realmRegistrar.missing before config.realms) = true ∧
        routeRegistrar.fits (realmRegistrar.addAll before
          (realmRegistrar.missing before config.realms))
          (routeRegistrar.missing before config.routes) = true := by
    rw [Reloader.grants_add]
    constructor
    · intro holds
      simp only [Bool.and_eq_true, decide_eq_true_eq] at holds
      have fits : realmRegistrar.fits before (realmRegistrar.missing before config.realms) = true := by
        rw [Registrar.fits, cost]
        rw [holds.2.1, Bool.true_and, decide_eq_true_eq]
        exact holds.1.1
      refine ⟨fits, ?_⟩
      rw [routes_fit_iff fits]
      simp [holds.2.2, holds.1.2]
    · rintro ⟨fits, routesFit⟩
      rw [routes_fit_iff fits] at routesFit
      rw [Registrar.fits, cost] at fits
      simp only [Bool.and_eq_true, decide_eq_true_eq] at fits routesFit ⊢
      exact ⟨⟨fits.2, routesFit.2⟩, fits.1, routesFit.1⟩
  rw [← all]
  unfold wholeOrNone
  simp only [realmsChecked, routesChecked, Except.isOk, Except.toBool, Bool.not_true,
    Bool.false_or, Bool.or_eq_true]
  refine or_congr Iff.rfl ?_
  change (match realmRegistrar.missing before config.realms with
    | _ :: _ => _ | [] => match routeRegistrar.missing before config.routes with
      | raw :: _ => _ | [] => _) = true ↔ _
  cases realmRegistrar.missing before config.realms with
  | cons raw realms => rfl
  | nil => cases routeRegistrar.missing before config.routes <;> rfl

theorem all_or_nothing_iff_of_accepted (accepted : config.validate = .ok ())
    (fresh : before.history = []) : AllOrNothing before config ↔ wholeOrNone before config = true := by
  have started : Ordered ([before.directory] ++ before.history) before.directory := by
    rw [fresh]
    exact ⟨List.pairwise_singleton _ _, fun moment listed => by
      rw [List.mem_singleton.mp listed]
      exact ⟨.refl, .refl⟩⟩
  have refusal (error : ReloadError) (applied : before.apply config = (.error error, before)) :
      AllOrNothing before config := by
    rw [AllOrNothing, applied]
    exact ⟨⟨fun _ => rfl, fun _ => rfl⟩, started.readersAgree⟩
  cases realmsChecked : before.checkRealms config with
  | error error =>
      refine iff_of_true (refusal error ?_) (wholeOrNone_of_refused (.inl (by simp [realmsChecked])))
      rw [apply, realmsChecked]
  | ok =>
  cases routesChecked : before.checkRoutes config with
  | error error =>
      refine iff_of_true (refusal error ?_) (wholeOrNone_of_refused (.inr (by simp [routesChecked])))
      rw [apply, realmsChecked, routesChecked]
  | ok =>
  rw [wholeOrNone_of_checked realmsChecked routesChecked]
  cases fits : realmRegistrar.fits before (realmRegistrar.missing before config.realms) with
  | false =>
      obtain ⟨error, after, applied, untouched, ordered⟩ :=
        realms_do_not_fit accepted realmsChecked routesChecked fits
      have reads : ReadersAgree (before.directory :: after.history) after.directory :=
        (ordered [before.directory] started).readersAgree
      rw [AllOrNothing, applied]
      simp only [untouched, Bool.false_eq_true, false_and, false_or]
      rw [and_iff_left reads]
      cases missing : realmRegistrar.missing before config.realms with
      | nil =>
          rw [missing, Registrar.fits_nil] at fits
          cases fits
      | cons => rfl
  | true =>
  cases routesFit : routeRegistrar.fits (realmRegistrar.addAll before
      (realmRegistrar.missing before config.realms)) (routeRegistrar.missing before config.routes) with
  | false =>
      obtain ⟨error, after, applied, untouched, ordered⟩ :=
        routes_do_not_fit accepted realmsChecked routesChecked fits routesFit
      have reads : ReadersAgree (before.directory :: after.history) after.directory :=
        (ordered [before.directory] started).readersAgree
      rw [AllOrNothing, applied]
      simp only [untouched, Bool.false_eq_true, and_false, false_or]
      rw [and_iff_left reads]
      cases missing : realmRegistrar.missing before config.realms with
      | nil => simp
      | cons raw realms =>
          rw [missing] at fits
          obtain ⟨takes, -⟩ := Registrar.fits_cons.mp fits
          simp [Registrar.refusesFirst, takes]
  | true =>
      obtain ⟨summary, after, applied, taken, ordered⟩ :=
        everything_fits accepted realmsChecked routesChecked fits routesFit
      rw [AllOrNothing, applied]
      exact iff_of_true ⟨taken, (ordered [before.directory] started).readersAgree⟩
        (.inl ⟨rfl, rfl⟩)

/-- Whatever the tables hold, wherever the memory ends, and whatever the file adds. -/
theorem reload_is_all_or_nothing_iff (directory : Directory) (fate : Nat → Bool)
    (config : GatewayConfig) (accepted : config.validate = .ok ()) :
    AllOrNothing { directory := directory, fate := fate } config ↔
      wholeOrNone { directory := directory, fate := fate } config = true :=
  all_or_nothing_iff_of_accepted accepted rfl

/-- One realm is registered, and there is a slot for one more. -/
def almostFull : Directory where
  realms := {
    slab := { slots := [{ sni := [97], realm := 1 }, {}], len := 1, fits := by decide }
    fallback := none }
  routes := { slab := { slots := [{}], len := 0, fits := by decide } }

/-- A file with some realms and one route. -/
def fileOf (names : List Bytes) : GatewayConfig where
  realms := names.map fun name => { serverName := name, id := 1 }
  routes := [{ realm := 1, group := 1, endpoints := [{ host := "backend", port := 9000 }] }]

theorem reload_is_all_or_nothing_one_more : AllOrNothing { directory := almostFull }
    (fileOf [[97], [98]]) ↔ wholeOrNone { directory := almostFull } (fileOf [[97], [98]]) = true :=
  reload_is_all_or_nothing_iff almostFull _ (fileOf [[97], [98]]) (by decide +kernel)

/-- A file that adds two realms fails, with the first of them added. -/
theorem reload_stops_midway :
    ¬ ∀ (directory : Directory) (fate : Nat → Bool) (config : GatewayConfig),
      config.validate = .ok () → AllOrNothing { directory := directory, fate := fate } config := by
  intro all
  have untouched : Untouched { directory := almostFull }
      (({ directory := almostFull } : Reloader).apply (fileOf [[97], [98], [99]])).2 :=
    (all almostFull _ (fileOf [[97], [98], [99]]) (by decide +kernel)).untouched
      (by decide +kernel)
  exact absurd (untouched.realms (some [98])) (by decide +kernel)

end Reloader

end LyuneGateway.App
