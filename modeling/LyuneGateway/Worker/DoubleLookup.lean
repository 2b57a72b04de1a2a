import LyuneGateway.Worker.Calm

/-!
# Finding a destination while the cluster changes

For a while after a change of the cluster a destination is looked for under two
views: the present one and the one from before the change. More changes may
follow in that time, and a connection may have been admitted under any of them.
-/

namespace LyuneGateway.Worker

open Foundation Io Protocol Session

/-- Marking places does not unmark a node. -/
theorem RouteSet.nodePending_mark {routes : RouteSet} {view : Placement.View} {home : Location}
    {nodeId : Nat} (marked : routes.nodePending nodeId = true) :
    (routes.mark view home).nodePending nodeId = true := by
  unfold mark
  split
  · split
    · exact marked
    split
    · simp only [Function.update_apply]
      split
      · rfl
      · exact marked
    · exact marked
  · split <;> exact marked

theorem RouteSet.localOnly_mark {routes : RouteSet} {view : Placement.View} {home : Location} :
    (routes.mark view home).localOnly = routes.localOnly := by
  unfold mark
  split
  · split
    · rfl
    split <;> rfl
  · split <;> rfl

namespace RouteSet

variable {routes : RouteSet} {view : Placement.View} {realm : RealmId} {destId nodeId : Nat}

theorem nodePending_mark_self {home : Location} (abroad : home.nodeId ≠ view.self.nodeId)
    (known : home.nodeId < maxRoutableNodes) (everywhere : routes.localOnly = false) :
    (routes.mark view home).nodePending home.nodeId = true := by
  simp [mark, abroad, known, everywhere]

/-- Marking many places keeps what is marked and marks each of them. -/
theorem nodePending_marks (homes : List Location) (everywhere : routes.localOnly = false)
    (marked : routes.nodePending nodeId = true ∨ ∃ home ∈ homes, home.nodeId = nodeId ∧
      nodeId ≠ view.self.nodeId ∧ nodeId < maxRoutableNodes) :
    (homes.foldl (fun routes home => routes.mark view home) routes).nodePending nodeId = true := by
  induction homes generalizing routes with
  | nil => simpa using marked
  | cons home homes ih =>
      apply ih (localOnly_mark.trans everywhere)
      obtain already | ⟨other, listed, rfl, abroad, known⟩ := marked
      · exact .inl (nodePending_mark already)
      obtain rfl | later := List.mem_cons.mp listed
      · exact .inl (nodePending_mark_self abroad known everywhere)
      · exact .inr ⟨other, later, rfl, abroad, known⟩

theorem localOnly_markHome : (routes.markHome view realm destId).localOnly = routes.localOnly := by
  unfold markHome
  induction view.candidates realm destId generalizing routes with
  | nil => rfl
  | cons home homes ih => exact ih.trans localOnly_mark

theorem nodePending_markHomes (destIds : List Nat) (everywhere : routes.localOnly = false)
    (marked : routes.nodePending nodeId = true ∨ ∃ destId ∈ destIds,
      ∃ home ∈ view.candidates realm destId, home.nodeId = nodeId ∧ nodeId ≠ view.self.nodeId ∧
        nodeId < maxRoutableNodes) :
    (destIds.foldl (fun routes destId => routes.markHome view realm destId) routes).nodePending
      nodeId = true := by
  induction destIds generalizing routes with
  | nil => simpa using marked
  | cons destId destIds ih =>
      apply ih (localOnly_markHome.trans everywhere)
      obtain already | ⟨other, listed, home, candidate, same, abroad, known⟩ := marked
      · exact .inl (nodePending_marks _ everywhere (.inl already))
      obtain rfl | later := List.mem_cons.mp listed
      · exact .inl (nodePending_marks _ everywhere (.inr ⟨home, candidate, same, abroad, known⟩))
      · exact .inr ⟨other, later, home, candidate, same, abroad, known⟩

end RouteSet

/-- A push to a list of destinations goes to every other node at which one of them may be. -/
theorem nodePending_targetRoutes {view : Placement.View} {realm : RealmId} {list : TargetList}
    {destId : Nat} {home : Location} (listed : destId ∈ list.toList)
    (candidate : home ∈ view.candidates realm destId) (abroad : home.nodeId ≠ view.self.nodeId)
    (known : home.nodeId < maxRoutableNodes) :
    (GatewayWorker.targetRoutes view realm list false).nodePending home.nodeId = true := by
  simp only [GatewayWorker.targetRoutes, Bool.false_eq_true, if_false]
  refine RouteSet.nodePending_markHomes _ ?_
    (.inr ⟨destId, listed, home, candidate, rfl, abroad, known⟩)
  split <;> rfl

namespace GatewayWorker

variable {worker : GatewayWorker}

/-- The view of the cluster changes only when it is refreshed. -/
theorem placement_step (event : Event) (other : ∀ nodes now, event ≠ .placement nodes now) :
    (worker.step event).placement = worker.placement := by
  by_cases outer : ∃ change, event = .outside change
  · obtain ⟨change, rfl⟩ := outer
    cases change <;> rfl
  · exact congrArg Setting.placement
      (setting_step event other fun change same => outer ⟨change, same⟩)

end GatewayWorker

/-- A worker, and the nodes of the cluster under every view that it has had since shortly before
the change that it still looks back to. -/
structure Window where
  worker : GatewayWorker
  views : List (List Nat)

namespace Window

def start (worker : GatewayWorker) : Window where
  worker := worker
  views := [worker.placement.nodes]

def step (window : Window) (event : Event) : Window where
  worker := window.worker.step event
  views :=
    if (window.worker.step event).placement.prevNodes = [] then
      [(window.worker.step event).placement.nodes]
    else window.views ++ [(window.worker.step event).placement.nodes]

/-- A connection at the home of its destination under any of the views is looked for there, and a
push to the destination goes to that node. -/
def Covers (realm : RealmId) (destId : Nat) (window : Window) : Prop :=
  ∀ nodes ∈ window.views, ∀ home,
    window.worker.placement.homeUnder realm destId nodes = some home →
    home ∈ window.worker.placement.candidates realm destId ∧
      ∀ list : TargetList, destId ∈ list.toList →
        home.nodeId ≠ window.worker.placement.self.nodeId → home.nodeId < maxRoutableNodes →
        (GatewayWorker.targetRoutes window.worker.placement realm list
          (window.worker.placement.strategy = .broadcast)).nodePending home.nodeId = true

/-- A change of the cluster does not move a destination that has moved in the same window
already. -/
def MovesOnce (realm : RealmId) (destId : Nat) (window : Window) : Event → Prop
  | .placement fresh _ =>
      let view := window.worker.placement
      view.prevNodes = [] ∨
        view.homeUnder realm destId view.nodes = view.homeUnder realm destId view.prevNodes ∨
        view.homeUnder realm destId fresh = view.homeUnder realm destId view.nodes
  | _ => True

/-- The home under each view of the window is the present one, or the one before the change. -/
structure Tracked (realm : RealmId) (destId : Nat) (window : Window) : Prop where
  present : window.worker.placement.nodes ∈ window.views
  homes : ∀ nodes ∈ window.views,
    window.worker.placement.homeUnder realm destId nodes =
        window.worker.placement.home realm destId ∨
      window.worker.placement.prevNodes ≠ [] ∧
        window.worker.placement.homeUnder realm destId nodes =
          window.worker.placement.homeUnder realm destId window.worker.placement.prevNodes

variable {window : Window} {realm : RealmId} {destId : Nat} {event : Event}

theorem Tracked.covers (tracked : Tracked realm destId window) : Covers realm destId window := by
  intro nodes listed home lives
  have candidate : home ∈ window.worker.placement.candidates realm destId := by
    rw [Placement.View.mem_candidates]
    obtain same | ⟨opened, same⟩ := tracked.homes nodes listed
    · exact .inl (same.symm.trans lives)
    · exact .inr ⟨opened, same.symm.trans lives⟩
  refine ⟨candidate, fun list listed abroad known => ?_⟩
  have hashed : window.worker.placement.strategy ≠ .broadcast := by
    intro everywhere
    simp [Placement.View.homeUnder, Placement.View.home, everywhere] at lives
  rw [decide_eq_false hashed]
  exact nodePending_targetRoutes listed candidate abroad known

/-- What a refresh makes of the view: nothing new, the end of the window, or a change. -/
theorem refreshPlacement_cases (worker : GatewayWorker) (fresh : List Nat) (now : Nat) :
    (worker.refreshPlacement fresh now).placement = worker.placement ∨
      (worker.refreshPlacement fresh now).placement = { worker.placement with prevNodes := [] } ∨
      worker.placement.nodes ≠ fresh ∧ (worker.refreshPlacement fresh now).placement =
        { worker.placement with
          prevNodes := if worker.placement.prevNodes = [] then worker.placement.nodes
            else worker.placement.prevNodes
          nodes := fresh } := by
  unfold GatewayWorker.refreshPlacement
  simp only
  split
  · rename_i changed
    exact .inr (.inr ⟨changed, rfl⟩)
  split
  · exact .inr (.inl rfl)
  · exact .inl rfl

theorem Tracked.of_closed
    (closed : (window.worker.step event).placement.prevNodes = []) :
    Tracked realm destId (window.step event) := by
  have views : (window.step event).views = [(window.step event).worker.placement.nodes] :=
    if_pos closed
  constructor
  · rw [views]
    exact List.mem_singleton_self _
  · intro nodes listed
    rw [views, List.mem_singleton] at listed
    rw [listed]
    exact .inl rfl

theorem views_of_opened (opened : (window.worker.step event).placement.prevNodes ≠ []) :
    (window.step event).views = window.views ++ [(window.worker.step event).placement.nodes] :=
  if_neg opened

theorem Tracked.of_same (tracked : Tracked realm destId window)
    (same : (window.worker.step event).placement = window.worker.placement) :
    Tracked realm destId (window.step event) := by
  by_cases closed : (window.worker.step event).placement.prevNodes = []
  · exact .of_closed closed
  have views := views_of_opened closed
  constructor
  · rw [views]
    exact List.mem_append_right _ (List.mem_singleton_self _)
  · intro nodes listed
    rw [views, same, List.mem_append, List.mem_singleton] at listed
    rw [show (window.step event).worker.placement = window.worker.placement from same]
    obtain earlier | rfl := listed
    · exact tracked.homes nodes earlier
    · exact .inl rfl

theorem Tracked.of_changed (tracked : Tracked realm destId window) {fresh : List Nat} {now : Nat}
    (moves : MovesOnce realm destId window (.placement fresh now))
    (changed : (window.worker.refreshPlacement fresh now).placement =
      { window.worker.placement with
        prevNodes := if window.worker.placement.prevNodes = [] then window.worker.placement.nodes
          else window.worker.placement.prevNodes
        nodes := fresh }) :
    Tracked realm destId (window.step (.placement fresh now)) := by
  by_cases closed : (window.worker.step (.placement fresh now)).placement.prevNodes = []
  · exact .of_closed closed
  have views := views_of_opened closed
  have after : (window.step (.placement fresh now)).worker.placement = _ := changed
  have opened : (window.step (.placement fresh now)).worker.placement.prevNodes ≠ [] := closed
  constructor
  · rw [views]
    exact List.mem_append_right _ (List.mem_singleton_self _)
  intro nodes listed
  rw [views, List.mem_append, List.mem_singleton] at listed
  rw [after] at opened ⊢
  obtain earlier | rfl := listed
  · have home := tracked.homes nodes earlier
    by_cases first : window.worker.placement.prevNodes = []
    · rw [if_pos first] at opened ⊢
      obtain same | ⟨looking, -⟩ := home
      · exact .inr ⟨opened, same⟩
      · exact absurd first looking
    · rw [if_neg first]
      obtain never | stayed | stays := moves
      · exact absurd never first
      · right
        refine ⟨first, ?_⟩
        obtain same | ⟨-, same⟩ := home
        · exact same.trans stayed
        · exact same
      · obtain same | ⟨-, same⟩ := home
        · exact .inl (same.trans stays.symm)
        · exact .inr ⟨first, same⟩
  · left
    rw [show (window.worker.step (.placement fresh now)).placement = _ from changed]
    rfl

theorem Tracked.step (tracked : Tracked realm destId window)
    (moves : MovesOnce realm destId window event) : Tracked realm destId (window.step event) := by
  by_cases refresh : ∃ nodes now, event = .placement nodes now
  · obtain ⟨fresh, now, rfl⟩ := refresh
    obtain same | ended | ⟨-, changed⟩ := refreshPlacement_cases window.worker fresh now
    · exact tracked.of_same same
    · exact .of_closed (congrArg Placement.View.prevNodes ended)
    · exact tracked.of_changed moves changed
  · refine tracked.of_same (GatewayWorker.placement_step event fun nodes now same => ?_)
    exact refresh ⟨nodes, now, same⟩

theorem step_of_moved {fresh : List Nat} {now : Nat}
    (opened : window.worker.placement.prevNodes ≠ [])
    (changed : window.worker.placement.nodes ≠ fresh) :
    (window.step (.placement fresh now)).worker.placement =
        { window.worker.placement with nodes := fresh } ∧
      (window.step (.placement fresh now)).views = window.views ++ [fresh] := by
  have after : (window.worker.step (.placement fresh now)).placement =
      { window.worker.placement with nodes := fresh } := by
    simp [GatewayWorker.step, GatewayWorker.refreshPlacement, opened, changed]
  refine ⟨after, ?_⟩
  have views := @views_of_opened window (.placement fresh now)
  rw [after] at views
  exact views opened

theorem homeUnder_of_home_eq_none {view : Placement.View} (lives : view.home realm destId = none)
    (nodes : List Nat) : view.homeUnder realm destId nodes = none := by
  by_cases everywhere : view.strategy = .broadcast
  · simp [Placement.View.homeUnder, Placement.View.home, everywhere]
  · simp [Placement.View.home, everywhere] at lives

/-- When a destination moves a second time in one window, its home in between is lost. -/
theorem Covers.movesOnce (tracked : Tracked realm destId window)
    (covers : Covers realm destId (window.step event)) : MovesOnce realm destId window event := by
  cases event with
  | placement fresh now =>
      by_cases first : window.worker.placement.prevNodes = []
      · exact .inl first
      right
      by_cases kept : window.worker.placement.nodes = fresh
      · right
        simp only [kept]
      obtain ⟨after, views⟩ := @step_of_moved window fresh now first kept
      cases lives : window.worker.placement.home realm destId with
      | none =>
          left
          simp only [homeUnder_of_home_eq_none lives]
      | some home =>
          have listed : window.worker.placement.nodes ∈
              (window.step (.placement fresh now)).views := by
            rw [views]
            exact List.mem_append_left _ tracked.present
          have candidate := (covers _ listed home (by rw [after]; exact lives)).1
          rw [after, Placement.View.mem_candidates] at candidate
          simp only [Placement.View.homeUnder_nodes, lives]
          obtain moved | ⟨-, stayed⟩ := candidate
          · exact .inr moved
          · exact .inl stayed.symm
  | _ => trivial

theorem tracked_start (worker : GatewayWorker) : Tracked realm destId (start worker) where
  present := List.mem_singleton_self _
  homes nodes listed := by
    obtain rfl := List.mem_singleton.mp listed
    exact .inl rfl

/-- Along a run every home of a destination is looked for, as long as the destination does not
move a second time in one window. -/
theorem covers_iff_movesOnce_of_tracked (tracked : Tracked realm destId window)
    (events : List Event) :
    Run.Meets step (MovesOnce realm destId) window events ↔
      ∀ earlier later, earlier ++ later = events →
        Covers realm destId (Run.final step window earlier) := by
  constructor
  · rintro meets earlier later rfl
    exact (Run.invariant (fun _ _ tracked moves => Tracked.step tracked moves) tracked
      (Run.meets_append.mp meets).1).covers
  · intro covers
    induction events generalizing window with
    | nil => trivial
    | cons event events ih =>
        have moves : MovesOnce realm destId window event :=
          Covers.movesOnce tracked (covers [event] events rfl)
        refine ⟨moves, ih (tracked.step moves) fun earlier later same => ?_⟩
        exact covers (event :: earlier) later (congrArg (event :: ·) same)

/-- For every destination and every run, whatever changes fall into one window. -/
theorem recent_homes_are_candidates (config : Config) (router : MessageRouter)
    (fate : Nat → Bool) (realm : RealmId) (destId : Nat) (events : List Event) :
    Run.Meets step (MovesOnce realm destId) (start (.init config router fate)) events ↔
      ∀ earlier later, earlier ++ later = events →
        Covers realm destId (Run.final step (start (.init config router fate)) earlier) :=
  covers_iff_movesOnce_of_tracked (tracked_start _) events

/-- A worker of node 1 sees node 2 come, and then node 3 in its place, within one window. -/
def replacedWithinWindow : List Event := [.placement [1, 2] 0, .placement [1, 3] 1000000]

/-- A destination that had moved to node 2 is then looked for on nodes 3 and 1 only. -/
theorem home_in_between_is_no_candidate :
    ¬ ∀ (config : Config) (router : MessageRouter) (fate : Nat → Bool) (realm : RealmId)
      (destId : Nat) (events : List Event),
      Covers realm destId (Run.final step (start (.init config router fate)) events) := by
  intro covers
  have lost := (covers { self := ⟨1, 0⟩, strategy := .affinity } (.init 1 1024) (fun _ => true)
    7 3 replacedWithinWindow [1, 2] (by decide +kernel) ⟨2, 0⟩ (by decide +kernel)).1
  exact absurd lost (by decide +kernel)

end Window

end LyuneGateway.Worker
