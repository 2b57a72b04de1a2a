import LyuneGateway.Control.Coordinator
import LyuneGateway.Worker.DoubleLookup
import LyuneGateway.Worker.Rehome

/-!
# Agreement on placement

Every node computes the homes of destinations by itself, from what it knows of
the cluster. Nodes come and go, and one that drains keeps its connections for a
while.
-/

namespace LyuneGateway.Control

open Foundation Protocol Worker

/-- What is true of each node, and how many client connections it holds. -/
structure Cluster where
  status : Nat → Option NodeStatus := fun _ => none
  clients : Nat → Nat := fun _ => 0

inductive ClusterEvent where
  | start (nodeId : Nat)
  | suspect (nodeId : Nat)
  | refute (nodeId : Nat)
  | drain (nodeId : Nat)
  | fail (nodeId : Nat)
  | stop (nodeId : Nat)
  | connect (nodeId : Nat)
  | disconnect (nodeId : Nat)

namespace Cluster

def isForwardable (cluster : Cluster) (nodeId : Nat) : Bool :=
  (cluster.status nodeId).any fun status => status = .alive || status = .suspect

def setStatus (cluster : Cluster) (nodeId : Nat) (status : NodeStatus) : Cluster :=
  { cluster with status := Function.update cluster.status nodeId (some status) }

def setClients (cluster : Cluster) (nodeId count : Nat) : Cluster :=
  { cluster with clients := Function.update cluster.clients nodeId count }

/-- A node that drains or runs no more takes no new connections; one that drains keeps those it
has until they end or it stops, and one that fails loses them. -/
def step (cluster : Cluster) : ClusterEvent → Cluster
  | .start nodeId =>
      if 0 < nodeId ∧ nodeId < 2 ^ 16 ∧ cluster.isForwardable nodeId = false ∧
          cluster.clients nodeId = 0 then cluster.setStatus nodeId .alive
      else cluster
  | .suspect nodeId =>
      if cluster.status nodeId = some .alive then cluster.setStatus nodeId .suspect else cluster
  | .refute nodeId =>
      if cluster.status nodeId = some .suspect then cluster.setStatus nodeId .alive else cluster
  | .drain nodeId =>
      if cluster.isForwardable nodeId then cluster.setStatus nodeId .left else cluster
  | .fail nodeId =>
      if (cluster.status nodeId).isSome then (cluster.setStatus nodeId .dead).setClients nodeId 0
      else cluster
  | .stop nodeId =>
      if cluster.status nodeId = some .left then cluster.setClients nodeId 0 else cluster
  | .connect nodeId =>
      if cluster.isForwardable nodeId then
        cluster.setClients nodeId (cluster.clients nodeId + 1)
      else cluster
  | .disconnect nodeId => cluster.setClients nodeId (cluster.clients nodeId - 1)

/-- Only a node that serves or drains holds connections. -/
structure Sound (cluster : Cluster) : Prop where
  named : ∀ nodeId, (cluster.status nodeId).isSome = true → nodeId < 2 ^ 16
  serving : ∀ nodeId, 0 < cluster.clients nodeId →
    cluster.isForwardable nodeId = true ∨ cluster.status nodeId = some .left

namespace Sound

variable {cluster : Cluster} {nodeId : Nat}

theorem named_of_forwardable (sound : Sound cluster) (serves : cluster.isForwardable nodeId = true) :
    nodeId < 2 ^ 16 := by
  apply sound.named
  unfold isForwardable at serves
  cases status : cluster.status nodeId with
  | none => simp [status] at serves
  | some => rfl

theorem setStatus (sound : Sound cluster) (named : nodeId < 2 ^ 16) {status : NodeStatus}
    (serving : status ≠ .dead ∨ cluster.clients nodeId = 0) :
    Sound (cluster.setStatus nodeId status) where
  named other := by
    by_cases same : other = nodeId
    · subst same
      exact fun _ => named
    · simpa [Cluster.setStatus, same] using sound.named other
  serving other holds := by
    by_cases same : other = nodeId
    · subst same
      have holding : cluster.clients other ≠ 0 := Nat.ne_of_gt holds
      cases status <;> simp [Cluster.setStatus, isForwardable, holding] at serving ⊢
    · simpa [Cluster.setStatus, isForwardable, same] using sound.serving other holds

theorem setClients (sound : Sound cluster) {count : Nat}
    (serving : 0 < count →
      cluster.isForwardable nodeId = true ∨ cluster.status nodeId = some .left) :
    Sound (cluster.setClients nodeId count) where
  named := sound.named
  serving other holds := by
    by_cases same : other = nodeId
    · subst same
      simp only [Cluster.setClients, Function.update_self] at holds
      exact serving holds
    · simp only [Cluster.setClients, Function.update_of_ne same] at holds
      exact sound.serving other holds

theorem step (sound : Sound cluster) (event : ClusterEvent) : Sound (cluster.step event) := by
  cases event with
  | start nodeId =>
      simp only [Cluster.step]
      split
      · rename_i free
        exact sound.setStatus free.2.1 (.inr free.2.2.2)
      · exact sound
  | suspect nodeId | refute nodeId =>
      simp only [Cluster.step]
      split
      · rename_i status
        exact sound.setStatus (sound.named nodeId (by rw [status]; rfl)) (.inl nofun)
      · exact sound
  | drain nodeId =>
      simp only [Cluster.step]
      split
      · rename_i serves
        exact sound.setStatus (sound.named_of_forwardable serves) (.inl nofun)
      · exact sound
  | fail nodeId =>
      simp only [Cluster.step]
      split
      · rename_i known
        have emptied : Sound (cluster.setClients nodeId 0) := sound.setClients nofun
        exact emptied.setStatus (sound.named nodeId known)
          (.inr (Function.update_self nodeId 0 cluster.clients))
      · exact sound
  | stop nodeId =>
      simp only [Cluster.step]
      split
      · exact sound.setClients nofun
      · exact sound
  | connect nodeId =>
      simp only [Cluster.step]
      split
      · rename_i serves
        exact sound.setClients fun _ => .inl serves
      · exact sound
  | disconnect nodeId =>
      exact sound.setClients fun holds => sound.serving nodeId (by omega)

theorem init : Sound {} := ⟨nofun, nofun⟩

theorem run (sound : Sound cluster) (events : List ClusterEvent) :
    Sound (Run.final Cluster.step cluster events) := by
  induction events generalizing cluster with
  | nil => exact sound
  | cons event events ih => exact ih (sound.step event)

end Sound

/-- The node knows what is true of every node. -/
structure Agrees (cluster : Cluster) (nodeId : Nat) (coordinator : Coordinator) : Prop where
  self : coordinator.nodeId = nodeId
  knows : ∃ view, coordinator.membership = some view ∧ view.capacity = coordinator.maxNodes ∧
    ∀ other, (view.lookup other).map Member.status = cluster.status other

/-- The view of a worker on the node once it has settled. -/
structure Follows (coordinator : Coordinator) (view : Placement.View) : Prop where
  self : view.self.nodeId = coordinator.nodeId
  nodes : view.nodes = coordinator.snapshot
  settled : view.prevNodes = []

/-- Two nodes place destinations alike: where the one keeps a connection, the other looks for
it. -/
structure InStep (keeps routes : Coordinator) : Prop where
  nodes : ∀ nodeId, nodeId ∈ keeps.snapshot ↔ nodeId ∈ routes.snapshot
  homes : ∀ realm destId,
    Placement.homeNode (Placement.key realm destId) keeps.snapshot =
      Placement.homeNode (Placement.key realm destId) routes.snapshot
  drifted : ∀ (worker : GatewayWorker) slot ctx, Follows keeps worker.placement →
    worker.placement.strategy = .affinity → slot < worker.conns.capacity →
    worker.context slot = some ctx → ctx.peerNode = false → ctx.destId ≠ 0 →
    ∀ home, Placement.homeNode (Placement.key ctx.realm ctx.destId) routes.snapshot = some home →
    home ≠ keeps.nodeId → (worker.addresses home).isSome = true →
    ∃ passes, .close ctx.transport.ptr AppError.redirected.code ∈
      (GatewayWorker.rehomeDrifted^[passes] worker).log
  pushes : keeps.nodeId ≠ routes.nodeId → ∀ view, Follows routes view →
    ∀ realm (list : TargetList), ∀ destId ∈ list.toList,
    view.strategy = .broadcast ∨
      Placement.homeNode (Placement.key realm destId) keeps.snapshot = some keeps.nodeId →
    (GatewayWorker.targetRoutes view realm list (view.strategy = .broadcast)).nodePending
      keeps.nodeId = true
  groups : keeps.nodeId ≠ routes.nodeId → ∀ view, Follows routes view →
    (RouteSet.markAll {} view).nodePending keeps.nodeId = true

variable {cluster : Cluster} {nodeId other : Nat} {coordinator keeps routes : Coordinator}

theorem Agrees.mem_snapshot (agrees : Agrees cluster nodeId coordinator) :
    other ∈ coordinator.snapshot ↔ other = nodeId ∨ cluster.isForwardable other = true := by
  obtain ⟨view, clustered, capacity, truth⟩ := agrees.knows
  have known : (view.lookup other).any Member.isForwardable = cluster.isForwardable other := by
    rw [isForwardable, ← truth other]
    cases view.lookup other <;> rfl
  rw [Coordinator.mem_snapshot clustered, agrees.self, known]
  apply or_congr_right
  constructor
  · exact fun listed => listed.2.2
  · intro serves
    have present : view.lookup other ≠ none := by
      intro unknown
      rw [unknown] at known
      rw [← known] at serves
      cases serves
    have bounds : ¬ (other = 0 ∨ view.capacity ≤ other) := fun outside =>
      present (by simp [Membership.Table.lookup, outside])
    exact ⟨by omega, by omega, serves⟩

theorem Agrees.small (agrees : Agrees cluster nodeId coordinator) (sound : Sound cluster)
    (holds : 0 < cluster.clients nodeId) : ∀ other ∈ coordinator.snapshot, other < 2 ^ 16 := by
  intro other listed
  obtain rfl | serves := agrees.mem_snapshot.mp listed
  · obtain serves | left := sound.serving other holds
    · exact sound.named_of_forwardable serves
    · exact sound.named other (by rw [left]; rfl)
  · exact sound.named_of_forwardable serves

/-- A connection away from the home of its destination is redirected by its worker. -/
theorem Follows.adrift {worker : GatewayWorker} {slot home : Nat} {ctx : ConnectionContext}
    (follows : Follows coordinator worker.placement)
    (affinity : worker.placement.strategy = .affinity) (found : worker.context slot = some ctx)
    (client : ctx.peerNode = false) (bound : ctx.destId ≠ 0)
    (lives : Placement.homeNode (Placement.key ctx.realm ctx.destId) coordinator.snapshot =
      some home)
    (away : home ≠ coordinator.nodeId) (known : (worker.addresses home).isSome = true) :
    worker.Adrift slot ctx.transport.ptr := by
  have elsewhere : home ≠ worker.placement.self.nodeId := follows.self ▸ away
  refine ⟨ctx, found, rfl, client, ?_⟩
  simp [GatewayWorker.redirects, GatewayWorker.redirectTarget, Placement.View.isHomeNode,
    Placement.View.candidates, Placement.View.home, Placement.View.previousHomeNode, affinity,
    follows.settled, follows.nodes, lives, elsewhere, bound, known]

/-- A message for all goes to every node of the view that can be routed to. -/
theorem Follows.groups {view : Placement.View} (follows : Follows coordinator view) :
    (RouteSet.markAll {} view).nodePending nodeId = true ↔
      nodeId ∈ coordinator.snapshot ∧ nodeId ≠ coordinator.nodeId ∧ nodeId < maxRoutableNodes := by
  simp [RouteSet.markAll, RouteSet.markAllWorkers, RouteSet.markAllNodes, follows.nodes,
    follows.self, and_assoc]

/-- A message for a destination goes to the node that is its home. -/
theorem Follows.pushes {view : Placement.View} (follows : Follows coordinator view)
    (serves : nodeId ∈ coordinator.snapshot) (abroad : nodeId ≠ coordinator.nodeId)
    (routable : nodeId < maxRoutableNodes) {realm : RealmId} {list : TargetList} {destId : Nat}
    (listed : destId ∈ list.toList)
    (lives : view.strategy = .broadcast ∨
      Placement.homeNode (Placement.key realm destId) coordinator.snapshot = some nodeId) :
    (GatewayWorker.targetRoutes view realm list (view.strategy = .broadcast)).nodePending
      nodeId = true := by
  by_cases everywhere : view.strategy = .broadcast
  · simp only [GatewayWorker.targetRoutes, everywhere, decide_true, if_true]
    exact follows.groups.mpr ⟨serves, abroad, routable⟩
  have home := lives.resolve_left everywhere
  rw [decide_eq_false everywhere]
  have located : view.home realm destId = some {
      nodeId := nodeId
      workerId := Placement.homeWorker (Placement.key realm destId) view.workerCount } := by
    simp [Placement.View.home, everywhere, follows.nodes, home]
  exact nodePending_targetRoutes listed (Placement.View.mem_candidates.mpr (.inl located))
    (follows.self ▸ abroad) routable

/-- Two nodes with the same nodes in view are in step, if the one can be routed to. -/
theorem InStep.of_nodes (same : ∀ nodeId, nodeId ∈ keeps.snapshot ↔ nodeId ∈ routes.snapshot)
    (small : ∀ nodeId ∈ keeps.snapshot, nodeId < 2 ^ 16) (listed : keeps.nodeId ∈ keeps.snapshot)
    (routable : keeps.nodeId ≠ routes.nodeId → keeps.nodeId < maxRoutableNodes) :
    InStep keeps routes := by
  have homes (realm : RealmId) (destId : Nat) :
      Placement.homeNode (Placement.key realm destId) keeps.snapshot =
        Placement.homeNode (Placement.key realm destId) routes.snapshot :=
    Placement.homeNode_congr _ small same
  constructor
  · exact same
  · exact homes
  · intro worker slot ctx follows affinity bounded found client bound home lives away known
    refine GatewayWorker.found_by_rehomeDrifted ⟨affinity, follows.settled⟩ ?_ bounded
    exact follows.adrift affinity found client bound ((homes _ _).trans lives) away known
  · intro abroad view follows realm list destId target lives
    rw [homes] at lives
    exact follows.pushes ((same _).mp listed) abroad (routable abroad) target lives
  · intro abroad view follows
    exact follows.groups.mpr ⟨(same _).mp listed, abroad, routable abroad⟩

/-- Nodes that know the truth of the cluster are in step, whatever has happened, exactly as long as
no node keeps connections while it drains beside another that keeps some. -/
theorem in_step_iff_none_drains (events : List ClusterEvent) (coordinators : Nat → Coordinator)
    (agree : ∀ nodeId, 0 < (Run.final step {} events).clients nodeId →
      Agrees (Run.final step {} events) nodeId (coordinators nodeId)) :
    (∀ keeps routes, 0 < (Run.final step {} events).clients keeps →
      0 < (Run.final step {} events).clients routes →
      InStep (coordinators keeps) (coordinators routes)) ↔
    ∀ keeps routes, 0 < (Run.final step {} events).clients keeps →
      0 < (Run.final step {} events).clients routes → keeps ≠ routes →
      (Run.final step {} events).status keeps ≠ some .left ∧ keeps < maxRoutableNodes := by
  have sound : Sound (Run.final step {} events) := Sound.init.run events
  generalize Run.final step {} events = cluster at agree sound ⊢
  constructor
  · intro inStep keeps routes holds alsoHolds differ
    have together := inStep keeps routes holds alsoHolds
    have own : keeps ∈ (coordinators keeps).snapshot :=
      (agree keeps holds).mem_snapshot.mpr (.inl rfl)
    have serves := ((agree routes alsoHolds).mem_snapshot.mp
      ((together.nodes keeps).mp own)).resolve_left differ
    refine ⟨fun left => by simp [isForwardable, left] at serves, ?_⟩
    have abroad : (coordinators keeps).nodeId ≠ (coordinators routes).nodeId := by
      rw [(agree keeps holds).self, (agree routes alsoHolds).self]
      exact differ
    have follows : Follows (coordinators routes) {
        strategy := .affinity, self := ⟨(coordinators routes).nodeId, 0⟩, workerCount := 1,
        nodes := (coordinators routes).snapshot } := ⟨rfl, rfl, rfl⟩
    have marked := (follows.groups.mp (together.groups abroad _ follows)).2.2
    rwa [(agree keeps holds).self] at marked
  · intro none_ keeps routes holds alsoHolds
    have keepsAgrees := agree keeps holds
    have routesAgrees := agree routes alsoHolds
    apply InStep.of_nodes
    · intro nodeId
      by_cases differ : keeps = routes
      · rw [differ]
      have serves {nodeId other : Nat} (holds : 0 < cluster.clients nodeId)
          (alsoHolds : 0 < cluster.clients other) (differ : nodeId ≠ other) :
          cluster.isForwardable nodeId = true :=
        (sound.serving nodeId holds).resolve_right (none_ nodeId other holds alsoHolds differ).1
      rw [keepsAgrees.mem_snapshot, routesAgrees.mem_snapshot]
      constructor
      · rintro (rfl | forwardable)
        · exact .inr (serves holds alsoHolds differ)
        · exact .inr forwardable
      · rintro (rfl | forwardable)
        · exact .inr (serves alsoHolds holds (Ne.symm differ))
        · exact .inr forwardable
    · exact keepsAgrees.small sound holds
    · exact keepsAgrees.mem_snapshot.mpr (.inl keepsAgrees.self)
    · rw [keepsAgrees.self, routesAgrees.self]
      exact fun differ => (none_ keeps routes holds alsoHolds differ).2

/-- A node of a cluster of up to sixteen that has been told of everything. -/
def informed (cluster : Cluster) (nodeId : Nat) : Coordinator where
  nodeId := nodeId
  maxNodes := 16
  membership := some { capacity := 16, slots := cluster.status }

theorem informed_agrees (bounded : ∀ other, cluster.status other ≠ none → 0 < other ∧ other < 16)
    (nodeId : Nat) : Agrees cluster nodeId (informed cluster nodeId) where
  self := rfl
  knows := by
    refine ⟨_, rfl, rfl, fun other => ?_⟩
    unfold Membership.Table.lookup
    split
    · rename_i outside
      have unknown : cluster.status other = none := by
        by_contra known
        have := bounded other known
        simp only at outside
        omega
      rw [unknown]
      rfl
    · cases held : cluster.status other <;> simp [held]

def joined : List ClusterEvent := [.start 1, .start 2, .connect 1, .connect 2]

theorem joined_bounded (later : List ClusterEvent) (small : later = [] ∨ later = [.drain 2])
    (other : Nat) (known : (Run.final step {} (joined ++ later)).status other ≠ none) :
    0 < other ∧ other < 16 := by
  by_cases first : other = 1
  · omega
  by_cases second : other = 2
  · omega
  obtain rfl | rfl := small <;>
    simp [joined, Run.final, step, isForwardable, setStatus, setClients, first, second] at known

theorem in_step_before_drain :
    (∀ keeps routes, 0 < (Run.final step {} joined).clients keeps →
      0 < (Run.final step {} joined).clients routes →
      InStep (informed (Run.final step {} joined) keeps)
        (informed (Run.final step {} joined) routes)) ↔
    ∀ keeps routes, 0 < (Run.final step {} joined).clients keeps →
      0 < (Run.final step {} joined).clients routes → keeps ≠ routes →
      (Run.final step {} joined).status keeps ≠ some .left ∧ keeps < maxRoutableNodes :=
  in_step_iff_none_drains joined (informed (Run.final step {} joined)) fun nodeId _ =>
    informed_agrees (fun other known => joined_bounded [] (.inl rfl) other known) nodeId

theorem drained_node_is_its_own_home :
    let cluster := Run.final step {} (joined ++ [.drain 2])
    (0 < cluster.clients 1 ∧ 0 < cluster.clients 2) ∧
    (Agrees cluster 1 (informed cluster 1) ∧ Agrees cluster 2 (informed cluster 2)) ∧
    ((informed cluster 1).snapshot = [1] ∧ (informed cluster 2).snapshot = [2, 1]) ∧
    (Placement.homeNode (Placement.key 7 3) [1] = some 1 ∧
      Placement.homeNode (Placement.key 7 3) [2, 1] = some 2) ∧
    ¬ InStep (informed cluster 2) (informed cluster 1) := by
  have bounded := joined_bounded [.drain 2] (.inr rfl)
  refine ⟨by decide, ⟨informed_agrees bounded 1, informed_agrees bounded 2⟩, by decide,
    by decide +kernel, fun inStep => ?_⟩
  exact absurd ((inStep.nodes 2).mp (by decide)) (by decide)

end Cluster

end LyuneGateway.Control
