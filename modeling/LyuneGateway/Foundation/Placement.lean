import LyuneGateway.Protocol.Frame

/-!
# Placement of destinations

Under affinity every destination has a home, the node with the highest score
for its key and a worker on it. While membership is changing the home under the
previous view is a candidate as well. Under broadcast nothing has a home.
-/

namespace LyuneGateway.Foundation

inductive Strategy where
  | broadcast
  | affinity
  deriving DecidableEq, Repr

structure Location where
  nodeId : Nat
  workerId : Nat
  deriving DecidableEq, Repr

namespace Placement

def key (realm : RealmId) (destId : Nat) : UInt64 :=
  (UInt64.ofNat destId ^^^ (UInt64.ofNat realm * 0xD6E8FEB86659FD93)) * 0x9E3779B97F4A7C15

def homeWorker (hashed : UInt64) (workerCount : Nat) : Nat :=
  if workerCount ≤ 1 then 0 else (hashed >>> 32).toNat % workerCount

def score (hashed : UInt64) (nodeId : Nat) : UInt64 :=
  (hashed ^^^ (UInt64.ofNat nodeId * 0xC2B2AE3D27D4EB4F)) * 0x9E3779B97F4A7C15

/-- The first node with the highest score. -/
def homeNode (hashed : UInt64) (nodes : List Nat) : Option Nat :=
  (nodes.foldl (fun best nodeId =>
    match best with
    | none => some (nodeId, score hashed nodeId)
    | some (kept, bestScore) =>
        if bestScore < score hashed nodeId then some (nodeId, score hashed nodeId)
        else some (kept, bestScore)) none).map Prod.fst

/-- A multiplication by the constant of the scores can be undone. -/
theorem mul_scale_injective : Function.Injective fun x : UInt64 => x * 0x9E3779B97F4A7C15 := by
  intro x y same
  have undone := congrArg (fun product : UInt64 => product * 0xF1DE83E19937733D) same
  simpa only [UInt64.mul_assoc, show (0x9E3779B97F4A7C15 * 0xF1DE83E19937733D : UInt64) = 1 by rfl,
    UInt64.mul_one] using undone

theorem mul_node_injective : Function.Injective fun x : UInt64 => x * 0xC2B2AE3D27D4EB4F := by
  intro x y same
  have undone := congrArg (fun product : UInt64 => product * 0x0BA79078168D4BAF) same
  simpa only [UInt64.mul_assoc, show (0xC2B2AE3D27D4EB4F * 0x0BA79078168D4BAF : UInt64) = 1 by rfl,
    UInt64.mul_one] using undone

/-- No two nodes have the same score. -/
theorem score_injective {hashed : UInt64} {nodeId other : Nat} (small : nodeId < 2 ^ 16)
    (alsoSmall : other < 2 ^ 16) (same : score hashed nodeId = score hashed other) :
    nodeId = other := by
  have mixed := (UInt64.xor_right_inj _).mp (mul_scale_injective same)
  have numbers := congrArg UInt64.toNat (mul_node_injective mixed)
  simp only [UInt64.toNat_ofNat'] at numbers
  omega

/-- Keep the better of two nodes, the first one if they are equal. -/
def keepBest (hashed : UInt64) (best : Option (Nat × UInt64)) (nodeId : Nat) :
    Option (Nat × UInt64) :=
  match best with
  | none => some (nodeId, score hashed nodeId)
  | some (kept, bestScore) =>
      if bestScore < score hashed nodeId then some (nodeId, score hashed nodeId)
      else some (kept, bestScore)

theorem homeNode_eq_foldl (hashed : UInt64) (nodes : List Nat) :
    homeNode hashed nodes = (nodes.foldl (keepBest hashed) none).map Prod.fst := rfl

theorem foldl_keepBest (hashed : UInt64) (nodes : List Nat) (kept : Nat) :
    ∃ best, nodes.foldl (keepBest hashed) (some (kept, score hashed kept)) =
        some (best, score hashed best) ∧ best ∈ kept :: nodes ∧
      ∀ other ∈ kept :: nodes, score hashed other ≤ score hashed best := by
  induction nodes generalizing kept with
  | nil => exact ⟨kept, rfl, List.mem_cons_self, by simp⟩
  | cons nodeId nodes ih =>
      by_cases better : score hashed kept < score hashed nodeId
      · obtain ⟨best, found, listed, most⟩ := ih nodeId
        refine ⟨best, by simpa [keepBest, better] using found, List.mem_cons_of_mem _ listed, ?_⟩
        intro other among
        obtain rfl | later := List.mem_cons.mp among
        · exact UInt64.le_trans (UInt64.le_of_lt better) (most nodeId List.mem_cons_self)
        · exact most other later
      · obtain ⟨best, found, listed, most⟩ := ih kept
        refine ⟨best, by simpa [keepBest, better] using found, ?_, ?_⟩
        · obtain rfl | later := List.mem_cons.mp listed
          · exact List.mem_cons_self
          · exact List.mem_cons_of_mem _ (List.mem_cons_of_mem _ later)
        intro other among
        obtain rfl | later := List.mem_cons.mp among
        · exact most other List.mem_cons_self
        obtain rfl | later := List.mem_cons.mp later
        · exact UInt64.le_trans (UInt64.not_lt.mp better) (most kept List.mem_cons_self)
        · exact most other (List.mem_cons_of_mem _ later)

/-- The home of a destination is a node with the highest score. -/
theorem homeNode_of_ne_nil (hashed : UInt64) {nodes : List Nat} (given : nodes ≠ []) :
    ∃ best, homeNode hashed nodes = some best ∧ best ∈ nodes ∧
      ∀ other ∈ nodes, score hashed other ≤ score hashed best := by
  cases nodes with
  | nil => exact absurd rfl given
  | cons nodeId nodes =>
      obtain ⟨best, found, listed, most⟩ := foldl_keepBest hashed nodes nodeId
      refine ⟨best, ?_, listed, most⟩
      rw [homeNode_eq_foldl, List.foldl_cons]
      exact congrArg (Option.map Prod.fst) found

theorem homeNode_isSome (hashed : UInt64) {nodes : List Nat} (given : nodes ≠ []) :
    (homeNode hashed nodes).isSome = true := by
  obtain ⟨best, found, -⟩ := homeNode_of_ne_nil hashed given
  rw [found]
  rfl

/-- Two lists of the same nodes give every destination the same home, whatever their order. -/
theorem homeNode_congr (hashed : UInt64) {nodes others : List Nat}
    (small : ∀ nodeId ∈ nodes, nodeId < 2 ^ 16)
    (same : ∀ nodeId, nodeId ∈ nodes ↔ nodeId ∈ others) :
    homeNode hashed nodes = homeNode hashed others := by
  by_cases empty : nodes = []
  · subst empty
    have none_ : others = [] := List.eq_nil_iff_forall_not_mem.mpr fun nodeId listed =>
      List.not_mem_nil ((same nodeId).mpr listed)
    rw [none_]
  have others_ : others ≠ [] := by
    obtain ⟨nodeId, listed⟩ := List.exists_mem_of_ne_nil nodes empty
    exact List.ne_nil_of_mem ((same nodeId).mp listed)
  obtain ⟨best, found, listed, most⟩ := homeNode_of_ne_nil hashed empty
  obtain ⟨other, alsoFound, alsoListed, alsoMost⟩ := homeNode_of_ne_nil hashed others_
  have among := (same other).mpr alsoListed
  have equal : score hashed best = score hashed other :=
    UInt64.le_antisymm (alsoMost best ((same best).mp listed)) (most other among)
  rw [found, alsoFound, score_injective (small best listed) (small other among) equal]

/-- What one worker knows about the cluster. -/
structure View where
  strategy : Strategy
  self : Location
  workerCount : Nat
  nodes : List Nat := []
  prevNodes : List Nat := []
  deriving DecidableEq, Repr

namespace View

def home (view : View) (realm : RealmId) (destId : Nat) : Option Location :=
  if view.strategy = .broadcast then none
  else
    let hashed := key realm destId
    some {
      nodeId := (homeNode hashed view.nodes).getD view.self.nodeId
      workerId := homeWorker hashed view.workerCount }

/-- The home under the previous view, when it differs from the present one. -/
def previousHomeNode (view : View) (realm : RealmId) (destId : Nat) : Option Nat :=
  if view.strategy = .broadcast ∨ view.prevNodes = [] then none
  else
    let hashed := key realm destId
    match homeNode hashed view.prevNodes with
    | none => none
    | some previous =>
        if previous = (homeNode hashed view.nodes).getD view.self.nodeId then none
        else some previous

def candidates (view : View) (realm : RealmId) (destId : Nat) : List Location :=
  match view.home realm destId with
  | none => []
  | some current =>
      current :: ((view.previousHomeNode realm destId).map fun nodeId =>
        { nodeId := nodeId, workerId := current.workerId }).toList

/-- The home under other nodes than the present ones. -/
def homeUnder (view : View) (realm : RealmId) (destId : Nat) (nodes : List Nat) : Option Location :=
  { view with nodes := nodes }.home realm destId

theorem homeUnder_nodes (view : View) (realm : RealmId) (destId : Nat) :
    view.homeUnder realm destId view.nodes = view.home realm destId := rfl

/-- A destination is looked for at its home and at its home under the previous view. -/
theorem mem_candidates {view : View} {realm : RealmId} {destId : Nat} {home : Location} :
    home ∈ view.candidates realm destId ↔ view.home realm destId = some home ∨
      view.prevNodes ≠ [] ∧ view.homeUnder realm destId view.prevNodes = some home := by
  cases strategy : view.strategy with
  | broadcast => simp [candidates, View.home, homeUnder, strategy]
  | affinity =>
      by_cases closed : view.prevNodes = []
      · simp [candidates, View.home, previousHomeNode, strategy, closed, eq_comm]
      · obtain ⟨previous, found⟩ := Option.isSome_iff_exists.mp
          (homeNode_isSome (key realm destId) closed)
        simp only [candidates, View.home, homeUnder, previousHomeNode, strategy, closed, found,
          reduceCtorEq, if_false, or_self, Option.getD_some, List.mem_cons, Option.some.injEq,
          ne_eq, not_false_eq_true, true_and]
        split
        · rename_i same
          simp [← same, eq_comm]
        · simp [eq_comm]

/-- Without candidates every node is home. -/
def isHomeNode (view : View) (realm : RealmId) (destId : Nat) : Bool :=
  view.candidates realm destId = [] ||
    (view.candidates realm destId).any fun location => location.nodeId = view.self.nodeId

end View

end Placement

end LyuneGateway.Foundation
