import LyuneGateway.Foundation.Placement

/-!
# How homes move

The scores of the nodes order them without ties, so a home depends on the set
of nodes alone. A node that comes or goes moves only the destinations that it
wins or held. With no node in view everyone takes a destination for its own.
-/

namespace LyuneGateway.Foundation.Placement

variable {hashed : UInt64} {nodes others : List Nat} {nodeId best : Nat}

@[simp] theorem homeNode_nil (hashed : UInt64) : homeNode hashed [] = none := rfl

theorem homeNode_mem (home : homeNode hashed nodes = some best) :
    best ∈ nodes ∧ ∀ other ∈ nodes, score hashed other ≤ score hashed best := by
  have given : nodes ≠ [] := by
    rintro rfl
    cases home
  obtain ⟨found, here, listed, most⟩ := homeNode_of_ne_nil hashed given
  obtain rfl : found = best := Option.some.inj (here.symm.trans home)
  exact ⟨listed, most⟩

/-- The home is the one node that no other beats. -/
theorem homeNode_eq_some_iff (small : ∀ nodeId ∈ nodes, nodeId < 2 ^ 16) :
    homeNode hashed nodes = some best ↔
      best ∈ nodes ∧ ∀ other ∈ nodes, score hashed other ≤ score hashed best := by
  refine ⟨homeNode_mem, fun ⟨listed, most⟩ => ?_⟩
  obtain ⟨found, here, among, highest⟩ :=
    homeNode_of_ne_nil hashed (List.ne_nil_of_mem listed)
  have equal : score hashed found = score hashed best :=
    UInt64.le_antisymm (most found among) (highest best listed)
  rw [here, score_injective (small found among) (small best listed) equal]

/-- A node that is not the home may go. -/
theorem homeNode_without (small : ∀ nodeId ∈ nodes, nodeId < 2 ^ 16)
    (less : ∀ other, other ∈ others ↔ other ∈ nodes ∧ other ≠ nodeId)
    (elsewhere : homeNode hashed nodes ≠ some nodeId) :
    homeNode hashed others = homeNode hashed nodes := by
  cases home : homeNode hashed nodes with
  | none =>
      have nobody : nodes = [] := by
        by_contra given
        have some_ := homeNode_isSome hashed given
        rw [home] at some_
        cases some_
      have none_ : others = [] := List.eq_nil_iff_forall_not_mem.mpr fun other listed => by
        simpa [nobody] using (less other).mp listed
      rw [none_]
      rfl
  | some best =>
      obtain ⟨listed, most⟩ := homeNode_mem home
      have stays : best ≠ nodeId := by
        rintro rfl
        exact elsewhere home
      have smaller : ∀ other ∈ others, other < 2 ^ 16 := fun other among =>
        small other ((less other).mp among).1
      refine (homeNode_eq_some_iff smaller).mpr ⟨(less best).mpr ⟨listed, stays⟩, ?_⟩
      exact fun other among => most other ((less other).mp among).1

/-- A node that comes takes a destination over, or leaves it where it is. -/
theorem homeNode_with (small : ∀ nodeId ∈ nodes, nodeId < 2 ^ 16) (fits : nodeId < 2 ^ 16)
    (more : ∀ other, other ∈ others ↔ other = nodeId ∨ other ∈ nodes) :
    homeNode hashed others = homeNode hashed nodes ∨ homeNode hashed others = some nodeId := by
  have smaller : ∀ other ∈ others, other < 2 ^ 16 := by
    intro other listed
    obtain rfl | before := (more other).mp listed
    · exact fits
    · exact small other before
  obtain ⟨best, home, listed, most⟩ :=
    homeNode_of_ne_nil hashed (List.ne_nil_of_mem ((more nodeId).mpr (.inl rfl)))
  obtain rfl | before := (more best).mp listed
  · exact .inr home
  · refine .inl (home.trans ((homeNode_eq_some_iff small).mpr ⟨before, ?_⟩).symm)
    exact fun other among => most other ((more other).mpr (.inr among))

namespace View

variable {view other : View} {realm : RealmId} {destId : Nat}

/-- Nodes that see the same nodes, and any at all, agree on the node of every home, and on the
worker there if they count as many workers. -/
theorem home_congr (affinity : view.strategy = .affinity) (also : other.strategy = .affinity)
    (given : view.nodes ≠ []) (small : ∀ nodeId ∈ view.nodes, nodeId < 2 ^ 16)
    (same : ∀ nodeId, nodeId ∈ view.nodes ↔ nodeId ∈ other.nodes) :
    (view.home realm destId).map Location.nodeId = (other.home realm destId).map Location.nodeId ∧
      (view.workerCount = other.workerCount →
        view.home realm destId = other.home realm destId) := by
  obtain ⟨home, found, -⟩ := homeNode_of_ne_nil (key realm destId) given
  have found' := (homeNode_congr (key realm destId) small same).symm.trans found
  simp only [View.home, affinity, also, reduceCtorEq, if_false, found, found', Option.getD_some,
    Option.map_some, true_and]
  intro workers
  rw [workers]

/-- A destination is looked for at one place for each home. -/
theorem candidates_nodup (view : View) (realm : RealmId) (destId : Nat) :
    (view.candidates realm destId).Nodup := by
  unfold candidates
  cases strategy : view.strategy with
  | broadcast => simp [View.home, strategy]
  | affinity =>
      simp only [View.home, strategy, reduceCtorEq, if_false]
      cases moved : view.previousHomeNode realm destId with
      | none => simp
      | some previous =>
          have different : previous ≠ (homeNode (key realm destId) view.nodes).getD
              view.self.nodeId := by
            unfold previousHomeNode at moved
            split at moved
            · cases moved
            dsimp only at moved
            split at moved
            · cases moved
            split at moved
            · cases moved
            · rename_i different
              exact Option.some.inj moved ▸ different
          simp [Ne.symm different]

end View

/-- Where a destination belongs, whoever asks and whichever nodes come and go. With at least one
node in view all who see the same nodes agree; the nodes that are looked at are the home and, as
long as the previous view is kept, the home under it. -/
theorem homes_are_stable (realm : RealmId) (destId : Nat) (nodes : List Nat)
    (small : ∀ nodeId ∈ nodes, nodeId < 2 ^ 16) :
    (∀ others : List Nat, (∀ nodeId, nodeId ∈ nodes ↔ nodeId ∈ others) →
      homeNode (key realm destId) others = homeNode (key realm destId) nodes ∧
      (nodes ≠ [] → ∀ view other : View, view.strategy = .affinity → other.strategy = .affinity →
        view.nodes = nodes → other.nodes = others →
        (view.home realm destId).map Location.nodeId =
            (other.home realm destId).map Location.nodeId ∧
          (view.workerCount = other.workerCount →
            view.home realm destId = other.home realm destId))) ∧
    (∀ (nodeId : Nat) (others : List Nat),
      (∀ other, other ∈ others ↔ other ∈ nodes ∧ other ≠ nodeId) →
      homeNode (key realm destId) nodes ≠ some nodeId →
      homeNode (key realm destId) others = homeNode (key realm destId) nodes) ∧
    (∀ nodeId < 2 ^ 16, ∀ others : List Nat,
      (∀ other, other ∈ others ↔ other = nodeId ∨ other ∈ nodes) →
      homeNode (key realm destId) others = homeNode (key realm destId) nodes ∨
        homeNode (key realm destId) others = some nodeId) ∧
    ∀ view : View, view.nodes = nodes →
      (view.candidates realm destId).Nodup ∧
      ∀ home, home ∈ view.candidates realm destId ↔ view.home realm destId = some home ∨
        view.prevNodes ≠ [] ∧ view.homeUnder realm destId view.prevNodes = some home := by
  refine ⟨fun others same => ⟨(homeNode_congr _ small same).symm, ?_⟩,
    fun nodeId others less elsewhere => homeNode_without small less elsewhere,
    fun nodeId fits others more => homeNode_with small fits more,
    fun view _ => ⟨view.candidates_nodup realm destId, fun _ => View.mem_candidates⟩⟩
  rintro given view other affinity also rfl rfl
  exact View.home_congr affinity also given small same

theorem homes_are_stable_three :
    (∀ nodeId ∈ [1, 2, 3], nodeId < 2 ^ 16) ∧
      homeNode (key 7 123) [3, 1, 2, 1] = homeNode (key 7 123) [1, 2, 3] := by
  have small : ∀ nodeId ∈ [1, 2, 3], nodeId < 2 ^ 16 := by decide
  exact ⟨small, ((homes_are_stable 7 123 [1, 2, 3] small).1 [3, 1, 2, 1] (by
    intro nodeId
    simp only [List.mem_cons, List.not_mem_nil, or_false]
    omega)).1⟩

/-- Two nodes that see nobody both take the destination for their own. -/
theorem empty_views_disagree :
    let view (nodeId : Nat) : View := {
      strategy := .affinity
      self := { nodeId := nodeId, workerId := 0 }
      workerCount := 1 }
    (∀ nodeId, nodeId ∈ (view 1).nodes ↔ nodeId ∈ (view 9).nodes) ∧
      (view 1).home 0 42 = some { nodeId := 1, workerId := 0 } ∧
      (view 9).home 0 42 = some { nodeId := 9, workerId := 0 } :=
  ⟨fun _ => Iff.rfl, rfl, rfl⟩

end LyuneGateway.Foundation.Placement
