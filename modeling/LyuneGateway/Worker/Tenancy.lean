import LyuneGateway.Worker.Address

/-!
# Who is in a slot

Handles and tokens name a connection by its slot and by a generation that has
sixteen bits. As long as the slot has not had that many other connections since,
the name stands for the one connection that it was given to.
-/

namespace LyuneGateway.Worker

open Foundation Session

namespace ConnectionManager

variable {manager after : ConnectionManager}

/-- What all names of a manager have in common. -/
def identity (manager : ConnectionManager) : Nat × Nat × Nat :=
  (manager.nodeId, manager.workerId, manager.incarnation)

theorem releaseSlot_frame {slot : Nat} {ctx : ConnectionContext}
    (found : manager.context slot = some ctx) :
    (manager.releaseSlot slot).identity = manager.identity ∧
      (manager.releaseSlot slot).capacity = manager.capacity ∧
      ∀ other, ((manager.releaseSlot slot).slots other).generation =
        (manager.slots other).generation := by
  refine ⟨?_, by simp [releaseSlot, found, leaveAllGroups], fun other => ?_⟩
  · have unbound : (manager.unbindDest slot).identity = manager.identity := by
      unfold unbindDest
      simp only [found]
      split
      · rfl
      · rfl
    simpa [releaseSlot, found, leaveAllGroups, identity] using unbound
  · unfold releaseSlot
    simp only [found, leaveAllGroups]
    by_cases here : other = slot
    · subst here
      simp
    · simp [here]

theorem addSession_frame {transport : TransportSession} {realm : RealmId} {peerNode : Bool}
    {now : Nat} {handle : SessionHandle}
    (added : manager.addSession transport realm peerNode now = .ok (handle, after)) :
    after.identity = manager.identity ∧
      (after.slots handle.slot).generation =
        ((manager.slots handle.slot).generation + 1) % 2 ^ 16 := by
  unfold addSession at added
  split at added
  · cases added
  split at added
  · cases added
  · cases added
    exact ⟨rfl, by simp⟩

/-- A handle finds what lives in its slot with its generation. -/
theorem getByHandle_eq (indexed : manager.Indexed) (handle : SessionHandle) :
    manager.getByHandle handle =
      if (manager.slots handle.slot).generation = handle.generation then
        manager.context handle.slot
      else none := by
  unfold getByHandle
  cases found : manager.context handle.slot with
  | none => simp [slotFor, found]
  | some ctx =>
      have below := (indexed.handle handle.slot ctx found).1
      by_cases same : (manager.slots handle.slot).generation = handle.generation
      · simp [slotFor, found, same, not_le.mpr below]
      · simp [slotFor, found, same]

/-- A token is known exactly when it is the token of a connection that lives in its slot. -/
theorem byToken_eq_some (indexed : manager.Indexed) {token : ConnToken} {slot : Nat} :
    manager.byToken token = some slot ↔
      ∃ ctx, manager.context slot = some ctx ∧
        manager.tokenFor ctx.sessionHandle = some token := by
  constructor
  · intro known
    unfold byToken at known
    split at known
    · cases known
    rename_i ours
    simp only [not_or, not_not] at ours
    obtain ⟨node, worker, incarnation⟩ := ours
    obtain ⟨rfl, same, ctx, found⟩ := slotFor_eq_some known
    refine ⟨ctx, found, ?_⟩
    obtain ⟨-, handle⟩ := indexed.handle _ ctx found
    unfold tokenFor
    rw [handle, getByHandle_eq indexed, if_pos rfl, found]
    simp only [Option.map_some, Option.some.injEq, handle, same]
    rw [← node, ← worker, ← incarnation]
  · rintro ⟨ctx, found, named⟩
    obtain ⟨below, handle⟩ := indexed.handle slot ctx found
    unfold tokenFor at named
    rw [handle, getByHandle_eq indexed, if_pos rfl, found] at named
    simp only [Option.map_some, Option.some.injEq, handle] at named
    subst named
    have live := indexed.slotFor found
    rw [handle] at live
    simpa [byToken] using live

end ConnectionManager

/-- The connections, the index from the pointers of QUIC connections to slots, and what a reader
would note beside them: the number of the connection in each slot, how many the slot has had, and
how many there have been. -/
structure Tenancy where
  conns : ConnectionManager
  callbackIndex : Table Nat Nat := ∅
  tenant : Nat → Option Nat := fun _ => none
  visits : Nat → Nat := fun _ => 0
  born : Nat := 0

namespace Tenancy

variable {tenancy : Tenancy} {slot number : Nat} {ctx : ConnectionContext}

inductive Command where
  | addSession (transport : TransportSession) (realm : RealmId) (peerNode : Bool) (now : Nat)
  | remove (ptr : Nat)
  | removeSession (handle : SessionHandle)

def init (maxConnections nodeId workerId incarnation : Nat) : Tenancy where
  conns := .init maxConnections nodeId workerId incarnation

def addSession (tenancy : Tenancy) (transport : TransportSession) (realm : RealmId)
    (peerNode : Bool) (now : Nat) : Tenancy :=
  match tenancy.conns.addSession transport realm peerNode now with
  | .error _ => tenancy
  | .ok (handle, conns) => {
      conns := conns
      callbackIndex := match transport.callbackKey with
        | none => tenancy.callbackIndex
        | some key => tenancy.callbackIndex.insert key handle.slot
      tenant := Function.update tenancy.tenant handle.slot (some tenancy.born)
      visits := Function.update tenancy.visits handle.slot (tenancy.visits handle.slot + 1)
      born := tenancy.born + 1 }

def releaseSlot (tenancy : Tenancy) (slot : Nat) : Tenancy :=
  { tenancy with
    conns := tenancy.conns.releaseSlot slot
    tenant := Function.update tenancy.tenant slot none }

/-- A QUIC connection is gone. -/
def remove (tenancy : Tenancy) (ptr : Nat) : Tenancy :=
  match tenancy.callbackIndex.lookup ptr with
  | none => tenancy
  | some slot => { tenancy with callbackIndex := tenancy.callbackIndex.erase ptr }.releaseSlot slot

def removeSession (tenancy : Tenancy) (handle : SessionHandle) : Tenancy :=
  match tenancy.conns.getByHandle handle with
  | none => tenancy
  | some ctx => { tenancy with
      callbackIndex := match ctx.transport.callbackKey with
        | none => tenancy.callbackIndex
        | some key => tenancy.callbackIndex.erase key }.releaseSlot handle.slot

def step (tenancy : Tenancy) : Command → Tenancy
  | .addSession transport realm peerNode now => tenancy.addSession transport realm peerNode now
  | .remove ptr => tenancy.remove ptr
  | .removeSession handle => tenancy.removeSession handle

def run (tenancy : Tenancy) (commands : List Command) : Tenancy := Run.final step tenancy commands

/-- What holds between the operations. A pointer in the index is that of the connection in the
slot. -/
structure Housed (tenancy : Tenancy) : Prop where
  indexed : tenancy.conns.Indexed
  generation : ∀ slot, (tenancy.conns.slots slot).generation = tenancy.visits slot % 2 ^ 16
  tenant : ∀ slot, (tenancy.tenant slot).isSome = (tenancy.conns.context slot).isSome
  numbers : ∀ slot number, tenancy.tenant slot = some number → number < tenancy.born
  pointers : ∀ ptr slot, tenancy.callbackIndex.lookup ptr = some slot →
    ∃ ctx, tenancy.conns.context slot = some ctx ∧ ctx.transport.callbackKey = some ptr

namespace Housed

theorem init (maxConnections nodeId workerId incarnation : Nat) :
    (Tenancy.init maxConnections nodeId workerId incarnation).Housed where
  indexed := .init _ _ _ _
  generation := fun _ => rfl
  tenant := fun _ => rfl
  numbers := nofun
  pointers := nofun

/-- What a successful `addSession` leaves behind. -/
theorem addSession (housed : tenancy.Housed) (transport : TransportSession) (realm : RealmId)
    (peerNode : Bool) (now : Nat) : (tenancy.addSession transport realm peerNode now).Housed := by
  unfold Tenancy.addSession
  split
  · exact housed
  rename_i handle conns added
  obtain ⟨slot, rest, free, -, named, holds, others, -⟩ :=
    ConnectionManager.addSession_eq_ok added
  obtain ⟨-, generation⟩ := ConnectionManager.addSession_frame added
  have here : handle.slot = slot := by rw [named]
  obtain ⟨unused, -⟩ := housed.indexed.free slot (free ▸ List.mem_cons_self)
  subst here
  constructor
  · exact housed.indexed.addSession added
  · intro other
    by_cases same : other = handle.slot
    · subst same
      simp only [Function.update_self, generation, housed.generation]
      omega
    · simp only [Function.update_of_ne same, others other same, housed.generation]
  · intro other
    simp only [holds]
    by_cases same : other = handle.slot
    · subst same
      simp
    · simp only [Function.update_of_ne same, housed.tenant]
  · intro other number found
    by_cases same : other = handle.slot
    · subst same
      simp only [Function.update_self, Option.some.injEq] at found
      exact found ▸ Nat.lt_succ_self _
    · simp only [Function.update_of_ne same] at found
      exact Nat.lt_succ_of_lt (housed.numbers other number found)
  · intro ptr other found
    simp only [holds]
    have old (before : tenancy.callbackIndex.lookup ptr = some other) :
        ∃ ctx, Function.update tenancy.conns.context handle.slot (some {
          sessionHandle := handle
          transport := transport
          realm := realm
          peerNode := peerNode
          connectedAt := now }) other = some ctx ∧ ctx.transport.callbackKey = some ptr := by
      obtain ⟨ctx, held, key⟩ := housed.pointers ptr other before
      have different : other ≠ handle.slot := by
        rintro rfl
        rw [unused] at held
        cases held
      exact ⟨ctx, (Function.update_of_ne different _ _).trans held, key⟩
    cases key : transport.callbackKey with
    | none =>
        simp only [key] at found
        exact old found
    | some own =>
        simp only [key] at found
        obtain ⟨rfl, rfl⟩ | ⟨-, before⟩ := Table.lookup_insert_cases found
        · exact ⟨_, Function.update_self _ _ _, key⟩
        · exact old before

/-- A slot is given back when no pointer leads to it any more. -/
theorem releaseSlot (housed : tenancy.Housed) (found : tenancy.conns.context slot = some ctx)
    {index : Table Nat Nat}
    (left : ∀ ptr other, index.lookup ptr = some other →
      tenancy.callbackIndex.lookup ptr = some other ∧ ctx.transport.callbackKey ≠ some ptr) :
    (Tenancy.releaseSlot { tenancy with callbackIndex := index } slot).Housed := by
  obtain ⟨-, -, generation⟩ := ConnectionManager.releaseSlot_frame found
  have holds := ConnectionManager.context_releaseSlot found
  constructor
  · exact housed.indexed.releaseSlot slot
  · intro other
    exact (generation other).trans (housed.generation other)
  · intro other
    simp only [Tenancy.releaseSlot, holds]
    by_cases same : other = slot
    · subst same
      simp
    · simp only [Function.update_of_ne same, housed.tenant]
  · intro other number held
    simp only [Tenancy.releaseSlot] at held
    by_cases same : other = slot
    · rw [same, Function.update_self] at held
      cases held
    · rw [Function.update_of_ne same] at held
      exact housed.numbers other number held
  · intro ptr other known
    obtain ⟨before, own⟩ := left ptr other known
    obtain ⟨held, live, key⟩ := housed.pointers ptr other before
    have different : other ≠ slot := by
      rintro rfl
      rw [found, Option.some.injEq] at live
      exact own (live ▸ key)
    refine ⟨held, ?_, key⟩
    simp only [Tenancy.releaseSlot, holds, Function.update_of_ne different, live]

theorem remove (housed : tenancy.Housed) (ptr : Nat) : (tenancy.remove ptr).Housed := by
  unfold Tenancy.remove
  split
  · exact housed
  rename_i slot known
  obtain ⟨ctx, found, key⟩ := housed.pointers ptr slot known
  refine housed.releaseSlot found fun other place left => ?_
  obtain ⟨different, before⟩ := Table.lookup_erase_eq_some.mp left
  exact ⟨before, fun same => different (Option.some.inj (same.symm.trans key))⟩

theorem removeSession (housed : tenancy.Housed) (handle : SessionHandle) :
    (tenancy.removeSession handle).Housed := by
  unfold Tenancy.removeSession
  split
  · exact housed
  rename_i ctx named
  have found : tenancy.conns.context handle.slot = some ctx := by
    rw [ConnectionManager.getByHandle_eq housed.indexed] at named
    split at named
    · exact named
    · cases named
  apply housed.releaseSlot found
  intro ptr place left
  cases key : ctx.transport.callbackKey with
  | none =>
      simp only [key] at left
      exact ⟨left, nofun⟩
  | some own =>
      simp only [key] at left
      obtain ⟨different, before⟩ := Table.lookup_erase_eq_some.mp left
      exact ⟨before, fun same => different (Option.some.inj same).symm⟩

theorem step (housed : tenancy.Housed) (command : Command) : (tenancy.step command).Housed := by
  cases command with
  | addSession transport realm peerNode now => exact housed.addSession transport realm peerNode now
  | remove ptr => exact housed.remove ptr
  | removeSession handle => exact housed.removeSession handle

theorem run (housed : tenancy.Housed) (commands : List Command) : (tenancy.run commands).Housed :=
  @Run.invariant _ _ Tenancy.step (fun _ _ => True) Housed
    (fun _ command housed _ => housed.step command) _ _ housed
    (Run.meets_of_forall (fun _ _ _ => trivial) _)

end Housed

/-- What is known of a connection from its beginning on: it is in its slot, unchanged, until it
leaves, which it does for good. -/
structure Tracks (slot number visit : Nat) (ctx : ConnectionContext) (tenancy : Tenancy) :
    Prop where
  before : number < tenancy.born
  since : visit ≤ tenancy.visits slot
  alive : tenancy.tenant slot = some number ↔
    tenancy.visits slot = visit ∧ (tenancy.conns.context slot).isSome = true
  kept : tenancy.tenant slot = some number → tenancy.conns.context slot = some ctx

namespace Tracks

variable {visit : Nat}

theorem addSession (tracks : Tracks slot number visit ctx tenancy)
    (transport : TransportSession) (realm : RealmId) (peerNode : Bool) (now : Nat) :
    Tracks slot number visit ctx (tenancy.addSession transport realm peerNode now) := by
  unfold Tenancy.addSession
  split
  · exact tracks
  rename_i handle conns added
  obtain ⟨own, rest, free, -, named, holds, -⟩ := ConnectionManager.addSession_eq_ok added
  have here : handle.slot = own := by rw [named]
  subst here
  refine ⟨Nat.lt_succ_of_lt tracks.before, ?_, ?_, ?_⟩
  · by_cases same : slot = handle.slot
    · subst same
      simp only [Function.update_self]
      exact Nat.le_succ_of_le tracks.since
    · simpa only [Function.update_of_ne same] using tracks.since
  · by_cases same : slot = handle.slot
    · subst same
      have old := tracks.before
      have visited := tracks.since
      simp only [Function.update_self, Option.some.injEq]
      omega
    · simpa only [holds, Function.update_of_ne same] using tracks.alive
  · intro alive
    by_cases same : slot = handle.slot
    · subst same
      simp only [Function.update_self, Option.some.injEq] at alive
      exact absurd tracks.before (by omega)
    · simp only [Function.update_of_ne same] at alive
      simpa only [holds, Function.update_of_ne same] using tracks.kept alive

theorem releaseSlot (tracks : Tracks slot number visit ctx tenancy) {other : Nat}
    {old : ConnectionContext} (found : tenancy.conns.context other = some old)
    (index : Table Nat Nat) :
    Tracks slot number visit ctx
      (Tenancy.releaseSlot { tenancy with callbackIndex := index } other) := by
  have holds := ConnectionManager.context_releaseSlot found
  refine ⟨tracks.before, tracks.since, ?_, ?_⟩
  · simp only [Tenancy.releaseSlot, holds]
    by_cases same : slot = other
    · subst same
      simp
    · simpa only [Function.update_of_ne same] using tracks.alive
  · simp only [Tenancy.releaseSlot, holds]
    by_cases same : slot = other
    · subst same
      simp
    · simpa only [Function.update_of_ne same] using tracks.kept

theorem step (housed : tenancy.Housed) (tracks : Tracks slot number visit ctx tenancy)
    (command : Command) : Tracks slot number visit ctx (tenancy.step command) := by
  cases command with
  | addSession transport realm peerNode now =>
      exact tracks.addSession transport realm peerNode now
  | remove ptr =>
      simp only [Tenancy.step, Tenancy.remove]
      split
      · exact tracks
      · rename_i own known
        obtain ⟨old, found, -⟩ := housed.pointers ptr own known
        exact tracks.releaseSlot found _
  | removeSession handle =>
      simp only [Tenancy.step, Tenancy.removeSession]
      split
      · exact tracks
      · rename_i old named
        rw [ConnectionManager.getByHandle_eq housed.indexed] at named
        split at named
        · exact tracks.releaseSlot named _
        · cases named

theorem run (housed : tenancy.Housed) (tracks : Tracks slot number visit ctx tenancy)
    (commands : List Command) : Tracks slot number visit ctx (tenancy.run commands) := by
  induction commands generalizing tenancy with
  | nil => exact tracks
  | cons command commands ih => exact ih (housed.step command) (tracks.step housed command)

/-- A connection that has left does not come back. -/
theorem gone (housed : tenancy.Housed) (tracks : Tracks slot number visit ctx tenancy)
    (left : tenancy.tenant slot ≠ some number) (commands : List Command) :
    (tenancy.run commands).tenant slot ≠ some number := by
  have stays (tenancy : Tenancy) (command : Command)
      (before : number < tenancy.born) (left : tenancy.tenant slot ≠ some number) :
      (tenancy.step command).tenant slot ≠ some number := by
    have released (other : Nat) (index : Table Nat Nat) :
        (Tenancy.releaseSlot { tenancy with callbackIndex := index } other).tenant slot ≠
          some number := by
      by_cases same : slot = other
      · subst same
        simp [Tenancy.releaseSlot]
      · simpa [Tenancy.releaseSlot, same] using left
    cases command with
    | addSession transport realm peerNode now =>
        simp only [Tenancy.step, Tenancy.addSession]
        split
        · exact left
        · rename_i handle conns added
          by_cases same : slot = handle.slot
          · subst same
            simp only [Function.update_self, ne_eq, Option.some.injEq]
            omega
          · simpa [same] using left
    | remove ptr =>
        simp only [Tenancy.step, Tenancy.remove]
        split
        · exact left
        · exact released _ _
    | removeSession handle =>
        simp only [Tenancy.step, Tenancy.removeSession]
        split
        · exact left
        · exact released _ _
  induction commands generalizing tenancy with
  | nil => exact left
  | cons command commands ih =>
      exact ih (housed.step command) (tracks.step housed command)
        (stays tenancy command tracks.before left)

end Tracks

theorem identity_step (housed : tenancy.Housed) (command : Command) :
    (tenancy.step command).conns.identity = tenancy.conns.identity := by
  cases command with
  | addSession transport realm peerNode now =>
      simp only [step, addSession]
      split
      · rfl
      · rename_i added
        exact (ConnectionManager.addSession_frame added).1
  | remove ptr =>
      simp only [step, remove]
      split
      · rfl
      · rename_i own known
        obtain ⟨ctx, found, -⟩ := housed.pointers ptr own known
        exact (ConnectionManager.releaseSlot_frame found).1
  | removeSession handle =>
      simp only [step, removeSession]
      split
      · rfl
      · rename_i ctx named
        rw [ConnectionManager.getByHandle_eq housed.indexed] at named
        split at named
        · exact (ConnectionManager.releaseSlot_frame named).1
        · cases named

theorem identity_run (housed : tenancy.Housed) (commands : List Command) :
    (tenancy.run commands).conns.identity = tenancy.conns.identity := by
  induction commands generalizing tenancy with
  | nil => rfl
  | cons command commands ih =>
      exact (ih (housed.step command)).trans (identity_step housed command)

/-- A connection that has just begun. -/
def newcomer (transport : TransportSession) (realm : RealmId) (peerNode : Bool) (now : Nat)
    (handle : SessionHandle) : ConnectionContext where
  sessionHandle := handle
  transport := transport
  realm := realm
  peerNode := peerNode
  connectedAt := now

/-- The names of a connection that are in use, and all others. -/
structure Fresh (tenancy : Tenancy) (handle : SessionHandle) (token : ConnToken) (number : Nat)
    (ctx : ConnectionContext) : Prop where
  byHandle : tenancy.conns.getByHandle handle =
    if tenancy.tenant handle.slot = some number then some ctx else none
  byToken : tenancy.conns.byToken token =
    if tenancy.tenant handle.slot = some number then some handle.slot else none
  ended : tenancy.tenant handle.slot ≠ some number →
    ∀ more, (tenancy.run more).tenant handle.slot ≠ some number
  foreign : ∀ other, (other.nodeId, other.workerId, other.incarnation) ≠
    (token.nodeId, token.workerId, token.incarnation) → tenancy.conns.byToken other = none
  outdated : ∀ other, other.generation ≠ (tenancy.conns.slots other.slot).generation →
    tenancy.conns.byToken other = none
  owner : ∀ other slot, tenancy.conns.byToken other = some slot ↔
    ∃ held, tenancy.conns.context slot = some held ∧
      tenancy.conns.tokenFor held.sessionHandle = some other
  distinct : ∀ slot other first second shared, tenancy.conns.context slot = some first →
    tenancy.conns.context other = some second →
    tenancy.conns.tokenFor first.sessionHandle = some shared →
    tenancy.conns.tokenFor second.sessionHandle = some shared → slot = other

/-- A connection that begins is tracked from then on. -/
theorem tracks_addSession (housed : tenancy.Housed) {transport : TransportSession}
    {realm : RealmId} {peerNode : Bool} {now : Nat} {handle : SessionHandle}
    {conns : ConnectionManager}
    (added : tenancy.conns.addSession transport realm peerNode now = .ok (handle, conns)) :
    Tracks handle.slot tenancy.born (tenancy.visits handle.slot + 1)
        (newcomer transport realm peerNode now handle)
        (tenancy.addSession transport realm peerNode now) ∧
      handle.generation = (tenancy.visits handle.slot + 1) % 2 ^ 16 := by
  obtain ⟨slot, rest, free, -, named, holds, -⟩ := ConnectionManager.addSession_eq_ok added
  obtain ⟨-, generation⟩ := ConnectionManager.addSession_frame added
  have here : handle.slot = slot := by rw [named]
  subst here
  have numbered : handle.generation = (conns.slots handle.slot).generation :=
    congrArg SessionHandle.generation named
  constructor
  · unfold addSession
    rw [added]
    refine ⟨Nat.lt_succ_self _, ?_, ?_, ?_⟩
    · simp
    · simp [holds]
    · simp [holds, newcomer]
  · rw [numbered, generation, housed.generation]
    omega

namespace Tracks

variable {visit : Nat} {handle : SessionHandle}

/-- A handle finds its connection, or nothing, until its generation comes round again. -/
theorem getByHandle (housed : tenancy.Housed) (tracks : Tracks handle.slot number visit ctx tenancy)
    (generation : handle.generation = visit % 2 ^ 16)
    (recent : tenancy.visits handle.slot < visit + 65536) :
    tenancy.conns.getByHandle handle =
      if tenancy.tenant handle.slot = some number then some ctx else none := by
  rw [ConnectionManager.getByHandle_eq housed.indexed, housed.generation, generation]
  by_cases alive : tenancy.tenant handle.slot = some number
  · rw [if_pos alive, (tracks.alive.mp alive).1, if_pos rfl, tracks.kept alive]
  · rw [if_neg alive]
    have since := tracks.since
    split
    · rename_i same
      have visits : tenancy.visits handle.slot = visit := by omega
      by_contra live
      exact alive (tracks.alive.mpr ⟨visits, Option.isSome_iff_ne_none.mpr live⟩)
    · rfl

end Tracks

/-- The slot that a handle leads to, when it leads to a connection. -/
theorem slotFor_eq (conns : ConnectionManager) (handle : SessionHandle) :
    conns.slotFor handle = (conns.getByHandle handle).map fun _ => handle.slot := by
  unfold ConnectionManager.getByHandle
  cases found : conns.slotFor handle with
  | none => rfl
  | some slot =>
      obtain ⟨rfl, -, ctx, live⟩ := ConnectionManager.slotFor_eq_some found
      simp [live]

theorem identity_of_token {conns : ConnectionManager} {handle : SessionHandle} {token : ConnToken}
    (given : conns.tokenFor handle = some token) :
    (token.nodeId, token.workerId, token.incarnation) = conns.identity := by
  obtain ⟨held, -, rfl⟩ := Option.map_eq_some_iff.mp given
  rfl

theorem byToken_of_foreign {conns : ConnectionManager} {token : ConnToken}
    (foreign : (token.nodeId, token.workerId, token.incarnation) ≠ conns.identity) :
    conns.byToken token = none := by
  unfold ConnectionManager.byToken
  refine if_pos ?_
  by_contra same
  simp only [not_or, not_not] at same
  exact foreign (by rw [ConnectionManager.identity, same.1, same.2.1, same.2.2])

theorem byToken_of_outdated {conns : ConnectionManager} {token : ConnToken}
    (outdated : token.generation ≠ (conns.slots token.slot).generation) :
    conns.byToken token = none := by
  cases known : conns.byToken token with
  | none => rfl
  | some slot =>
      unfold ConnectionManager.byToken at known
      split at known
      · cases known
      · obtain ⟨rfl, same, -⟩ := ConnectionManager.slotFor_eq_some known
        exact absurd same.symm outdated

/-- While a slot has had fewer than 65536 other connections since, the names of a connection find
it, and only it, as long as it lives. -/
theorem names_stay_fresh (maxConnections nodeId workerId incarnation : Nat)
    (earlier later : List Command) {transport : TransportSession} {realm : RealmId}
    {peerNode : Bool} {now : Nat} {handle : SessionHandle} {conns : ConnectionManager}
    {token : ConnToken}
    (issued : ((init maxConnections nodeId workerId incarnation).run earlier).conns.addSession
      transport realm peerNode now = .ok (handle, conns))
    (given : conns.tokenFor handle = some token)
    (recent : ((init maxConnections nodeId workerId incarnation).run
        (earlier ++ .addSession transport realm peerNode now :: later)).visits handle.slot <
      ((init maxConnections nodeId workerId incarnation).run earlier).visits handle.slot + 1 +
        65536) :
    Fresh ((init maxConnections nodeId workerId incarnation).run
        (earlier ++ .addSession transport realm peerNode now :: later)) handle token
      ((init maxConnections nodeId workerId incarnation).run earlier).born
      (newcomer transport realm peerNode now handle) := by
  generalize startEq : (init maxConnections nodeId workerId incarnation).run earlier = start
    at issued recent ⊢
  have housed : start.Housed := startEq ▸ (Housed.init _ _ _ _).run earlier
  have runs : (init maxConnections nodeId workerId incarnation).run
      (earlier ++ .addSession transport realm peerNode now :: later) =
      (start.addSession transport realm peerNode now).run later := by
    rw [← startEq]
    exact Run.final_append _ _ _
  rw [runs] at recent ⊢
  obtain ⟨begun, generation⟩ := tracks_addSession housed issued
  have settled := housed.addSession transport realm peerNode now
  have conns_eq : (start.addSession transport realm peerNode now).conns = conns := by
    simp only [addSession, issued]
  have tracks := begun.run settled later
  have current := settled.run later
  have identity := identity_run settled later
  rw [conns_eq] at identity
  generalize (start.addSession transport realm peerNode now).run later = tenancy
    at recent tracks current identity ⊢
  have byHandle := tracks.getByHandle current generation recent
  have named : token = {
      nodeId := tenancy.conns.nodeId
      workerId := tenancy.conns.workerId
      slot := handle.slot
      generation := handle.generation
      incarnation := tenancy.conns.incarnation } := by
    have held := begun.getByHandle settled generation (by simp [addSession, issued])
    rw [conns_eq, if_pos (by simp [addSession, issued])] at held
    have own := (Option.map_eq_some_iff.mp given)
    rw [held] at own
    obtain ⟨_, ⟨⟩, rfl⟩ := own
    simp only [ConnectionManager.identity, Prod.mk.injEq] at identity
    obtain ⟨node, worker, incarnation⟩ := identity
    rw [node, worker, incarnation]
    rfl
  have known : tenancy.conns.byToken token = tenancy.conns.slotFor handle := by
    rw [named]
    simp [ConnectionManager.byToken]
  constructor
  · exact byHandle
  · rw [known, slotFor_eq, byHandle]
    split
    · rfl
    · rfl
  · exact tracks.gone current
  · intro other foreign
    exact byToken_of_foreign ((identity_of_token given).trans identity.symm ▸ foreign)
  · exact fun other outdated => byToken_of_outdated outdated
  · exact fun other slot => ConnectionManager.byToken_eq_some current.indexed
  · intro slot other first second shared held also one two
    have here := (ConnectionManager.byToken_eq_some current.indexed).mpr ⟨first, held, one⟩
    have there := (ConnectionManager.byToken_eq_some current.indexed).mpr ⟨second, also, two⟩
    exact Option.some.inj (here.symm.trans there)

/-- A slot that is used again. -/
theorem names_stay_fresh_reused :
    Fresh ((init 2 1 0 7).run [.addSession ⟨.rawQuic, 5, 1⟩ 0 false 0, .remove 5,
        .addSession ⟨.rawQuic, 6, 1⟩ 0 false 0]) ⟨0, 1⟩ ⟨1, 0, 0, 1, 7⟩ 0
      (newcomer ⟨.rawQuic, 5, 1⟩ 0 false 0 ⟨0, 1⟩) :=
  names_stay_fresh 2 1 0 7 [] [.remove 5, .addSession ⟨.rawQuic, 6, 1⟩ 0 false 0]
    rfl rfl (by decide)

end Tenancy

end LyuneGateway.Worker
