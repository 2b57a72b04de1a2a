import LyuneGateway.Worker.Redirect

/-!
# The sweep for connections away from home

A pass of the sweep looks at a few connections and goes on from there in the
next one. Whatever the cursor, every connection has its turn.
-/

namespace LyuneGateway.Worker

open Foundation Io Protocol Session

namespace ConnectionManager

variable {manager : ConnectionManager} {slot cursor next : Nat}

theorem nextLive_of_ahead (live : (manager.context slot).isSome = true)
    (bounded : slot < manager.capacity) (ahead : cursor ≤ slot) :
    ∃ next, manager.nextLive cursor = some next ∧ cursor ≤ next ∧ next ≤ slot := by
  have within : slot < cursor + (manager.capacity - cursor) := by omega
  cases found : manager.nextLive cursor with
  | none =>
      have dead := List.find?_range'_eq_none.mp found slot ahead within
      simp [live] at dead
  | some next =>
      obtain ⟨-, listed, first⟩ := List.find?_range'_eq_some.mp found
      have after := (List.mem_range'_1.mp listed).1
      refine ⟨next, rfl, after, ?_⟩
      by_contra later
      simpa [live] using first slot ahead (by omega)

theorem nextLive_bound (found : manager.nextLive cursor = some next) :
    cursor ≤ next ∧ next < manager.capacity := by
  obtain ⟨-, listed, -⟩ := List.find?_range'_eq_some.mp found
  have bounds := List.mem_range'_1.mp listed
  omega

end ConnectionManager

namespace GatewayWorker

variable {worker middle after : GatewayWorker} {slot cursor client : Nat}

/-- The connections are where they were, the worker has been told nothing, and the log has
grown. -/
structure Looks (worker after : GatewayWorker) : Prop where
  addressing : after.conns.addressing = worker.conns.addressing
  setting : after.setting = worker.setting
  log : Grows (fun _ => True) worker after

namespace Looks

theorem refl : Looks worker worker := ⟨rfl, rfl, .refl⟩

theorem trans (first : Looks worker middle) (second : Looks middle after) :
    Looks worker after where
  addressing := second.addressing.trans first.addressing
  setting := second.setting.trans first.setting
  log := first.log.trans second.log

theorem of_undisturbed (same : after.conns.addressing = worker.conns.addressing)
    (calm : Undisturbed worker after) : Looks worker after where
  addressing := same
  setting := setting_of_standing calm.standing
  log := calm.log.mono fun _ _ => trivial

theorem of_via (via : Via (fun op => ∀ worker, Looks worker (op.apply worker)) worker after) :
    Looks worker after :=
  @Run.Reaches.invariant _ _ _ _ _ _ (fun other => Looks worker other)
    (fun other _ sofar looks => sofar.trans (looks other)) via .refl

theorem rehome (slot : Nat) : Looks worker (worker.rehome slot) := by
  refine of_via (rehome_via ⟨?_, ?_⟩ ?_)
  · exact fun client streamId data after =>
      .of_undisturbed rfl (.writeClient client streamId data true .backend)
  · exact fun data after =>
      .of_undisturbed (addressing_openClient slot data true .gateway)
        (.openClient slot data true .gateway)
  · exact fun ctx _ _ _ _ after => ⟨rfl, rfl, .record trivial⟩

theorem sweep (checks cursor : Nat) :
    Looks worker (sweep GatewayWorker.rehome checks cursor worker).2 := by
  induction checks generalizing cursor worker with
  | zero => exact .refl
  | succ checks ih =>
      unfold GatewayWorker.sweep
      split
      · exact .refl
      · exact (rehome _).trans (ih _)

theorem live (looks : Looks worker after) {slot : Nat}
    (live : (worker.conns.context slot).isSome = true) :
    (after.conns.context slot).isSome = true := by
  have same := ConnectionManager.context_isNone_of_addressing looks.addressing slot
  cases held : after.conns.context slot with
  | none =>
      rw [held] at same
      simp [Option.isNone_iff_eq_none.mp same.symm] at live
  | some ctx => rfl

theorem capacity (looks : Looks worker after) : after.conns.capacity = worker.conns.capacity :=
  congrArg Addressing.capacity looks.addressing

end Looks

/-- A pass that begins at or before a connection comes to it, or nearer. -/
theorem sweep_ahead (checks : Nat) (live : (worker.conns.context slot).isSome = true)
    (bounded : slot < worker.conns.capacity) (ahead : cursor ≤ slot) :
    (∃ middle, Looks worker middle ∧
      Looks (middle.rehome slot) (sweep rehome (checks + 1) cursor worker).2) ∨
    cursor < (sweep rehome (checks + 1) cursor worker).1 ∧
      (sweep rehome (checks + 1) cursor worker).1 ≤ slot := by
  induction checks generalizing cursor worker with
  | zero =>
      obtain ⟨next, found, after, before⟩ :=
        ConnectionManager.nextLive_of_ahead live bounded ahead
      simp only [sweep, found]
      obtain rfl | earlier := Nat.eq_or_lt_of_le before
      · exact .inl ⟨worker, .refl, .refl⟩
      · exact .inr ⟨by omega, earlier⟩
  | succ checks ih =>
      obtain ⟨next, found, after, before⟩ :=
        ConnectionManager.nextLive_of_ahead live bounded ahead
      rw [sweep]
      simp only [found]
      obtain rfl | earlier := Nat.eq_or_lt_of_le before
      · exact .inl ⟨worker, .refl, .sweep _ _⟩
      have looks : Looks worker (worker.rehome next) := .rehome next
      obtain ⟨middle, reached, rest⟩ | ⟨further, still⟩ :=
        @ih (worker.rehome next) (next + 1) (looks.live live) (looks.capacity ▸ bounded) earlier
      · exact .inl ⟨middle, looks.trans reached, rest⟩
      · exact .inr ⟨by omega, still⟩

/-- A pass goes on, or back to the start. -/
theorem sweep_behind (checks : Nat) :
    (sweep rehome (checks + 1) cursor worker).1 = 0 ∨
    cursor < (sweep rehome (checks + 1) cursor worker).1 ∧
      (sweep rehome (checks + 1) cursor worker).1 ≤ worker.conns.capacity := by
  induction checks generalizing cursor worker with
  | zero =>
      unfold sweep
      split
      · exact .inl rfl
      · rename_i next found
        obtain ⟨after, before⟩ := ConnectionManager.nextLive_bound found
        exact .inr ⟨Nat.lt_succ_of_le after, before⟩
  | succ checks ih =>
      rw [sweep]
      split
      · exact .inl rfl
      rename_i next found
      obtain ⟨after, before⟩ := ConnectionManager.nextLive_bound found
      obtain start | ⟨further, within⟩ := @ih (worker.rehome next) (next + 1)
      · exact .inl start
      · rw [(Looks.rehome next).capacity] at within
        exact .inr ⟨by omega, within⟩

/-- The connection is a client's away from its home, which can be told where that is. -/
def Adrift (slot client : Nat) (worker : GatewayWorker) : Prop :=
  ∃ ctx, worker.context slot = some ctx ∧ ctx.transport.ptr = client ∧ ctx.peerNode = false ∧
    worker.redirects ctx.realm ctx.destId = true

theorem redirects_congr (same : after.setting = worker.setting) (realm : RealmId) (destId : Nat) :
    after.redirects realm destId = worker.redirects realm destId := by
  have placement : after.placement = worker.placement := congrArg Setting.placement same
  have addresses : after.addresses = worker.addresses := congrArg Setting.addresses same
  simp only [redirects, redirectTarget, placement, addresses]

theorem Adrift.looks (adrift : Adrift slot client worker) (looks : Looks worker after) :
    Adrift slot client after := by
  obtain ⟨ctx, found, same, own, leaves⟩ := adrift
  obtain ⟨kept, held, address⟩ :=
    ConnectionManager.address_of_addressing looks.addressing.symm found
  have realm : kept.realm = ctx.realm := congrArg Address.realm address
  have destId : kept.destId = ctx.destId := congrArg Address.destId address
  refine ⟨kept, held, (congrArg Address.client address).trans same,
    (congrArg Address.peerNode address).trans own, ?_⟩
  rw [redirects_congr looks.setting, realm, destId, leaves]

/-- A connection away from its home is sent there when it has its turn. -/
theorem Adrift.rehomed (adrift : Adrift slot client worker) :
    .close client AppError.redirected.code ∈ (worker.rehome slot).log := by
  obtain ⟨ctx, found, rfl, own, leaves⟩ := adrift
  have moves : Event.redirected worker (.rehome slot) = some ctx := by
    simp [Event.redirected, Event.turnsAway, Event.answered, Event.sendsHome, found, own, leaves]
  obtain ⟨more, log, -⟩ := step_redirected moves
  have taken : (worker.rehome slot).log = _ := log
  rw [taken]
  exact List.mem_append_right _ (List.mem_singleton_self _)

/-- Only between two changes of the cluster, and only if homes are computed. -/
def Settled (worker : GatewayWorker) : Prop :=
  worker.placement.strategy = .affinity ∧ worker.placement.prevNodes = []

theorem Settled.looks (settled : Settled worker) (looks : Looks worker after) : Settled after := by
  have placement : after.placement = worker.placement := congrArg Setting.placement looks.setting
  rwa [Settled, placement]

theorem rehomeDrifted_of_settled (settled : Settled worker) :
    worker.rehomeDrifted = { (sweep rehome rehomePerTick worker.rehomeCursor worker).2 with
      rehomeCursor := (sweep rehome rehomePerTick worker.rehomeCursor worker).1 } := by
  simp [rehomeDrifted, settled.1, settled.2]

theorem Looks.rehomeDrifted : Looks worker worker.rehomeDrifted := by
  unfold GatewayWorker.rehomeDrifted
  split
  · exact .refl
  · exact { Looks.sweep rehomePerTick worker.rehomeCursor with }

/-- A pass from a cursor at or before the connection sends it home, or brings the cursor nearer. -/
theorem pass_ahead (settled : Settled worker) (adrift : Adrift slot client worker)
    (bounded : slot < worker.conns.capacity) (ahead : worker.rehomeCursor ≤ slot) :
    .close client AppError.redirected.code ∈ worker.rehomeDrifted.log ∨
      worker.rehomeCursor < worker.rehomeDrifted.rehomeCursor ∧
        worker.rehomeDrifted.rehomeCursor ≤ slot := by
  have live : (worker.conns.context slot).isSome = true := by
    obtain ⟨ctx, found, -⟩ := adrift
    exact Option.isSome_iff_exists.mpr ⟨ctx, found⟩
  rw [rehomeDrifted_of_settled settled]
  obtain ⟨middle, reached, rest⟩ | nearer := sweep_ahead (rehomePerTick - 1) live bounded ahead
  · exact .inl (rest.log.mem_log_of_mem (adrift.looks reached).rehomed)
  · exact .inr nearer

theorem found_ahead (far : Nat) (settled : Settled worker) (adrift : Adrift slot client worker)
    (bounded : slot < worker.conns.capacity) (ahead : worker.rehomeCursor ≤ slot)
    (near : slot < far + worker.rehomeCursor) :
    ∃ passes, .close client AppError.redirected.code ∈ (rehomeDrifted^[passes] worker).log := by
  induction far generalizing worker with
  | zero => omega
  | succ far ih =>
      obtain home | ⟨nearer, still⟩ := pass_ahead settled adrift bounded ahead
      · exact ⟨1, home⟩
      have looks : Looks worker worker.rehomeDrifted := .rehomeDrifted
      obtain ⟨passes, home⟩ := ih (settled.looks looks) (adrift.looks looks)
        (looks.capacity ▸ bounded) still (by omega)
      exact ⟨passes + 1, home⟩

/-- A pass that has gone through to the end is followed by one from the start. -/
theorem found_from_start (settled : Settled worker) (adrift : Adrift slot client worker)
    (bounded : slot < worker.conns.capacity) (start : worker.rehomeDrifted.rehomeCursor = 0) :
    ∃ passes, .close client AppError.redirected.code ∈ (rehomeDrifted^[passes] worker).log := by
  have looks : Looks worker worker.rehomeDrifted := .rehomeDrifted
  obtain ⟨passes, home⟩ := found_ahead (slot + 1) (settled.looks looks) (adrift.looks looks)
    (looks.capacity ▸ bounded) (start ▸ Nat.zero_le slot) (by omega)
  exact ⟨passes + 1, home⟩

theorem pass_behind (settled : Settled worker) :
    worker.rehomeDrifted.rehomeCursor = 0 ∨
      worker.rehomeCursor < worker.rehomeDrifted.rehomeCursor ∧
        worker.rehomeDrifted.rehomeCursor ≤ worker.conns.capacity := by
  rw [rehomeDrifted_of_settled settled]
  exact sweep_behind (rehomePerTick - 1)

/-- Wherever the cursor is, the sweep finds a connection that has drifted away from its home and
sends it there. -/
theorem found_by_rehomeDrifted (settled : Settled worker) (adrift : Adrift slot client worker)
    (bounded : slot < worker.conns.capacity) :
    ∃ passes, .close client AppError.redirected.code ∈ (rehomeDrifted^[passes] worker).log := by
  -- The cursor goes up to the capacity and then back to the start.
  generalize distance : worker.conns.capacity - worker.rehomeCursor = far
  induction far using Nat.strong_induction_on generalizing worker with
  | h far ih =>
      obtain start | ⟨further, within⟩ := pass_behind settled
      · exact found_from_start settled adrift bounded start
      have looks : Looks worker worker.rehomeDrifted := .rehomeDrifted
      have nearer : worker.rehomeDrifted.conns.capacity - worker.rehomeDrifted.rehomeCursor < far := by
        rw [looks.capacity]
        omega
      obtain ⟨passes, home⟩ := ih _ nearer (settled.looks looks) (adrift.looks looks)
        (looks.capacity ▸ bounded) rfl
      exact ⟨passes + 1, home⟩

end GatewayWorker

end LyuneGateway.Worker
