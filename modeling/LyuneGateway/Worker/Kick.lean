import LyuneGateway.Worker.Silence

/-!
# Kicked connections

A kick ends the admission of a connection and closes it, which takes a while. An
authentication that is still pending then may admit the connection again; as long
as that does not happen, the kick is final.
-/

namespace LyuneGateway.Worker

open Foundation Io Protocol Session

/-- What comes later in the log than a kick does not tell of its client that it is online. -/
def Action.Precedes (earlier later : Action) : Prop :=
  ∀ client reason notice, later = .published client .online reason notice →
    earlier ≠ .close client AppError.kicked.code

namespace GatewayWorker

variable {worker before after : GatewayWorker} {event : Event}

/-- The client has been kicked. -/
def kicked (worker : GatewayWorker) (client : Nat) : Prop :=
  .close client AppError.kicked.code ∈ worker.log

instance (client : Nat) : Decidable (worker.kicked client) := inferInstanceAs (Decidable (_ ∈ _))

/-- No client that has been kicked is admitted. -/
def SparesKicked (worker : GatewayWorker) (event : Event) : Prop :=
  ∀ ctx ∈ event.admits worker, ¬ worker.kicked ctx.transport.ptr

instance (event : Event) : Decidable (worker.SparesKicked event) :=
  inferInstanceAs (Decidable (∀ ctx ∈ event.admits worker, _))

/-- Kicked clients are out, and have not been said to be online since. -/
structure KeepsOut (worker : GatewayWorker) : Prop where
  indexed : worker.conns.Indexed
  distinct : Distinct worker
  silent : Silent worker.kicked 0 worker.conns
  ordered : worker.log.Pairwise Action.Precedes

/-- The event may say of a connection that it is online. -/
def announces : Event → Bool
  | .authResponse .. | .refreshLease .. => true
  | _ => false

/-- The same in the middle of a step; if it may announce a connection, it kicks nobody. -/
structure Ousting (before : GatewayWorker) (event : Event) (worker : GatewayWorker) : Prop
    extends KeepsOut worker where
  later : before.nextTransport ≤ worker.nextTransport
  same : announces event = true → before.conns.SameClients worker.conns ∧
    ∀ client, worker.kicked client → before.kicked client

/-- The action neither kicks anyone nor says of somebody kicked that he is online. -/
def Spares (worker : GatewayWorker) (action : Action) : Prop :=
  (∀ client, action ≠ .close client AppError.kicked.code) ∧
    ∀ client reason notice, action = .published client .online reason notice →
      ¬ worker.kicked client

theorem spares_of_calm {action : Action} (calm : action.Calm) : worker.Spares action := by
  constructor
  · rintro client rfl
    exact calm.1 rfl
  · rintro client reason notice rfl
    cases calm

/-- An operation that kicks nobody keeps everyone out who has been kicked. -/
theorem Ousting.keep (ousting : Ousting before event worker) (kept : Distinct after ∧
      before.nextTransport ≤ after.nextTransport) (indexed : after.conns.Indexed)
    (silent : Silent worker.kicked 0 after.conns) (grows : Grows worker.Spares worker after)
    (same : announces event = true → worker.conns.SameClients after.conns) :
    Ousting before event after := by
  have kicked {client : Nat} (out : after.kicked client) : worker.kicked client :=
    (grows.mem_log out).resolve_right fun spares => spares.1 client rfl
  refine ⟨⟨indexed, kept.1, fun slot ctx found out => silent slot ctx found (kicked out), ?_⟩,
    kept.2, fun announces => ?_⟩
  · obtain ⟨more, extends_, spares⟩ := grows
    rw [extends_]
    refine List.pairwise_append.mpr ⟨ousting.ordered, ?_, ?_⟩
    · refine List.pairwise_iff_forall_sublist.mpr fun {first second} pair client reason _ _ => ?_
      exact (spares first (pair.subset List.mem_cons_self)).1 client
    · rintro earlier listed later member client reason notice rfl rfl
      exact (spares _ member).2 client reason notice rfl listed
  · exact ⟨(ousting.same announces).1.trans (same announces),
      fun client out => (ousting.same announces).2 client (kicked out)⟩

/-- A kick puts its client out, and nobody in. -/
theorem Ousting.kickOne (ousting : Ousting before event worker) (silent : announces event = false)
    (realm : RealmId) (token : ConnToken)
    (kept : Distinct (worker.kickOne realm token).2 ∧
      before.nextTransport ≤ (worker.kickOne realm token).2.nextTransport)
    (indexed : (worker.kickOne realm token).2.conns.Indexed) :
    Ousting before event (worker.kickOne realm token).2 := by
  obtain same | ⟨slot, ctx, resolved, found, -, -, addressing⟩ :=
    worker.kickOne_cases realm token
  · rw [same]
    exact ousting
  have grows := @grows_kickOne worker realm token
  refine ⟨⟨indexed, kept.1, ?_, ?_⟩, kept.2, by simp [silent]⟩
  · have revoked := readdressed_revokeAdmission ousting.indexed slot .kicked
    have silent := (ousting.silent.revoke revoked).of_addressing addressing
    intro other own held out
    obtain earlier | calm | ⟨slot', ctx', resolved', found', -, closes⟩ := grows.mem_log out
    · exact silent other own held earlier
    · exact absurd rfl calm.1
    obtain rfl : slot = slot' := Option.some.inj (resolved.symm.trans resolved')
    obtain rfl : ctx = ctx' := Option.some.inj (found.symm.trans found')
    have client : own.transport.ptr = ctx.transport.ptr := (Action.close.inj closes).1
    obtain ⟨middle, known, address⟩ := ConnectionManager.address_of_addressing addressing held
    obtain ⟨old, was, ⟨-, changed⟩ | ⟨different, kept⟩⟩ := revoked.of_eq_some known
    · have revoked : own.address = old.address.revoke := address.symm.trans changed
      exact ⟨congrArg (Address.isAdmitted · 0) revoked, congrArg Address.destId revoked⟩
    · have same : old.transport.ptr = own.transport.ptr :=
        congrArg Address.client (kept.symm.trans address)
      exact absurd (ousting.distinct.distinct other slot old ctx was found (same.trans client))
        different
  · obtain ⟨more, extends_, calm⟩ := grows
    rw [extends_]
    have unannounced {action : Action} (member : action ∈ more) (client : Nat)
        (reason : SessionReason) (notice : Notice) :
        action ≠ .published client .online reason notice := by
      rintro rfl
      obtain calm | ⟨_, _, -, -, -, closes⟩ := calm _ member
      · cases calm
      · cases closes
    refine List.pairwise_append.mpr ⟨ousting.ordered, ?_, ?_⟩
    · refine List.pairwise_iff_forall_sublist.mpr
        fun {first second} pair client reason notice same => ?_
      exact absurd same
        (unannounced (pair.subset (List.mem_cons_of_mem _ List.mem_cons_self)) _ _ _)
    · exact fun _ _ later member client reason notice same =>
        absurd same (unannounced member _ _ _)

theorem announces_of_kickCommand {realm : RealmId} {list : TokenList}
    (command : event.kickCommand before = some (realm, list)) : announces event = false := by
  cases event <;> first | rfl | cases command

theorem Ousting.op {op : Op} (start : KeepsOut before)
    (spares : before.SparesKicked event) (ousting : Ousting before event worker)
    (permits : Permits before event op) : Ousting before event (op.apply worker) := by
  have indexed := permits.indexed worker ousting.indexed
  have kept := Distinct.op start.distinct ousting.later ousting.indexed ousting.distinct permits
  have keep (silent : Silent worker.kicked 0 (op.apply worker).conns)
      (grows : Grows worker.Spares worker (op.apply worker))
      (same : announces event = true → worker.conns.SameClients (op.apply worker).conns) :
      Ousting before event (op.apply worker) := ousting.keep kept indexed silent grows same
  have calmly {after : GatewayWorker} (calm : Undisturbed worker after) :
      Grows worker.Spares worker after := calm.log.mono fun _ => spares_of_calm
  cases permits with
  | quiet quiet =>
      have addressing := quiet.keepsAddressing worker
      exact keep (ousting.silent.of_addressing addressing) (calmly (quiet.calm worker)) fun _ =>
        .of_addressing addressing
  | pushes => exact keep ousting.silent .refl fun _ => .refl
  | dispatched => exact keep ousting.silent (.record (by simp [Spares])) fun _ => .refl
  | turnAway | sendHome =>
      exact keep ousting.silent (.record (by simp [Spares, AppError.code])) fun _ => .refl
  | accept | acceptPeer =>
      refine keep (ousting.silent.addConnection ?_ _ _ _) ?_ fun same => by cases same
      · exact fun client out => ousting.distinct.logged client _ (fun calm => calm.1 rfl) out
      · simp only [Op.apply, addConnection]
        split <;> exact .refl
  | remove => exact keep (ousting.silent.removeSession _) .refl fun same => by cases same
  | bind =>
      exact keep (ousting.silent.resolveBind _ _ _) (calmly (.resolveBind _ _ _)) fun _ =>
        sameClients_resolveBind _ _ _
  | unbind =>
      exact keep (ousting.silent.modify _ fun _ => ⟨rfl, rfl, rfl⟩) .refl fun _ =>
        .modify _ fun _ => rfl
  | @admitClient key data pending slot ctx waiting granted resolved found success stays =>
      obtain ⟨-, admits⟩ :=
        Permits.admits_eq_some (.admitClient waiting granted resolved found success stays)
      obtain ⟨rfl, -, -⟩ := ConnectionManager.slotFor_eq_some resolved
      have outside (own : ConnectionContext)
          (held : worker.context pending.clientSession.slot = some own) :
          ¬ worker.kicked own.transport.ptr := by
        obtain ⟨clients, kicks⟩ := ousting.same rfl
        obtain ⟨old, known, client⟩ := clients _ own held
        obtain rfl : ctx = old := Option.some.inj (found.symm.trans known)
        exact fun out => spares ctx admits (client ▸ kicks _ out)
      refine keep (ousting.silent.admitSession ousting.indexed outside) ?_ fun _ =>
        sameClients_admitSession _ _ _ _
      refine (grows_admitSession _ _ _ _).mono ?_
      rintro action (calm | ⟨own, _, held, rfl⟩)
      · exact spares_of_calm calm
      · refine ⟨fun _ same => (by cases same), fun client reason notice same => ?_⟩
        obtain ⟨rfl, -⟩ := Action.published.inj same
        exact outside own held
  | revoke =>
      exact keep (ousting.silent.revoke (readdressed_revokeAdmission ousting.indexed _ _))
        (calmly (.revokeAdmission _ _)) fun _ => sameClients_revokeAdmission _ _
  | @renew slot now ctx found online =>
      have addressing := @addressing_publish worker slot .online .leaseRefresh
      refine keep (ousting.silent.of_addressing addressing) ?_ fun _ => .of_addressing addressing
      refine (grows_publish _ _ _).mono ?_
      rintro action (calm | ⟨own, held, rfl⟩)
      · exact spares_of_calm calm
      · refine ⟨fun _ same => (by cases same), fun client reason notice same out => ?_⟩
        obtain ⟨rfl, -⟩ := Action.published.inj same
        obtain ⟨clients, kicks⟩ := ousting.same rfl
        obtain ⟨old, known, client⟩ := clients slot own held
        obtain rfl : ctx = old := Option.some.inj (found.symm.trans known)
        have admitted := (start.silent slot ctx found (client ▸ kicks _ out)).1
        simp [ConnectionContext.isAdmitted, online] at admitted
  | placement =>
      exact keep
        (ousting.silent.of_addressing (congrArg _ (conns_refreshPlacement _ _)))
        (.of_log (refreshPlacement_frame _ _).1) fun _ =>
          .of_addressing (congrArg _ (conns_refreshPlacement _ _))
  | outside | popped =>
      exact keep (ousting.silent.of_addressing (congrArg _ (conns_changeOutside _)))
        (.of_log (changeOutside_frame _).1) fun _ =>
          .of_addressing (congrArg _ (conns_changeOutside _))
  | group =>
      exact keep (ousting.silent.applyGroupChange _ _ _ _)
        (calmly (.applyGroupChange _ _ _ _)) fun _ => sameClients_applyGroupChange _ _ _ _
  | kick command => exact ousting.kickOne (announces_of_kickCommand command) _ _ kept indexed

theorem step_keepsOut (keepsOut : KeepsOut worker) (spares : worker.SparesKicked event) :
    KeepsOut (worker.step event) := by
  have ousting : Ousting worker event (worker.step event) := by
    refine (step_via event).invariant (fun _ _ ousting permits => ousting.op keepsOut spares permits)
      ⟨keepsOut, le_rfl, fun _ => ⟨.refl, fun _ => id⟩⟩
  exact ousting.toKeepsOut

theorem init_keepsOut (config : Config) (router : MessageRouter) (fate : Nat → Bool) :
    KeepsOut (init config router fate) where
  indexed := init_indexed config router fate
  distinct := .init config router fate
  silent := nofun
  ordered := .nil

/-- A kick that reports success records the client of the connection as kicked. -/
theorem kicked_kickOne {realm : RealmId} {token : ConnToken}
    (done : (worker.kickOne realm token).1 = true) :
    ∃ slot ctx, worker.conns.byToken token = some slot ∧ worker.context slot = some ctx ∧
      (worker.kickOne realm token).2.kicked ctx.transport.ptr := by
  obtain same | ⟨slot, ctx, resolved, found, own, -, -⟩ := worker.kickOne_cases realm token
  · rw [same] at done
    cases done
  · refine ⟨slot, ctx, resolved, found, ?_⟩
    simp [kickOne, resolved, found, own, closeClient, record, kicked]

/-- In every state reached by steps that admit no kicked client, a kick is final: the connection it
takes effect on is recorded as kicked, no kicked connection is authenticated or bound to a
destination, and none is said to be online after it was kicked. -/
theorem kick_is_final {config : Config} {router : MessageRouter} {fate : Nat → Bool}
    (reached : Run.Reaches step SparesKicked (init config router fate) after) :
    (∀ realm token, (after.kickOne realm token).1 = true →
      ∃ slot ctx, after.conns.byToken token = some slot ∧ after.context slot = some ctx ∧
        (after.kickOne realm token).2.kicked ctx.transport.ptr) ∧
    (∀ slot ctx, after.context slot = some ctx → after.kicked ctx.transport.ptr →
      ctx.authenticated = false ∧ ctx.destId = 0) ∧
    after.log.Pairwise Action.Precedes := by
  have keepsOut : KeepsOut after :=
    reached.invariant (fun _ _ kept spares => step_keepsOut kept spares)
      (init_keepsOut config router fate)
  refine ⟨fun _ _ done => kicked_kickOne done, fun slot ctx found out => ?_, keepsOut.ordered⟩
  obtain ⟨admitted, unbound⟩ := keepsOut.silent slot ctx found out
  refine ⟨?_, unbound⟩
  by_contra online
  simp only [Bool.not_eq_false] at online
  simp [ConnectionContext.isAdmitted, online] at admitted

/-- A worker alone on its node, with an authentication service. -/
def attended : GatewayWorker :=
  .init { self := { nodeId := 0, workerId := 0 }, policy := { route := some {} } } (.init 1 16)
    fun _ => true

/-- The authentication service grants the request of the first connection. -/
def grantFirst : Event :=
  .authResponse ⟨9, 0⟩ (controlFrame .authSuccess .none
    (BigEndian.write 8 5 ++ BigEndian.write 4 0)).bytes true

def askForAdmission : List Event :=
  [.outside (.registry fun _ => some 9), .accept .rawQuic true (some 7),
    .frame 0 0 (controlFrame .authRequest .required [])]

set_option maxRecDepth 10000 in
/-- A client that has been admitted is kicked. -/
theorem kick_is_final_admitted :
    (Run.final step attended (askForAdmission ++ [grantFirst,
      .pushFrame ⟨1, 1⟩ 7 kickCommand])).log.Pairwise Action.Precedes :=
  (kick_is_final ⟨_, by decide +kernel, rfl⟩).2.2

set_option maxRecDepth 10000 in
/-- A client is kicked while its authentication is pending, and is admitted by the response. -/
theorem kicked_client_is_admitted :
    ((attended.run (askForAdmission ++ [.pushFrame ⟨1, 1⟩ 7 kickCommand])).context 0).any
        (fun ctx => decide ((attended.run (askForAdmission ++
          [.pushFrame ⟨1, 1⟩ 7 kickCommand])).kicked ctx.transport.ptr)) = true ∧
      ((attended.run (askForAdmission ++ [.pushFrame ⟨1, 1⟩ 7 kickCommand, grantFirst])).context
        0).any (fun ctx => ctx.authenticated && ctx.destId = 5) = true := by
  decide +kernel

end GatewayWorker

end LyuneGateway.Worker
