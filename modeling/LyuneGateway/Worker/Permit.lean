import LyuneGateway.Worker.ClientEffect

/-!
# What a step is made of

Most operations neither change who can be reached nor touch the push streams of
backends. The others are permitted to certain steps only, and only for the
connections that the step is about.
-/

namespace LyuneGateway.Worker

open Foundation Io Protocol Session

/-- The action does not say of a frame that it was dispatched, of a connection that it went online,
was kicked or was sent to another node. -/
def Action.Calm : Action → Prop
  | .dispatched .. => False
  | .published _ kind _ _ => kind = .offline
  | .close _ code => code ≠ AppError.kicked.code ∧ code ≠ AppError.redirected.code
  | _ => True

/-- The operation leaves addresses, membership, push streams and the view of the cluster alone, and
does not stand for a kick or for a connection that goes online. -/
def Op.Quiet : Op → Prop
  | .conn _ change => KeepsAddress change
  | .publish _ kind _ => kind = .offline
  | .record action => action.Calm
  | .accept .. | .remove _ | .bindDest .. | .bind .. | .group .. | .kick .. | .revoke ..
  | .admitClient .. | .pushes _ | .placement .. | .outside _ => False
  | _ => True

namespace Event

def isPush : Event → Bool
  | .pushSpill .. | .pushDrop _ | .pushEnd _ | .streamControl .. => true
  | _ => false

/-- The whole frame that an event brings from a backend or from another worker to be acted on. -/
def command (worker : GatewayWorker) : Event → Option (RealmId × Frame)
  | .pushFrame key realm parsed =>
      if worker.egress.sessions.findByOrigin key = none ∧ parsed.header.isOpen ∧
          parsed.header.isLast then
        some (realm, parsed)
      else none
  | .handoff =>
      match worker.router.pop worker.placement.self.workerId with
      | none => none
      | some (message, _) =>
          match parseExactFrame message.bytes with
          | .error _ => none
          | .ok parsed =>
              if message.session = 0 ∧ parsed.header.isOpen ∧ parsed.header.isLast then
                some (message.realm, parsed)
              else none
  | _ => none

/-- The change of a group that an event brings. -/
def groupCommand (worker : GatewayWorker) (event : Event) (control : ControlType) :
    Option (RealmId × GroupBinding) :=
  (event.command worker).bind fun command =>
    if command.2.header.controlType = some control then
      (GroupBinding.decode command.2.body).toOption.map fun binding => (command.1, binding)
    else none

/-- The connections that an event brings the command to kick. -/
def kickCommand (worker : GatewayWorker) (event : Event) : Option (RealmId × TokenList) :=
  (event.command worker).bind fun command =>
    if command.2.header.controlType = some .kickOff then
      (TokenList.decode command.2.body).toOption.map fun list => (command.1, list)
    else none

theorem groupCommand_eq_some {worker : GatewayWorker} {event : Event} {control : ControlType}
    {realm : RealmId} {binding : GroupBinding}
    (command : event.groupCommand worker control = some (realm, binding)) :
    ∃ parsed, event.command worker = some (realm, parsed) ∧
      parsed.header.controlType = some control := by
  obtain ⟨⟨own, parsed⟩, brought, changes⟩ := Option.bind_eq_some_iff.mp command
  simp only at changes
  split at changes
  · rename_i controls
    obtain ⟨_, -, same⟩ := Option.map_eq_some_iff.mp changes
    cases same
    exact ⟨parsed, brought, controls⟩
  · cases changes

theorem kickCommand_eq_some {worker : GatewayWorker} {event : Event} {realm : RealmId}
    {list : TokenList} (command : event.kickCommand worker = some (realm, list)) :
    ∃ parsed, event.command worker = some (realm, parsed) ∧
      parsed.header.controlType = some .kickOff := by
  obtain ⟨⟨own, parsed⟩, brought, kicks⟩ := Option.bind_eq_some_iff.mp command
  simp only at kicks
  split at kicks
  · rename_i controls
    obtain ⟨_, -, same⟩ := Option.map_eq_some_iff.mp kicks
    cases same
    exact ⟨parsed, brought, controls⟩
  · cases kicks

end Event

/-- The operations that a step may consist of. -/
inductive Permits (worker : GatewayWorker) : Event → Op → Prop where
  | quiet {event : Event} {op : Op} (quiet : op.Quiet) : Permits worker event op
  | pushes {event : Event} {change : Table StreamKey Bytes → Table StreamKey Bytes}
      (own : event.isPush) : Permits worker event (.pushes change)
  | dispatched {key : StreamKey} {realm : RealmId} {parsed : Frame} {continues : Bool} :
      Permits worker (.pushFrame key realm parsed) (.record (.dispatched key parsed continues))
  | accept {kind : TransportKind} {accepting : Bool} {realm : RealmId} :
      Permits worker (.accept kind accepting (some realm)) (.accept kind realm false)
  | acceptPeer {accepting : Bool} :
      Permits worker (.acceptPeer accepting) (.accept .rawQuic defaultRealm true)
  | remove {handle : SessionHandle} {reason : SessionReason} :
      Permits worker (.close handle reason) (.remove handle)
  | bind {slot streamId : Nat} {parsed : Frame} {ctx : ConnectionContext}
      (found : worker.context slot = some ctx) :
      Permits worker (.frame slot streamId parsed) (.bind slot ctx parsed)
  | unbind {slot streamId channel : Nat} {parsed : Frame} :
      Permits worker (.frame slot streamId parsed)
        (.conn slot fun ctx => ctx.unbindChannel channel)
  | admitClient {key : StreamKey} {data : Bytes} {pending : PendingAuth} {slot : Nat}
      {ctx : ConnectionContext} (waiting : worker.inflight.lookupAuth key = some pending)
      (granted : worker.ask.1 = true) (resolved : worker.conns.slotFor pending.clientSession = some slot)
      (found : worker.context slot = some ctx)
      (success : (classify (pending.buffer ++ data)).result = .success)
      (stays : worker.redirects ctx.realm
        (classify (pending.buffer ++ data)).grant.destId = false) :
      Permits worker (.authResponse key data true)
        (.admitClient slot ctx pending.clientSession (classify (pending.buffer ++ data)).grant)
  | turnAway {key : StreamKey} {data : Bytes} {pending : PendingAuth} {slot : Nat}
      {ctx : ConnectionContext} (waiting : worker.inflight.lookupAuth key = some pending)
      (granted : worker.ask.1 = true)
      (resolved : worker.conns.slotFor pending.clientSession = some slot)
      (found : worker.context slot = some ctx)
      (success : (classify (pending.buffer ++ data)).result = .success)
      (leaves : worker.redirects ctx.realm
        (classify (pending.buffer ++ data)).grant.destId = true) :
      Permits worker (.authResponse key data true)
        (.record (.close ctx.transport.ptr AppError.redirected.code))
  | sendHome {slot : Nat} {ctx : ConnectionContext} (found : worker.context slot = some ctx)
      (client : ctx.peerNode = false) (bound : ctx.destId ≠ 0)
      (away : worker.placement.isHomeNode ctx.realm ctx.destId = false) :
      Permits worker (.rehome slot) (.record (.close ctx.transport.ptr AppError.redirected.code))
  | revoke {slot now : Nat} {ctx : ConnectionContext} (found : worker.context slot = some ctx)
      (client : ctx.peerNode = false) (online : ctx.authenticated = true)
      (expired : ctx.isAdmitted now = false) :
      Permits worker (.expireAdmission slot now) (.revoke slot .admissionExpired)
  | renew {slot now : Nat} {ctx : ConnectionContext} (found : worker.context slot = some ctx)
      (online : ctx.authenticated = true) :
      Permits worker (.refreshLease slot now) (.publish slot .online .leaseRefresh)
  | placement {nodes : List Nat} {now : Nat} :
      Permits worker (.placement nodes now) (.placement nodes now)
  | outside {change : Outside} : Permits worker (.outside change) (.outside change)
  | popped {message : AppMessage} {router : MessageRouter}
      (popped : worker.router.pop worker.placement.self.workerId = some (message, router)) :
      Permits worker .handoff (.outside (.router router))
  | group {event : Event} {realm : RealmId} {join : Bool} {binding : GroupBinding} {raw : Nat}
      (command : event.groupCommand worker (if join then .joinGroup else .leaveGroup) =
        some (realm, binding)) (listed : raw ∈ binding.members.toList) :
      Permits worker event (.group realm join binding.groupId (.decode raw))
  | kick {event : Event} {realm : RealmId} {list : TokenList} {raw : Nat}
      (command : event.kickCommand worker = some (realm, list)) (listed : raw ∈ list.toList) :
      Permits worker event (.kick realm (.decode raw))

namespace Permits

open GatewayWorker

variable {worker : GatewayWorker} {event : Event}

theorem locals : Locals (Permits worker event) where
  openClient _ _ := .quiet trivial
  sendEphemeral _ _ := .quiet trivial

theorem streams : Streams (Permits worker event) where
  sessions _ _ _ := .quiet trivial
  attach _ _ _ := .quiet trivial
  writeSession _ _ := .quiet trivial
  abortSession _ := .quiet trivial
  deliver _ _ _ _ := .quiet trivial

theorem forwards (realm : RealmId) (session : Nat) (bytes : Bytes) (streaming : Bool) :
    Forwards (Permits worker event) realm session bytes streaming where
  deliver _ := .quiet trivial
  sendPeer _ := .quiet trivial

theorem commands {realm : RealmId} {parsed : Frame}
    (command : event.command worker = some (realm, parsed)) :
    Commands (Permits worker event) realm parsed where
  group _ _ control decoded _ listed := .group (by
    simp [Event.groupCommand, command, control, decoded, Except.toOption]) listed
  kick _ control decoded _ listed := .kick (by
    simp [Event.kickCommand, command, control, decoded, Except.toOption]) listed

theorem relays (slot streamId : Nat) : Relays (Permits worker event) slot streamId (fun _ _ => True) where
  ask := .quiet trivial
  reply _ _ := .quiet trivial
  reset _ := .quiet trivial
  openBackend _ _ _ := .quiet trivial
  writeBackend _ _ _ := .quiet trivial
  tables _ _ := .quiet trivial
  trackAuth _ _ _ := .quiet trivial
  conn _ keeps _ := .quiet keeps
  openRoute _ _ _ := .quiet trivial
  register _ _ := .quiet fun _ => ⟨rfl, rfl⟩

theorem answers : Answers (Permits worker event) where
  ask := .quiet trivial
  reply _ _ _ _ := .quiet trivial
  tables _ _ := .quiet trivial

theorem closes {client : Nat} (error : AppError) (other : error ≠ .kicked ∧ error ≠ .redirected) :
    Permits worker event (.record (.close client error.code)) :=
  .quiet (show error.code ≠ AppError.kicked.code ∧ error.code ≠ AppError.redirected.code by
    cases error <;> simp_all [AppError.code])

theorem redirects (slot : Nat) : Redirects (Permits worker event) slot where
  first _ _ _ := .quiet trivial
  notice _ := .quiet trivial

theorem peerPushes (parsed : Frame) : PeerPushes (Permits worker event) parsed where
  locals := locals
  streams := streams
  forwards realm := forwards realm 0 parsed.bytes false
  sendPeer _ _ := .quiet trivial

theorem completes : Completes (Permits worker event) where
  answers := answers
  redirects := redirects

end Permits

namespace GatewayWorker

variable {worker : GatewayWorker}

theorem addConnection_via {allowed : Op → Prop} {kind : TransportKind} {realm : RealmId}
    {peerNode : Bool} (may : allowed (.accept kind realm peerNode)) :
    Via allowed worker (worker.addConnection kind realm peerNode) :=
  Via.op may rfl

theorem keepFrameSpill_via {allowed : Op → Prop} {slot streamId : Nat} {known : Bool}
    {spill : Bytes} {owns : StreamKey → SessionHandle → Prop}
    (requests : Requests allowed slot streamId owns)
    (store : allowed (.conn slot fun ctx => ctx.storeFrameSpill streamId spill))
    (close : ∀ client, allowed (.record (.close client AppError.protocolViolation.code))) :
    Via allowed worker ((worker.keepFrameSpill slot streamId known spill).getD
      (worker.ask.2.violate slot)) := by
  have asked : Via allowed worker worker.ask.2 := Via.op requests.ask rfl
  unfold keepFrameSpill
  by_cases empty : spill = []
  · simp only [if_pos empty]
    split
    · exact conn_via requests (fun _ => ⟨rfl, rfl⟩) (.of_same (fun _ => rfl) (fun _ => .erase) fun _ => rfl)
    · exact .refl
  simp only [if_neg empty]
  split
  · exact Via.op store rfl
  split <;> rename_i answer
  · refine asked.trans ?_
    simp only [Option.getD_none, violate]
    split
    · exact .refl
    · exact Via.op (close _) rfl
  · rw [answer] at asked
    exact asked.trans (Via.op store rfl)

theorem keepPush_via {allowed : Op → Prop} {key : StreamKey} {known : Bool} {spill : Bytes}
    (ask : allowed .ask) (pushes : ∀ change, allowed (.pushes change)) :
    Via allowed worker ((worker.keepPush key known spill).getD worker.ask.2) := by
  have asked : Via allowed worker worker.ask.2 := Via.op ask rfl
  unfold keepPush
  split
  · simp only [Option.getD_some]
    split
    · exact Via.op (pushes fun pushes => pushes.erase key) rfl
    · exact Via.op (pushes fun pushes => pushes.insert key spill) rfl
  split
  · exact .refl
  split <;> rename_i answer
  · exact asked
  · rw [answer] at asked
    exact asked.trans (Via.op (pushes fun pushes => pushes.insert key spill) rfl)

theorem violate_via {allowed : Op → Prop} {slot : Nat}
    (close : ∀ client, allowed (.record (.close client AppError.protocolViolation.code))) :
    Via allowed worker (worker.violate slot) := by
  unfold violate
  split
  · exact .refl
  · exact Via.op (close _) rfl

open Permits in
/-- Every step is made of the operations that it is permitted. -/
theorem step_via (event : Event) : Via (Permits worker event) worker (worker.step event) := by
  cases event with
  | accept kind accepting resolved =>
      simp only [step, acceptClientSession]
      split
      · exact addConnection_via Permits.accept
      · exact .refl
  | acceptPeer accepting =>
      simp only [step, handlePeerConnection]
      split
      · exact addConnection_via Permits.acceptPeer
      · exact .refl
  | close handle reason =>
      exact closeClientSession_via (fun _ _ => .quiet rfl) (fun _ _ => .quiet trivial)
        (fun _ _ => .quiet trivial) .remove
  | frame slot streamId parsed =>
      exact dispatchFrame_via (relays slot streamId) (fun _ _ _ _ => trivial) (peerPushes parsed)
        (fun _ found => .bind found) (fun _ => .unbind) (.quiet fun _ => ⟨rfl, rfl⟩)
  | frameSpill slot streamId known spill =>
      exact keepFrameSpill_via (relays slot streamId).toRequests (.quiet fun _ => ⟨rfl, rfl⟩)
        fun _ => closes .protocolViolation (by decide)
  | violate slot => exact violate_via fun _ => closes .protocolViolation (by decide)
  | finish slot streamId => exact finishClientStream_via (relays slot streamId) streams
  | closeIfRequested slot =>
      simp only [step, closeIfRequested]
      split
      · exact .refl
      split
      · exact Via.op (closes .noError (by decide)) rfl
      · exact .refl
  | reset slot streamId => exact resetClientInput_via (relays slot streamId) streams
  | stop slot streamId => exact stopClientOutput_via (relays slot streamId).toRequests
  | datagram handle data =>
      simp only [step, handleEphemeral]
      split
      · exact .refl
      split
      · exact .refl
      split
      · exact .refl
      split
      · exact .refl
      · exact fanOutUnreliable_via locals (forwards ..)
  | pushFrame key realm parsed =>
      exact onPushFrame_via locals streams (fun _ _ => .quiet trivial) (forwards ..)
        (fun _ => .quiet trivial) (fun _ => .quiet trivial) (fun unclaimed opens last =>
          commands (by simp [Event.command, unclaimed, opens, last])) fun _ => .dispatched
  | pushSpill key known spill => exact keepPush_via (.quiet trivial) fun _ => .pushes rfl
  | pushDrop key => exact Via.op (.pushes rfl) rfl
  | pushEnd key => exact abortBackendPush_via streams fun _ => .pushes rfl
  | authResponse key data isFin =>
      refine collectAuthResponse_via completes ?_ ?_
      · rintro pending slot ctx waiting granted rfl resolved found success stays
        exact .admitClient waiting granted resolved found success stays
      · rintro pending slot ctx waiting granted rfl resolved found success leaves
        exact .turnAway waiting granted resolved found success leaves
  | response key data isFin =>
      simp only [step]
      split
      · exact .refl
      · exact relayResponse_via answers fun _ _ _ _ => .quiet trivial
  | streamControl key reason peerInitiated =>
      exact handleBackendStreamControl_via answers streams fun _ => .pushes rfl
  | transportFailed transport selector => exact failTransportRequests_via answers
  | expireInflight now => exact expireInflight_via answers fun _ => .quiet trivial
  | handoff =>
      simp only [step, popHandoff]
      split
      · exact .refl
      · rename_i message router popped
        have taken : Via (Permits worker .handoff) worker { worker with router := router } :=
          @Via.op _ _ _ (.outside (.router router)) (.popped popped) rfl
        refine taken.trans ?_
        unfold deliverHandoff
        split
        · exact deliverStreamingHandoff_via streams
        · rename_i oneShot
          refine deliverOneShot_via locals (forwards ..) ?_
          intro parsed exact_ opens last
          exact commands (by
            simp [Event.command, popped, not_not.mp oneShot, exact_, opens, last])
  | purgeSessions now => exact purgeExpiredSessions_via streams
  | expireAdmission slot now => exact expireAdmission_via fun _ => .revoke
  | refreshLease slot now => exact refreshLease_via fun _ found online => .renew found online
  | rehome slot => exact rehome_via (Permits.redirects slot) fun _ => .sendHome
  | placement nodes now => exact @Via.op _ _ _ (.placement nodes now) .placement rfl
  | outside change => exact @Via.op _ _ _ (.outside change) .outside rfl

end GatewayWorker

end LyuneGateway.Worker
