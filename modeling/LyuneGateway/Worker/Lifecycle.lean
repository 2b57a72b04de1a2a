import LyuneGateway.Worker.State

/-!
# Admission and lifecycle events

When a lifecycle route is configured, the backend behind it is told of every
connection that goes online or offline. Revoking an admission makes the
connection unauthenticated and takes its destination and its channels away.
-/

namespace LyuneGateway.Worker

open Protocol Session

def refreshIntervalUs : Nat := 15000000

/-- The next number of a connection's lifecycle events, which is never zero. -/
def nextSequence (sequence : Nat) : Nat :=
  if (sequence + 1) % 2 ^ 64 = 0 then 1 else (sequence + 1) % 2 ^ 64

namespace ConnectionContext

/-- The connection has one more lifecycle event. -/
def countEvent (ctx : ConnectionContext) (kind : EventKind) (now : Nat) : ConnectionContext :=
  { ctx with
    lifecycleRefreshedAt := if kind = .online then now else ctx.lifecycleRefreshedAt
    lifecycleSequence := nextSequence ctx.lifecycleSequence }

/-- What its next lifecycle event says. -/
def notice (ctx : ConnectionContext) : Notice where
  handle := ctx.sessionHandle
  realm := ctx.realm
  destId := ctx.destId
  sequence := nextSequence ctx.lifecycleSequence

/-- Nothing that the connection was admitted to is left with it. -/
def revoke (ctx : ConnectionContext) : ConnectionContext :=
  { ctx with authenticated := false, authExpiresAt := 0, revoked := true }.clearChannels

end ConnectionContext

namespace GatewayWorker

def publish (worker : GatewayWorker) (slot : Nat) (kind : EventKind) (reason : SessionReason) :
    GatewayWorker :=
  match worker.policy.lifecycleRoute, worker.context slot with
  | none, _ => worker
  | _, none => worker
  | some route, some ctx =>
      let worker := (worker.modifyConn slot fun ctx => ctx.countEvent kind worker.now).record
        (.published ctx.transport.ptr kind reason ctx.notice)
      match worker.conns.tokenFor ctx.sessionHandle, worker.registry ⟨ctx.realm, route⟩ with
      | none, _ => worker
      | _, none => worker
      | some token, some transport =>
          if worker.inflight.reserveRoute ctx.realm ≠ .ok then worker
          else
            let body := SessionLifecycle.encode {
              realm := ctx.realm
              connToken := token.encode
              destId := ctx.destId
              connectedAt := ctx.connectedAt
              occurredAt := worker.now
              sequence := nextSequence ctx.lifecycleSequence
              reason := reason }
            let control : ControlType :=
              if kind = .online then .sessionOnline else .sessionOffline
            match encodeControlFrame (openHeaderSize + SessionLifecycle.size) control body with
            | .error _ => worker
            | .ok data =>
                match worker.openBackend transport data true with
                | (none, worker) => worker
                | (some stream, worker) =>
                    -- Without the entry the backend's answer is taken for an orphan.
                    match worker.ask with
                    | (false, worker) => worker
                    | (true, worker) => { worker with
                        inflight := worker.inflight.openRoute ⟨transport, stream⟩ {
                          target := .discard
                          realm := ctx.realm
                          lastActiveAt := worker.now } }

def publishOnline (worker : GatewayWorker) (slot : Nat) : GatewayWorker :=
  worker.publish slot .online .authenticated

def publishOffline (worker : GatewayWorker) (slot : Nat) (reason : SessionReason) :
    GatewayWorker :=
  match worker.context slot with
  | none => worker
  | some ctx => if ctx.authenticated then worker.publish slot .offline reason else worker

def refreshOnline (worker : GatewayWorker) (slot : Nat) (now : Nat) : GatewayWorker :=
  match worker.context slot with
  | none => worker
  | some ctx =>
      if ctx.authenticated = false then worker
      else if now - ctx.lifecycleRefreshedAt < refreshIntervalUs then worker
      else worker.publish slot .online .leaseRefresh

def bindDest (worker : GatewayWorker) (handle : SessionHandle) (destId : Nat) : GatewayWorker :=
  { worker with conns := worker.conns.bindDest handle destId }

def revokeAdmission (worker : GatewayWorker) (slot : Nat) (reason : SessionReason) :
    GatewayWorker :=
  match worker.context slot with
  | none => worker
  | some ctx =>
      ((worker.publishOffline slot reason).modifyConn slot .revoke).bindDest ctx.sessionHandle 0

end GatewayWorker

end LyuneGateway.Worker
