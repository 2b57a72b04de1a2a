import LyuneGateway.Worker.Lifecycle

/-!
# Authentication

The gateway does not judge credentials. It forwards the request to the
authentication service, collects the whole response, and admits the connection
when that is one well-formed success frame. A connection whose destination lives
on another node is sent there instead.
-/

namespace LyuneGateway.Worker

open Foundation Protocol Session

inductive AuthResult where
  | success
  | failure
  | invalid
  deriving DecidableEq, Repr

structure Verdict where
  result : AuthResult
  grant : AuthGrant := {}
  deriving DecidableEq, Repr

/-- What a complete response of the authentication service says. -/
def classify (data : Bytes) : Verdict :=
  match parseExactFrame data with
  | .error _ => { result := .invalid }
  | .ok parsed =>
      match parsed.header.controlType with
      | some .authSuccess =>
          match AuthGrant.decode parsed.body with
          | .error _ => { result := .invalid }
          | .ok grant => { result := .success, grant := grant }
      | some .authFailure => { result := .failure }
      | _ => { result := .invalid }

/-- The request as the authentication service gets it: who asks, then the client's own bytes. -/
def buildAuthRequest (context : AuthContext) (clientBody : Bytes) : Except FrameError Bytes :=
  if maxBodySize < AuthContext.size + clientBody.length then .error .bodyTooLarge
  else encodeControlFrame (openHeaderSize + maxBodySize) .authRequest
    (context.encode ++ clientBody)

/-- The part of a connection id that names a worker, for a client to go to. -/
def placementHint (nodeId workerId : Nat) : Bytes :=
  [0x4c, 0x59, 1, UInt8.ofNat (nodeId / 256), UInt8.ofNat (nodeId % 256), UInt8.ofNat workerId]

def expiryFrom (now ttlSeconds : Nat) : Nat :=
  if ttlSeconds = 0 then 0 else min (now + ttlSeconds * 1000000) (2 ^ 64 - 1)

namespace ConnectionContext

def admitClient (ctx : ConnectionContext) (expiresAt : Nat) : ConnectionContext :=
  { ctx with authenticated := true, authExpiresAt := expiresAt, revoked := false }

end ConnectionContext

namespace GatewayWorker

def delegateAuth (worker : GatewayWorker) (handle : SessionHandle) (clientStreamId : Nat)
    (parsed : Frame) : GatewayWorker :=
  let fail (worker : GatewayWorker) (message : String) : GatewayWorker :=
    worker.replyControl handle clientStreamId .authFailure (text message)
  match worker.conns.getByHandle handle with
  | none => worker
  | some ctx =>
      match worker.policy.route with
      | none => fail worker "authentication not configured"
      | some route =>
          match worker.registry ⟨ctx.realm, route⟩ with
          | none => fail worker "authentication service unavailable"
          | some transport =>
              match worker.conns.tokenFor handle with
              | none => fail worker "connection not registered"
              | some token =>
                  match buildAuthRequest { realm := ctx.realm, connToken := token.encode }
                      parsed.body with
                  | .error _ => fail worker "authentication payload too large"
                  | .ok forwarded =>
                      match worker.inflight.reserveAuth ctx.realm with
                      | .tableFull => fail worker "authentication service busy"
                      | .realmOverShare => fail worker "realm authentication quota exceeded"
                      | .ok =>
                          match worker.openBackend transport forwarded true with
                          | (none, worker) => fail worker "authentication service unavailable"
                          | (some stream, worker) =>
                              match worker.ask with
                              | (false, worker) => worker
                              | (true, worker) => { worker with
                                  inflight := worker.inflight.trackAuth ⟨transport, stream⟩ {
                                    clientSession := handle
                                    clientStreamId := clientStreamId
                                    realm := ctx.realm
                                    createdAt := worker.now } }

/-- The node and worker a destination should be moved to, and the address to do so. -/
def redirectTarget (worker : GatewayWorker) (realm : RealmId) (destId : Nat) :
    Option (Location × Bytes) :=
  match worker.placement.home realm destId with
  | none => none
  | some home =>
      if home.nodeId = worker.placement.self.nodeId then none
      else (worker.addresses home.nodeId).map fun address => (home, address)

/-- Write the answer that goes before a redirect, if there is one. -/
def answerFirst (worker : GatewayWorker) (ctx : ConnectionContext) :
    Option (Nat × Bytes) → GatewayWorker
  | none => worker
  | some (streamId, bytes) => (worker.writeClient ctx.transport.ptr streamId bytes true .backend).2

/-- Answer, tell the client where to go, and close; only with an address to send it to. -/
def redirectToHome (worker : GatewayWorker) (slot : Nat) (destId : Nat)
    (first : Option (Nat × Bytes)) : Bool × GatewayWorker :=
  match worker.context slot with
  | none => (false, worker)
  | some ctx =>
      match worker.redirectTarget ctx.realm destId with
      | none => (false, worker)
      | some (home, address) =>
          let worker := worker.answerFirst ctx first
          let redirect := (RedirectHint.encode 128 (placementHint home.nodeId home.workerId)
            address).bind (encodeControlFrame 256 .redirect)
          let worker := match redirect with
            | .error _ => worker
            | .ok data => (worker.openClient slot data true .gateway).2
          (true, worker.closeClient ctx .redirected)

/-- A destination at home on another node is not admitted here when it can be sent there. -/
def redirects (worker : GatewayWorker) (realm : RealmId) (destId : Nat) : Bool :=
  destId ≠ 0 && !worker.placement.isHomeNode realm destId &&
    (worker.redirectTarget realm destId).isSome

def redirectIfNotHome (worker : GatewayWorker) (slot : Nat) (realm : RealmId) (destId : Nat)
    (first : Option (Nat × Bytes)) : Bool × GatewayWorker :=
  if destId = 0 then (false, worker)
  else if worker.placement.isHomeNode realm destId then (false, worker)
  else worker.redirectToHome slot destId first

theorem redirectIfNotHome_of_stays {worker : GatewayWorker} {slot destId : Nat}
    {ctx : ConnectionContext} (found : worker.context slot = some ctx)
    (stays : worker.redirects ctx.realm destId = false) (first : Option (Nat × Bytes)) :
    worker.redirectIfNotHome slot ctx.realm destId first = (false, worker) := by
  unfold redirectIfNotHome
  split
  · rfl
  split
  · rfl
  rename_i addressed home
  have unknown : worker.redirectTarget ctx.realm destId = none := by
    simpa [redirects, addressed, home] using stays
  simp [redirectToHome, found, unknown]

theorem redirectIfNotHome_of_redirects {worker : GatewayWorker} {slot destId : Nat}
    {ctx : ConnectionContext} (found : worker.context slot = some ctx)
    (leaves : worker.redirects ctx.realm destId = true) (first : Option (Nat × Bytes)) :
    worker.redirectIfNotHome slot ctx.realm destId first =
      (true, (worker.redirectToHome slot destId first).2) := by
  obtain ⟨⟨addressed, away⟩, known⟩ : (destId ≠ 0 ∧
      worker.placement.isHomeNode ctx.realm destId = false) ∧
      (worker.redirectTarget ctx.realm destId).isSome = true := by
    simpa [redirects] using leaves
  obtain ⟨⟨home, address⟩, target⟩ := Option.isSome_iff_exists.mp known
  simp [redirectIfNotHome, addressed, away, redirectToHome, found, target]

/-- A connection that takes on another identity goes offline under the one it had. -/
def endIdentity (worker : GatewayWorker) (slot : Nat) (ctx : ConnectionContext) (destId : Nat) :
    GatewayWorker :=
  if ctx.authenticated ∧ ctx.destId ≠ destId then worker.publishOffline slot .identityReplaced
  else worker

/-- Admit the connection under the identity it was granted. -/
def admitSession (worker : GatewayWorker) (slot : Nat) (ctx : ConnectionContext)
    (handle : SessionHandle) (grant : AuthGrant) : GatewayWorker :=
  let worker := worker.endIdentity slot ctx grant.destId
  let worker := (worker.modifyConn slot fun ctx =>
    ctx.admitClient (expiryFrom worker.now grant.ttlSeconds)).bindDest handle grant.destId
  if ctx.authenticated = false ∨ ctx.destId ≠ grant.destId then worker.publishOnline slot
  else worker

def completeAuth (worker : GatewayWorker) (auth : PendingAuth) : GatewayWorker :=
  match worker.conns.slotFor auth.clientSession with
  | none => worker
  | some slot =>
      match worker.context slot with
      | none => worker
      | some ctx =>
          let answer (worker : GatewayWorker) : GatewayWorker :=
            if auth.responseSuppressed then worker
            else (worker.writeClient ctx.transport.ptr auth.clientStreamId auth.buffer true
              .backend).2
          let verdict := classify auth.buffer
          match verdict.result with
          | .success =>
              let first := if auth.responseSuppressed then none
                else some (auth.clientStreamId, auth.buffer)
              match worker.redirectIfNotHome slot ctx.realm verdict.grant.destId first with
              | (true, worker) => worker
              | (false, worker) =>
                  answer (worker.admitSession slot ctx auth.clientSession verdict.grant)
          | .failure => answer worker
          | .invalid =>
              if auth.responseSuppressed then worker
              else worker.replyControl auth.clientSession auth.clientStreamId .authFailure
                (text "invalid auth service response")

/-- Collect a response; only its end decides anything. -/
def collectAuthResponse (worker : GatewayWorker) (key : StreamKey) (data : Bytes)
    (isFin : Bool) : GatewayWorker :=
  match worker.inflight.lookupAuth key with
  | none => worker
  | some pending =>
      match worker.ask with
      | (false, worker) => { worker with inflight := worker.inflight.takeAuth key }
      | (true, worker) =>
          if isFin = false then
            { worker with inflight := worker.inflight.appendAuth key data }
          else
            { worker with inflight := (worker.inflight.appendAuth key data).takeAuth key }.completeAuth
              { pending with buffer := pending.buffer ++ data }

end GatewayWorker

end LyuneGateway.Worker
