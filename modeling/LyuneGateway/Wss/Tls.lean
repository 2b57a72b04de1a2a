import LyuneGateway.Protocol.Frame

/-!
# The TLS layer below a WebSocket

Encrypted bytes go in and come out through two buffers of bounded size, plain
bytes are read and written between them. The layer itself is a parameter: a
state and what each call does to it.
-/

namespace LyuneGateway.Wss

inductive TlsError where
  | tlsFailed
  | tlsClosed
  deriving DecidableEq, Repr

/-- What came of an attempt to move bytes. -/
inductive Progress (α : Type) where
  | bytes (moved : α)
  | wouldBlock
  | closed
  deriving DecidableEq, Repr

/-- `readPlain` and `takeEncrypted` are told how many bytes there is room for, `provideEncrypted`
and `writePlain` answer how many of the bytes they have taken. -/
structure Tls (State : Type) where
  init : State
  provideEncrypted : State → Bytes → Nat × State
  handshake : State → Except TlsError Bool × State
  serverName : State → Option Bytes
  readPlain : State → Nat → Except TlsError (Progress Bytes) × State
  writePlain : State → Bytes → Except TlsError (Progress Nat) × State
  takeEncrypted : State → Nat → Except TlsError Bytes × State
  shutdown : State → State

end LyuneGateway.Wss
