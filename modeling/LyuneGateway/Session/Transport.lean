import LyuneGateway.Protocol.Frame

/-!
# Client transports

A client session runs over a QUIC connection or over a WebSocket. The gateway
numbers the streams it opens itself; everything else is up to the transport,
whose answers are asked from outside.
-/

namespace LyuneGateway.Session

inductive TransportKind where
  | rawQuic
  | wss
  deriving DecidableEq, Repr

/-- The position of a session in its worker; the generation outdates the handles of earlier
sessions at the same position. -/
structure SessionHandle where
  slot : Nat
  generation : Nat
  deriving DecidableEq, Repr

/-- A client transport; `ptr` tells the transports of a worker apart. -/
structure TransportSession where
  kind : TransportKind
  ptr : Nat
  nextOutboundExchangeId : Nat := 1
  deriving DecidableEq, Repr

/-- Streams that a client opens in both directions are numbered 0, 4, 8, and so on. -/
inductive StreamType where
  | clientBidi
  | serverBidi
  | clientUni
  | serverUni
  deriving DecidableEq, Repr

def StreamType.fromStreamId (streamId : Nat) : StreamType :=
  match streamId % 4 with
  | 0 => clientBidi
  | 1 => serverBidi
  | 2 => clientUni
  | _ => serverUni

namespace TransportSession

/-- QUIC connections are found again by their pointer, WebSockets by their handle alone. -/
def callbackKey (transport : TransportSession) : Option Nat :=
  match transport.kind with
  | .rawQuic => some transport.ptr
  | .wss => none

/-- The id of the next stream that the gateway opens, which is used up even if the write fails. -/
def reserveOutboundExchange (transport : TransportSession) : TransportSession :=
  { transport with nextOutboundExchangeId := transport.nextOutboundExchangeId + 4 }

end TransportSession

end LyuneGateway.Session
