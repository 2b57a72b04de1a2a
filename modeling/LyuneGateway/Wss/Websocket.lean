import LyuneGateway.Protocol.Frame

/-!
# Frames and messages of a WebSocket

A client masks its frames, the server does not. A message may come in several
frames, between which control frames may stand; it is complete with the frame
that is the last of it.
-/

namespace LyuneGateway.Wss

inductive Opcode where
  | continuation
  | binary
  | close
  | ping
  | pong
  deriving DecidableEq, Repr

namespace Opcode

def toNat : Opcode → Nat
  | continuation => 0
  | binary => 2
  | close => 8
  | ping => 9
  | pong => 10

def ofNat? : Nat → Option Opcode
  | 0 => some continuation
  | 2 => some binary
  | 8 => some close
  | 9 => some ping
  | 10 => some pong
  | _ => none

def isControl (opcode : Opcode) : Bool := 8 ≤ opcode.toNat

end Opcode

/-- A frame of the client, with the mask taken off. -/
structure WebFrame where
  opcode : Opcode
  fin : Bool
  payload : Bytes
  deriving DecidableEq, Repr

structure ParsedFrame where
  frame : WebFrame
  consumed : Nat
  deriving DecidableEq, Repr

inductive WebFrameError where
  | needMore
  | reservedBitsSet
  | unsupportedOpcode
  | clientFrameNotMasked
  | nonCanonicalLength
  | payloadTooLarge
  | fragmentedControlFrame
  | invalidControlPayload
  deriving DecidableEq, Repr

/-- The length that a frame states and where its mask begins; it is stated on as few bytes as
it fits. -/
def statedLength (input : Bytes) : Except WebFrameError (Nat × Nat) :=
  let short := (input.getD 1 0).toNat % 128
  if short = 126 then
    if input.length < 4 then .error .needMore
    else
      let long := BigEndian.readAt input 2 2
      if long < 126 then .error .nonCanonicalLength else .ok (long, 4)
  else if short = 127 then
    if input.length < 10 then .error .needMore
    else
      let long := BigEndian.readAt input 2 8
      if long ≤ 65535 ∨ 2 ^ 63 ≤ long then .error .nonCanonicalLength else .ok (long, 10)
  else .ok (short, 2)

def unmask (mask payload : Bytes) : Bytes :=
  payload.mapIdx fun index byte => byte ^^^ mask.getD (index % 4) 0

/-- The frame at the start of what a client has sent. -/
def parseClientFrame (input : Bytes) (maxPayload : Nat) : Except WebFrameError ParsedFrame :=
  if input.length < 2 then .error .needMore
  else
    let first := (input.getD 0 0).toNat
    let fin := decide (128 ≤ first)
    if first / 16 % 8 ≠ 0 then .error .reservedBitsSet
    else
      match Opcode.ofNat? (first % 16) with
      | none => .error .unsupportedOpcode
      | some opcode =>
          if (input.getD 1 0).toNat < 128 then .error .clientFrameNotMasked
          else do
            let (payloadLen, offset) ← statedLength input
            if maxPayload < payloadLen then .error .payloadTooLarge
            else if opcode.isControl ∧ fin = false then .error .fragmentedControlFrame
            else if opcode.isControl ∧
                (125 < payloadLen ∨ (opcode = .close ∧ payloadLen = 1)) then
              .error .invalidControlPayload
            else if input.length < offset + 4 then .error .needMore
            else if input.length < offset + 4 + payloadLen then .error .needMore
            else
              let mask := (input.drop offset).take 4
              .ok {
                frame := {
                  opcode := opcode
                  fin := fin
                  payload := unmask mask ((input.drop (offset + 4)).take payloadLen) }
                consumed := offset + 4 + payloadLen }

inductive HeaderError where
  | invalidControlPayload
  deriving DecidableEq, Repr

/-- The head of a frame of the server. -/
def encodeServerHeader (opcode : Opcode) (fin : Bool) (payloadLen : Nat) :
    Except HeaderError Bytes :=
  if opcode.isControl ∧ (fin = false ∨ 125 < payloadLen) then .error .invalidControlPayload
  else
    let first := UInt8.ofNat ((if fin then 128 else 0) + opcode.toNat)
    if payloadLen ≤ 125 then .ok [first, UInt8.ofNat payloadLen]
    else if payloadLen ≤ 65535 then .ok (first :: 126 :: BigEndian.write 2 payloadLen)
    else .ok (first :: 127 :: BigEndian.write 8 payloadLen)

inductive Message where
  | binary (bytes : Bytes)
  | close (payload : Bytes)
  | ping (payload : Bytes)
  | pong (payload : Bytes)
  | incomplete
  deriving DecidableEq, Repr

inductive MessageError where
  | unexpectedContinuation
  | interleavedDataMessage
  | messageTooLarge
  deriving DecidableEq, Repr

/-- The part of a message that has come so far. -/
structure MessageAssembler where
  capacity : Nat
  scratch : Bytes := []
  fragmented : Bool := false
  deriving DecidableEq, Repr

namespace MessageAssembler

def append (assembler : MessageAssembler) (bytes : Bytes) :
    Except MessageError MessageAssembler :=
  if assembler.capacity - assembler.scratch.length < bytes.length then .error .messageTooLarge
  else .ok { assembler with scratch := assembler.scratch ++ bytes }

def accept (assembler : MessageAssembler) (frame : WebFrame) :
    Except MessageError (Message × MessageAssembler) :=
  match frame.opcode with
  | .binary =>
      if assembler.fragmented then .error .interleavedDataMessage
      else if frame.fin then .ok (.binary frame.payload, assembler)
      else do
        let assembler ← { assembler with fragmented := true, scratch := [] }.append frame.payload
        .ok (.incomplete, assembler)
  | .continuation =>
      if assembler.fragmented = false then .error .unexpectedContinuation
      else do
        let assembler ← assembler.append frame.payload
        if frame.fin = false then .ok (.incomplete, assembler)
        else .ok (.binary assembler.scratch, { assembler with fragmented := false, scratch := [] })
  | .close => .ok (.close frame.payload, assembler)
  | .ping => .ok (.ping frame.payload, assembler)
  | .pong => .ok (.pong frame.payload, assembler)

end MessageAssembler

end LyuneGateway.Wss
