import Mathlib.Data.List.DropRight
import LyuneGateway.Membership.Sending

/-!
# What a node takes twice

With a secret, a node remembers the senders and tags of the last datagrams it has
taken, and takes none of these again. What has been forgotten is taken once more.
-/

namespace LyuneGateway.Membership

open Control (NodeStatus)
open Faulty

/-! ## The last items of a list -/

section Recent

variable {α : Type} {log : List α} {item : α} {size : Nat}

end Recent

namespace Swim

variable {rest : Aside} {now : Nat} {swim node : Swim} {config : Config} {mac : Mac}

/-- Who sent the datagram of the command, and with which tag, if the node takes it. -/
def Command.taken (command : Command) (swim : Swim) : Option (Nat × Bytes) :=
  match command with
  | .message _ _ bytes =>
      match receive bytes swim with
      | .done (some told) _ => some (told.sender, tagOf bytes)
      | _ => none
  | _ => none

/-- The senders and tags of the datagrams that the node takes in a run. -/
def taken : Option Swim → List Command → List (Nat × Bytes)
  | _, [] => []
  | node, command :: commands =>
      (node.bind command.taken).toList ++ taken (perform node command) commands

/-! ## One datagram -/

section Datagram

variable {source : Address} {bytes : Bytes} {message : Message}

end Datagram

/-! ## Runs -/

section Life

variable {random : Nat → Nat} {memory : Nat → Bool} {first : Swim} {before : List Command}
  {bytes : Bytes} {message : Message}

end Life

/-! ## Notes that only the memory of tags keeps -/

/-- The beginning of a message, in place of its hash. -/
def sealing : Mac := fun _ payload => (payload ++ List.replicate authTagSize 0).take authTagSize

def sharing (nodeId : Nat) : Config where
  nodeId := nodeId
  address := .ip4 1 7946
  maxNodes := 16
  narrow := small.narrow
  secret := List.replicate minSecretSize 7

/-- The datagram of a message. -/
def sealed (message : Message) : Bytes := message.wire ++ sealing (sharing 1).secret message.wire

/-- An acknowledgement that nobody waits for. -/
def note (seq : Nat) : Message where
  type := .ack
  sender := 2
  seq := seq

def noting (seq : Nat) : Command := .message 0 (.ip4 2 7946) (sealed (note seq))

/-- What is remembered of a note. -/
def noted (seq : Nat) : Nat × Bytes := ((note seq).sender, tagOf (sealed (note seq)))

/-- A node that waits for no acknowledgement. -/
structure Idle (node : Swim) : Prop where
  sendable : Sendable (sharing 1) sealing node
  probe : node.probe = none
  relays : ∀ place < relayCapacity, node.relays place = none

theorem Idle.withCache (idle : Idle node) (cache : List (Nat × Bytes)) :
    Idle { node with replayCache := cache } :=
  ⟨idle.sendable, idle.probe, idle.relays⟩

end Swim

end LyuneGateway.Membership
