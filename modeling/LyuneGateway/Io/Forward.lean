import LyuneGateway.Lib.Bitmap
import Mathlib.Data.Finset.Card
import Mathlib.Logic.Function.Basic

/-!
# The replay windows of the forward tunnel

The receiving thread keeps one window for each pair of a source node and its
session. The windows lie in a ring of slots; a pair that has none takes the slot
the ring stands at, whoever held it. The reference keeps, for each pair, the set
of all numbers it has accepted.
-/

namespace LyuneGateway.Io

def replayCacheCapacity : Nat := 128

def replayWindowBits : Nat := 64

theorem replayCacheCapacity_pos : 0 < replayCacheCapacity := by decide

/-- What the replay test reads of an authenticated packet. -/
structure Decoded where
  sourceNodeId : Nat
  targetNodeId : Nat
  sessionId : Nat
  sequence : Nat
  deriving DecidableEq, Repr

structure ReplayWindow where
  sourceNodeId : Nat
  sessionId : Nat
  highestSequence : Nat
  seen : BitVec replayWindowBits
  deriving DecidableEq, Repr

namespace Decoded

/-- The sender of a packet, as the windows tell senders apart. -/
def pair (packet : Decoded) : Nat × Nat := (packet.sourceNodeId, packet.sessionId)

/-- A packet of this sender for this node. -/
def Concerns (packet : Decoded) (nodeId : Nat) (pair : Nat × Nat) : Prop :=
  packet.targetNodeId = nodeId ∧ packet.pair = pair

instance (packet : Decoded) (nodeId : Nat) (pair : Nat × Nat) :
    Decidable (packet.Concerns nodeId pair) :=
  inferInstanceAs (Decidable (_ ∧ _))

end Decoded

namespace ReplayWindow

def pair (window : ReplayWindow) : Nat × Nat := (window.sourceNodeId, window.sessionId)

def accept (window : ReplayWindow) (sequence : Nat) : Bool × ReplayWindow :=
  if window.highestSequence < sequence then
    let advance := sequence - window.highestSequence
    (true, { window with
      seen :=
        if replayWindowBits ≤ advance then BitVec.ofNat replayWindowBits 1
        else window.seen <<< advance ||| BitVec.ofNat replayWindowBits 1
      highestSequence := sequence })
  else
    let age := window.highestSequence - sequence
    if replayWindowBits ≤ age then (false, window)
    else
      let mask := BitVec.ofNat replayWindowBits 1 <<< age
      if window.seen &&& mask ≠ BitVec.ofNat replayWindowBits 0 then (false, window)
      else (true, { window with seen := window.seen ||| mask })

@[simp] theorem accept_pair (window : ReplayWindow) (sequence : Nat) :
    (window.accept sequence).2.pair = window.pair := by
  unfold accept
  dsimp only
  repeat' split
  all_goals rfl

/-- The window stands for a set of accepted numbers. -/
def Shows (window : ReplayWindow) (accepted : Finset Nat) : Prop :=
  Bitmap.Marks window.highestSequence window.seen accepted

/-- Numbers that the reference takes: new, and less than a window behind every accepted one. -/
def Fresh (accepted : Finset Nat) (sequence : Nat) : Prop :=
  sequence ∉ accepted ∧ ∀ number ∈ accepted, number < sequence + replayWindowBits

instance (accepted : Finset Nat) (sequence : Nat) : Decidable (Fresh accepted sequence) :=
  inferInstanceAs (Decidable (_ ∧ _))

/-- A window decides as the set it stands for, and goes on to stand for the set with the number. -/
theorem Shows.accept {window : ReplayWindow} {accepted : Finset Nat}
    (shows_ : window.Shows accepted) (sequence : Nat) :
    ((window.accept sequence).1 = true ↔ Fresh accepted sequence) ∧
      (window.accept sequence).2.Shows
        (if (window.accept sequence).1 = true then insert sequence accepted else accepted) := by
  unfold ReplayWindow.accept
  dsimp only
  by_cases above : window.highestSequence < sequence
  · have fresh : Fresh accepted sequence := by
      refine ⟨fun listed => ?_, fun number listed => ?_⟩
      · exact absurd (shows_.bounded _ listed) (not_le.mpr above)
      · have := shows_.bounded number listed
        omega
    simp only [above, if_true, fresh, true_and]
    by_cases far : replayWindowBits ≤ sequence - window.highestSequence
    · simp only [far, if_true]
      exact shows_.jump (by decide) far
    · simp only [far, if_false]
      exact shows_.advance above (not_le.mp far)
  simp only [above, if_false]
  by_cases old : replayWindowBits ≤ window.highestSequence - sequence
  · simp only [old, if_true, Bool.false_eq_true, false_iff, if_false]
    refine ⟨fun fresh => ?_, shows_⟩
    have := fresh.2 _ shows_.top
    omega
  simp only [old, if_false]
  have below : sequence ≤ window.highestSequence := not_lt.mp above
  have near := not_le.mp old
  have shown := shows_.shown (window.highestSequence - sequence) near (Nat.sub_le _ _)
  rw [Nat.sub_sub_self below] at shown
  simp only [Bitmap.test_mask window.seen near, shown]
  by_cases taken : sequence ∈ accepted
  · simp only [taken, if_true, Bool.false_eq_true, false_iff, if_false]
    exact ⟨fun fresh => fresh.1 taken, shows_⟩
  · simp only [taken, if_false, if_true, true_iff]
    refine ⟨⟨taken, fun number listed => ?_⟩, shows_.mark below near⟩
    have := shows_.bounded number listed
    omega

end ReplayWindow

/-- The part of the tunnel that the replay test works on. -/
structure Tunnel where
  nodeId : Nat
  replayCache : Nat → Option ReplayWindow := fun _ => none
  replayNext : Nat := 0

namespace Tunnel

/-- The first slot whose window belongs to the sender. -/
def windowOf (tunnel : Tunnel) (packet : Decoded) : Option (Nat × ReplayWindow) :=
  (List.range replayCacheCapacity).findSome? fun slot =>
    match tunnel.replayCache slot with
    | none => none
    | some window =>
        if window.sourceNodeId ≠ packet.sourceNodeId ∨ window.sessionId ≠ packet.sessionId then none
        else some (slot, window)

def acceptReplay (tunnel : Tunnel) (packet : Decoded) : Bool × Tunnel :=
  if packet.targetNodeId ≠ tunnel.nodeId then (false, tunnel)
  else
    match tunnel.windowOf packet with
    | some (slot, window) =>
        let judged := window.accept packet.sequence
        (judged.1, { tunnel with
          replayCache := Function.update tunnel.replayCache slot (some judged.2) })
    | none =>
        let window : ReplayWindow :=
          { sourceNodeId := packet.sourceNodeId, sessionId := packet.sessionId,
            highestSequence := packet.sequence, seen := BitVec.ofNat replayWindowBits 1 }
        (true, { tunnel with
          replayCache := Function.update tunnel.replayCache tunnel.replayNext (some window)
          replayNext := (tunnel.replayNext + 1) % replayCacheCapacity })

/-- The tunnel after it has judged a list of packets. -/
def run (tunnel : Tunnel) (packets : List Decoded) : Tunnel :=
  packets.foldl (fun tunnel packet => (tunnel.acceptReplay packet).2) tunnel

/-- What the tunnel answered to each packet of a sender. -/
def verdicts (pair : Nat × Nat) (tunnel : Tunnel) : List Decoded → List Bool
  | [] => []
  | packet :: packets =>
      let judged := tunnel.acceptReplay packet
      if packet.Concerns tunnel.nodeId pair then judged.1 :: verdicts pair judged.2 packets
      else verdicts pair judged.2 packets

/-- The numbers of a sender that the tunnel accepted. -/
def accepted (pair : Nat × Nat) (tunnel : Tunnel) : List Decoded → List Nat
  | [] => []
  | packet :: packets =>
      let judged := tunnel.acceptReplay packet
      if packet.pair = pair ∧ judged.1 = true then
        packet.sequence :: accepted pair judged.2 packets
      else accepted pair judged.2 packets

/-- What the reference answers, which keeps every number it accepted. -/
def reference (accepted : Finset Nat) : List Nat → List Bool
  | [] => []
  | sequence :: sequences =>
      if ReplayWindow.Fresh accepted sequence then
        true :: reference (insert sequence accepted) sequences
      else false :: reference accepted sequences

/-- The numbers that a sender's packets for a node carry. -/
def sequences (nodeId : Nat) (pair : Nat × Nat) (packets : List Decoded) : List Nat :=
  (packets.filter (·.Concerns nodeId pair)).map (·.sequence)

/-- The other senders of packets for a node. -/
def others (nodeId : Nat) (pair : Nat × Nat) (packets : List Decoded) : Finset (Nat × Nat) :=
  ((packets.filter fun packet => packet.targetNodeId = nodeId ∧ packet.pair ≠ pair).map
    (·.pair)).toFinset

variable {tunnel : Tunnel} {packet : Decoded} {pair : Nat × Nat}

/-- A packet for another node changes nothing. -/
theorem acceptReplay_misrouted (elsewhere : packet.targetNodeId ≠ tunnel.nodeId) :
    tunnel.acceptReplay packet = (false, tunnel) := by
  simp [acceptReplay, elsewhere]

theorem windowOf_eq_some {slot : Nat} {window : ReplayWindow}
    (found : tunnel.windowOf packet = some (slot, window)) :
    slot < replayCacheCapacity ∧ tunnel.replayCache slot = some window ∧
      window.pair = packet.pair := by
  obtain ⟨index, listed, here⟩ := List.exists_of_findSome?_eq_some found
  split at here
  · simp at here
  rename_i held holds
  split at here
  · simp at here
  rename_i same
  cases here
  push Not at same
  exact ⟨List.mem_range.mp listed, holds, Prod.ext same.1 same.2⟩

theorem windowOf_eq_none (missing : tunnel.windowOf packet = none) {slot : Nat}
    (inRange : slot < replayCacheCapacity) {window : ReplayWindow}
    (holds : tunnel.replayCache slot = some window) : window.pair ≠ packet.pair := by
  intro same
  have here := List.findSome?_eq_none_iff.mp missing slot (List.mem_range.mpr inRange)
  rw [holds] at here
  have source : window.sourceNodeId = packet.sourceNodeId := congrArg Prod.fst same
  have session : window.sessionId = packet.sessionId := congrArg Prod.snd same
  simp [source, session] at here

@[simp] theorem acceptReplay_nodeId : (tunnel.acceptReplay packet).2.nodeId = tunnel.nodeId := by
  unfold acceptReplay
  repeat' split
  all_goals rfl

@[simp] theorem run_nodeId (packets : List Decoded) :
    (tunnel.run packets).nodeId = tunnel.nodeId := by
  induction packets generalizing tunnel with
  | nil => rfl
  | cons packet packets ih =>
      have rest : ((tunnel.acceptReplay packet).2.run packets).nodeId = _ := ih
      exact rest.trans (by simp)

theorem run_append (first second : List Decoded) :
    tunnel.run (first ++ second) = (tunnel.run first).run second := List.foldl_append ..

theorem accepted_append (first second : List Decoded) :
    tunnel.accepted pair (first ++ second) =
      tunnel.accepted pair first ++ (tunnel.run first).accepted pair second := by
  induction first generalizing tunnel with
  | nil => rfl
  | cons packet first ih =>
      simp only [List.cons_append, accepted, ih, run, List.foldl_cons]
      split <;> rfl

/-- Slots after the home of a sender, in the order in which the ring will come to them. -/
def slotAfter (home index : Nat) : Nat := (home + 1 + index) % replayCacheCapacity

theorem slotAfter_inj {home first second : Nat} (firstNear : first < replayCacheCapacity)
    (secondNear : second < replayCacheCapacity)
    (same : slotAfter home first = slotAfter home second) : first = second := by
  unfold slotAfter replayCacheCapacity at *
  omega

theorem slotAfter_ne_home {home index : Nat} (_ : home < replayCacheCapacity)
    (near : index + 1 < replayCacheCapacity) : slotAfter home index ≠ home := by
  unfold slotAfter replayCacheCapacity at *
  omega

theorem slotAfter_lt (home index : Nat) : slotAfter home index < replayCacheCapacity :=
  Nat.mod_lt _ replayCacheCapacity_pos

/-- Since a sender got its slot, only senders that came later have taken slots, each of them one. -/
structure Houses (tunnel : Tunnel) (pair : Nat × Nat) (accepted : Finset Nat) (home : Nat)
    (later : List (Nat × Nat)) : Prop where
  inRange : home < replayCacheCapacity
  window : ∃ window, tunnel.replayCache home = some window ∧ window.pair = pair ∧
    window.Shows accepted
  alone : ∀ slot < replayCacheCapacity, ∀ window,
    tunnel.replayCache slot = some window → window.pair = pair → slot = home
  nodup : later.Nodup
  strangers : pair ∉ later
  room : later.length < replayCacheCapacity
  next : tunnel.replayNext = slotAfter home later.length
  placed : ∀ index, (near : index < later.length) → ∃ window,
    tunnel.replayCache (slotAfter home index) = some window ∧ window.pair = later[index]

/-- A sender has its window, and at most these senders came after it got it. -/
def Keeps (tunnel : Tunnel) (pair : Nat × Nat) (accepted : Finset Nat)
    (met : Finset (Nat × Nat)) : Prop :=
  ∃ home later, tunnel.Houses pair accepted home later ∧ ∀ other ∈ later, other ∈ met

namespace Houses

variable {accepted : Finset Nat} {home : Nat} {later : List (Nat × Nat)}

theorem windowOf_eq (houses : tunnel.Houses pair accepted home later)
    (same : packet.pair = pair) : ∃ window, tunnel.windowOf packet = some (home, window) ∧
      window.pair = pair ∧ window.Shows accepted := by
  obtain ⟨window, holds, owned, shows_⟩ := houses.window
  cases found : tunnel.windowOf packet with
  | none =>
      exact absurd (owned.trans same.symm) (windowOf_eq_none found houses.inRange holds)
  | some result =>
      obtain ⟨slot, other⟩ := result
      obtain ⟨within, here, owner⟩ := windowOf_eq_some found
      obtain rfl := houses.alone slot within other here (owner.trans same)
      obtain rfl : other = window := Option.some.inj (here.symm.trans holds)
      exact ⟨other, rfl, owned, shows_⟩

/-- A window that stays with its sender leaves the order of the ring alone. -/
theorem update (houses : tunnel.Houses pair accepted home later) {slot : Nat}
    {window other : ReplayWindow} {shown : Finset Nat}
    (holds : tunnel.replayCache slot = some window) (same : other.pair = window.pair)
    (shows_ : slot = home → other.Shows shown) (kept : slot ≠ home → shown = accepted) :
    ({ tunnel with replayCache := Function.update tunnel.replayCache slot (some other) } :
      Tunnel).Houses pair shown home later where
  inRange := houses.inRange
  window := by
    obtain ⟨own, ownHeld, owned, ownShows⟩ := houses.window
    by_cases here : slot = home
    · subst here
      obtain rfl : own = window := Option.some.inj (ownHeld.symm.trans holds)
      exact ⟨other, by simp, same.trans owned, shows_ rfl⟩
    · refine ⟨own, ?_, owned, kept here ▸ ownShows⟩
      simp only [Function.update_of_ne (Ne.symm here), ownHeld]
  alone index within found held owned := by
    by_cases here : index = slot
    · subst here
      simp only [Function.update_self, Option.some.injEq] at held
      exact houses.alone index within window holds (by rw [← same, held, owned])
    · simp only [Function.update_of_ne here] at held
      exact houses.alone index within found held owned
  nodup := houses.nodup
  strangers := houses.strangers
  room := houses.room
  next := houses.next
  placed index near := by
    obtain ⟨found, held, owned⟩ := houses.placed index near
    by_cases here : slotAfter home index = slot
    · subst here
      obtain rfl : found = window := Option.some.inj (held.symm.trans holds)
      exact ⟨other, by simp, same.trans owned⟩
    · exact ⟨found, by simp only [Function.update_of_ne here, held], owned⟩

/-- A sender without a window takes the slot after those that came later. -/
theorem place (houses : tunnel.Houses pair accepted home later) {window : ReplayWindow}
    (other : window.pair ≠ pair) (new : window.pair ∉ later)
    (room : later.length + 1 < replayCacheCapacity) :
    ({ tunnel with
      replayCache := Function.update tunnel.replayCache tunnel.replayNext (some window)
      replayNext := (tunnel.replayNext + 1) % replayCacheCapacity } : Tunnel).Houses
        pair accepted home (later ++ [window.pair]) where
  inRange := houses.inRange
  window := by
    obtain ⟨own, ownHeld, owned, shows_⟩ := houses.window
    have away : home ≠ tunnel.replayNext :=
      houses.next ▸ (slotAfter_ne_home houses.inRange room).symm
    exact ⟨own, by simp only [Function.update_of_ne away, ownHeld], owned, shows_⟩
  alone index inRange found held owned := by
    by_cases here : index = tunnel.replayNext
    · subst here
      simp only [Function.update_self, Option.some.injEq] at held
      exact absurd (held ▸ owned) other
    · simp only [Function.update_of_ne here] at held
      exact houses.alone index inRange found held owned
  nodup := List.nodup_append.mpr ⟨houses.nodup, List.nodup_singleton _, fun earlier listed last
    is => by
      rw [List.mem_singleton.mp is]
      rintro rfl
      exact new listed⟩
  strangers := by
    simp only [List.mem_append, List.mem_singleton, not_or]
    exact ⟨houses.strangers, other.symm⟩
  room := by simpa using room
  next := by
    simp only [houses.next, List.length_append, List.length_singleton, slotAfter]
    unfold replayCacheCapacity
    omega
  placed index near := by
    simp only [List.length_append, List.length_singleton] at near
    by_cases last : index = later.length
    · subst last
      exact ⟨window, by simp [houses.next], by simp⟩
    · have before : index < later.length := by omega
      obtain ⟨found, held, owned⟩ := houses.placed index before
      have away : slotAfter home index ≠ tunnel.replayNext := fun same =>
        last (slotAfter_inj (by omega) (by omega) (same.trans houses.next))
      exact ⟨found, by simp only [Function.update_of_ne away, held],
        owned.trans (List.getElem_append_left before).symm⟩

end Houses

theorem acceptReplay_of_window {slot : Nat} {window : ReplayWindow}
    (here : packet.targetNodeId = tunnel.nodeId)
    (found : tunnel.windowOf packet = some (slot, window)) :
    tunnel.acceptReplay packet = ((window.accept packet.sequence).1, { tunnel with
      replayCache := Function.update tunnel.replayCache slot
        (some (window.accept packet.sequence).2) }) := by
  simp [acceptReplay, here, found]

theorem others_append (nodeId : Nat) (first second : List Decoded) :
    others nodeId pair (first ++ second) = others nodeId pair first ∪ others nodeId pair second := by
  simp [others, List.toFinset_append]

namespace Keeps

variable {accepted : Finset Nat} {met : Finset (Nat × Nat)}

/-- A packet of the sender is judged as the set of its accepted numbers says. -/
theorem judge (keeps : tunnel.Keeps pair accepted met) (concerns : packet.Concerns tunnel.nodeId pair) :
    ((tunnel.acceptReplay packet).1 = true ↔ ReplayWindow.Fresh accepted packet.sequence) ∧
      (tunnel.acceptReplay packet).2.Keeps pair
        (if (tunnel.acceptReplay packet).1 = true then insert packet.sequence accepted
        else accepted) met := by
  obtain ⟨home, later, houses, listed⟩ := keeps
  obtain ⟨window, found, owned, shows_⟩ := houses.windowOf_eq concerns.2
  obtain ⟨verdict, remains⟩ := shows_.accept packet.sequence
  obtain ⟨_, holds, _⟩ := windowOf_eq_some found
  rw [acceptReplay_of_window concerns.1 found]
  exact ⟨verdict, home, later, houses.update holds (ReplayWindow.accept_pair window _)
    (fun _ => remains) (fun away => absurd rfl away), listed⟩

/-- Any other packet leaves the sender's set alone, as long as there is room for its own sender. -/
theorem pass (keeps : tunnel.Keeps pair accepted met)
    (foreign : ¬packet.Concerns tunnel.nodeId pair)
    (room : (met ∪ others tunnel.nodeId pair [packet]).card < replayCacheCapacity) :
    (tunnel.acceptReplay packet).2.Keeps pair accepted
      (met ∪ others tunnel.nodeId pair [packet]) := by
  obtain ⟨home, later, houses, listed⟩ := keeps
  have known : ∀ other ∈ later, other ∈ met ∪ others tunnel.nodeId pair [packet] :=
    fun other here => Finset.mem_union_left _ (listed other here)
  by_cases elsewhere : packet.targetNodeId ≠ tunnel.nodeId
  · rw [acceptReplay_misrouted elsewhere]
    exact ⟨home, later, houses, known⟩
  have here := not_not.mp elsewhere
  have other : packet.pair ≠ pair := fun same => foreign ⟨here, same⟩
  cases found : tunnel.windowOf packet with
  | some result =>
      obtain ⟨slot, window⟩ := result
      obtain ⟨_, holds, owner⟩ := windowOf_eq_some found
      have away : slot ≠ home := by
        rintro rfl
        obtain ⟨own, ownHeld, owned, _⟩ := houses.window
        obtain rfl : own = window := Option.some.inj (ownHeld.symm.trans holds)
        exact other (owner.symm.trans owned)
      rw [acceptReplay_of_window here found]
      exact ⟨home, later, houses.update holds (ReplayWindow.accept_pair window _)
        (fun same => absurd same away) (fun _ => rfl), known⟩
  | none =>
      have new : packet.pair ∉ later := by
        intro already
        obtain ⟨index, near, is⟩ := List.getElem_of_mem already
        obtain ⟨window, held, owned⟩ := houses.placed index near
        exact windowOf_eq_none found (slotAfter_lt home index) held (owned.trans is)
      have counted : packet.pair ∈ met ∪ others tunnel.nodeId pair [packet] :=
        Finset.mem_union_right _ (by simp [others, here, other])
      have within : (later ++ [packet.pair]).toFinset ⊆ met ∪ others tunnel.nodeId pair [packet] := by
        intro sender isListed
        obtain earlier | last := List.mem_append.mp (List.mem_toFinset.mp isListed)
        · exact known sender earlier
        · rwa [List.mem_singleton.mp last]
      have distinct : (later ++ [packet.pair]).Nodup :=
        List.nodup_append.mpr ⟨houses.nodup, List.nodup_singleton _, fun earlier isListed last is => by
          rw [List.mem_singleton.mp is]
          rintro rfl
          exact new isListed⟩
      have fits : later.length + 1 < replayCacheCapacity := by
        have bound := Finset.card_le_card within
        rw [List.toFinset_card_of_nodup distinct, List.length_append] at bound
        exact bound.trans_lt room
      simp only [acceptReplay, here, ne_eq, not_true, if_false, found]
      exact ⟨home, later ++ [packet.pair], houses.place other new fits, fun sender isListed =>
        within (List.mem_toFinset.mpr isListed)⟩

/-- A run with few other senders keeps the sender's window, and the window its set. -/
theorem run {packets : List Decoded} (keeps : tunnel.Keeps pair accepted met)
    (room : (met ∪ others tunnel.nodeId pair packets).card < replayCacheCapacity) :
    (tunnel.run packets).Keeps pair (accepted ∪ (tunnel.accepted pair packets).toFinset)
      (met ∪ others tunnel.nodeId pair packets) := by
  induction packets generalizing tunnel accepted met with
  | nil => simpa [Tunnel.run, Tunnel.accepted, others] using keeps
  | cons packet packets ih =>
      have split : others tunnel.nodeId pair (packet :: packets) =
          others tunnel.nodeId pair [packet] ∪ others tunnel.nodeId pair packets :=
        others_append tunnel.nodeId [packet] packets
      rw [split, ← Finset.union_assoc] at room ⊢
      have first : (met ∪ others tunnel.nodeId pair [packet]).card < replayCacheCapacity :=
        (Finset.card_le_card Finset.subset_union_left).trans_lt room
      by_cases concerns : packet.Concerns tunnel.nodeId pair
      · have next := (keeps.judge concerns).2
        have none_ : others tunnel.nodeId pair [packet] = ∅ := by simp [others, concerns.2]
        rw [none_, Finset.union_empty] at room ⊢
        have rest := ih next (by simpa using room)
        by_cases verdict : (tunnel.acceptReplay packet).1 = true
        · simp only [verdict, if_true, acceptReplay_nodeId] at rest
          simpa [Tunnel.run, Tunnel.accepted, concerns.2, verdict, Finset.insert_union] using rest
        · simp only [verdict, acceptReplay_nodeId] at rest
          simpa [Tunnel.run, Tunnel.accepted, verdict] using rest
      · have rest := ih (keeps.pass concerns first) (by simpa using room)
        have uncounted : ¬(packet.pair = pair ∧ (tunnel.acceptReplay packet).1 = true) := by
          rintro ⟨same, verdict⟩
          by_cases elsewhere : packet.targetNodeId ≠ tunnel.nodeId
          · simp [acceptReplay_misrouted elsewhere] at verdict
          · exact concerns ⟨not_not.mp elsewhere, same⟩
        simpa [Tunnel.run, Tunnel.accepted, uncounted] using rest

end Keeps

def init (nodeId : Nat) : Tunnel := { nodeId := nodeId }

/-- The ring stands at a slot, and every window belongs to a sender heard before. -/
structure Known (tunnel : Tunnel) (heard : List Decoded) : Prop where
  next : tunnel.replayNext < replayCacheCapacity
  owners : ∀ slot window, tunnel.replayCache slot = some window →
    ∃ packet ∈ heard, packet.Concerns tunnel.nodeId window.pair

theorem Known.step {heard : List Decoded} (known : tunnel.Known heard) (packet : Decoded) :
    (tunnel.acceptReplay packet).2.Known (heard ++ [packet]) := by
  have older : ∀ {sender}, (∃ earlier ∈ heard, earlier.Concerns tunnel.nodeId sender) →
      ∃ earlier ∈ heard ++ [packet], earlier.Concerns tunnel.nodeId sender :=
    fun ⟨earlier, listed, concerns⟩ => ⟨earlier, List.mem_append_left _ listed, concerns⟩
  by_cases elsewhere : packet.targetNodeId ≠ tunnel.nodeId
  · rw [acceptReplay_misrouted elsewhere]
    exact ⟨known.next, fun slot window held => older (known.owners slot window held)⟩
  have here := not_not.mp elsewhere
  cases found : tunnel.windowOf packet with
  | some result =>
      obtain ⟨slot, window⟩ := result
      obtain ⟨_, holds, _⟩ := windowOf_eq_some found
      rw [acceptReplay_of_window here found]
      refine ⟨known.next, fun other owned held => ?_⟩
      by_cases same : other = slot
      · subst same
        simp only [Function.update_self, Option.some.injEq] at held
        rw [← held, ReplayWindow.accept_pair]
        exact older (known.owners other window holds)
      · simp only [Function.update_of_ne same] at held
        exact older (known.owners other owned held)
  | none =>
      simp only [acceptReplay, here, ne_eq, not_true, if_false, found]
      refine ⟨Nat.mod_lt _ replayCacheCapacity_pos, fun other owned held => ?_⟩
      by_cases same : other = tunnel.replayNext
      · subst same
        simp only [Function.update_self, Option.some.injEq] at held
        exact ⟨packet, by simp, here, by rw [← held]; rfl⟩
      · simp only [Function.update_of_ne same] at held
        exact older (known.owners other owned held)

theorem known_run (nodeId : Nat) (packets : List Decoded) :
    ((init nodeId).run packets).Known packets := by
  induction packets using List.reverseRecOn with
  | nil => exact ⟨replayCacheCapacity_pos, fun slot window held => by simp [run, init] at held⟩
  | append_singleton packets packet ih =>
      rw [run_append]
      exact ih.step packet

/-- The first packet of a sender opens a window with its number. -/
theorem Known.first {heard : List Decoded} (known : tunnel.Known heard)
    (unheard : ∀ earlier ∈ heard, ¬earlier.Concerns tunnel.nodeId pair)
    (concerns : packet.Concerns tunnel.nodeId pair) :
    (tunnel.acceptReplay packet).1 = true ∧
      (tunnel.acceptReplay packet).2.Keeps pair {packet.sequence} ∅ := by
  have absent : ∀ slot window, tunnel.replayCache slot = some window → window.pair ≠ pair := by
    rintro slot window held rfl
    obtain ⟨earlier, listed, about⟩ := known.owners slot window held
    exact unheard earlier listed about
  cases found : tunnel.windowOf packet with
  | some result =>
      obtain ⟨slot, window⟩ := result
      obtain ⟨_, holds, owner⟩ := windowOf_eq_some found
      exact absurd (owner.trans concerns.2) (absent slot window holds)
  | none =>
      simp only [acceptReplay, concerns.1, ne_eq, not_true, if_false, found, true_and]
      refine ⟨tunnel.replayNext, [], ?_, fun other listed => absurd listed (List.not_mem_nil)⟩
      exact {
        inRange := known.next
        window := ⟨_, Function.update_self .., concerns.2, Bitmap.Marks.singleton (by decide) _⟩
        alone := fun slot within window held owned => by
          by_contra different
          simp only [Function.update_of_ne different] at held
          exact absent slot window held owned
        nodup := List.nodup_nil
        strangers := List.not_mem_nil
        room := replayCacheCapacity_pos
        next := rfl
        placed := fun index near => absurd near (Nat.not_lt_zero index) }

theorem accepted_eq_nil {packets : List Decoded}
    (foreign : ∀ packet ∈ packets, ¬packet.Concerns tunnel.nodeId pair) :
    tunnel.accepted pair packets = [] := by
  induction packets generalizing tunnel with
  | nil => rfl
  | cons packet packets ih =>
      have uncounted : ¬(packet.pair = pair ∧ (tunnel.acceptReplay packet).1 = true) := by
        rintro ⟨same, verdict⟩
        by_cases elsewhere : packet.targetNodeId ≠ tunnel.nodeId
        · simp [acceptReplay_misrouted elsewhere] at verdict
        · exact foreign packet List.mem_cons_self ⟨not_not.mp elsewhere, same⟩
      simp only [accepted, uncounted, if_false]
      exact ih fun other listed => by
        simpa using foreign other (List.mem_cons_of_mem packet listed)

/-- Between two packets of the sender there are fewer other senders than there are slots. -/
def FewBetween (nodeId : Nat) (pair : Nat × Nat) (packets : List Decoded) : Prop :=
  ∀ before first between last after, packets = before ++ first :: between ++ last :: after →
    first.Concerns nodeId pair → last.Concerns nodeId pair →
    (others nodeId pair between).card < replayCacheCapacity

/-- Whatever came before, the tunnel knows which numbers of the sender it has accepted. -/
theorem verdict_iff {nodeId : Nat} {packets before after : List Decoded}
    (few : FewBetween nodeId pair packets) (split : packets = before ++ packet :: after)
    (concerns : packet.Concerns nodeId pair) :
    (((init nodeId).run before).acceptReplay packet).1 = true ↔
      ReplayWindow.Fresh ((init nodeId).accepted pair before).toFinset packet.sequence := by
  cases seen : before.find? (·.Concerns nodeId pair) with
  | none =>
      have unheard : ∀ earlier ∈ before, ¬earlier.Concerns nodeId pair := fun earlier listed => by
        simpa using List.find?_eq_none.mp seen earlier listed
      have own : packet.Concerns ((init nodeId).run before).nodeId pair := by
        simpa [init] using concerns
      have first := (known_run nodeId before).first (by simpa [init] using unheard) own
      rw [accepted_eq_nil (by simpa [init] using unheard)]
      simp [first.1, ReplayWindow.Fresh]
  | some first =>
      obtain ⟨isFirst, prior, between, rfl, unheard⟩ := List.find?_eq_some_iff_append.mp seen
      have firstConcerns : first.Concerns nodeId pair := by simpa using isFirst
      have unheard' : ∀ earlier ∈ prior, ¬earlier.Concerns nodeId pair := fun earlier listed => by
        simpa using unheard earlier listed
      have opens : first.Concerns ((init nodeId).run prior).nodeId pair := by
        simpa [init] using firstConcerns
      obtain ⟨taken, keeps⟩ := (known_run nodeId prior).first (by simpa [init] using unheard') opens
      have room : (∅ ∪ others (((init nodeId).run prior).acceptReplay first).2.nodeId pair
          between).card < replayCacheCapacity := by
        simpa [init] using few prior first between packet after split firstConcerns concerns
      have kept := keeps.run room
      have own : packet.Concerns
          ((((init nodeId).run prior).acceptReplay first).2.run between).nodeId pair := by
        simpa [init] using concerns
      have judged := (kept.judge own).1
      have numbers : ((init nodeId).accepted pair (prior ++ first :: between)).toFinset =
          {first.sequence} ∪ ((((init nodeId).run prior).acceptReplay first).2.accepted pair
            between).toFinset := by
        rw [accepted_append, accepted_eq_nil (by simpa [init] using unheard')]
        simp [accepted, firstConcerns.2, taken]
      rw [numbers, run_append]
      exact judged

@[simp] theorem run_singleton : tunnel.run [packet] = (tunnel.acceptReplay packet).2 := rfl

/-- No number of a sender is accepted twice. -/
theorem accepted_nodup {nodeId : Nat} {packets : List Decoded}
    (few : FewBetween nodeId pair packets) : ((init nodeId).accepted pair packets).Nodup := by
  suffices all : ∀ before after, packets = before ++ after →
      ((init nodeId).accepted pair before).Nodup from all packets [] (by simp)
  intro before
  induction before using List.reverseRecOn with
  | nil => exact fun _ _ => List.nodup_nil
  | append_singleton before packet ih =>
      intro after split
      have earlier := ih (packet :: after) (by simpa using split)
      rw [accepted_append]
      by_cases concerns : packet.Concerns nodeId pair
      · by_cases taken : (((init nodeId).run before).acceptReplay packet).1 = true
        · have fresh := (verdict_iff few (by simpa using split) concerns).mp taken
          simp only [accepted, concerns.2, taken, and_self, if_true]
          refine List.nodup_append.mpr ⟨earlier, List.nodup_singleton _, ?_⟩
          rintro number listed last is rfl
          rw [List.mem_singleton.mp is] at listed
          exact fresh.1 (List.mem_toFinset.mpr listed)
        · simpa [accepted, taken] using earlier
      · have foreign : ∀ other ∈ [packet],
            ¬other.Concerns ((init nodeId).run before).nodeId pair := by simpa [init] using concerns
        rw [accepted_eq_nil foreign]
        simpa using earlier

/-- The answers to a sender's packets are those of the reference. -/
theorem verdicts_eq_reference {nodeId : Nat} {packets : List Decoded}
    (few : FewBetween nodeId pair packets) :
    (init nodeId).verdicts pair packets = reference ∅ (sequences nodeId pair packets) := by
  suffices all : ∀ after before, packets = before ++ after →
      ((init nodeId).run before).verdicts pair after =
        reference ((init nodeId).accepted pair before).toFinset (sequences nodeId pair after) by
    simpa [run, accepted] using all packets [] rfl
  intro after
  induction after with
  | nil => exact fun _ _ => rfl
  | cons packet after ih =>
      intro before split
      have rest := ih (before ++ [packet]) (by simpa using split)
      rw [run_append, run_singleton, accepted_append] at rest
      by_cases concerns : packet.Concerns nodeId pair
      · have verdict := verdict_iff few split concerns
        have here : sequences nodeId pair (packet :: after) =
            packet.sequence :: sequences nodeId pair after := by
          simp [sequences, concerns]
        have own : packet.Concerns ((init nodeId).run before).nodeId pair := by
          simpa [init] using concerns
        simp only [verdicts, own, if_true, here]
        by_cases taken : (((init nodeId).run before).acceptReplay packet).1 = true
        · have numbers : ((init nodeId).accepted pair before ++ [packet.sequence]).toFinset =
              insert packet.sequence ((init nodeId).accepted pair before).toFinset := by
            ext
            simp
          simp only [accepted, concerns.2, taken, and_self, if_true, numbers] at rest
          simp only [reference, verdict.mp taken, if_true, taken, rest]
        · have stale : ¬ReplayWindow.Fresh ((init nodeId).accepted pair before).toFinset
              packet.sequence := fun fresh => taken (verdict.mpr fresh)
          simp only [accepted, taken, and_false, if_false, List.append_nil,
            Bool.false_eq_true] at rest
          simp only [reference, stale, if_false, Bool.eq_false_iff.mpr taken, rest]
      · have foreign : ¬packet.Concerns ((init nodeId).run before).nodeId pair := by
          simpa [init] using concerns
        have alone : ∀ other ∈ [packet],
            ¬other.Concerns ((init nodeId).run before).nodeId pair := by simpa using foreign
        have skipped : sequences nodeId pair (packet :: after) = sequences nodeId pair after := by
          simp [sequences, concerns]
        rw [accepted_eq_nil alone, List.append_nil] at rest
        simp only [verdicts, foreign, if_false, skipped, rest]

/-- The windows agree with the sets of accepted numbers: in a run in which fewer other senders than
slots come between the packets of a sender, a packet of the sender is accepted exactly when its
number is new and less than a window behind, no number is accepted twice, and the answers are those
of the reference. -/
theorem acceptReplay_agrees (nodeId : Nat) (pair : Nat × Nat) (packets : List Decoded)
    (few : FewBetween nodeId pair packets) :
    (∀ before packet after, packets = before ++ packet :: after → packet.Concerns nodeId pair →
      ((((init nodeId).run before).acceptReplay packet).1 = true ↔
        packet.sequence ∉ (init nodeId).accepted pair before ∧
          ∀ number ∈ (init nodeId).accepted pair before,
            number < packet.sequence + replayWindowBits)) ∧
    ((init nodeId).accepted pair packets).Nodup ∧
    (init nodeId).verdicts pair packets = reference ∅ (sequences nodeId pair packets) ∧
    ∀ (tunnel : Tunnel) (packet : Decoded), packet.targetNodeId ≠ tunnel.nodeId →
      tunnel.acceptReplay packet = (false, tunnel) := by
  refine ⟨fun before packet after split concerns => ?_, accepted_nodup few,
    verdicts_eq_reference few, fun tunnel packet => acceptReplay_misrouted⟩
  simpa [ReplayWindow.Fresh] using verdict_iff few split concerns

private def resent (sequence : Nat) : Decoded :=
  { sourceNodeId := 1, targetNodeId := 2, sessionId := 11, sequence := sequence }

/-- A number, an older one, each of them again, a jump, and the first number again. -/
theorem acceptReplay_agrees_resent :
    let packets := [resent 10, resent 10, resent 8, resent 8, resent 74, resent 10]
    FewBetween 2 (1, 11) packets ∧
      (init 2).verdicts (1, 11) packets = [true, false, true, false, true, false] := by
  have few : FewBetween 2 (1, 11)
      [resent 10, resent 10, resent 8, resent 8, resent 74, resent 10] := by
    intro before first between last after split _ _
    have short := congrArg List.length split
    simp only [List.length_cons, List.length_nil, List.length_append] at short
    refine lt_of_le_of_lt ((List.toFinset_card_le _).trans ?_) (by decide : 6 < _)
    rw [List.length_map]
    exact (List.length_filter_le _ _).trans (by omega)
  refine ⟨few, ?_⟩
  rw [(acceptReplay_agrees 2 (1, 11) _ few).2.2.1]
  decide

end Tunnel

end LyuneGateway.Io
