import LyuneGateway.Membership.Chunks

/-!
# Sessions

A node that asks for the view of another one has a session with a deadline. The
clock drops a session that is late; everything else that a node does besides
leaves the session alone. A session begins when a seed is asked, or when the
clock has come to the time for an exchange.
-/

namespace LyuneGateway.Membership

open Faulty

/-- The message asks for the part of a view from a position on. -/
structure Message.Asks (request : Message) (sender cursor : Nat) : Prop where
  type : request.type = .sync
  sender : request.sender = sender
  target : request.target = cursor
  flags : request.flags = syncRequestFlag

namespace Swim

variable {swim after : Swim} {now : Nat} {source : Address} {message : Message} {rest : Aside}

theorem request_asks (swim : Swim) (cursor : Nat) :
    (swim.request cursor).Asks swim.config.nodeId cursor := ⟨rfl, rfl, rfl, rfl⟩

/-! ## What leaves the session alone -/

/-- The session is not dropped at this time. -/
def Timely (now : Nat) (swim : Swim) : Prop :=
  swim.config.params.syncIntervalMs = 0 ∨
    ∃ session, swim.sync = some session ∧ now < session.deadline

/-- What the requester does besides: it drops no session, and takes no part of a view from
elsewhere. -/
def Apart (swim : Swim) : Command → Prop
  | .tick now => Timely now swim
  | .message _ _ bytes => ∀ message, swim.authentic bytes = some message →
      message.type = .sync → message.flags % 2 = 1
  | .addPeer .. | .joinSeed _ => False
  | .leave | .clearOutgoing => True

/-- The end of a tick, where a new period begins. -/
def beginPeriod (now : Nat) : Act Unit := do
  let swim ← self
  when (swim.probe.isNone = true ∧ swim.nextPeriodAt ≤ now) do
    let next ← add64 now (← scaledProtocolPeriod)
    modify fun swim => { swim with nextPeriodAt := next }
    startProbe now

theorem tick_eq (now : Nat) : tick now = (do
    expireSuspicions now
    driveProbe now
    driveAntiEntropy now
    beginPeriod now) := rfl

theorem bounds_beginPeriod : Bounds rest (beginPeriod now) := by
  apply Keeps.bind Keeps.self
  intro swim
  apply Keeps.when
  intro _
  apply Keeps.bind bounds_scaledProtocolPeriod
  intro _
  apply Keeps.bind bounds_add64
  intro _
  refine Keeps.bind ?_ fun _ => bounds_startProbe
  exact bounds_aside (fun _ => rfl) fun _ => rfl

/-- A session that is not late goes on. -/
theorem driveAntiEntropy_timely (timely : Timely now swim) :
    driveAntiEntropy now swim = .done () swim := by
  rw [driveAntiEntropy, self_bind]
  obtain never | ⟨session, held, early⟩ := timely
  · rw [Faulty.ite_pos never]
    rfl
  · by_cases never : swim.config.params.syncIntervalMs = 0
    · rw [Faulty.ite_pos never]
      rfl
    · rw [Faulty.ite_neg never, Faulty.ite_pos (by simp [held, early])]
      rfl

theorem tick_within (within : Within rest swim) (timely : Timely now swim) :
    (tick now swim).Meets (fun _ => True) (fun _ => Within rest) (Within rest) := by
  rw [tick_eq]
  apply meets_bind (bounds_expireSuspicions swim within)
  intro _ expired expires
  apply meets_bind (bounds_driveProbe expired expires)
  intro _ probed kept
  have same : probed.aside = swim.aside := kept.aside.trans within.aside.symm
  have goes : Timely now probed := by
    simp only [aside, Aside.mk.injEq] at same
    rwa [Timely, same.1, same.2.2.2]
  rw [bind_done (driveAntiEntropy_timely goes)]
  exact bounds_beginPeriod probed kept

theorem bounds_actOn (fits : message.Fits) (other : message.type = .sync → message.flags % 2 = 1) :
    Bounds rest (actOn now source message) := by
  apply Keeps.bind Keeps.self
  intro _
  apply Keeps.ite (fun _ => Keeps.pure)
  intro _
  apply Keeps.bind (bounds_merge fits.events)
  intro _
  apply yields_self.bind
  intro swim within
  cases same : message.type with
  | ping => exact bounds_send (within.bounded.named.trans swim.config.narrow) fits.seq (by norm_num)
  | pingReq => exact bounds_handlePingReq fits
  | ack => exact bounds_handleAck fits
  | sync => exact Keeps.ite (fun _ => bounds_answerSync fits) fun no => absurd (other same) no

theorem Within.sync (within : Within rest swim) : swim.sync = rest.sync :=
  congrArg Aside.sync within.aside

theorem Within.config (within : Within rest swim) : swim.config = rest.config :=
  congrArg Aside.config within.aside

theorem Sendable.within {config : Config} {mac : Mac} (sendable : Sendable config mac swim) :
    Within swim.aside swim := ⟨sendable.1, rfl⟩

/-- What is received has changed no more than the memory of tags. -/
theorem receive_done {bytes : Bytes} {taken : Option Message}
    (answer : receive bytes swim = .done taken after) :
    (∃ cache, after = { swim with replayCache := cache }) ∧
      ∀ message, taken = some message → swim.authentic bytes = some message := by
  rw [receive_eq] at answer
  cases told : swim.authentic bytes with
  | none =>
      rw [told] at answer
      cases answer
      exact ⟨⟨_, rfl⟩, by simp⟩
  | some message =>
      simp only [told] at answer
      split at answer
      · cases answer
        exact ⟨⟨_, rfl⟩, by simp⟩
      split at answer
      · cases answer
        exact ⟨⟨_, rfl⟩, by simp⟩
      · generalize remember swim.replayCache (message.sender, tagOf bytes) = cache at answer
        cases answer
        exact ⟨⟨_, rfl⟩, by simp⟩

theorem Command.run_apart {config : Config} {mac : Mac} (command : Command)
    (sendable : Sendable config mac swim) (apart : swim.Apart command)
    (answer : (command.run swim).state? = some after) : after.sync = swim.sync := by
  have within := sendable.within
  cases command with
  | tick now => exact ((tick_within within apart).leaves answer).sync
  | leave => exact ((bounds_leave swim within).leaves answer).sync
  | clearOutgoing => exact ((bounds_clearOutgoing swim within).leaves answer).sync
  | addPeer | joinSeed => exact apart.elim
  | message now source bytes =>
      obtain ⟨taken, next, received, -, fits⟩ := @receive_near _ _ bytes sendable.near
      obtain ⟨⟨cache, rfl⟩, told⟩ := receive_done received
      have kept : Within { swim.aside with replayCache := cache }
        { swim with replayCache := cache } := ⟨sendable.1, rfl⟩
      cases taken with
      | none =>
          rw [Command.run, handleMessage_of_none received] at answer
          cases answer
          rfl
      | some message =>
          rw [Command.run, handleMessage_of_some received] at answer
          refine (Outcome.Meets.leaves (bounds_actOn (fits message rfl)
            (apart message (told message rfl)) _ kept) answer).sync

/-! ## How an exchange begins -/

/-- Everything waits, and last the first request of a session. -/
structure Asking (swim after : Swim) (address : Address) (peer : Nat) (request : Message) : Prop where
  outbox : after.outbox = swim.outbox ++ [{ recipient := address, message := request }]
  asks : request.Asks swim.config.nodeId 1
  session : ∃ session, after.sync = some session ∧ session.peer = peer

theorem joinSeed_asking {address : Address} (answer : joinSeed address swim = .done () after) :
    ∃ request, Asking swim after address 0 request := by
  obtain ⟨period, _, scaled, answer⟩ := of_bind_done answer
  cases scaledProtocolPeriod_done scaled
  rw [modify_bind] at answer
  obtain ⟨outbox, session, -⟩ := sendSyncRequest_done answer
  exact ⟨_, outbox, request_asks _ _, _, session, rfl⟩

theorem silent_choosePeer (members : List Member) (chosen : Option Member) (seen : Nat) :
    Silent (choosePeer members chosen seen) := by
  intro outbox
  induction members generalizing chosen seen with
  | nil => exact Keeps.pure
  | cons member members ih =>
      refine Keeps.bind ?_ fun _ => ih _ _
      apply Keeps.bind (Keeps.require (.inl trivial))
      intro _
      apply Keeps.bind Keeps.read
      intro _
      exact Keeps.bind (silent_modify (fun _ => rfl) outbox) fun _ => Keeps.pure

theorem startSync_asking (within : Within rest swim) (answer : startSync now swim = .done () after)
    (sent : after.outbox ≠ swim.outbox) :
    ∃ address peer request, Asking swim after address peer request := by
  obtain ⟨found, chosen, choice, answer⟩ := of_bind_done answer
  have config : chosen.config = swim.config :=
    (Keeps.of_done bounds_randomSyncPeer within choice).config.trans within.config.symm
  have silent : Silent randomSyncPeer :=
    fun outbox => Keeps.bind Keeps.self fun _ => silent_choosePeer _ _ _ outbox
  have outbox : chosen.outbox = swim.outbox := by
    have kept := silent swim.outbox swim rfl
    rwa [choice] at kept
  cases found with
  | none =>
      cases answer
      exact absurd outbox sent
  | some peer =>
      obtain ⟨period, _, scaled, answer⟩ := of_bind_done answer
      cases scaledProtocolPeriod_done scaled
      obtain ⟨deadline, _, added, answer⟩ := of_bind_done answer
      cases add64_done added
      rw [modify_bind, self_bind] at answer
      obtain ⟨next, _, added, answer⟩ := of_bind_done answer
      cases add64_done added
      rw [modify_bind] at answer
      obtain ⟨posts, session, -⟩ := sendSyncRequest_done answer
      refine ⟨peer.address, peer.nodeId, _, posts.trans (by rw [← outbox]), ?_, _, session, rfl⟩
      rw [← config]
      exact request_asks _ _

theorem driveAntiEntropy_asking (within : Within rest swim)
    (answer : driveAntiEntropy now swim = .done () after) (sent : after.outbox ≠ swim.outbox) :
    ∃ address peer request, Asking swim after address peer request := by
  have quiet : ∀ {same : Swim}, (pure () : Act Unit) same = .done () after →
      same.outbox = swim.outbox → False := by
    intro same answer unchanged
    cases answer
    exact sent unchanged
  rw [driveAntiEntropy, self_bind] at answer
  split at answer
  · exact (quiet answer rfl).elim
  split at answer
  · exact (quiet answer rfl).elim
  rw [modify_bind] at answer
  split at answer
  · exact (quiet answer rfl).elim
  · have dropped : Within { rest with sync := none } { swim with sync := none } := by
      obtain ⟨bounded, rfl⟩ := within
      exact ⟨bounded, rfl⟩
    obtain ⟨address, peer, request, asking⟩ := startSync_asking dropped answer sent
    exact ⟨address, peer, request, asking.outbox, asking.asks, asking.session⟩

/-- A command begins an exchange with the responder: it asks a seed, or the clock has come to the
time for an exchange, and the responder is chosen for it. -/
inductive Opens (responder before : Swim) : Command → Swim → Message → Prop where
  | joinSeed {after : Swim} {request : Message}
      (answer : joinSeed responder.config.address before = .done () after)
      (posts : posted before after = [{
        recipient := responder.config.address
        message := request }]) :
      Opens responder before (.joinSeed responder.config.address) after request
  | driveAntiEntropy {now : Nat} {earlier middle after : Swim} {session : SyncSession}
      {request : Message}
      (begins : (do expireSuspicions now; driveProbe now) before = .done () earlier)
      (answer : driveAntiEntropy now earlier = .done () middle)
      (posts : posted earlier middle = [{
        recipient := responder.config.address
        message := request }])
      (chooses : middle.sync = some session ∧ session.peer = responder.config.nodeId)
      (ends : beginPeriod now middle = .done () after) :
      Opens responder before (.tick now) after request

theorem posted_append {before after : Swim} {outgoing : List Outgoing}
    (outbox : after.outbox = before.outbox ++ outgoing) : posted before after = outgoing := by
  rw [posted, outbox, List.drop_left]

theorem Opens.command_done {responder before : Swim} {command : Command} {request : Message}
    (opens : Opens responder before command after request) :
    command.run before = .done () after := by
  cases opens with
  | joinSeed answer => exact answer
  | driveAntiEntropy begins answer posts chooses ends =>
      obtain ⟨_, expired, first, second⟩ := of_bind_done begins
      rw [Command.run, tick_eq, bind_done first, bind_done second, bind_done answer]
      exact ends

/-- An exchange begins with a request for the first part, in a session with the responder or with
whoever answers. -/
theorem Opens.asks {responder before : Swim} {config : Config} {mac : Mac} {command : Command}
    {request : Message} (opens : Opens responder before command after request)
    (sendable : Sendable config mac before) : request.Asks before.config.nodeId 1 ∧
      ∃ session, after.sync = some session ∧
        (session.peer = 0 ∨ session.peer = responder.config.nodeId) := by
  cases opens with
  | joinSeed answer posts =>
      obtain ⟨other, asking⟩ := joinSeed_asking answer
      obtain ⟨session, held, peer⟩ := asking.session
      rw [posted_append asking.outbox] at posts
      cases posts
      exact ⟨asking.asks, session, held, .inl peer⟩
  | @driveAntiEntropy now earlier middle _ session _ begins answer posts chooses ends =>
      have within := sendable.within
      have first : Within before.aside earlier := by
        have keeps : Bounds before.aside (do expireSuspicions now; driveProbe now) :=
          Keeps.bind bounds_expireSuspicions fun _ => bounds_driveProbe
        exact Keeps.of_done keeps within begins
      have sent : middle.outbox ≠ earlier.outbox := by
        intro same
        rw [posted, same, List.drop_length] at posts
        cases posts
      obtain ⟨address, peer, other, asking⟩ := driveAntiEntropy_asking first answer sent
      rw [posted_append asking.outbox] at posts
      cases posts
      have near : Within middle.aside middle := by
        have start : Near before.aside earlier := ⟨before.sync, first⟩
        obtain ⟨sync, bounded, -⟩ :=
          Shifts.near shifts_driveAntiEntropy start (congrArg Outcome.state? answer)
        exact ⟨bounded, rfl⟩
      have last := Keeps.of_done bounds_beginPeriod near ends
      have config : earlier.config = before.config := first.config
      refine ⟨config ▸ asking.asks, session, ?_, .inr chooses.2⟩
      exact last.sync.trans chooses.1

end Swim

end LyuneGateway.Membership
