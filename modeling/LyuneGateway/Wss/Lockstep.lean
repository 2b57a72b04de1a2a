import LyuneGateway.Wss.Numbering

/-!
# Session and connection count in step

The session counts the streams it opens, the connection those it has seen, and
the client those that have reached it. As long as a connection is not closing
the three agree. Each move of the driver and each call of the worker keeps this.
-/

namespace LyuneGateway.Wss

open Session

namespace Connection

variable {State Worker : Type}

/-- The connection has counted along with the session, and has refused the client no number but
those it had seen. -/
structure InStep (outbound : Outbound) (connection : Connection State Worker) : Prop where
  counted : outbound.Counted
  carried : ∃ records, Carries connection.output.accepted records ∧
    (gatewayStreams records).eraseDups <+: outbound.opened ∧
    (connection.state ≠ .closing → (gatewayStreams records).eraseDups = outbound.opened)
  highest : connection.state ≠ .closing →
    connection.highestServerExchangeId = outbound.opened.getLast?
  early : connection.upgradeComplete = false →
    outbound.opened = [] ∧ connection.session = none
  claimed : connection.claimed.Pairwise (· < ·)
  bounded : ∀ streamId ∈ connection.claimed, ∃ highest,
    connection.highestClientExchangeId = some highest ∧ streamId ≤ highest
  known : ∀ asked ∈ connection.calls, asked.Known

/-- The worker and its session are where they were. -/
structure Kin (before after : Connection State Worker) : Prop where
  session : after.session = before.session
  worker : after.worker = before.worker
  ready : after.upgradeComplete = true

variable {tls : Tls State} {outbound later : Outbound}
  {connection before after : Connection State Worker}

@[simp] theorem state_beginImmediateClose (connection : Connection State Worker) :
    (connection.beginImmediateClose tls).state = .closing := by
  unfold beginImmediateClose
  split
  · assumption
  · rfl

theorem alike_beginImmediateClose (connection : Connection State Worker) :
    Alike connection (connection.beginImmediateClose tls) := by
  unfold beginImmediateClose
  split <;> exact ⟨rfl, rfl, rfl, rfl, rfl, rfl⟩

theorem ready_beginImmediateClose (connection : Connection State Worker) :
    (connection.beginImmediateClose tls).upgradeComplete = true := by
  simp [upgradeComplete]

/-- A call is kept in mind. -/
def noting (connection : Connection State Worker) (asked : Asked) : Connection State Worker :=
  { connection with calls := connection.calls ++ [asked] }

theorem ask_eq (driver : Driver State Worker) (call : Call) :
    (connection.ask tls driver call).2 = (connection.transport tls driver call).2.noting
      ⟨connection.toStanding, call, (connection.transport tls driver call).1⟩ := rfl

theorem Alike.claimed (alike : Alike before after) : after.claimed = before.claimed := by
  rw [Connection.claimed, Connection.claimed, alike.calls]

namespace InStep

theorem of_alike (instep : InStep outbound before) (alike : Alike before after)
    (closing : before.state = .closing → after.state = .closing)
    (complete : before.upgradeComplete = true → after.upgradeComplete = true) :
    InStep outbound after where
  counted := instep.counted
  carried := by
    obtain ⟨records, carries, shorter, same⟩ := instep.carried
    exact ⟨records, alike.accepted ▸ carries, shorter, fun live => same (mt closing live)⟩
  highest := fun live => alike.server.trans (instep.highest (mt closing live))
  early := by
    intro early
    rw [alike.session]
    refine instep.early ?_
    by_contra done
    rw [complete (by simpa using done)] at early
    cases early
  claimed := alike.claimed ▸ instep.claimed
  bounded := by
    rw [alike.claimed, alike.client]
    exact instep.bounded
  known := alike.calls ▸ instep.known

/-- A connection that closes need not count any more. -/
theorem shut (instep : InStep outbound before) (counted : later.Counted)
    (wider : outbound.opened <+: later.opened) (closing : after.state = .closing)
    (accepted : after.output.accepted = before.output.accepted)
    (client : after.highestClientExchangeId = before.highestClientExchangeId)
    (calls : after.calls = before.calls) : InStep later after where
  counted := counted
  carried := by
    obtain ⟨records, carries, shorter, _⟩ := instep.carried
    exact ⟨records, accepted ▸ carries, shorter.trans wider, fun live => absurd closing live⟩
  highest := fun live => absurd closing live
  early := by simp [upgradeComplete, closing]
  claimed := by
    rw [Connection.claimed, calls]
    exact instep.claimed
  bounded := by
    rw [Connection.claimed, calls, client]
    exact instep.bounded
  known := calls ▸ instep.known

theorem close (instep : InStep outbound connection) :
    InStep outbound (connection.beginImmediateClose tls) :=
  instep.of_alike (alike_beginImmediateClose connection) (fun _ => state_beginImmediateClose _)
    (fun _ => ready_beginImmediateClose _)

/-- Frames that open no stream may be sent. -/
theorem say (instep : InStep outbound connection) {output : Queue} {frames : List Bytes}
    {records : List Record} (waits : Bool)
    (accepted : output.accepted = connection.output.accepted ++ frames)
    (carries : Carries frames records) (other : gatewayStreams records = []) :
    InStep outbound { connection with output := output, closeAfterFlush := waits } where
  counted := instep.counted
  carried := by
    obtain ⟨sent, carried, shorter, same⟩ := instep.carried
    refine ⟨sent ++ records, accepted ▸ carries_append carried carries, ?_, fun live => ?_⟩
    · rwa [gatewayStreams_append, other, List.append_nil]
    · rw [gatewayStreams_append, other, List.append_nil]
      exact same live
  highest := instep.highest
  early := instep.early
  claimed := instep.claimed
  bounded := instep.bounded
  known := instep.known

/-- The first record on the next stream may be sent, and any record on an earlier one. -/
theorem write (instep : InStep outbound connection) {streamId : Nat} {fin : Bool}
    {bytes frame : Bytes} {output : Queue} (covers : outbound.Covers streamId later)
    (running : connection.state = .open)
    (accepted : output.accepted = connection.output.accepted ++ [frame])
    (framed : Queue.frameRecord
      { recordType := .stream, streamId := streamId, fin := fin, payload := bytes } = .ok frame) :
    InStep later { connection with
      highestServerExchangeId := later.opened.getLast?, output := output } where
  counted := covers.counted instep.counted
  carried := by
    obtain ⟨sent, carried, shorter, same⟩ := instep.carried
    have whole := covers.eraseDups instep.counted (same (by simp [running])) fin bytes
    exact ⟨_, accepted ▸ carries_append carried (carries_record framed),
      whole ▸ List.prefix_rfl, fun _ => whole⟩
  highest := fun _ => rfl
  early := by simp [upgradeComplete, running]
  claimed := instep.claimed
  bounded := instep.bounded
  known := instep.known

/-- A call that takes no stream of the client is kept in mind. -/
theorem record (instep : InStep outbound connection) {asked : Asked} (other : asked.claimed = none)
    (known : asked.Known) :
    InStep outbound (connection.noting asked) where
  counted := instep.counted
  carried := instep.carried
  highest := instep.highest
  early := instep.early
  claimed := by
    simpa [noting, Connection.claimed, List.filterMap_append, other] using instep.claimed
  bounded := by
    simpa [noting, Connection.claimed, List.filterMap_append, other] using instep.bounded
  known := by
    intro before listed
    rcases List.mem_append.mp listed with listed | new
    · exact instep.known before listed
    · rw [List.mem_singleton.mp new]
      exact known

/-- A stream of the client is taken if its number is higher than all before. -/
theorem claim (instep : InStep outbound connection) (streamId : Nat) (driver : Driver State Worker) :
    InStep outbound (connection.ask tls driver (.claimInboundExchange streamId)).2 := by
  rw [ask_eq, transport]
  unfold transportClaimInboundExchange
  split
  · exact instep.record rfl (by simp [Asked.Known])
  split
  · exact instep.record rfl (by simp [Asked.Known])
  rename_i fresh
  have higher : ∀ earlier ∈ connection.claimed, earlier < streamId := by
    intro earlier listed
    obtain ⟨highest, seen, below⟩ := instep.bounded earlier listed
    simp only [seen, Option.any_some, decide_eq_true_eq, not_le] at fresh
    omega
  exact {
    counted := instep.counted
    carried := instep.carried
    highest := instep.highest
    early := instep.early
    claimed := by
      simp only [noting, Connection.claimed, List.filterMap_append, List.pairwise_append]
      refine ⟨instep.claimed, by simp [Asked.claimed], fun earlier listed => ?_⟩
      simpa [Asked.claimed] using higher earlier listed
    bounded := by
      intro earlier listed
      refine ⟨streamId, rfl, ?_⟩
      simp only [noting, Connection.claimed, List.filterMap_append, List.mem_append] at listed
      rcases listed with listed | new
      · exact (higher earlier listed).le
      · simp [Asked.claimed] at new
        omega
    known := by
      intro asked listed
      rcases List.mem_append.mp listed with listed | new
      · exact instep.known asked listed
      · rw [List.mem_singleton.mp new]
        simp [Asked.Known] }

end InStep

namespace Kin

theorem rfl (ready : connection.upgradeComplete = true) : Kin connection connection :=
  ⟨.refl _, .refl _, ready⟩

theorem close (connection : Connection State Worker) :
    Kin connection (connection.beginImmediateClose tls) :=
  ⟨(alike_beginImmediateClose connection).session, (alike_beginImmediateClose connection).worker,
    ready_beginImmediateClose connection⟩

end Kin

/-- The streams that a call makes use of. -/
inductive May : Outbound → Call → Outbound → Prop where
  | write {outbound later : Outbound} {streamId : Nat} {bytes : Bytes} {fin : Bool}
      (covers : outbound.Covers streamId later) : May outbound (.write streamId bytes fin) later
  | other {outbound : Outbound} {call : Call}
      (apart : ∀ streamId bytes fin, call ≠ .write streamId bytes fin) :
      May outbound call outbound

theorem May.of_mayAsk {call : Call} (may : outbound.mayAsk call = true) :
    May outbound call outbound := by
  cases call with
  | write streamId bytes fin => exact .write (.of_mayAsk may)
  | claimInboundExchange _ | sendEphemeral _ | resetSend _ _ | stopReceive _ _ | discard _ _
  | close _ => exact .other (by simp)

/-- What a call does before it drives the connection on, if it does. -/
inductive Begins (tls : Tls State) (driver : Driver State Worker) (later : Outbound)
    (connection result : Connection State Worker) : Prop where
  | stays (instep : InStep later result) (kin : Kin connection result)
  | drives {middle : Connection State Worker} (instep : InStep later middle)
      (kin : Kin connection middle) (leads : result = (driveOrClose tls driver middle).2)

section Calls

variable {driver : Driver State Worker}

theorem direction_begins (instep : InStep outbound connection)
    (ready : connection.upgradeComplete = true) (recordType : RecordType)
    (other : recordType ≠ .stream) (streamId code : Nat) :
    Begins tls driver outbound connection
      (connection.enqueueDirectionControl tls driver recordType streamId code) := by
  unfold enqueueDirectionControl
  split
  · exact .stays instep (.rfl ready)
  split
  · exact .stays instep.close (.close connection)
  · rename_i output taken
    rcases Queue.accepted_of_enqueueRecord taken with ⟨frame, framed, accepted⟩ | ⟨lossy, _⟩
    · exact .drives (instep.say connection.closeAfterFlush accepted (carries_record framed)
        (by simp [gatewayStreams, other])) ⟨rfl, rfl, ready⟩ rfl
    · cases lossy

theorem ephemeral_begins (instep : InStep outbound connection)
    (ready : connection.upgradeComplete = true) (bytes : Bytes) :
    Begins tls driver outbound connection
      (connection.transportEphemeral tls driver bytes).2 := by
  unfold transportEphemeral
  split
  · exact .stays instep (.rfl ready)
  split
  · exact .stays instep (.rfl ready)
  · rename_i output taken
    rcases Queue.accepted_of_enqueueRecord taken with ⟨frame, framed, accepted⟩ | ⟨_, rfl⟩
    · exact .drives (instep.say connection.closeAfterFlush accepted (carries_record framed)
        (by simp [gatewayStreams])) ⟨rfl, rfl, ready⟩ rfl
    · exact .drives instep (.rfl ready) rfl

theorem discard_begins (instep : InStep outbound connection)
    (ready : connection.upgradeComplete = true) (streamId code : Nat) :
    Begins tls driver outbound connection
      (connection.transportDiscard tls driver streamId code) := by
  unfold transportDiscard
  split
  · exact .stays instep (.rfl ready)
  split
  · exact .stays instep.close (.close connection)
  · rename_i output taken
    obtain ⟨reset, stop, accepted, first, second⟩ := Queue.accepted_of_enqueueDiscard taken
    have both : Carries [reset, stop] [_, _] :=
      carries_append (carries_record first) (carries_record second)
    exact .drives (instep.say connection.closeAfterFlush accepted both
      (by simp [gatewayStreams])) ⟨rfl, rfl, ready⟩ rfl

theorem close_begins (instep : InStep outbound connection)
    (ready : connection.upgradeComplete = true) (code : Nat) :
    Begins tls driver outbound connection (connection.transportClose tls driver code) := by
  unfold transportClose
  split
  · exact .stays instep (.rfl ready)
  unfold protocolClose
  split
  · exact .drives instep.close (.close connection) rfl
  · rename_i output taken
    obtain ⟨frame, accepted, other⟩ := Queue.accepted_of_enqueueControl (by decide) taken
    exact .drives (instep.say true accepted (carries_frame other) rfl) ⟨rfl, rfl, ready⟩ rfl

theorem write_begins (instep : InStep outbound connection)
    (ready : connection.upgradeComplete = true) {streamId : Nat} (bytes : Bytes) (fin : Bool)
    (covers : outbound.Covers streamId later) :
    Begins tls driver later connection
      (connection.transportWrite tls driver streamId bytes fin).2 := by
  unfold transportWrite
  split
  · rename_i stopped
    have closing : connection.state = .closing := by
      simpa [upgradeComplete, stopped] using ready
    exact .stays (instep.shut (covers.counted instep.counted) covers.wider closing rfl rfl rfl)
      (.rfl ready)
  rename_i running
  have running : connection.state = .open := not_not.mp running
  have noted := covers.noted instep.counted
  rw [← instep.highest (by simp [running])] at noted
  simp only [noted]
  split
  · refine .stays (instep.shut (covers.counted instep.counted) covers.wider
      (state_beginImmediateClose _) ?_ ?_ ?_) ⟨?_, ?_, ready_beginImmediateClose _⟩
    · rw [(alike_beginImmediateClose _).accepted]
    · rw [(alike_beginImmediateClose _).client]
    · rw [(alike_beginImmediateClose _).calls]
    · rw [(alike_beginImmediateClose _).session]
    · rw [(alike_beginImmediateClose _).worker]
  · rename_i output taken
    rcases Queue.accepted_of_enqueueRecord taken with ⟨frame, framed, accepted⟩ | ⟨lossy, _⟩
    · exact .drives (instep.write covers running accepted framed) ⟨rfl, rfl, ready⟩ rfl
    · cases lossy

/-- What a call does until its record is there. -/
inductive Asks (tls : Tls State) (driver : Driver State Worker) (later : Outbound)
    (connection result : Connection State Worker) : Prop where
  | stays (instep : InStep later result) (kin : Kin connection result)
  | drives {middle : Connection State Worker} {asked : Asked} (instep : InStep later middle)
      (kin : Kin connection middle) (other : asked.claimed = none) (known : asked.Known)
      (leads : result = (driveOrClose tls driver middle).2.noting asked)

theorem Begins.asks {call : Call}
    (begins : Begins tls driver later connection (connection.transport tls driver call).2)
    (other : ∀ answer, (⟨connection.toStanding, call, answer⟩ : Asked).claimed = none)
    (known : ∀ answer, (⟨connection.toStanding, call, answer⟩ : Asked).Known) :
    Asks tls driver later connection (connection.ask tls driver call).2 := by
  cases begins with
  | stays instep kin =>
      exact .stays (instep.record (other _) (known _)) ⟨kin.session, kin.worker, kin.ready⟩
  | drives instep kin leads =>
      exact .drives instep kin (other _) (known _) (by rw [ask_eq, leads])

/-- Every call keeps step until it drives the connection on, and leaves a record of it after
that. -/
theorem ask_asks (instep : InStep outbound connection)
    (ready : connection.upgradeComplete = true) {call : Call} (may : May outbound call later) :
    Asks tls driver later connection (connection.ask tls driver call).2 := by
  cases may with
  | @write _ streamId bytes fin covers =>
      refine (write_begins instep ready bytes fin covers).asks (fun _ => rfl) ?_
      rintro _ _ _ _ ⟨⟩ own running
      have running : connection.state = .open := running
      have noted := covers.noted instep.counted
      rw [if_pos own, ← instep.highest (by simp [running])] at noted
      simp [noted]
  | other apart =>
      have harmless : ∀ answer, (⟨connection.toStanding, call, answer⟩ : Asked).Known :=
        fun _ streamId bytes fin same => absurd same (apart streamId bytes fin)
      cases call with
      | claimInboundExchange streamId =>
          refine .stays (instep.claim streamId driver) ?_
          rw [ask_eq, transport]
          unfold transportClaimInboundExchange
          split
          · exact ⟨rfl, rfl, ready⟩
          split <;> exact ⟨rfl, rfl, ready⟩
      | write streamId bytes fin => exact absurd rfl (apart streamId bytes fin)
      | sendEphemeral bytes =>
          exact (ephemeral_begins instep ready bytes).asks (fun _ => rfl) harmless
      | resetSend streamId code =>
          exact (direction_begins instep ready .reset (by simp) streamId code).asks
            (fun _ => rfl) harmless
      | stopReceive streamId code =>
          exact (direction_begins instep ready .stop (by simp) streamId code).asks
            (fun _ => rfl) harmless
      | discard streamId code =>
          exact (discard_begins instep ready streamId code).asks (fun _ => rfl) harmless
      | close code => exact (close_begins instep ready code).asks (fun _ => rfl) harmless

end Calls

/-! ## Wishes, moves and runs -/

/-- The session of the worker and the connection have counted in step. -/
def Abreast (connection : Connection State (Worker × Outbound)) : Prop :=
  InStep connection.worker.2 connection

/-- It makes no difference to the count what the worker is. -/
theorem InStep.work {connection : Connection State Worker} (instep : InStep outbound connection)
    (worker : Worker) : InStep outbound { connection with worker := worker } :=
  ⟨instep.counted, instep.carried, instep.highest, instep.early, instep.claimed, instep.bounded,
    instep.known⟩

section Wishes

variable {driver : Driver State (Worker × Outbound)} {session : Option SessionHandle}
  {connection after : Connection State (Worker × Outbound)}

/-- The connection has this session, and has counted along with the worker's. -/
structure Holds (session : Option SessionHandle) (outbound : Outbound)
    (connection : Connection State (Worker × Outbound)) : Prop where
  session : connection.session = session
  ready : connection.upgradeComplete = true
  instep : InStep outbound connection

theorem Holds.ask
    (driven : ∀ outbound (connection : Connection State (Worker × Outbound)),
      Holds session outbound connection →
      Holds session outbound (driveOrClose tls driver connection).2)
    (holds : Holds session outbound connection) {call : Call} (may : May outbound call later) :
    Holds session later (connection.ask tls driver call).2 := by
  have asks : Asks tls driver later connection (connection.ask tls driver call).2 :=
    ask_asks holds.instep holds.ready may
  cases asks with
  | stays instep kin => exact ⟨kin.session.trans holds.session, kin.ready, instep⟩
  | drives instep kin other known leads =>
      have after := driven _ _ ⟨kin.session.trans holds.session, kin.ready, instep⟩
      rw [leads]
      exact ⟨after.session, after.ready, after.instep.record other known⟩

/-- A worker that has carried out a wish is in step. -/
theorem Holds.react
    (driven : ∀ outbound (connection : Connection State (Worker × Outbound)),
      Holds session outbound connection →
      Holds session outbound (driveOrClose tls driver connection).2)
    (wish : Wish Worker) (holds : Holds session outbound connection) :
    Abreast (Connection.react tls driver (wish.carryOut outbound) connection) := by
  induction wish generalizing outbound connection with
  | done worker => exact holds.instep.work _
  | «open» bytes fin resume ih => exact ih _ (holds.ask driven (.write .next))
  | call wanted resume ih =>
      unfold Wish.carryOut
      split
      · rename_i may
        exact ih _ (holds.ask driven (.of_mayAsk may))
      · exact ih _ holds

variable {config : ListenerConfig} {gateway : Gateway Worker}

theorem dispatch_wish (gateway : Gateway Worker) (worker : Worker × Outbound)
    (handle : SessionHandle) (record : Record) :
    ∃ wish : Wish Worker, dispatch gateway.handler worker handle record = wish.carryOut worker.2 := by
  unfold dispatch
  split <;> exact ⟨_, rfl⟩

theorem Move.abreast (move : Move tls gateway.handler connection after)
    (abreast : Abreast connection) : Abreast after := by
  cases move with
  | shift alike state =>
      unfold Abreast
      rw [alike.worker]
      exact abreast.of_alike alike state.trans fun ready => by
        simpa [upgradeComplete, state] using ready
  | shake alike early still =>
      unfold Abreast
      rw [alike.worker]
      refine abreast.of_alike alike (fun closing => ?_) (fun ready => ?_)
      · simp [upgradeComplete, closing] at early
      · rw [early] at ready
        cases ready
  | close =>
      unfold Abreast
      rw [(alike_beginImmediateClose connection).worker]
      exact abreast.close
  | say waits accepted other => exact abreast.say waits accepted (carries_frame other) rfl
  | reject early refused =>
      simp only [Gateway.handler] at refused
      split at refused <;> cases refused
      exact abreast.work _
  | accept early taken =>
      have before := abreast.early early
      simp only [Gateway.handler] at taken
      split at taken <;> cases taken
      have starting : connection.state ≠ .closing := by
        intro closing
        simp [upgradeComplete, closing] at early
      obtain ⟨records, carries, -, same⟩ := abreast.carried
      exact {
        counted := Outbound.counted_new
        carried := ⟨records, carries, by rw [same starting, before.1],
          fun _ => by rw [same starting, before.1]⟩
        highest := fun _ => by rw [abreast.highest starting, before.1]
        early := by simp [upgradeComplete]
        claimed := abreast.claimed
        bounded := abreast.bounded
        known := abreast.known }
  | react record live =>
      have ready : connection.upgradeComplete = true := by
        by_contra early
        have none := (abreast.early (by simpa using early)).2
        rw [live] at none
        cases none
      obtain ⟨wish, same⟩ := dispatch_wish gateway connection.worker _ record
      rw [same]
      have holds : Holds connection.session connection.worker.2 connection := ⟨rfl, ready, abreast⟩
      have idle : ∀ outbound (connection' : Connection State (Worker × Outbound)),
          Holds connection.session outbound connection' →
          Holds connection.session outbound (driveOrClose tls reenter connection').2 :=
        fun _ _ holds => holds
      exact holds.react idle wish

theorem Moves.abreast (moves : Moves tls gateway.handler connection after)
    (abreast : Abreast connection) : Abreast after := by
  induction moves with
  | refl => exact abreast
  | tail _ move ih => exact move.abreast ih

/-- On a connection that has lost its session the driver meets no worker. -/
theorem Move.holds (move : Move tls gateway.handler connection after)
    (holds : Holds none outbound connection) : Holds none outbound after := by
  have ready := holds.ready
  cases move with
  | shift alike state =>
      have same : after.upgradeComplete = true := by simpa [upgradeComplete, state] using ready
      exact ⟨alike.session.trans holds.session, same,
        holds.instep.of_alike alike state.trans fun _ => same⟩
  | shake alike early still =>
      rw [early] at ready
      cases ready
  | close =>
      exact ⟨(alike_beginImmediateClose connection).session.trans holds.session,
        ready_beginImmediateClose _, holds.instep.close⟩
  | say waits accepted other =>
      exact ⟨holds.session, ready, holds.instep.say waits accepted (carries_frame other) rfl⟩
  | reject early refused =>
      rw [early] at ready
      cases ready
  | accept early taken =>
      rw [early] at ready
      cases ready
  | react record live =>
      rw [holds.session] at live
      cases live

theorem Moves.holds (moves : Moves tls gateway.handler connection after)
    (holds : Holds none outbound connection) : Holds none outbound after := by
  induction moves with
  | refl => exact holds
  | tail _ move ih => exact move.holds ih

theorem destroy_abreast (abreast : Abreast connection) :
    Abreast (connection.destroy config tls gateway.handler) := by
  unfold destroy notifySessionClosed
  dsimp only
  split
  · exact abreast.of_alike ⟨rfl, rfl, rfl, rfl, rfl, rfl⟩ id id
  rename_i handle live
  have ready : connection.upgradeComplete = true := by
    by_contra early
    have none := (abreast.early (by simpa using early)).2
    rw [live] at none
    cases none
  have left : Holds none connection.worker.2
      { connection with socketClosed := true, session := none } :=
    ⟨rfl, ready, abreast.counted, abreast.carried, abreast.highest,
      fun early => ⟨(abreast.early early).1, rfl⟩, abreast.claimed, abreast.bounded, abreast.known⟩
  exact left.react (fun _ _ holds => (driveOrClose_moves _).holds holds) _

theorem poll_abreast (abreast : Abreast connection) (now : Nat) :
    Abreast (connection.poll config tls gateway.handler now) := by
  have timed : Abreast
      (if connection.upgradeComplete = false ∧ connection.handshakeDeadlineUs ≤ now then
        connection.beginImmediateClose tls else connection) := by
    split
    · have closes : Moves tls gateway.handler connection (connection.beginImmediateClose tls) :=
        Moves.close connection
      exact closes.abreast abreast
    · exact abreast
  unfold poll
  dsimp only
  generalize (if connection.upgradeComplete = false ∧ connection.handshakeDeadlineUs ≤ now then
    connection.beginImmediateClose tls else connection) = after at timed ⊢
  split
  · exact destroy_abreast timed
  · exact timed

/-- A call from outside: the worker may change while the connection is driven on. -/
theorem ask_abreast (instep : InStep outbound connection) {call : Call}
    (ready : connection.upgradeComplete = true) (may : May outbound call connection.worker.2) :
    Abreast (connection.ask tls (drive config tls gateway.handler) call).2 := by
  have asks : Asks tls (drive config tls gateway.handler) connection.worker.2 connection
      (connection.ask tls (drive config tls gateway.handler) call).2 :=
    ask_asks instep ready may
  cases asks with
  | stays instep kin =>
      unfold Abreast
      rw [kin.worker]
      exact instep
  | @drives middle asked instep kin other known leads =>
      have begun : Abreast middle := by
        unfold Abreast
        rw [kin.worker]
        exact instep
      rw [leads]
      exact InStep.record (Moves.abreast (driveOrClose_moves middle) begun) other known

theorem happen_abreast (abreast : Abreast connection) (happening : Happening) :
    Abreast (connection.happen config tls gateway happening) := by
  have live (session : connection.session.isSome) : connection.upgradeComplete = true := by
    by_contra early
    rw [(abreast.early (by simpa using early)).2] at session
    cases session
  cases happening with
  | read result =>
      simp only [happen, step]
      split
      · exact abreast
      split
      · exact (readCallback_moves connection result).abreast abreast
      · exact abreast
  | wrote result =>
      simp only [happen, step]
      split
      · exact abreast
      split
      · exact (writeCallback_moves connection result).abreast abreast
      · exact abreast
  | poll now =>
      simp only [happen, step]
      split
      · exact abreast
      · exact poll_abreast abreast now
  | loopStopped =>
      simp only [happen, step]
      split
      · exact abreast
      · exact destroy_abreast abreast
  | «open» bytes fin =>
      simp only [happen]
      split
      · rename_i may
        exact ask_abreast (abreast.work _) (live may.2) (.write .next)
      · exact abreast
  | call wanted =>
      simp only [happen, step]
      split
      · rename_i may
        split
        · exact abreast
        split
        · rename_i session
          exact ask_abreast abreast (live session) (.of_mayAsk may)
        · exact abreast
      · exact abreast

theorem run_abreast (abreast : Abreast connection) (happenings : List Happening) :
    Abreast (Run.final (happen config tls gateway) connection happenings) := by
  induction happenings generalizing connection with
  | nil => exact abreast
  | cons happening happenings ih => exact ih (happen_abreast abreast happening)

theorem create_abreast (deadline : Nat) :
    Abreast (create config tls gateway.handler deadline) where
  counted := Outbound.counted_new
  carried := ⟨[], rfl, List.prefix_rfl, fun _ => rfl⟩
  highest := fun _ => rfl
  early := fun _ => ⟨rfl, rfl⟩
  claimed := .nil
  bounded := by simp [create, claimed]
  known := by simp [create]

theorem Abreast.keepsNumbers (abreast : Abreast connection) : connection.KeepsNumbers := by
  obtain ⟨count, opened, -⟩ := abreast.counted
  refine ⟨abreast.claimed, ⟨count, opened⟩, ?_, abreast.known⟩
  obtain ⟨records, carries, shorter, -⟩ := abreast.carried
  refine ⟨records, min (gatewayStreams records).eraseDups.length count, carries, ?_⟩
  rw [opened] at shorter
  conv_lhs => rw [List.prefix_iff_eq_take.mp shorter, firstNumbers, ← List.map_take, List.take_range]
  rfl

end Wishes

/-- In every run, client and gateway each use a number for one stream only, the gateway uses its
own in order, and the connection refuses no write of the gateway for its number. A first frame on
a stream of the client whose number is refused ends the connection. -/
theorem run_keeps_numbers (config : ListenerConfig) (tls : Tls State) (gateway : Gateway Worker)
    (deadline : Nat) (happenings : List Happening) :
    (Run.final (happen config tls gateway) (create config tls gateway.handler deadline)
        happenings).KeepsNumbers ∧
      ∀ (worker : LyuneGateway.Worker.GatewayWorker) (slot : Nat)
        (ctx : LyuneGateway.Worker.ConnectionContext)
        (streamId : Nat) (parsed : Protocol.Frame),
        ctx.peerNode = false → (worker.claimInboundExchange ctx.transport.kind).1 = false →
        worker.openInboundExchange slot ctx streamId parsed =
          (.closeConnection, (worker.claimInboundExchange ctx.transport.kind).2) := by
  refine ⟨(run_abreast (create_abreast deadline) happenings).keepsNumbers, ?_⟩
  intro worker slot ctx streamId parsed client refused
  unfold LyuneGateway.Worker.GatewayWorker.openInboundExchange
  rw [if_neg (by simp [client])]
  generalize worker.claimInboundExchange ctx.transport.kind = claimed at refused ⊢
  obtain ⟨granted, worker⟩ := claimed
  subst refused
  rfl

end Connection

end LyuneGateway.Wss
