import LyuneGateway.Clients.Records

/-!
# The exchanges of a session keep apart

Whatever messages, timers and calls come in between, an exchange comes to what
its own stream alone would make of it. It is described as a machine of its own,
which a session runs once for each stream.
-/

namespace LyuneGateway.Clients.Browser

/-- An exchange of the application, seen from its own stream. A lost one is never settled. -/
inductive Exchange where
  | unopened
  | waiting (noResponse : Bool) (bytes : Bytes)
  | settled (settlement : Settlement)
  | lost
  deriving DecidableEq, Repr

/-- What concerns an exchange. -/
inductive Input where
  | opened (noResponse : Bool)
  | record (record : Envelope)
  | timedOut
  | closed (fault : Fault)
  deriving DecidableEq, Repr

namespace Exchange

def finish (noResponse : Bool) (bytes : Bytes) : Exchange :=
  if noResponse then
    if bytes.length ≠ 0 then .settled (.rejected .unexpectedData) else .settled (.resolved none)
  else
    match decodeFrames bytes with
    | .error _ => .lost
    | .ok [frame] => .settled (.resolved (some frame))
    | .ok _ => .settled (.rejected .notOneFrame)

def take (noResponse : Bool) (bytes : Bytes) (record : Envelope) : Exchange :=
  if record.recordType = recordReset then .settled (.rejected (.reset record.appError))
  else if record.recordType = recordStop then .settled (.rejected (.stop record.appError))
  else if record.recordType = recordStream then
    if record.fin then finish noResponse (bytes ++ record.payload)
    else .waiting noResponse (bytes ++ record.payload)
  else .waiting noResponse bytes

def step : Exchange → Input → Exchange
  | .unopened, .opened noResponse => .waiting noResponse []
  | .waiting noResponse bytes, .record record => take noResponse bytes record
  | .waiting _ _, .timedOut => .settled (.rejected .timedOut)
  | .waiting _ _, .closed fault => .settled (.rejected fault)
  | exchange, _ => exchange

end Exchange

namespace Session

/-- The payload that a call sends, and whether it is to have no response. -/
def Event.asks : Event → Option (Bytes × Bool)
  | .authenticate body =>
      (encodeOpen destGateway 0 0x10 responseRequired body).toOption.map fun payload =>
        (payload, false)
  | .command body noResponse =>
      (encodeOpen destService 1 2 (if noResponse then responseNone else responseRequired)
        body).toOption.map fun payload => (payload, noResponse)
  | _ => none

variable {Json : Type} (json : Bytes → Option Json)

/-- The exchange on a stream, as the session has it. -/
def exchangeOn (session : Session Json) (streamId : Nat) : Exchange :=
  match session.pending.lookup streamId with
  | some pending => .waiting pending.noResponse pending.chunks.flatten
  | none =>
      match session.settled.lookup streamId with
      | some settlement => .settled settlement
      | none =>
          if streamId % 4 = 0 ∧ streamId < session.nextClientStreamId then .lost else .unopened

/-- What an event is to one stream. -/
def own (session : Session Json) (streamId : Nat) : Event → List Input
  | .timeout timed => if timed = streamId then [.timedOut] else []
  | .message (some bytes) =>
      match decodeEnvelope bytes with
      | .error _ => []
      | .ok record =>
          if session.ready ∧ record.streamId = streamId then [.record record] else []
  | event =>
      match event.asks with
      | none => []
      | some (_, noResponse) =>
          if session.ready ∧ session.nextClientStreamId = streamId then [.opened noResponse] else []

/-- What an event is to every stream, when the session ends with it. -/
def ending (session : Session Json) (event : Event) : List Input :=
  if session.closedBy = none then (session.step json event).closedBy.toList.map .closed else []

/-- What a run is to one stream. -/
def history (streamId : Nat) : Session Json → List Event → List Input
  | _, [] => []
  | session, event :: events =>
      session.own streamId event ++ session.ending json event ++
        history streamId (session.step json event) events

/-- What a session keeps: its streams are numbered by fours, each of them is settled once, and a
session that has ended waits on none. -/
structure Keeps (session : Session Json) : Prop where
  fours : session.nextClientStreamId % 4 = 0
  pending : ∀ {streamId pending}, session.pending.lookup streamId = some pending →
    streamId % 4 = 0 ∧ streamId < session.nextClientStreamId
  settled : ∀ {streamId settlement}, (streamId, settlement) ∈ session.settled →
    streamId % 4 = 0 ∧ streamId < session.nextClientStreamId ∧
      session.pending.lookup streamId = none
  once : (session.settled.map Prod.fst).Nodup
  ended : session.connected = false ∨ session.closedBy.isSome →
    session.connected = false ∧ session.closedBy.isSome ∧ session.ready = false ∧
      session.pending = ∅

/-- The rest of a session changes nothing in its exchanges. -/
structure SameStreams (session after : Session Json) : Prop where
  ready : after.ready = session.ready
  connected : after.connected = session.connected
  closedBy : after.closedBy = session.closedBy
  next : after.nextClientStreamId = session.nextClientStreamId
  pending : after.pending = session.pending
  settled : after.settled = session.settled

/-- One stream has moved on, and no other. -/
structure Moves (session after : Session Json) (streamId : Nat) (exchange : Exchange) : Prop where
  keeps : after.Keeps
  ready : after.ready = session.ready
  closedBy : after.closedBy = session.closedBy
  moved : after.exchangeOn streamId = exchange
  others : ∀ other ≠ streamId, after.exchangeOn other = session.exchangeOn other

variable {json} {session after : Session Json} {streamId : Nat}

theorem SameStreams.exchangeOn (same : SameStreams session after) (streamId : Nat) :
    after.exchangeOn streamId = session.exchangeOn streamId := by
  simp only [Session.exchangeOn, same.pending, same.settled, same.next]

theorem SameStreams.keeps (same : SameStreams session after) (keeps : session.Keeps) :
    after.Keeps where
  fours := same.next ▸ keeps.fours
  pending := by
    rw [same.pending, same.next]
    exact keeps.pending
  settled := by
    rw [same.settled, same.pending, same.next]
    exact keeps.settled
  once := same.settled ▸ keeps.once
  ended := by
    rw [same.connected, same.closedBy, same.ready, same.pending]
    exact keeps.ended

theorem SameStreams.moves (same : SameStreams session after) (keeps : session.Keeps)
    (streamId : Nat) : Moves session after streamId (session.exchangeOn streamId) where
  keeps := same.keeps keeps
  ready := same.ready
  closedBy := same.closedBy
  moved := same.exchangeOn streamId
  others := fun other _ => same.exchangeOn other

theorem Moves.of_same {middle : Session Json} {exchange : Exchange}
    (moves : Moves session middle streamId exchange) (same : SameStreams middle after) :
    Moves session after streamId exchange where
  keeps := same.keeps moves.keeps
  ready := same.ready.trans moves.ready
  closedBy := same.closedBy.trans moves.closedBy
  moved := (same.exchangeOn streamId).trans moves.moved
  others := fun other different => (same.exchangeOn other).trans (moves.others other different)

theorem sameStreams_send (session : Session Json) (record : Envelope) :
    SameStreams session (session.send record) := by
  unfold send
  split_ifs <;> exact ⟨rfl, rfl, rfl, rfl, rfl, rfl⟩

theorem waiting_of_pending {pending : PendingStream}
    (found : session.pending.lookup streamId = some pending) :
    session.exchangeOn streamId = .waiting pending.noResponse pending.chunks.flatten := by
  simp only [exchangeOn, found]

theorem not_waiting (absent : session.pending.lookup streamId = none) (noResponse : Bool)
    (bytes : Bytes) : session.exchangeOn streamId ≠ .waiting noResponse bytes := by
  simp only [exchangeOn, absent]
  split
  · simp
  · split_ifs <;> simp

section Moving

variable {before : PendingStream} (keeps : session.Keeps)
  (found : session.pending.lookup streamId = some before)

include keeps found

theorem ready_of_pending : session.connected = true ∧ session.closedBy = none := by
  by_contra ended
  have empty := (keeps.ended (by
    rw [not_and_or] at ended
    obtain away | closed := ended
    · exact Or.inl (Bool.eq_false_of_not_eq_true away)
    · exact Or.inr (Option.isSome_iff_ne_none.mpr closed))).2.2.2
  rw [empty, AList.lookup_empty] at found
  cases found

theorem unsettled_of_pending (settlement : Settlement) :
    (streamId, settlement) ∉ session.settled := by
  intro listed
  obtain ⟨-, -, absent⟩ := keeps.settled listed
  rw [found] at absent
  cases absent

theorem lookup_settled_of_pending : session.settled.lookup streamId = none := by
  rw [List.lookup_eq_none_iff]
  rintro ⟨other, settlement⟩ listed
  rw [bne_iff_ne]
  rintro rfl
  exact unsettled_of_pending keeps found settlement listed

theorem moves_insert (pending : PendingStream) :
    Moves session { session with pending := session.pending.insert streamId pending } streamId
      (.waiting pending.noResponse pending.chunks.flatten) where
  keeps := {
    fours := keeps.fours
    pending := by
      intro other value listed
      obtain ⟨rfl, -⟩ | ⟨-, listed⟩ := Table.lookup_insert_cases listed
      · exact keeps.pending found
      · exact keeps.pending listed
    settled := by
      intro other settlement listed
      obtain ⟨four, below, absent⟩ := keeps.settled listed
      refine ⟨four, below, ?_⟩
      have different : other ≠ streamId := by
        rintro rfl
        rw [found] at absent
        cases absent
      rw [AList.lookup_insert_ne different]
      exact absent
    once := keeps.once
    ended := by
      obtain ⟨connected, open_⟩ := ready_of_pending keeps found
      simp [connected, open_] }
  ready := rfl
  closedBy := rfl
  moved := by simp only [exchangeOn, AList.lookup_insert]
  others := by
    intro other different
    simp only [exchangeOn, AList.lookup_insert_ne different]

theorem moves_settle (settlement : Settlement) :
    Moves session
      (({ session with pending := session.pending.erase streamId } : Session Json).settle streamId
        settlement) streamId (.settled settlement) where
  keeps := {
    fours := keeps.fours
    pending := fun listed => keeps.pending (Table.lookup_erase_eq_some.mp listed).2
    settled := by
      intro other given listed
      obtain listed | last := List.mem_append.mp listed
      · obtain ⟨four, below, absent⟩ := keeps.settled listed
        exact ⟨four, below, Table.Shrinks.erase other absent⟩
      · cases List.mem_singleton.mp last
        obtain ⟨four, below⟩ := keeps.pending found
        exact ⟨four, below, AList.lookup_erase _ _⟩
    once := by
      rw [settle, List.map_append, List.nodup_append]
      refine ⟨keeps.once, List.nodup_singleton _, ?_⟩
      rintro _ earlier _ last rfl
      obtain ⟨⟨other, given⟩, listed, same⟩ := List.mem_map.mp earlier
      obtain rfl : other = streamId := same.trans (List.mem_singleton.mp last)
      exact unsettled_of_pending keeps found given listed
    ended := by
      obtain ⟨connected, open_⟩ := ready_of_pending keeps found
      simp [settle, connected, open_] }
  ready := rfl
  closedBy := rfl
  moved := by
    simp only [exchangeOn, settle, AList.lookup_erase, List.lookup_append,
      lookup_settled_of_pending keeps found, Option.none_or, List.lookup_cons_self]
  others := by
    intro other different
    have last : [(streamId, settlement)].lookup other = none := by simp [different]
    simp only [exchangeOn, settle, AList.lookup_erase_ne different, List.lookup_append, last,
      Option.or_none]
    rfl

theorem moves_lose :
    Moves session { session with pending := session.pending.erase streamId } streamId .lost where
  keeps := {
    fours := keeps.fours
    pending := fun listed => keeps.pending (Table.lookup_erase_eq_some.mp listed).2
    settled := by
      intro other given listed
      obtain ⟨four, below, absent⟩ := keeps.settled listed
      exact ⟨four, below, Table.Shrinks.erase other absent⟩
    once := keeps.once
    ended := by
      obtain ⟨connected, open_⟩ := ready_of_pending keeps found
      simp [connected, open_] }
  ready := rfl
  closedBy := rfl
  moved := by
    simp only [exchangeOn, AList.lookup_erase, lookup_settled_of_pending keeps found,
      keeps.pending found, and_self, ↓reduceIte]
  others := by
    intro other different
    simp only [exchangeOn, AList.lookup_erase_ne different]

theorem moves_finishResponse (pending : PendingStream) :
    Moves session (session.finishResponse streamId pending).1 streamId
      (.finish pending.noResponse pending.chunks.flatten) := by
  unfold finishResponse Exchange.finish
  simp only
  split_ifs
  · exact moves_settle keeps found _
  · exact moves_settle keeps found _
  · cases decodeFrames pending.chunks.flatten with
    | error fault => exact moves_lose keeps found
    | ok frames =>
        rcases frames with _ | ⟨frame, _ | ⟨other, more⟩⟩
        · exact moves_settle keeps found _
        · exact moves_settle keeps found _
        · exact moves_settle keeps found _

end Moving

/-- The payload is kept behind what the stream has brought before; an empty one is not kept. -/
theorem flatten_chunks (pending : PendingStream) (payload : Bytes) :
    (if 0 < payload.length then { pending with chunks := pending.chunks ++ [payload] }
      else pending).chunks.flatten = pending.chunks.flatten ++ payload := by
  split_ifs with given
  · simp
  · rw [List.length_eq_zero_iff.mp (Nat.eq_zero_of_not_pos given), List.append_nil]

theorem step_of_absent (absent : session.pending.lookup streamId = none) {input : Input}
    (later : ∀ noResponse, input ≠ .opened noResponse) :
    (session.exchangeOn streamId).step input = session.exchangeOn streamId := by
  cases is : session.exchangeOn streamId with
  | waiting noResponse bytes => exact absurd is (not_waiting absent noResponse bytes)
  | unopened =>
      cases input with
      | opened noResponse => exact absurd rfl (later noResponse)
      | _ => rfl
  | _ => rfl

theorem moves_refl (keeps : session.Keeps) (streamId : Nat) :
    Moves session session streamId (session.exchangeOn streamId) :=
  ⟨keeps, rfl, rfl, rfl, fun _ _ => rfl⟩

theorem moves_handleResponse (keeps : session.Keeps) {record : Envelope}
    (isStream : record.recordType = recordStream) :
    Moves session (session.handleResponse record).1 record.streamId
      ((session.exchangeOn record.streamId).step (.record record)) := by
  unfold handleResponse
  cases found : session.pending.lookup record.streamId with
  | none =>
      rw [step_of_absent found (by simp)]
      exact moves_refl keeps _
  | some pending =>
      have chunks := flatten_chunks pending record.payload
      have mode : (if 0 < record.payload.length then
          { pending with chunks := pending.chunks ++ [record.payload] }
        else pending).noResponse = pending.noResponse := by
        split_ifs <;> rfl
      rw [waiting_of_pending found, Exchange.step, Exchange.take, isStream]
      simp only [recordStream, recordReset, recordStop]
      cases fin : record.fin with
      | true => 
          have moves := moves_finishResponse keeps found (if 0 < record.payload.length then
            { pending with chunks := pending.chunks ++ [record.payload] } else pending)
          rw [chunks, mode] at moves
          simpa using moves
      | false =>
          have moves := moves_insert keeps found (if 0 < record.payload.length then
            { pending with chunks := pending.chunks ++ [record.payload] } else pending)
          rw [chunks, mode] at moves
          simpa using moves

theorem sameStreams_handlePush (session : Session Json) (record : Envelope) :
    SameStreams session (session.handlePush json record).1 := by
  unfold handlePush
  simp only
  generalize (if 0 < record.payload.length then _ else _ : List Bytes) = chunks
  split_ifs
  · exact ⟨rfl, rfl, rfl, rfl, rfl, rfl⟩
  · generalize decodeFrames chunks.flatten >>= readPush json = read
    cases read with
    | error fault => exact ⟨rfl, rfl, rfl, rfl, rfl, rfl⟩
    | ok push =>
        have sent := sameStreams_send ({
          session with
          pushes := session.pushes.erase record.streamId
          pushSequence := session.pushSequence + 1
          heard := session.heard ++ [{
            seq := session.pushSequence + 1
            targets := push.1
            payload := push.2 }] } : Session Json) {
          recordType := recordStream
          fin := true
          streamId := record.streamId
          appError := 0
          payload := [] }
        exact ⟨sent.ready, sent.connected, sent.closedBy, sent.next, sent.pending, sent.settled⟩

/-- Only the streams that the browser has opened are waited on. -/
theorem absent_of_foreign (keeps : session.Keeps) (foreign : streamId % 4 ≠ 0) :
    session.pending.lookup streamId = none := by
  cases found : session.pending.lookup streamId with
  | none => rfl
  | some pending => exact absurd (keeps.pending found).1 foreign

theorem moves_reject (keeps : session.Keeps) {input : Input} {fault : Fault}
    (later : ∀ noResponse, input ≠ .opened noResponse)
    (rejects : ∀ noResponse bytes,
      (Exchange.waiting noResponse bytes).step input = .settled (.rejected fault)) :
    Moves session (session.reject streamId fault) streamId
      ((session.exchangeOn streamId).step input) := by
  unfold reject
  cases found : session.pending.lookup streamId with
  | none =>
      rw [step_of_absent found later]
      exact moves_refl keeps _
  | some pending =>
      rw [waiting_of_pending found, rejects]
      exact moves_settle keeps found _

theorem moves_handleRecord (keeps : session.Keeps) (record : Envelope) :
    Moves session (session.handleRecord json record).1 record.streamId
      ((session.exchangeOn record.streamId).step (.record record)) := by
  have foreign (absent : session.pending.lookup record.streamId = none) :
      Moves session session record.streamId
        ((session.exchangeOn record.streamId).step (.record record)) := by
    rw [step_of_absent absent (by simp)]
    exact moves_refl keeps _
  have silent (noted : ∀ noResponse bytes,
      Exchange.take noResponse bytes record = .waiting noResponse bytes) :
      Moves session session record.streamId
        ((session.exchangeOn record.streamId).step (.record record)) := by
    cases found : session.pending.lookup record.streamId with
    | none => exact foreign found
    | some pending =>
        rw [waiting_of_pending found, Exchange.step, noted, ← waiting_of_pending found]
        exact moves_refl keeps _
  by_cases isEphemeral : record.recordType = recordEphemeral
  · rw [handleRecord, if_pos isEphemeral]
    refine silent fun noResponse bytes => ?_
    simp [Exchange.take, isEphemeral, recordEphemeral, recordReset, recordStop, recordStream]
  by_cases isReset : record.recordType = recordReset
  · have ends := @moves_reject _ _ record.streamId keeps (.record record) (.reset record.appError)
      (by simp) fun noResponse bytes => by simp [Exchange.step, Exchange.take, isReset]
    simpa [handleRecord, isReset, recordEphemeral, recordReset, recordStop] using ends
  by_cases isStop : record.recordType = recordStop
  · have ends := @moves_reject _ _ record.streamId keeps (.record record) (.stop record.appError)
      (by simp) fun noResponse bytes => by
        simp [Exchange.step, Exchange.take, isStop, recordReset, recordStop]
    have sent := ends.of_same (sameStreams_send _ {
      recordType := recordReset
      fin := false
      streamId := record.streamId
      appError := record.appError
      payload := [] })
    simpa [handleRecord, isStop, recordEphemeral, recordReset, recordStop] using sent
  rw [handleRecord, if_neg isEphemeral, if_neg (by simp [isReset, isStop])]
  by_cases isStream : record.recordType = recordStream
  · rw [if_neg (not_not.mpr isStream)]
    split_ifs with response push
    · exact moves_handleResponse keeps isStream
    · have absent := @absent_of_foreign _ _ record.streamId keeps (by omega)
      rw [step_of_absent absent (by simp)]
      exact (sameStreams_handlePush session record).moves keeps _
    · exact foreign (absent_of_foreign keeps response)
  · rw [if_pos isStream]
    refine silent fun noResponse bytes => ?_
    simp [Exchange.take, isReset, isStop, isStream]

theorem keeps_stopped (keeps : session.Keeps) :
    ({ session with ready := false } : Session Json).Keeps where
  fours := keeps.fours
  pending := keeps.pending
  settled := keeps.settled
  once := keeps.once
  ended := fun ended =>
    have was := keeps.ended ended
    ⟨was.1, was.2.1, rfl, was.2.2.2⟩

theorem handleClose_of_ended (keeps : session.Keeps) (ended : session.closedBy.isSome)
    (fault : Fault) : session.handleClose fault = session := by
  have away := (keeps.ended (Or.inr ended)).1
  rw [handleClose, if_pos ⟨away, ended⟩]

theorem handleClose_of_open (still : session.closedBy = none) (fault : Fault) :
    session.handleClose fault = {
      session with
      connected := false
      closedBy := some fault
      settled := session.settled ++
        session.pending.entries.map fun entry => (entry.1, .rejected fault)
      pending := ∅
      pushes := ∅ } := by
  rw [handleClose, if_neg]
  simp [still]

/-- The entries of a table, all with one value, looked up by their keys. -/
theorem lookup_map_entries {ν β : Type} (table : Table Nat ν) (value : β) (key : Nat) :
    (table.entries.map fun entry => (entry.1, value)).lookup key =
      (table.lookup key).map fun _ => value := by
  rw [AList.lookup]
  induction table.entries with
  | nil => rfl
  | cons entry entries ih =>
      obtain ⟨found, content⟩ := entry
      by_cases same : key = found
      · subst same
        simp
      · rw [List.map_cons, List.lookup_cons, beq_false_of_ne same, List.dlookup_cons_ne _ _ same]
        exact ih

theorem exchangeOn_handleClose (keeps : session.Keeps) (still : session.closedBy = none)
    (fault : Fault) (streamId : Nat) :
    (session.handleClose fault).exchangeOn streamId =
      (session.exchangeOn streamId).step (.closed fault) := by
  rw [handleClose_of_open still]
  simp only [exchangeOn, AList.lookup_empty, List.lookup_append, lookup_map_entries]
  cases found : session.pending.lookup streamId with
  | some pending => simp [lookup_settled_of_pending keeps found, Exchange.step]
  | none =>
      simp only [Option.map_none, Option.or_none]
      cases session.settled.lookup streamId with
      | some settlement => rfl
      | none =>
          simp only
          split_ifs <;> rfl

theorem keeps_handleClose (keeps : session.Keeps) (stopped : session.ready = false)
    (fault : Fault) : (session.handleClose fault).Keeps := by
  cases still : session.closedBy with
  | some reason =>
      rw [handleClose_of_ended keeps (by rw [still]; rfl)]
      exact keeps
  | none =>
      rw [handleClose_of_open still]
      refine ⟨keeps.fours, ?_, ?_, ?_, fun _ => ⟨rfl, rfl, stopped, rfl⟩⟩
      · intro streamId pending listed
        rw [AList.lookup_empty] at listed
        cases listed
      · intro streamId settlement listed
        obtain listed | waited := List.mem_append.mp listed
        · obtain ⟨four, below, -⟩ := keeps.settled listed
          exact ⟨four, below, AList.lookup_empty _⟩
        · obtain ⟨⟨streamId, pending⟩, entry, ⟨⟩⟩ := List.mem_map.mp waited
          obtain ⟨four, below⟩ := keeps.pending (AList.mem_lookup_iff.mpr entry)
          exact ⟨four, below, AList.lookup_empty _⟩
      · rw [List.map_append, List.map_map, List.nodup_append]
        refine ⟨keeps.once, session.pending.nodupKeys, ?_⟩
        rintro _ settled _ waited rfl
        obtain ⟨⟨streamId, settlement⟩, listed, same⟩ := List.mem_map.mp settled
        obtain ⟨⟨other, pending⟩, entry, rfl⟩ := List.mem_map.mp waited
        obtain rfl : streamId = other := same
        exact unsettled_of_pending keeps (AList.mem_lookup_iff.mpr entry) settlement listed

/-- A new exchange is on a stream of its own. -/
theorem unopened_of_next (keeps : session.Keeps) :
    session.pending.lookup session.nextClientStreamId = none ∧
      session.settled.lookup session.nextClientStreamId = none := by
  constructor
  · cases found : session.pending.lookup session.nextClientStreamId with
    | none => rfl
    | some pending => exact absurd (keeps.pending found).2 (lt_irrefl _)
  · rw [List.lookup_eq_none_iff]
    rintro ⟨other, settlement⟩ listed
    rw [bne_iff_ne]
    rintro rfl
    exact absurd (keeps.settled listed).2.1 (lt_irrefl _)

theorem moves_exchange (keeps : session.Keeps) (ready : session.ready = true) (payload : Bytes)
    (noResponse : Bool) :
    Moves session (session.exchange payload noResponse) session.nextClientStreamId
      ((session.exchangeOn session.nextClientStreamId).step (.opened noResponse)) := by
  obtain ⟨noPending, noSettled⟩ := unopened_of_next keeps
  have fresh : session.exchangeOn session.nextClientStreamId = .unopened := by
    simp only [exchangeOn, noPending, noSettled, lt_irrefl, and_false, ↓reduceIte]
  rw [exchange, if_pos ready, fresh, Exchange.step]
  refine Moves.of_same ?_ (sameStreams_send _ _)
  exact {
    keeps := {
      fours := by simpa using keeps.fours
      pending := by
        intro other pending listed
        obtain ⟨rfl, -⟩ | ⟨-, listed⟩ := Table.lookup_insert_cases listed
        · exact ⟨keeps.fours, Nat.lt_add_of_pos_right (by decide)⟩
        · obtain ⟨four, below⟩ := keeps.pending listed
          exact ⟨four, Nat.lt_add_right 4 below⟩
      settled := by
        intro other settlement listed
        obtain ⟨four, below, absent⟩ := keeps.settled listed
        refine ⟨four, Nat.lt_add_right 4 below, ?_⟩
        rw [AList.lookup_insert_ne (Nat.ne_of_lt below)]
        exact absent
      once := keeps.once
      ended := by
        intro ended
        rw [(keeps.ended ended).2.2.1] at ready
        cases ready }
    ready := rfl
    closedBy := rfl
    moved := by simp only [exchangeOn, AList.lookup_insert, List.flatten_nil]
    others := by
      intro other different
      have fours := keeps.fours
      have below : other % 4 = 0 ∧ other < session.nextClientStreamId + 4 ↔
          other % 4 = 0 ∧ other < session.nextClientStreamId := by
        omega
      simp only [exchangeOn, AList.lookup_insert_ne different, below] }

/-- Every stream has moved on as its inputs say, and the session goes on. -/
structure Reaches (session middle : Session Json) (inputs : Nat → List Input) : Prop where
  keeps : middle.Keeps
  closedBy : middle.closedBy = session.closedBy
  moved : ∀ streamId, middle.exchangeOn streamId =
    (inputs streamId).foldl Exchange.step (session.exchangeOn streamId)

/-- The same, with what the end of the session is to every stream, if it has ended. -/
def Settles (session after : Session Json) (inputs : Nat → List Input) : Prop :=
  after.Keeps ∧ ∀ streamId, after.exchangeOn streamId =
    (inputs streamId ++
      if session.closedBy = none then after.closedBy.toList.map Input.closed else []).foldl
        Exchange.step (session.exchangeOn streamId)

theorem reaches_refl (keeps : session.Keeps) : Reaches session session fun _ => [] :=
  ⟨keeps, rfl, fun _ => rfl⟩

theorem Moves.reaches {input : Input}
    (moves : Moves session after streamId ((session.exchangeOn streamId).step input)) :
    Reaches session after fun other => if streamId = other then [input] else [] where
  keeps := moves.keeps
  closedBy := moves.closedBy
  moved := by
    intro other
    split_ifs with same
    · subst same
      exact moves.moved
    · exact moves.others other (Ne.symm same)

theorem Reaches.settles {inputs : Nat → List Input} (reaches : Reaches session after inputs) :
    Settles session after inputs := by
  refine ⟨reaches.keeps, fun streamId => ?_⟩
  have nothing : (if session.closedBy = none then after.closedBy.toList.map Input.closed else []) =
      [] := by
    rw [reaches.closedBy]
    split_ifs with still
    · rw [still]
      rfl
    · rfl
  rw [nothing, List.append_nil]
  exact reaches.moved streamId

theorem Reaches.stopped {middle : Session Json} {inputs : Nat → List Input}
    (reaches : Reaches session middle inputs) :
    Reaches session { middle with ready := false } inputs :=
  ⟨keeps_stopped reaches.keeps, reaches.closedBy, reaches.moved⟩

theorem Reaches.ends {middle : Session Json} {inputs : Nat → List Input}
    (reaches : Reaches session middle inputs) (stopped : middle.ready = false) (fault : Fault) :
    Settles session (middle.handleClose fault) inputs := by
  refine ⟨keeps_handleClose reaches.keeps stopped fault, fun streamId => ?_⟩
  cases still : session.closedBy with
  | none =>
      have open_ : middle.closedBy = none := reaches.closedBy.trans still
      rw [exchangeOn_handleClose reaches.keeps open_, handleClose_of_open open_, reaches.moved,
        List.foldl_append]
      rfl
  | some reason =>
      have ended : middle.closedBy.isSome := by rw [reaches.closedBy, still]; rfl
      rw [handleClose_of_ended reaches.keeps ended, if_neg (by simp), List.append_nil]
      exact reaches.moved streamId

theorem settles_exchange (keeps : session.Keeps) (payload : Bytes) (noResponse : Bool) :
    Settles session (session.exchange payload noResponse) fun streamId =>
      if session.ready ∧ session.nextClientStreamId = streamId then [.opened noResponse] else [] := by
  cases ready : session.ready with
  | true => simpa using (moves_exchange keeps ready payload noResponse).reaches.settles
  | false =>
      have same : session.exchange payload noResponse = session := by simp [exchange, ready]
      simpa [same] using (reaches_refl keeps).settles

theorem settles_message (keeps : session.Keeps) (data : Option Bytes) :
    Settles session (session.handleMessage json data) fun streamId =>
      session.own streamId (.message data) := by
  cases ready : session.ready with
  | false =>
      have silent (streamId : Nat) : session.own streamId (.message data) = [] := by
        cases data with
        | none => rfl
        | some bytes =>
            simp only [own, ready]
            split <;> simp
      simp only [silent, handleMessage, ready, ↓reduceIte]
      exact (reaches_refl keeps).settles
  | true =>
      simp only [handleMessage, ready, Bool.true_eq_false, ↓reduceIte]
      cases data with
      | none => exact (reaches_refl keeps).stopped.ends rfl .notBinary
      | some bytes =>
          cases decoded : decodeEnvelope bytes with
          | error fault =>
              simp only [own, decoded]
              exact (reaches_refl keeps).stopped.ends rfl fault
          | ok record =>
              have reaches := (@moves_handleRecord _ json _ keeps record).reaches
              simp only [own, decoded, ready, true_and]
              cases handled : session.handleRecord json record with
              | mk after fault =>
                  rw [handled] at reaches
                  cases fault with
                  | none => exact reaches.settles
                  | some fault => exact reaches.stopped.ends rfl fault

/-- What an event is to a stream decides what becomes of the exchange on it. -/
theorem settles_step (keeps : session.Keeps) (event : Event) :
    Settles session (session.step json event) fun streamId => session.own streamId event := by
  cases event with
  | authenticate body =>
      simp only [step, own, authenticate, Event.asks]
      cases encodeOpen destGateway 0 0x10 responseRequired body with
      | error fault => exact (reaches_refl keeps).settles
      | ok payload => exact settles_exchange keeps payload false
  | command body noResponse =>
      simp only [step, own, command, Event.asks]
      cases encodeOpen destService 1 2 (if noResponse then responseNone else responseRequired)
        body with
      | error fault => exact (reaches_refl keeps).settles
      | ok payload => exact settles_exchange keeps payload noResponse
  | message data => exact settles_message keeps data
  | timeout streamId =>
      have moves := @moves_reject _ _ streamId keeps .timedOut .timedOut (by simp) fun _ _ => rfl
      exact moves.reaches.settles
  | socketClosing => exact (reaches_refl keeps).stopped.settles
  | socketClosed => exact (reaches_refl keeps).stopped.ends rfl .socketClosed
  | socketError =>
      cases ready : session.ready with
      | true =>
          simp only [step, ready, ↓reduceIte]
          exact (reaches_refl keeps).settles
      | false =>
          simp only [step, ready, Bool.false_eq_true, ↓reduceIte]
          exact (reaches_refl keeps).ends ready .socketFailed
  | close => exact (reaches_refl keeps).stopped.ends rfl .loggedOut

theorem keeps_fresh : ({} : Session Json).Keeps where
  fours := rfl
  pending := by
    intro streamId pending listed
    rw [AList.lookup_empty] at listed
    cases listed
  settled := by simp
  once := List.nodup_nil
  ended := by simp

theorem keeps_run (keeps : session.Keeps) (events : List Event) :
    (session.run json events).Keeps := by
  induction events generalizing session with
  | nil => exact keeps
  | cons event events ih => exact ih (settles_step keeps event).1

theorem exchangeOn_run (keeps : session.Keeps) (events : List Event) (streamId : Nat) :
    (session.run json events).exchangeOn streamId =
      (session.history json streamId events).foldl Exchange.step (session.exchangeOn streamId) := by
  induction events generalizing session with
  | nil => rfl
  | cons event events ih =>
      obtain ⟨after, moved⟩ := @settles_step _ json _ keeps event
      rw [history, List.foldl_append, ending, ← moved streamId]
      exact ih after

end Session

end LyuneGateway.Clients.Browser
