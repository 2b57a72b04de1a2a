import LyuneGateway.Clients.Streams

/-!
# Responses are what the stream has brought

An exchange is resolved with the one frame that the payloads of its stream make
up, however they were cut and whatever came in between, and the frame is the one
the gateway has written. Nothing is sent that the gateway would not take.
-/

namespace LyuneGateway.Clients.Browser

/-- The record among the inputs that carry bytes of the stream. -/
def Input.streamed : Input → Option Envelope
  | .record given => if given.recordType = recordStream then some given else none
  | _ => none

/-- Inputs that leave an exchange to its stream. -/
def Input.Benign : Input → Prop
  | .opened _ => True
  | .record given => given.recordType ≠ recordReset ∧ given.recordType ≠ recordStop
  | .timedOut => False
  | .closed _ => False

def streamed (inputs : List Input) : List Envelope := inputs.filterMap Input.streamed

theorem streamed_append (inputs more : List Input) :
    streamed (inputs ++ more) = streamed inputs ++ streamed more := List.filterMap_append

theorem streamed_singleton (input : Input) : streamed [input] = input.streamed.toList := by
  rw [streamed, List.filterMap_cons, List.filterMap_nil]
  cases input.streamed <;> rfl

/-- The bytes that a list of records brings. -/
def payloads (records : List Envelope) : Bytes := records.flatMap Envelope.payload

/-- Only the last of the records ends the stream. -/
def EndsWithLast (records : List Envelope) : Prop :=
  ∃ earlier last, records = earlier ++ [last] ∧ last.fin = true ∧
    ∀ record ∈ earlier, record.fin = false

namespace Exchange

variable {inputs : List Input} {noResponse : Bool} {bytes : Bytes} {frame : Frame}

theorem finish_ne_waiting (mode : Bool) (before : Bytes) :
    finish mode before ≠ .waiting noResponse bytes := by
  unfold finish
  split_ifs
  · simp
  · simp
  · split <;> simp

theorem take_eq_waiting {mode : Bool} {before : Bytes} {record : Envelope}
    (waits : take mode before record = .waiting noResponse bytes) :
    mode = noResponse ∧
      ((Input.record record).streamed = none ∧ bytes = before ∨
        (Input.record record).streamed = some record ∧ record.fin = false ∧
          bytes = before ++ record.payload) := by
  unfold take at waits
  split_ifs at waits with isReset isStop isStream fin
  · exact absurd waits (finish_ne_waiting _ _)
  · cases waits
    exact ⟨rfl, Or.inr ⟨if_pos isStream, Bool.eq_false_of_not_eq_true fin, rfl⟩⟩
  · cases waits
    exact ⟨rfl, Or.inl ⟨if_neg isStream, rfl⟩⟩

theorem finish_eq_resolved {mode : Bool} {before : Bytes}
    (resolved : finish mode before = .settled (.resolved (some frame))) :
    mode = false ∧ decodeFrames before = .ok [frame] := by
  unfold finish at resolved
  split_ifs at resolved with silent given
  · cases resolved
  · cases resolved
  · refine ⟨Bool.eq_false_of_not_eq_true silent, ?_⟩
    split at resolved
    · cases resolved
    · rename_i decoded
      cases resolved
      exact decoded
    · cases resolved

theorem take_eq_resolved {mode : Bool} {before : Bytes} {record : Envelope}
    (resolved : take mode before record = .settled (.resolved (some frame))) :
    mode = false ∧ (Input.record record).streamed = some record ∧ record.fin = true ∧
      decodeFrames (before ++ record.payload) = .ok [frame] := by
  unfold take at resolved
  split_ifs at resolved with isReset isStop isStream fin
  · cases resolved
  · cases resolved
  · obtain ⟨plain, decoded⟩ := finish_eq_resolved resolved
    exact ⟨plain, if_pos isStream, fin, decoded⟩

/-- An exchange that waits has kept what came on its stream since it was opened. -/
theorem opened_of_waiting (waits : inputs.foldl step .unopened = .waiting noResponse bytes) :
    ∃ earlier since, inputs = earlier ++ .opened noResponse :: since ∧
      bytes = payloads (streamed since) ∧
      ∀ record ∈ streamed since, record.fin = false := by
  induction inputs using List.reverseRecOn generalizing noResponse bytes with
  | nil => cases waits
  | append_singleton inputs input ih =>
      rw [List.foldl_append, List.foldl_cons, List.foldl_nil] at waits
      cases was : inputs.foldl step .unopened with
      | unopened =>
          rw [was] at waits
          cases input with
          | opened mode =>
              cases waits
              exact ⟨inputs, [], rfl, rfl, by simp [streamed]⟩
          | record record => cases waits
          | timedOut => cases waits
          | closed fault => cases waits
      | waiting mode before =>
          rw [was] at waits
          obtain ⟨earlier, since, rfl, kept, unfinished⟩ := ih was
          cases input with
          | opened other =>
              cases waits
              have nothing : streamed (since ++ [.opened other]) = streamed since := by
                rw [streamed_append, streamed_singleton]
                exact List.append_nil _
              exact ⟨earlier, since ++ [.opened other], List.append_assoc _ _ _,
                by rwa [nothing], by rwa [nothing]⟩
          | record record =>
              have more := streamed_append since [.record record]
              rw [streamed_singleton] at more
              obtain ⟨rfl, ⟨silent, rfl⟩ | ⟨brings, fin, rfl⟩⟩ := take_eq_waiting waits
              · rw [silent, Option.toList_none, List.append_nil] at more
                exact ⟨earlier, since ++ [.record record], by simp, by rwa [more], by rwa [more]⟩
              · rw [brings, Option.toList_some] at more
                refine ⟨earlier, since ++ [.record record], by simp, ?_, ?_⟩
                · rw [more, kept]
                  simp [payloads]
                · rw [more]
                  exact List.forall_mem_append.mpr ⟨unfinished, by simpa using fin⟩
          | timedOut => cases waits
          | closed fault => cases waits
      | settled settlement =>
          rw [was] at waits
          cases waits
      | lost =>
          rw [was] at waits
          cases waits

/-- An exchange that is resolved with a frame has had it on its stream. -/
theorem opened_of_resolved
    (resolved : inputs.foldl step .unopened = .settled (.resolved (some frame))) :
    ∃ earlier during later, inputs = earlier ++ .opened false :: (during ++ later) ∧
      EndsWithLast (streamed during) ∧
      decodeFrames (payloads (streamed during)) = .ok [frame] := by
  induction inputs using List.reverseRecOn with
  | nil => cases resolved
  | append_singleton inputs input ih =>
      rw [List.foldl_append, List.foldl_cons, List.foldl_nil] at resolved
      cases was : inputs.foldl step .unopened with
      | unopened =>
          rw [was] at resolved
          cases input <;> cases resolved
      | waiting mode before =>
          rw [was] at resolved
          obtain ⟨earlier, since, rfl, rfl, unfinished⟩ := opened_of_waiting was
          cases input with
          | record record =>
              obtain ⟨rfl, brings, fin, decoded⟩ := take_eq_resolved resolved
              have more := streamed_append since [.record record]
              rw [streamed_singleton, brings, Option.toList_some] at more
              refine ⟨earlier, since ++ [.record record], [], by simp, ?_, ?_⟩
              · rw [more]
                exact ⟨_, record, rfl, fin, unfinished⟩
              · rw [more]
                simpa [payloads] using decoded
          | opened other => cases resolved
          | timedOut => cases resolved
          | closed fault => cases resolved
      | settled settlement =>
          rw [was] at resolved
          obtain rfl : settlement = .resolved (some frame) := by
            cases input <;> exact Exchange.settled.inj resolved
          obtain ⟨earlier, during, later, rfl, ends, decoded⟩ := ih was
          exact ⟨earlier, during, later ++ [input], by simp, ends, decoded⟩
      | lost =>
          rw [was] at resolved
          cases input <;> cases resolved

theorem foldl_settled (settlement : Settlement) (inputs : List Input) :
    inputs.foldl step (.settled settlement) = .settled settlement := by
  induction inputs with
  | nil => rfl
  | cons input inputs ih => cases input <;> exact ih

theorem foldl_lost (inputs : List Input) : inputs.foldl step .lost = .lost := by
  induction inputs with
  | nil => rfl
  | cons input inputs ih => cases input <;> exact ih

theorem foldl_finish (bytes : Bytes) (inputs : List Input) :
    inputs.foldl step (finish noResponse bytes) = finish noResponse bytes := by
  unfold finish
  split_ifs
  · exact foldl_settled _ _
  · exact foldl_settled _ _
  · split
    · exact foldl_lost _
    · exact foldl_settled _ _
    · exact foldl_settled _ _

/-- The response is complete with the record that ends the stream. -/
theorem foldl_benign (benign : ∀ input ∈ inputs, Input.Benign input)
    (ends : EndsWithLast (streamed inputs)) :
    inputs.foldl step (.waiting noResponse bytes) =
      finish noResponse (bytes ++ payloads (streamed inputs)) := by
  induction inputs generalizing bytes with
  | nil =>
      obtain ⟨earlier, last, none_, -⟩ := ends
      simp [streamed] at none_
  | cons input inputs ih =>
      obtain ⟨harmless, others⟩ := List.forall_mem_cons.mp benign
      cases input with
      | opened mode => exact ih others ends
      | record record =>
          obtain ⟨notReset, notStop⟩ := harmless
          by_cases isStream : record.recordType = recordStream
          · have brings : streamed (.record record :: inputs) = record :: streamed inputs := by
              simp [streamed, Input.streamed, isStream]
            rw [brings] at ends ⊢
            obtain ⟨earlier, last, whole, fin, unfinished⟩ := ends
            cases earlier with
            | nil =>
                obtain ⟨rfl, nothing⟩ := List.cons.inj whole
                rw [List.foldl_cons, step, take, if_neg notReset, if_neg notStop, if_pos isStream,
                  if_pos fin, foldl_finish, nothing]
                simp [payloads]
            | cons first earlier =>
                obtain ⟨rfl, rest⟩ := List.cons.inj whole
                obtain ⟨open_, unfinished⟩ := List.forall_mem_cons.mp unfinished
                rw [List.foldl_cons, step, take, if_neg notReset, if_neg notStop, if_pos isStream,
                  if_neg (by simp [open_]), ih others ⟨earlier, last, rest, fin, unfinished⟩]
                simp [payloads]
          · have brings : streamed (.record record :: inputs) = streamed inputs := by
              simp [streamed, Input.streamed, isStream]
            rw [brings] at ends ⊢
            rw [List.foldl_cons, step, take, if_neg notReset, if_neg notStop, if_neg isStream]
            exact ih others ends
      | timedOut => exact absurd harmless id
      | closed fault => exact absurd harmless id

end Exchange

namespace Session

variable {Json : Type} {json : Bytes → Option Json} {session : Session Json} {streamId : Nat}

/-- The record that a message carries. -/
def Event.carries : Event → Option Envelope
  | .message (some bytes) => (decodeEnvelope bytes).toOption
  | _ => none

/-- The records of a stream among the messages of a run. -/
def received (streamId : Nat) (events : List Event) : List Envelope :=
  (events.filterMap Event.carries).filter fun record =>
    record.streamId = streamId ∧ record.recordType = recordStream

theorem received_cons (event : Event) (events : List Event) :
    received streamId (event :: events) = received streamId [event] ++ received streamId events := by
  rw [received, received, received, ← List.filter_append, ← List.filterMap_append]
  rfl

theorem ready_handleClose (fault : Fault) : (session.handleClose fault).ready = session.ready := by
  unfold handleClose
  split_ifs <;> rfl

theorem ready_reject (fault : Fault) : (session.reject streamId fault).ready = session.ready := by
  unfold reject
  split <;> rfl

/-- A socket that is not open does not open again. -/
theorem ready_step (stopped : session.ready = false) (event : Event) :
    (session.step json event).ready = false := by
  have asks (payload : Bytes) (noResponse : Bool) :
      (session.exchange payload noResponse).ready = false := by
    simp [exchange, stopped]
  cases event with
  | authenticate body =>
      simp only [step, authenticate]
      split
      · exact stopped
      · exact asks _ _
  | command body noResponse =>
      simp only [step, command]
      split
      · exact stopped
      · exact asks _ _
  | message data => simp [step, handleMessage, stopped]
  | timeout streamId => exact (ready_reject .timedOut).trans stopped
  | socketClosing => rfl
  | socketClosed => exact ready_handleClose _
  | socketError =>
      simp only [step, stopped, Bool.false_eq_true, ↓reduceIte]
      exact (ready_handleClose _).trans stopped
  | close => exact ready_handleClose _

/-- What an event is to a stream, as far as it brings bytes. -/
theorem streamed_own (event : Event) :
    streamed (session.own streamId event) =
      if session.ready then received streamId [event] else [] := by
  cases event with
  | message data =>
      cases data with
      | none => simp [own, Event.asks, received, Event.carries, streamed]
      | some bytes =>
          cases decoded : decodeEnvelope bytes with
          | error fault => simp [own, decoded, received, Event.carries, streamed, Except.toOption]
          | ok record =>
              cases ready : session.ready with
              | false => simp [own, decoded, ready, streamed]
              | true =>
                  by_cases same : record.streamId = streamId
                  · by_cases isStream : record.recordType = recordStream
                    · simp [own, decoded, ready, received, Event.carries, streamed, Except.toOption,
                        same, isStream, Input.streamed]
                    · simp [own, decoded, ready, received, Event.carries, streamed, Except.toOption,
                        same, isStream, Input.streamed]
                  · simp [own, decoded, ready, received, Event.carries, streamed, Except.toOption, same]
  | timeout timed =>
      have silent : streamed (session.own streamId (.timeout timed)) = [] := by
        simp only [own]
        split_ifs <;> rfl
      rw [silent]
      exact (ite_self _).symm
  | authenticate body =>
      have silent : streamed (session.own streamId (.authenticate body)) = [] := by
        simp only [own]
        cases Event.asks (.authenticate body) with
        | none => rfl
        | some asked =>
            simp only
            split_ifs <;> rfl
      rw [silent]
      exact (ite_self _).symm
  | command body noResponse =>
      have silent : streamed (session.own streamId (.command body noResponse)) = [] := by
        simp only [own]
        cases Event.asks (.command body noResponse) with
        | none => rfl
        | some asked =>
            simp only
            split_ifs <;> rfl
      rw [silent]
      exact (ite_self _).symm
  | socketClosing => exact (ite_self _).symm
  | socketClosed => exact (ite_self _).symm
  | socketError => exact (ite_self _).symm
  | close => exact (ite_self _).symm

theorem streamed_ending (event : Event) : streamed (session.ending json event) = [] := by
  unfold ending
  split_ifs
  · cases (session.step json event).closedBy <;> rfl
  · rfl

theorem streamed_history_stopped (stopped : session.ready = false) (events : List Event) :
    streamed (session.history json streamId events) = [] := by
  induction events generalizing session with
  | nil => rfl
  | cons event events ih =>
      rw [history, streamed_append, streamed_append, streamed_own, streamed_ending, stopped,
        ih (ready_step stopped event)]
      rfl

/-- A session hears the records of a stream in their order, until its socket closes. -/
theorem streamed_history (session : Session Json) (events : List Event) :
    streamed (session.history json streamId events) <+: received streamId events := by
  induction events generalizing session with
  | nil => exact List.nil_prefix
  | cons event events ih =>
      rw [history, streamed_append, streamed_append, streamed_ending, List.append_nil, received_cons]
      cases ready : session.ready with
      | true =>
          rw [streamed_own, ready, if_pos rfl]
          exact (List.prefix_append_right_inj _).mpr (ih _)
      | false =>
          rw [streamed_own, ready, if_neg (by simp), 
            streamed_history_stopped (ready_step ready event)]
          exact List.nil_prefix

/-- The exchanges of a session do not get in each other's way: over any run, each of them comes to
what its own stream alone would make of it, and is settled at most once. One that is resolved with a
frame has been brought exactly this frame, by messages that followed one another on its stream, of
which the last and no other ended it; where the gateway has written a frame to the stream, this is
the one. -/
theorem exchanges_keep_apart (json : Bytes → Option Json) (events : List Event) :
    let session := run json {} events
    (session.settled.map Prod.fst).Nodup ∧
    ∀ streamId,
      session.exchangeOn streamId =
        (history json streamId {} events).foldl Exchange.step .unopened ∧
      ∀ frame, session.exchangeOn streamId = .settled (.resolved (some frame)) →
        ∃ records, records <:+: received streamId events ∧ EndsWithLast records ∧
          decodeFrames (payloads records) = .ok [frame] ∧
          ∀ written : Protocol.Frame, written.WellFormed → payloads records = written.bytes →
            frame = .of written := by
  refine ⟨(keeps_run keeps_fresh events).once, fun streamId => ?_⟩
  have comes := @exchangeOn_run _ json _ keeps_fresh events streamId
  have fresh : ({} : Session Json).exchangeOn streamId = .unopened := by
    simp [exchangeOn]
  rw [fresh] at comes
  refine ⟨comes, fun frame resolved => ?_⟩
  rw [comes] at resolved
  obtain ⟨earlier, during, later, whole, ends, decoded⟩ := Exchange.opened_of_resolved resolved
  obtain ⟨after, heard⟩ := @streamed_history _ json streamId {} events
  refine ⟨streamed during, ?_, ends, decoded, ?_⟩
  · have parts : streamed (history json streamId {} events) =
        streamed earlier ++ (streamed during ++ streamed later) := by
      rw [whole, streamed_append]
      exact congrArg _ (streamed_append during later)
    refine ⟨streamed earlier, streamed later ++ after, ?_⟩
    rw [← heard, parts, List.append_assoc, List.append_assoc, List.append_assoc]
  · intro written wellFormed same
    rw [same, decodeFrames_bytes wellFormed] at decoded
    cases decoded
    rfl

theorem ready_of_run {events : List Event} (ready : (session.run json events).ready = true) :
    session.ready = true := by
  induction events generalizing session with
  | nil => exact ready
  | cons event events ih =>
      have next := ih ready
      cases was : session.ready with
      | true => rfl
      | false =>
          rw [ready_step was] at next
          cases next

theorem open_of_ready (keeps : session.Keeps) (ready : session.ready = true) :
    session.closedBy = none := by
  cases still : session.closedBy with
  | none => rfl
  | some fault =>
      rw [(keeps.ended (Or.inr (by rw [still]; rfl))).2.2.1] at ready
      cases ready

/-- A stream is left to itself by a run in which its exchange is not timed out and the gateway does
not break it off. -/
def Unharmed (streamId : Nat) (events : List Event) : Prop :=
  ∀ event ∈ events, event ≠ .timeout streamId ∧ ∀ record ∈ event.carries,
    record.streamId = streamId → record.recordType ≠ recordReset ∧ record.recordType ≠ recordStop

instance (streamId : Nat) (events : List Event) : Decidable (Unharmed streamId events) :=
  inferInstanceAs (Decidable (∀ event ∈ events, event ≠ .timeout streamId ∧
    ∀ record ∈ event.carries, record.streamId = streamId →
      record.recordType ≠ recordReset ∧ record.recordType ≠ recordStop))

theorem benign_own {event : Event} (unharmed : event ≠ .timeout streamId ∧
    ∀ record ∈ event.carries, record.streamId = streamId →
      record.recordType ≠ recordReset ∧ record.recordType ≠ recordStop) :
    ∀ input ∈ session.own streamId event, Input.Benign input := by
  obtain ⟨untimed, whole⟩ := unharmed
  intro input listed
  cases event with
  | message data =>
      cases data with
      | none => cases listed
      | some bytes =>
          cases decoded : decodeEnvelope bytes with
          | error fault => simp [own, decoded] at listed
          | ok record =>
              simp only [own, decoded] at listed
              split_ifs at listed with heard
              · cases List.mem_singleton.mp listed
                exact whole record (by simp [Event.carries, decoded, Except.toOption]) heard.2
              · cases listed
  | timeout timed =>
      simp only [own] at listed
      split_ifs at listed with same
      · exact absurd (congrArg Event.timeout same) untimed
      · cases listed
  | authenticate body =>
      simp only [own] at listed
      cases asks : Event.asks (.authenticate body) with
      | none =>
          rw [asks] at listed
          cases listed
      | some asked =>
          simp only [asks] at listed
          split_ifs at listed
          · cases List.mem_singleton.mp listed
            trivial
          · cases listed
  | command body noResponse =>
      simp only [own] at listed
      cases asks : Event.asks (.command body noResponse) with
      | none =>
          rw [asks] at listed
          cases listed
      | some asked =>
          simp only [asks] at listed
          split_ifs at listed
          · cases List.mem_singleton.mp listed
            trivial
          · cases listed
  | socketClosing => cases listed
  | socketClosed => cases listed
  | socketError => cases listed
  | close => cases listed

/-- As long as the socket is open, an unharmed stream has benign inputs, and all its records. -/
theorem history_of_ready (keeps : session.Keeps) {events : List Event}
    (ready : (session.run json events).ready = true) (unharmed : Unharmed streamId events) :
    (∀ input ∈ session.history json streamId events, Input.Benign input) ∧
      streamed (session.history json streamId events) = received streamId events := by
  induction events generalizing session with
  | nil => exact ⟨by simp [history], rfl⟩
  | cons event events ih =>
      have after := (@settles_step _ json _ keeps event).1
      have next : (session.step json event).ready = true := ready_of_run ready
      have still : session.ready = true := @ready_of_run _ json _ [event] next
      have ending : session.ending json event = [] := by
        rw [Session.ending, open_of_ready after next]
        split_ifs <;> rfl
      obtain ⟨here, later⟩ := List.forall_mem_cons.mp unharmed
      obtain ⟨benign, all⟩ := ih after ready later
      rw [history, ending, List.append_nil, streamed_append, all, streamed_own, still, if_pos rfl,
        ← received_cons]
      exact ⟨List.forall_mem_append.mpr ⟨benign_own here, benign⟩, rfl⟩

/-- However the gateway cuts the frame of a response, and whatever other streams bring and other
exchanges do in between, the exchange is resolved with that frame. -/
theorem response_reaches_its_exchange (json : Bytes → Option Json) (before more : List Event)
    (streamId : Nat) (written : Protocol.Frame) (wellFormed : written.WellFormed)
    (waits : (run json {} before).exchangeOn streamId = .waiting false [])
    (ready : (run json {} (before ++ more)).ready = true)
    (unharmed : Unharmed streamId more)
    (content : payloads (received streamId more) = written.bytes)
    (ends : EndsWithLast (received streamId more)) :
    (run json {} (before ++ more)).exchangeOn streamId =
      .settled (.resolved (some (.of written))) := by
  have keeps := @keeps_run _ json _ keeps_fresh before
  have twice : run json {} (before ++ more) = (run json {} before).run json more :=
    List.foldl_append
  rw [twice] at ready ⊢
  obtain ⟨benign, all⟩ := history_of_ready keeps ready unharmed
  rw [exchangeOn_run keeps, waits, Exchange.foldl_benign benign (all ▸ ends), all, content,
    List.nil_append, Exchange.finish, if_neg (by simp), decodeFrames_bytes wellFormed]

/-- A message of the gateway that carries part of a stream. -/
def streamMessage (streamId : Nat) (payload : Bytes) (fin : Bool) : Event :=
  .message (some (encodeEnvelope (.of {
    recordType := .stream
    fin := fin
    streamId := streamId
    payload := payload })))

/-- The response to the first of two requests comes in two pieces, with that to the second
between them. -/
def interleavedResponses : List Event :=
  [streamMessage 0 [0, 1, 0, 3, 1] false, streamMessage 4 [1, 1, 0, 0] true,
    streamMessage 0 [0, 1, 2, 7, 8, 9] false, streamMessage 0 [] true]

def answeredFrame : Protocol.Frame :=
  Protocol.openFrame .service { group := 1, routeKey := 2 } .required .last [7, 8, 9]

theorem interleaved_response_reaches_its_exchange :
    (run (fun bytes => some bytes) {}
      ([.command [0x7b, 0x7d] false, .command [0x7b, 0x7d] false] ++ interleavedResponses)).exchangeOn
        0 = .settled (.resolved (some (.of answeredFrame))) :=
  response_reaches_its_exchange (fun bytes => some bytes)
    [.command [0x7b, 0x7d] false, .command [0x7b, 0x7d] false] interleavedResponses 0 answeredFrame
    ⟨rfl, rfl, rfl⟩ (by decide +kernel) (by decide +kernel) (by decide +kernel) (by decide +kernel)
    ⟨[Envelope.of { recordType := .stream, payload := [0, 1, 0, 3, 1] },
      Envelope.of { recordType := .stream, payload := [0, 1, 2, 7, 8, 9] }],
      Envelope.of { recordType := .stream, fin := true }, by decide +kernel, rfl, by decide +kernel⟩

section Sending

/-- The streams of the requests among the messages that were sent, as the gateway reads them. -/
def requestStreams (sent : List Bytes) : List Nat :=
  sent.filterMap fun message => (Wss.decode message).toOption.bind fun record =>
    if record.payload = [] then none else some record.streamId

/-- What a session has said: messages that the gateway takes, and requests on streams of their
own. -/
structure Speaks (session : Session Json) : Prop where
  taken : ∀ message ∈ session.sent, Taken message
  numbered : ∃ count, session.nextClientStreamId = 4 * count ∧
    requestStreams session.sent = (List.range count).map fun index => 4 * index % 2 ^ 64

variable {after : Session Json}

theorem Speaks.of_same (speaks : session.Speaks) (sent : after.sent = session.sent)
    (next : after.nextClientStreamId = session.nextClientStreamId) : after.Speaks where
  taken := by
    rw [sent]
    exact speaks.taken
  numbered := by
    rw [sent, next]
    exact speaks.numbered

theorem requestStreams_append (sent more : List Bytes) :
    requestStreams (sent ++ more) = requestStreams sent ++ requestStreams more :=
  List.filterMap_append

/-- The end of a stream, or its reset, is no request. -/
theorem Speaks.send (speaks : session.Speaks) {record : Wss.Record}
    (code : record.appErrorCode < 2 ^ 32) (valid : record.validate = .ok ())
    (empty : record.payload = []) (lasting : record.recordType ≠ .ephemeral) :
    (session.send (.of record)).Speaks := by
  unfold Session.send
  split_ifs
  · have decoded := decode_encodeEnvelope code valid (by simp [empty]) lasting
    refine ⟨List.forall_mem_append.mpr ⟨speaks.taken, ?_⟩, ?_⟩
    · simpa using ⟨_, decoded, Or.inl empty⟩
    · obtain ⟨count, next, streams⟩ := speaks.numbered
      refine ⟨count, next, ?_⟩
      rw [requestStreams_append, streams]
      simp [requestStreams, decoded, Except.toOption, empty]
  · exact speaks

theorem Speaks.exchange (speaks : session.Speaks) {dest : Protocol.DestKind}
    {response : Protocol.ResponseMode} {group route : UInt8} {body payload : Bytes}
    (encoded : encodeOpen dest.toByte group route response.toByte body = .ok payload)
    (noResponse : Bool) : (session.exchange payload noResponse).Speaks := by
  unfold Session.exchange
  split_ifs with ready
  · obtain ⟨exact, small⟩ := encodeOpen_exact encoded
    have decoded := @decode_encodeEnvelope {
      recordType := .stream
      fin := true
      streamId := session.nextClientStreamId
      payload := payload } (by simp) (by simp [Wss.Record.validate]) small (by simp)
    have given : payload ≠ [] := by
      rintro rfl
      cases exact
    obtain ⟨count, next, streams⟩ := speaks.numbered
    simp only [Session.send, ready, ↓reduceIte]
    refine ⟨List.forall_mem_append.mpr ⟨speaks.taken, ?_⟩, count + 1, ?_, ?_⟩
    · rw [List.forall_mem_singleton]
      exact ⟨_, decoded, Or.inr ⟨_, exact, rfl, rfl⟩⟩
    · simp only [next]
      omega
    · have last : requestStreams [encodeEnvelope {
          recordType := recordStream
          fin := true
          streamId := session.nextClientStreamId
          appError := 0
          payload := payload }] = [4 * count % 2 ^ 64] := by
        rw [← next]
        have said : Wss.decode (encodeEnvelope {
            recordType := recordStream
            fin := true
            streamId := session.nextClientStreamId
            appError := 0
            payload := payload }) = _ := decoded
        simp [requestStreams, said, Except.toOption, given]
      rw [requestStreams_append, streams, List.range_succ, List.map_append, last]
      rfl
  · exact speaks

theorem Speaks.reject (speaks : session.Speaks) (fault : Fault) :
    (session.reject streamId fault).Speaks := by
  obtain ⟨pending, settled, same⟩ := session.reject_eq streamId fault
  rw [same]
  exact speaks.of_same rfl rfl

theorem Speaks.handleResponse (speaks : session.Speaks) (record : Envelope) :
    (session.handleResponse record).1.Speaks := by
  obtain ⟨pending, settled, same⟩ := session.handleResponse_eq record
  rw [same]
  exact speaks.of_same rfl rfl

theorem Speaks.handlePush (speaks : session.Speaks) (record : Envelope) :
    (session.handlePush json record).1.Speaks := by
  unfold Session.handlePush
  simp only
  generalize (if 0 < record.payload.length then _ else _ : List Bytes) = chunks
  split_ifs
  · exact speaks.of_same rfl rfl
  · generalize decodeFrames chunks.flatten >>= readPush json = read
    cases read with
    | error fault => exact speaks.of_same rfl rfl
    | ok push =>
        have heard : Speaks ({
            session with
            pushes := session.pushes.erase record.streamId
            pushSequence := session.pushSequence + 1
            heard := session.heard ++ [{
              seq := session.pushSequence + 1
              targets := push.1
              payload := push.2 }] } : Session Json) := speaks.of_same rfl rfl
        exact @Speaks.send _ _ heard {
          recordType := .stream
          fin := true
          streamId := record.streamId } (by simp) (by simp [Wss.Record.validate]) rfl (by simp)

theorem Speaks.handleRecord (speaks : session.Speaks) {record : Envelope}
    (code : record.appError < 2 ^ 32) : (session.handleRecord json record).1.Speaks := by
  have reset (fault : Fault) := @Speaks.send _ _ (@Speaks.reject _ _ record.streamId speaks fault) {
    recordType := .reset
    streamId := record.streamId
    appErrorCode := record.appError } code (by simp [Wss.Record.validate]) rfl (by simp)
  unfold Session.handleRecord
  simp only
  generalize (if record.recordType = recordReset then _ else _ : Fault) = fault
  split_ifs
  · exact speaks
  · exact reset fault
  · exact speaks.reject fault
  · exact speaks
  · exact speaks.handleResponse record
  · exact speaks.handlePush record
  · exact speaks

theorem Speaks.handleClose (speaks : session.Speaks) (fault : Fault) :
    (session.handleClose fault).Speaks := by
  unfold Session.handleClose
  split_ifs
  · exact speaks
  · exact speaks.of_same rfl rfl

theorem Speaks.stopped (speaks : session.Speaks) :
    ({ session with ready := false } : Session Json).Speaks := speaks.of_same rfl rfl

theorem Speaks.handleMessage (speaks : session.Speaks) (data : Option Bytes) :
    (session.handleMessage json data).Speaks := by
  unfold Session.handleMessage
  split_ifs
  · exact speaks
  cases data with
  | none => exact speaks.stopped.handleClose .notBinary
  | some bytes =>
      cases decoded : decodeEnvelope bytes with
      | error fault =>
          simp only [decoded]
          exact speaks.stopped.handleClose fault
      | ok record =>
          have spoken := @Speaks.handleRecord _ json _ speaks record
            (decodeEnvelope_small decoded).2
          simp only [decoded]
          cases handled : session.handleRecord json record with
          | mk middle fault =>
              rw [handled] at spoken
              cases fault with
              | none => exact spoken
              | some fault => exact spoken.stopped.handleClose fault

theorem Speaks.step (speaks : session.Speaks) (event : Event) :
    (session.step json event).Speaks := by
  cases event with
  | authenticate body =>
      simp only [Session.step, Session.authenticate]
      split
      · exact speaks
      · rename_i payload encoded
        exact @Speaks.exchange _ _ speaks .gateway .required _ _ _ _ encoded false
  | command body noResponse =>
      simp only [Session.step, Session.command]
      split
      · exact speaks
      · rename_i payload encoded
        cases noResponse with
        | true => exact @Speaks.exchange _ _ speaks .service .none _ _ _ _ encoded true
        | false => exact @Speaks.exchange _ _ speaks .service .required _ _ _ _ encoded false
  | message data => exact speaks.handleMessage data
  | timeout streamId => exact speaks.reject _
  | socketClosing => exact speaks.of_same rfl rfl
  | socketClosed => exact speaks.stopped.handleClose _
  | socketError =>
      simp only [Session.step]
      split_ifs
      · exact speaks
      · exact speaks.handleClose _
  | close => exact speaks.stopped.handleClose _

end Sending

end Session

end LyuneGateway.Clients.Browser
