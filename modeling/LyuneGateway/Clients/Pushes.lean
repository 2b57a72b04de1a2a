import LyuneGateway.Clients.Agent
import LyuneGateway.Clients.Responses

/-!
# Pushes are what their streams have brought

A push that the application hears of is one frame, brought piece by piece on one
stream of the gateway; its targets and its payload are those that the gateway
has put into the frame. The pushes are numbered in the order they are heard in.
-/

namespace LyuneGateway.Clients.Browser

open Protocol (FrameHeader TargetList)

variable {Json : Type} {json : Bytes → Option Json}

/-- What the frame of a push holds. -/
theorem readPush_eq_ok {frames : List Frame} {targets : List Nat} {payload : Json} :
    Session.readPush json frames = .ok (targets, payload) ↔
      ∃ frame rest, frames = [frame] ∧ frame.frameType = frameOpen ∧ frame.dest = destPeer ∧
        frame.flags &&& frameEof ≠ 0 ∧ Agent.parseTargetList frame.body = .ok (targets, rest) ∧
        (∀ target ∈ targets, target ≤ Session.maxSafeInteger) ∧ json rest = some payload := by
  constructor
  · intro read
    rcases frames with _ | ⟨frame, _ | ⟨other, more⟩⟩
    · cases read
    · simp only [Session.readPush] at read
      split_ifs at read with illegal short cutShort wide
      push Not at illegal wide
      have parsed : Agent.parseTargetList frame.body = .ok
          ((List.range (BigEndian.readAt frame.body 0 2)).map fun index =>
            BigEndian.readAt frame.body (2 + index * 8) 8,
            frame.body.drop (2 + BigEndian.readAt frame.body 0 2 * 8)) := by
        simp only [Agent.parseTargetList, short, cutShort, ↓reduceIte]
      split at read
      · cases read
      · rename_i found
        cases read
        exact ⟨frame, _, rfl, illegal.1, illegal.2.1, illegal.2.2, parsed, wide, found⟩
    · cases read
  · rintro ⟨frame, rest, rfl, isOpen, peer, last, parsed, safe, found⟩
    simp only [Agent.parseTargetList] at parsed
    split_ifs at parsed with short cutShort
    cases parsed
    have legal : ¬ (frame.frameType ≠ frameOpen ∨ frame.dest ≠ destPeer ∨
        frame.flags &&& frameEof = 0) := by
      simp [isOpen, peer, last]
    have within : ¬ ∃ target ∈ (List.range (BigEndian.readAt frame.body 0 2)).map fun index =>
        BigEndian.readAt frame.body (2 + index * 8) 8, Session.maxSafeInteger < target := by
      push Not
      exact safe
    simp only [Session.readPush, legal, short, cutShort, within, found, ↓reduceIte]

namespace Session

variable {session : Session Json} {streamId : Nat}

/-- Where a push has come from. -/
def Brought (json : Bytes → Option Json) (events : List Event) (push : PushEvent Json) : Prop :=
  ∃ streamId records, streamId % 4 = 1 ∧ records <:+: received streamId events ∧
    EndsWithLast records ∧
    ∃ frame, decodeFrames (payloads records) = .ok [frame] ∧
      readPush json [frame] = .ok (push.targets, push.payload)

/-- What a session has of the pushes after a run. -/
structure Hears (json : Bytes → Option Json) (events : List Event) (session : Session Json) :
    Prop where
  gathers : session.ready = true → ∀ streamId, streamId % 4 = 1 →
    ∃ records, records <:+ received streamId events ∧ (∀ record ∈ records, record.fin = false) ∧
      ((session.pushes.lookup streamId).getD []).flatten = payloads records
  brought : ∀ push ∈ session.heard, Brought json events push
  counted : session.pushSequence = session.heard.length
  numbered : session.heard.map PushEvent.seq = (List.range session.heard.length).map (· + 1)

/-- The part of a session that pushes have to do with. -/
structure SamePushes (session after : Session Json) : Prop where
  ready : after.ready = session.ready
  pushes : after.pushes = session.pushes
  heard : after.heard = session.heard
  pushSequence : after.pushSequence = session.pushSequence

variable {after : Session Json} {events : List Event} {event : Event} {push : PushEvent Json}

theorem received_append (streamId : Nat) (events more : List Event) :
    received streamId (events ++ more) = received streamId events ++ received streamId more := by
  rw [received, received, received, ← List.filter_append, ← List.filterMap_append]

theorem Brought.later (brought : Brought json events push) (more : List Event) :
    Brought json (events ++ more) push := by
  obtain ⟨streamId, records, pushed, inside, rest⟩ := brought
  refine ⟨streamId, records, pushed, inside.trans ?_, rest⟩
  rw [received_append]
  exact (List.prefix_append _ _).isInfix

/-- A step that brings no push, or ends the session, leaves what has been heard as it is. -/
theorem Hears.quiet (hears : Hears json events session) (heard : after.heard = session.heard)
    (pushSequence : after.pushSequence = session.pushSequence)
    (goes : after.ready = true → session.ready = true ∧ after.pushes = session.pushes ∧
      ∀ streamId, streamId % 4 = 1 → received streamId [event] = []) :
    Hears json (events ++ [event]) after where
  gathers := by
    intro ready streamId pushed
    obtain ⟨was, same, silent⟩ := goes ready
    rw [same, received_append, silent streamId pushed, List.append_nil]
    exact hears.gathers was streamId pushed
  brought := by
    rw [heard]
    exact fun push listed => (hears.brought push listed).later [event]
  counted := by rw [pushSequence, heard, hears.counted]
  numbered := by rw [heard, hears.numbered]

theorem samePushes_send (session : Session Json) (record : Envelope) :
    SamePushes session (session.send record) := by
  unfold send
  split_ifs <;> exact ⟨rfl, rfl, rfl, rfl⟩

theorem samePushes_reject (session : Session Json) (streamId : Nat) (fault : Fault) :
    SamePushes session (session.reject streamId fault) := by
  obtain ⟨pending, settled, same⟩ := session.reject_eq streamId fault
  rw [same]
  exact ⟨rfl, rfl, rfl, rfl⟩

theorem samePushes_handleResponse (session : Session Json) (record : Envelope) :
    SamePushes session (session.handleResponse record).1 := by
  obtain ⟨pending, settled, same⟩ := session.handleResponse_eq record
  rw [same]
  exact ⟨rfl, rfl, rfl, rfl⟩

theorem samePushes_exchange (session : Session Json) (payload : Bytes) (noResponse : Bool) :
    SamePushes session (session.exchange payload noResponse) := by
  unfold exchange
  split_ifs with ready
  · have sent := samePushes_send ({
        session with
        nextClientStreamId := session.nextClientStreamId + 4
        pending := session.pending.insert session.nextClientStreamId {
          noResponse := noResponse } } : Session Json) {
      recordType := recordStream
      fin := true
      streamId := session.nextClientStreamId
      appError := 0
      payload := payload }
    exact ⟨sent.ready, sent.pushes, sent.heard, sent.pushSequence⟩
  · exact ⟨rfl, rfl, rfl, rfl⟩

theorem heard_handleClose (session : Session Json) (fault : Fault) :
    (session.handleClose fault).heard = session.heard ∧
      (session.handleClose fault).pushSequence = session.pushSequence := by
  unfold handleClose
  split_ifs <;> exact ⟨rfl, rfl⟩

theorem Hears.of_same (hears : Hears json events session) (same : SamePushes session after)
    (silent : ∀ streamId, streamId % 4 = 1 → received streamId [event] = []) :
    Hears json (events ++ [event]) after :=
  hears.quiet same.heard same.pushSequence fun ready =>
    ⟨same.ready ▸ ready, same.pushes, silent⟩

/-- An error ends the session with what has been heard until then. -/
theorem Hears.fails (hears : Hears json events session) {middle : Session Json}
    (heard : middle.heard = session.heard) (pushSequence : middle.pushSequence = session.pushSequence)
    (stopped : middle.ready = false) (fault : Fault) :
    Hears json (events ++ [event]) (middle.handleClose fault) := by
  obtain ⟨sameHeard, sameSequence⟩ := heard_handleClose middle fault
  refine hears.quiet (sameHeard.trans heard) (sameSequence.trans pushSequence) fun ready => ?_
  rw [ready_handleClose, stopped] at ready
  cases ready

theorem Hears.stops (hears : Hears json events session) {middle : Session Json}
    (heard : middle.heard = session.heard) (pushSequence : middle.pushSequence = session.pushSequence)
    (fault : Fault) :
    Hears json (events ++ [event])
      (({ middle with ready := false } : Session Json).handleClose fault) :=
  @Hears.fails _ json session events event hears { middle with ready := false } heard pushSequence
    rfl fault

theorem suffix_concat {records before : List Envelope} (suffix : records <:+ before)
    (record : Envelope) : records ++ [record] <:+ before ++ [record] := by
  obtain ⟨front, rfl⟩ := suffix
  exact ⟨front, by rw [List.append_assoc]⟩

theorem Hears.same (hears : Hears json events session) (same : SamePushes session after) :
    Hears json events after where
  gathers := by
    rw [same.ready, same.pushes]
    exact hears.gathers
  brought := by
    rw [same.heard]
    exact hears.brought
  counted := by rw [same.pushSequence, same.heard, hears.counted]
  numbered := by rw [same.heard, hears.numbered]

section Push

variable {bytes : Bytes} {record : Envelope} (decoded : decodeEnvelope bytes = .ok record)

include decoded

theorem received_message (isStream : record.recordType = recordStream) :
    received streamId [.message (some bytes)] =
      if record.streamId = streamId then [record] else [] := by
  split_ifs with same
  · simp [received, Event.carries, decoded, Except.toOption, same, isStream]
  · simp [received, Event.carries, decoded, Except.toOption, same]

theorem received_other (other : ¬ (record.recordType = recordStream ∧ record.streamId % 4 = 1)) :
    ∀ streamId, streamId % 4 = 1 → received streamId [.message (some bytes)] = [] := by
  intro streamId pushed
  have foreign : ¬ (record.streamId = streamId ∧ record.recordType = recordStream) := by
    rintro ⟨rfl, isStream⟩
    exact other ⟨isStream, pushed⟩
  simpa [received, Event.carries, decoded, Except.toOption] using foreign

theorem Hears.handlePush (hears : Hears json events session) (ready : session.ready = true)
    (isStream : record.recordType = recordStream) (pushed : record.streamId % 4 = 1) :
    ((session.handlePush json record).2 = none →
      Hears json (events ++ [.message (some bytes)]) (session.handlePush json record).1) ∧
    ((session.handlePush json record).2 ≠ none →
      (session.handlePush json record).1.heard = session.heard ∧
        (session.handlePush json record).1.pushSequence = session.pushSequence) := by
  obtain ⟨records, suffix, unfinished, gathered⟩ := hears.gathers ready record.streamId pushed
  have whole : (if 0 < record.payload.length then
      (session.pushes.lookup record.streamId).getD [] ++ [record.payload]
      else (session.pushes.lookup record.streamId).getD []).flatten =
        payloads (records ++ [record]) := by
    split_ifs with given
    · simp [gathered, payloads]
    · have empty := List.length_eq_zero_iff.mp (Nat.eq_zero_of_not_pos given)
      simp [gathered, payloads, empty]
  have here : received record.streamId (events ++ [.message (some bytes)]) =
      received record.streamId events ++ [record] := by
    rw [received_append, received_message decoded isStream, if_pos rfl]
  have elsewhere (other : Nat) (different : other ≠ record.streamId) :
      received other (events ++ [.message (some bytes)]) = received other events := by
    rw [received_append, received_message decoded isStream, if_neg (Ne.symm different),
      List.append_nil]
  unfold Session.handlePush
  simp only
  generalize (if 0 < record.payload.length then _ else _ : List Bytes) = chunks at whole ⊢
  cases fin : record.fin with
  | false =>
      simp only [↓reduceIte]
      refine ⟨fun _ => ⟨?_, fun push listed => (hears.brought push listed).later _, hears.counted,
        hears.numbered⟩, fun failed => absurd rfl failed⟩
      intro _ other pushedOther
      by_cases same : other = record.streamId
      · subst same
        refine ⟨records ++ [record], here ▸ suffix_concat suffix record, ?_, ?_⟩
        · exact List.forall_mem_append.mpr ⟨unfinished, by simpa using fin⟩
        · rw [AList.lookup_insert]
          exact whole
      · rw [elsewhere other same, AList.lookup_insert_ne same]
        exact hears.gathers ready other pushedOther
  | true =>
      simp only [Bool.true_eq_false, ↓reduceIte]
      cases read : decodeFrames chunks.flatten >>= readPush json with
      | error fault => exact ⟨by simp, fun _ => ⟨rfl, rfl⟩⟩
      | ok push =>
          obtain ⟨targets, payload⟩ := push
          refine ⟨fun _ => ?_, fun failed => absurd rfl failed⟩
          refine Hears.same ⟨?_, ?_, ?_, ?_⟩ (samePushes_send _ _)
          · intro _ other pushedOther
            by_cases same : other = record.streamId
            · subst same
              exact ⟨[], List.nil_suffix, by simp, by simp [payloads]⟩
            · rw [elsewhere other same, AList.lookup_erase_ne same]
              exact hears.gathers ready other pushedOther
          · refine List.forall_mem_append.mpr
              ⟨fun push listed => (hears.brought push listed).later _, ?_⟩
            rw [List.forall_mem_singleton]
            rw [whole, FrameHeader.bind_eq_ok] at read
            obtain ⟨frames, cut, opened⟩ := read
            obtain ⟨frame, rest, rfl, -⟩ := readPush_eq_ok.mp opened
            exact ⟨record.streamId, records ++ [record], pushed,
              here ▸ (suffix_concat suffix record).isInfix, ⟨records, record, rfl, fin, unfinished⟩,
              frame, cut, opened⟩
          · simp only [hears.counted, List.length_append, List.length_singleton]
          · simp only [List.map_append, hears.numbered, List.length_append, List.length_singleton,
              List.range_succ, List.map_cons, List.map_nil, hears.counted]

end Push

theorem samePushes_handleRecord (session : Session Json) (record : Envelope)
    (other : ¬ (record.recordType = recordStream ∧ record.streamId % 4 = 1)) :
    SamePushes session (session.handleRecord json record).1 := by
  have refl : SamePushes session session := ⟨rfl, rfl, rfl, rfl⟩
  unfold handleRecord
  simp only
  generalize (if record.recordType = recordReset then _ else _ : Fault) = fault
  have rejected := samePushes_reject session record.streamId fault
  split_ifs with isEphemeral ends isStop odd response pushed
  · exact refl
  · have sent := samePushes_send (session.reject record.streamId fault) {
      recordType := recordReset
      fin := false
      streamId := record.streamId
      appError := record.appError
      payload := [] }
    exact ⟨sent.ready.trans rejected.ready, sent.pushes.trans rejected.pushes,
      sent.heard.trans rejected.heard, sent.pushSequence.trans rejected.pushSequence⟩
  · exact rejected
  · exact refl
  · exact samePushes_handleResponse session record
  · exact absurd ⟨not_not.mp odd, pushed⟩ other
  · exact refl

theorem Hears.handleMessage (hears : Hears json events session) (data : Option Bytes) :
    Hears json (events ++ [.message data]) (session.handleMessage json data) := by
  cases ready : session.ready with
  | false =>
      simp only [Session.handleMessage, ready, ↓reduceIte]
      refine hears.quiet rfl rfl fun on => ?_
      rw [ready] at on
      cases on
  | true =>
      simp only [Session.handleMessage, ready, Bool.true_eq_false, ↓reduceIte]
      cases data with
      | none => exact hears.stops rfl rfl .notBinary
      | some bytes =>
          cases decoded : decodeEnvelope bytes with
          | error fault =>
              simp only [decoded]
              exact hears.stops rfl rfl fault
          | ok record =>
              simp only [decoded]
              by_cases push : record.recordType = recordStream ∧ record.streamId % 4 = 1
              · obtain ⟨isStream, pushed⟩ := push
                obtain ⟨goes, fails⟩ := hears.handlePush decoded ready isStream pushed
                have handled : session.handleRecord json record = session.handlePush json record := by
                  simp [handleRecord, isStream, pushed, recordStream, recordEphemeral, recordReset,
                    recordStop]
                rw [handled]
                cases answer : session.handlePush json record with
                | mk middle fault =>
                    rw [answer] at goes fails
                    cases fault with
                    | none => exact goes rfl
                    | some fault =>
                        obtain ⟨heard, pushSequence⟩ := fails (by simp)
                        exact hears.stops heard pushSequence fault
              · have same := @samePushes_handleRecord _ json session record push
                have silent := received_other decoded push
                cases answer : session.handleRecord json record with
                | mk middle fault =>
                    rw [answer] at same
                    cases fault with
                    | none => exact hears.of_same same silent
                    | some fault => exact hears.stops same.heard same.pushSequence fault

theorem Hears.step (hears : Hears json events session) (event : Event) :
    Hears json (events ++ [event]) (session.step json event) := by
  have refl : SamePushes session session := ⟨rfl, rfl, rfl, rfl⟩
  cases event with
  | authenticate body =>
      simp only [Session.step, authenticate]
      split
      · exact hears.of_same refl fun _ _ => rfl
      · exact hears.of_same (samePushes_exchange _ _ _) fun _ _ => rfl
  | command body noResponse =>
      simp only [Session.step, command]
      split
      · exact hears.of_same refl fun _ _ => rfl
      · exact hears.of_same (samePushes_exchange _ _ _) fun _ _ => rfl
  | message data => exact hears.handleMessage data
  | timeout streamId => exact hears.of_same (samePushes_reject _ _ _) fun _ _ => rfl
  | socketClosing => exact hears.quiet rfl rfl fun on => by cases on
  | socketClosed => exact hears.stops rfl rfl .socketClosed
  | socketError =>
      cases ready : session.ready with
      | true =>
          simp only [Session.step, ready, ↓reduceIte]
          exact hears.of_same refl fun _ _ => rfl
      | false =>
          simp only [Session.step, ready, Bool.false_eq_true, ↓reduceIte]
          exact hears.fails rfl rfl ready .socketFailed
  | close => exact hears.stops rfl rfl .loggedOut

end Session

end LyuneGateway.Clients.Browser
