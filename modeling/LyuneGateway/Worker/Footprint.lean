import LyuneGateway.Worker.Origins

/-!
# What the streams of a connection take up

A connection keeps an entry for every exchange it has under way, and one for
every stream whose last frame is not complete. The number of exchanges is
limited; partial frames are kept before any limit is looked at.
-/

namespace LyuneGateway.Worker

open Foundation Io Protocol Session

namespace ConnectionManager

variable {manager after : ConnectionManager} {slot streamId : Nat}

/-- The partial frames that a connection keeps. -/
def spills (manager : ConnectionManager) (slot : Nat) : Table Nat Bytes :=
  ((manager.context slot).map ConnectionContext.frameSpills).getD ∅

/-- The exchanges that a connection has under way. -/
def exchanges (manager : ConnectionManager) (slot : Nat) : Table Nat InboundExchange :=
  ((manager.context slot).map ConnectionContext.inboundExchanges).getD ∅

theorem lookup_spills : (manager.spills slot).lookup streamId = manager.spill slot streamId := by
  unfold spills spill
  cases manager.context slot with
  | none => exact AList.lookup_empty streamId
  | some ctx => rfl

theorem lookup_exchanges :
    (manager.exchanges slot).lookup streamId = manager.exchange slot streamId := by
  unfold exchanges exchange
  cases manager.context slot with
  | none => exact AList.lookup_empty streamId
  | some ctx => rfl

theorem spills_of_context {ctx : ConnectionContext} (found : manager.context slot = some ctx) :
    manager.spills slot = ctx.frameSpills := by
  simp [spills, found]

theorem exchanges_of_context {ctx : ConnectionContext} (found : manager.context slot = some ctx) :
    manager.exchanges slot = ctx.inboundExchanges := by
  simp [exchanges, found]

/-- No connection has a partial frame on a stream that had none. -/
def SpillsShrink (manager after : ConnectionManager) : Prop :=
  ∀ slot, (manager.spills slot).Shrinks (after.spills slot)

theorem SpillsShrink.of_traffic (same : after.traffic = manager.traffic) :
    manager.SpillsShrink after := by
  intro slot streamId absent
  rwa [lookup_spills, spill_of_traffic same, ← lookup_spills]

theorem SpillsShrink.trans {middle after : ConnectionManager}
    (first : manager.SpillsShrink middle) (second : middle.SpillsShrink after) :
    manager.SpillsShrink after :=
  fun slot => (first slot).trans (second slot)

theorem spills_modify (slot other : Nat) (change : ConnectionContext → ConnectionContext) :
    (manager.modify slot change).spills other =
      if other = slot then
        ((manager.context slot).map fun ctx => (change ctx).frameSpills).getD ∅
      else manager.spills other := by
  unfold spills
  rw [context_modify]
  split
  · rename_i same
    rw [same, Function.update_self, Option.map_map]
    rfl
  · rename_i different
    rw [Function.update_of_ne different]

theorem spillsShrink_modify {change : ConnectionContext → ConnectionContext}
    (shrinks : ∀ ctx : ConnectionContext, ctx.frameSpills.Shrinks (change ctx).frameSpills) :
    manager.SpillsShrink (manager.modify slot change) := by
  intro other
  rw [spills_modify]
  split
  · rename_i same
    subst same
    cases found : manager.context other with
    | none => exact fun _ _ => AList.lookup_empty _
    | some ctx =>
        rw [spills_of_context found]
        exact shrinks ctx
  · exact .refl

/-- A connection begins with no partial frames, as with no exchanges. -/
theorem spills_addSession (indexed : manager.Indexed) {transport : TransportSession}
    {realm : RealmId} {peerNode : Bool} {now : Nat} {handle : SessionHandle}
    (added : manager.addSession transport realm peerNode now = .ok (handle, after)) :
    after.spills = manager.spills := by
  obtain ⟨own, rest, free, -, -, holds, -⟩ := addSession_eq_ok added
  have unused := (indexed.free own (free ▸ List.mem_cons_self)).1
  funext slot
  unfold spills
  rw [holds]
  by_cases same : slot = own
  · rw [same, Function.update_self, unused]
    rfl
  · rw [Function.update_of_ne same]

theorem spillsShrink_removeSession (handle : SessionHandle) :
    manager.SpillsShrink (manager.removeSession handle) := by
  unfold removeSession
  split
  · exact fun _ => .refl
  rename_i own _
  unfold releaseSlot
  split
  · exact fun _ => .refl
  intro slot
  have unbound := SpillsShrink.of_traffic (@traffic_unbindDest manager own) slot
  by_cases same : slot = own
  · subst same
    refine fun streamId _ => ?_
    simp [spills, context, leaveAllGroups]
  · unfold spills at unbound ⊢
    simpa [context, leaveAllGroups, same, Ne.symm same] using unbound

end ConnectionManager

/-- The operation keeps no partial frame. -/
def Op.Spares : Op → Prop
  | .conn _ change =>
      ∀ ctx : ConnectionContext, ctx.frameSpills.Shrinks (change ctx).frameSpills
  | .accept .. => False
  | _ => True

namespace Op.Spares

open GatewayWorker

theorem cases {op : Op} (spares : op.Spares) :
    op.Aside ∨ (∃ handle, op = .remove handle) ∨ ∃ slot change, op = .conn slot change ∧
      ∀ ctx : ConnectionContext, ctx.frameSpills.Shrinks (change ctx).frameSpills := by
  cases op with
  | conn slot change => exact .inr (.inr ⟨slot, change, rfl, spares⟩)
  | accept => exact spares.elim
  | remove handle => exact .inr (.inl ⟨handle, rfl⟩)
  | _ => exact .inl trivial

theorem shrink {op : Op} (spares : op.Spares) (worker : GatewayWorker) :
    worker.conns.SpillsShrink (op.apply worker).conns := by
  obtain aside | ⟨handle, rfl⟩ | ⟨slot, change, rfl, shrinks⟩ := spares.cases
  · exact .of_traffic (aside.keepsTraffic worker)
  · exact ConnectionManager.spillsShrink_removeSession handle
  · exact ConnectionManager.spillsShrink_modify shrinks

theorem of_aside {op : Op} (aside : op.Aside) : op.Spares := by
  cases op with
  | conn | accept | remove => exact aside.elim
  | _ => trivial

theorem relays (slot streamId : Nat) : Relays Op.Spares slot streamId (fun _ _ => True) where
  ask := trivial
  reply _ _ := trivial
  reset _ := trivial
  openBackend _ _ _ := trivial
  tables _ _ := trivial
  trackAuth _ _ _ := trivial
  conn _ _ keeps := keeps.spills
  writeBackend _ _ _ := trivial
  openRoute _ _ _ := trivial
  register _ _ _ := .refl

theorem streams : Streams Op.Spares where
  sessions _ _ _ := trivial
  attach _ _ _ := trivial
  writeSession _ _ := trivial
  abortSession _ := trivial
  deliver _ _ _ _ := trivial

theorem peerPushes (parsed : Frame) : PeerPushes Op.Spares parsed where
  locals := ⟨fun _ _ => trivial, fun _ _ => trivial⟩
  streams := streams
  forwards _ := ⟨fun _ => trivial, fun _ => trivial⟩
  sendPeer _ _ := trivial

end Op.Spares

namespace GatewayWorker

variable {worker after : GatewayWorker} {event : Event} {slot streamId : Nat}

theorem Via.spillsShrink (via : Via Op.Spares worker after) :
    worker.conns.SpillsShrink after.conns := by
  refine @Run.Reaches.invariant _ _ _ _ _ _
    (fun middle => worker.conns.SpillsShrink middle.conns) ?_ via fun _ => .refl
  exact fun middle op shrunk spares => shrunk.trans (Op.Spares.shrink spares middle)

open Op.Spares in
/-- Only a chunk that ends within a frame keeps a partial frame. -/
theorem spillsShrink_step (indexed : worker.conns.Indexed)
    (other : ∀ slot streamId known spill, event ≠ .frameSpill slot streamId known spill) :
    worker.conns.SpillsShrink (worker.step event).conns := by
  have accepted (kind : TransportKind) (realm : RealmId) (peerNode : Bool) :
      worker.conns.SpillsShrink (worker.addConnection kind realm peerNode).conns := by
    unfold addConnection
    simp only
    split
    · exact fun _ => .refl
    · rename_i added
      intro slot
      rw [ConnectionManager.spills_addSession indexed added]
      exact .refl
  cases requests : event.isRequest with
  | false => exact Via.spillsShrink ((step_aside requests).mono fun _ _ => of_aside)
  | true =>
      cases event with
      | accept kind accepting resolved =>
          simp only [step, acceptClientSession]
          split
          · exact accepted _ _ _
          · exact fun _ => .refl
      | acceptPeer accepting =>
          simp only [step, handlePeerConnection]
          split
          · exact accepted _ _ _
          · exact fun _ => .refl
      | close handle reason =>
          exact Via.spillsShrink (closeClientSession_via (fun _ _ => trivial) (fun _ _ => trivial)
            (fun _ _ => trivial) trivial)
      | frame slot streamId parsed =>
          exact Via.spillsShrink (dispatchFrame_via (relays slot streamId)
            (fun _ _ _ _ => trivial) (peerPushes parsed)
            (fun _ _ => trivial) (fun _ _ => .refl) fun _ => .refl)
      | frameSpill slot streamId known spill => exact absurd rfl (other slot streamId known spill)
      | finish slot streamId =>
          exact Via.spillsShrink (finishClientStream_via (relays slot streamId) streams)
      | reset slot streamId =>
          exact Via.spillsShrink (resetClientInput_via (relays slot streamId) streams)
      | _ => cases requests

/-- A connection with as many exchanges as it may have gets no further one. -/
theorem traffic_dispatchFrame_full {ctx : ConnectionContext} (parsed : Frame)
    (found : worker.context slot = some ctx) (absent : ctx.inboundExchanges.lookup streamId = none)
    (full : maxInboundExchanges ≤ ctx.inboundExchanges.size) :
    (worker.dispatchFrame slot streamId parsed).2.conns.traffic = worker.conns.traffic := by
  have aside {after : GatewayWorker} (via : Via Op.Aside worker after) :
      after.conns.traffic = worker.conns.traffic :=
    Via.traffic (via.mono fun _ _ => Op.Aside.keepsTraffic)
  have sidelines := Op.Aside.sidelines
  have answers := sidelines.completes.answers
  unfold dispatchFrame
  simp only [found, absent]
  split
  · unfold openInboundExchange
    split
    · unfold openPeerNodeExchange
      split
      · rfl
      split
      · rfl
      split
      · rfl
      split
      · simp only [openPeerSession, if_pos full]
      · exact aside (deliverFromPeer_via sidelines.locals (sidelines.forwards ..))
    · have asked : Via Op.Aside worker (worker.claimInboundExchange ctx.transport.kind).2 := by
        unfold claimInboundExchange
        split
        · exact .refl
        · exact Via.op answers.ask rfl
      generalize worker.claimInboundExchange ctx.transport.kind = claimed at asked ⊢
      obtain ⟨granted, claimed⟩ := claimed
      cases granted with
      | false => exact aside asked
      | true =>
          cases parsed.header.destKind with
          | peer => exact aside asked
          | multicast => exact aside asked
          | gateway | service =>
              exact aside (asked.trans (replyControl_via fun _ _ => trivial))
  · rfl

/-- The exchanges of a connection stay within their limit. -/
theorem exchanges_step (indexed : worker.conns.Indexed)
    (limited : ∀ slot, (worker.conns.exchanges slot).size ≤ maxInboundExchanges) (event : Event)
    (slot : Nat) : ((worker.step event).conns.exchanges slot).size ≤ maxInboundExchanges := by
  have shrinks (absent : ∀ streamId, worker.conns.exchange slot streamId = none →
      (worker.step event).conns.exchange slot streamId = none) :
      ((worker.step event).conns.exchanges slot).size ≤ maxInboundExchanges := by
    refine (Table.Shrinks.size_le fun streamId unknown => ?_).trans (limited slot)
    rw [ConnectionManager.lookup_exchanges] at unknown ⊢
    exact absent streamId unknown
  have kept (same : (worker.step event).conns.exchange = worker.conns.exchange) :=
    shrinks fun streamId absent => same ▸ absent
  -- a stream that has no exchange gets none
  have known {own streamId : Nat}
      (others : ∀ other, (slot = own → other ≠ streamId) →
        (worker.step event).conns.exchange slot other = worker.conns.exchange slot other)
      (still : worker.conns.exchange own streamId = none →
        (worker.step event).conns.exchange = worker.conns.exchange) :
      ((worker.step event).conns.exchanges slot).size ≤ maxInboundExchanges := by
    refine shrinks fun other unknown => ?_
    by_cases here : slot = own ∧ other = streamId
    · obtain ⟨rfl, rfl⟩ := here
      rw [still unknown, unknown]
    · rw [others other fun one two => here ⟨one, two⟩, unknown]
  cases requests : event.isRequest with
  | false => exact kept (exchange_step requests)
  | true =>
      cases event with
      | accept kind accepting resolved =>
          refine kept ?_
          simp only [step, acceptClientSession]
          split
          · exact exchange_addConnection indexed _ _ _
          · rfl
      | acceptPeer accepting =>
          refine kept ?_
          simp only [step, handlePeerConnection]
          split
          · exact exchange_addConnection indexed _ _ _
          · rfl
      | close handle reason =>
          refine shrinks fun streamId absent => ?_
          rw [step, exchange_close, absent]
          split
          · rfl
          · rfl
      | frameSpill own streamId stored spill =>
          exact kept (exchange_frameSpill own streamId stored spill)
      | frame own streamId parsed =>
          have others (other : Nat) (different : slot = own → other ≠ streamId) :=
            @exchange_others worker _ own streamId (.inl ⟨parsed, rfl⟩) slot other different
          cases found : worker.context own with
          | none =>
              refine kept ?_
              simp only [step, dispatchFrame, found]
          | some ctx =>
              by_cases absent : ctx.inboundExchanges.lookup streamId = none
              · by_cases full : maxInboundExchanges ≤ ctx.inboundExchanges.size
                · exact kept (ConnectionManager.exchange_of_traffic
                    (traffic_dispatchFrame_full parsed found absent full))
                by_cases here : slot = own
                · subst here
                  refine (@Table.Shrinks.size_le_succ _ _ _ (worker.conns.exchanges slot) _ streamId
                    fun other different unknown => ?_).trans ?_
                  · rw [ConnectionManager.lookup_exchanges] at unknown ⊢
                    exact (others other fun _ => different).trans unknown
                  · rw [ConnectionManager.exchanges_of_context found]
                    exact Nat.lt_of_not_le full
                · exact shrinks fun other unknown =>
                    (others other fun same => absurd same here).trans unknown
              · refine known others fun unknown => ?_
                rw [ConnectionManager.exchange_of_context found] at unknown
                exact absurd unknown absent
      | finish own streamId =>
          refine known (fun other => exchange_others (.inr (.inl rfl))) fun absent => ?_
          simp only [step, finishClientStream]
          cases found : worker.context own with
          | none => rfl
          | some ctx =>
              rw [ConnectionManager.exchange_of_context found] at absent
              simp only [absent]
              exact ConnectionManager.exchange_modify_of_same own fun _ => rfl
      | reset own streamId =>
          refine known (fun other => exchange_others (.inr (.inr rfl))) fun absent => ?_
          simp only [step, resetClientInput]
          cases found : worker.context own with
          | none => rfl
          | some ctx =>
              rw [ConnectionManager.exchange_of_context found] at absent
              simp only [absent]
              exact ConnectionManager.exchange_modify_of_same own fun _ => rfl
      | _ => cases requests

/-- A chunk that ends within a frame, on a stream that had no partial frame, comes only while the
connection keeps fewer partial frames than it may have exchanges. -/
def Sparing (worker : GatewayWorker) : Event → Prop
  | .frameSpill slot streamId _ spill =>
      spill ≠ [] → worker.conns.spill slot streamId = none →
        (worker.conns.spills slot).size < maxInboundExchanges
  | _ => True

instance (worker : GatewayWorker) : (event : Event) → Decidable (worker.Sparing event)
  | .frameSpill slot streamId _ spill => inferInstanceAs <| Decidable
      (spill ≠ [] → worker.conns.spill slot streamId = none →
        (worker.conns.spills slot).size < maxInboundExchanges)
  | .accept .. | .acceptPeer _ | .close .. | .frame .. | .violate _ | .finish .. => .isTrue trivial
  | .closeIfRequested _ | .reset .. | .stop .. | .datagram .. => .isTrue trivial
  | .pushFrame .. | .pushSpill .. | .pushDrop _ | .pushEnd _ => .isTrue trivial
  | .authResponse .. | .response .. | .streamControl .. | .transportFailed .. => .isTrue trivial
  | .expireInflight _ | .handoff | .purgeSessions _ | .expireAdmission .. => .isTrue trivial
  | .refreshLease .. | .rehome _ | .placement .. | .outside _ => .isTrue trivial

/-- What the streams of a connection take up. -/
def footprint (worker : GatewayWorker) (slot : Nat) : Nat :=
  (worker.conns.spills slot).size + (worker.conns.exchanges slot).size

theorem spills_frameSpill (streamId : Nat) (known : Bool) {spill : Bytes}
    (other : Nat) (own : Nat) (different : other = slot → own ≠ streamId ∨ spill = [])
    (absent : worker.conns.spill other own = none) :
    (worker.step (.frameSpill slot streamId known spill)).conns.spill other own = none := by
  have aside {after : GatewayWorker} (via : Via Op.Aside worker after) :
      after.conns.spill other own = none := by
    rwa [ConnectionManager.spill_of_traffic
      (Via.traffic (via.mono fun _ _ => Op.Aside.keepsTraffic))]
  have changed {change : ConnectionContext → ConnectionContext} {worker : GatewayWorker}
      (absent : worker.conns.spill other own = none)
      (keeps : ∀ ctx : ConnectionContext, other = slot → ctx.frameSpills.lookup own = none →
        (change ctx).frameSpills.lookup own = none) :
      (worker.modifyConn slot change).conns.spill other own = none := by
    rw [← ConnectionManager.lookup_spills] at absent ⊢
    change ((worker.conns.modify slot change).spills other).lookup own = none
    rw [ConnectionManager.spills_modify]
    split
    · rename_i same
      cases found : worker.conns.context slot with
      | none => exact AList.lookup_empty own
      | some ctx =>
          rw [same, ConnectionManager.spills_of_context found] at absent
          exact keeps ctx same absent
    · exact absent
  have store (ctx : ConnectionContext) (here : other = slot) (full : spill ≠ [])
      (absent : ctx.frameSpills.lookup own = none) :
      (ctx.storeFrameSpill streamId spill).frameSpills.lookup own = none := by
    rcases different here with apart | empty
    · exact (AList.lookup_insert_ne apart).trans absent
    · exact absurd empty full
  simp only [step, keepFrameSpill]
  split
  · refine changed absent fun ctx here absent => ?_
    split
    · exact Table.Shrinks.erase own absent
    · rename_i full
      exact store ctx here full absent
  split
  · exact absent
  rename_i full
  have asked : worker.ask.2.conns.spill other own = none := absent
  split <;> rename_i answer
  · exact aside ((Via.op (show Op.Aside .ask from trivial) rfl).trans (violate_via fun _ => trivial))
  · obtain rfl : worker.ask.2 = _ := congrArg Prod.snd answer
    exact changed asked fun ctx here => store ctx here full

/-- The partial frames of a connection stay within their limit, as long as none comes too many. -/
theorem spills_step (indexed : worker.conns.Indexed)
    (limited : ∀ slot, (worker.conns.spills slot).size ≤ maxInboundExchanges) {event : Event}
    (sparing : worker.Sparing event) (slot : Nat) :
    ((worker.step event).conns.spills slot).size ≤ maxInboundExchanges := by
  by_cases chunk : ∃ slot streamId known spill, event = .frameSpill slot streamId known spill
  · obtain ⟨own, streamId, known, spill, rfl⟩ := chunk
    by_cases fresh : slot = own ∧ spill ≠ [] ∧ worker.conns.spill own streamId = none
    · obtain ⟨rfl, full, absent⟩ := fresh
      refine (@Table.Shrinks.size_le_succ _ _ _ (worker.conns.spills slot) _ streamId
        fun other different unknown => ?_).trans (sparing full absent)
      rw [ConnectionManager.lookup_spills] at unknown ⊢
      exact spills_frameSpill streamId known slot other (fun _ => .inl different) unknown
    · refine (Table.Shrinks.size_le fun other unknown => ?_).trans (limited slot)
      rw [ConnectionManager.lookup_spills] at unknown ⊢
      refine spills_frameSpill streamId known slot other (fun here => ?_) unknown
      by_contra both
      rw [not_or, not_not] at both
      obtain ⟨rfl, full⟩ := both
      exact fresh ⟨here, full, here ▸ unknown⟩
  · have other (own streamId : Nat) (known : Bool) (spill : Bytes) :
        event ≠ .frameSpill own streamId known spill :=
      fun same => chunk ⟨own, streamId, known, spill, same⟩
    exact (Table.Shrinks.size_le (spillsShrink_step indexed other slot)).trans (limited slot)

/-- While chunks are sparing, no connection takes up more than twice the number of exchanges it may
have. -/
theorem footprint_is_bounded (config : Config) (router : MessageRouter) (fate : Nat → Bool)
    (events : List Event) (meets : Run.Meets step Sparing (init config router fate) events)
    (slot : Nat) :
    ((init config router fate).run events).footprint slot ≤ 2 * maxInboundExchanges := by
  have empty (slot : Nat) : (init config router fate).context slot = none := rfl
  have kept : ((init config router fate).run events).conns.Indexed ∧
      (∀ slot, (((init config router fate).run events).conns.spills slot).size ≤
        maxInboundExchanges) ∧
      ∀ slot, (((init config router fate).run events).conns.exchanges slot).size ≤
        maxInboundExchanges := by
    refine @Run.invariant _ _ _ _ (fun worker => worker.conns.Indexed ∧
      (∀ slot, (worker.conns.spills slot).size ≤ maxInboundExchanges) ∧
      ∀ slot, (worker.conns.exchanges slot).size ≤ maxInboundExchanges) ?_ _ _ ?_ meets
    · intro worker event ⟨indexed, spills, exchanges⟩ sparing
      exact ⟨step_indexed indexed event, spills_step indexed spills sparing,
        exchanges_step indexed exchanges event⟩
    · exact ⟨.init _ _ _ _, fun _ => Nat.zero_le _, fun _ => Nat.zero_le _⟩
  unfold footprint
  have spills := kept.2.1 slot
  have exchanges := kept.2.2 slot
  omega

/-- A client that is in the middle of one frame. -/
theorem footprint_is_bounded_unfinished :
    ((init { self := ⟨1, 0⟩, maxConnections := 1 } (.init 1 1) fun _ => true).run
      [.accept .wss true (some 1), .frameSpill 0 0 false [1]]).footprint 0 ≤
        2 * maxInboundExchanges :=
  footprint_is_bounded _ _ _ [.accept .wss true (some 1), .frameSpill 0 0 false [1]] (by decide) 0

/-- A chunk of a client stream is handled frame by frame; then what is left of it is kept. -/
theorem handleSessionData_steps (handle : SessionHandle) (streamId : Nat) (data : Bytes)
    (isFin : Bool) (memory : Nat → Bool) :
    ∃ events, worker.handleSessionData handle streamId data isFin memory = worker.run events := by
  unfold handleSessionData
  split
  · exact ⟨[], rfl⟩
  rename_i slot _
  split
  · split
    · exact ⟨[], rfl⟩
    · exact ⟨[.violate slot], rfl⟩
  · exact ⟨[.violate slot], rfl⟩
  · exact ⟨[.violate slot], rfl⟩
  simp only
  generalize (worker.context slot).bind (fun ctx => ctx.frameSpills.lookup streamId) = existing
  have dispatched (dispatcher : FrameDispatcher) (frames : List Frame) :
      (frames.foldl (fun dispatcher frame => (dispatcher.onFrame slot streamId frame).1)
        dispatcher).worker = dispatcher.worker.run (frames.map (.frame slot streamId)) := by
    have one (dispatcher : FrameDispatcher) (frame : Frame) :
        (dispatcher.onFrame slot streamId frame).1.worker =
          dispatcher.worker.step (.frame slot streamId frame) := by
      simp only [FrameDispatcher.onFrame, step]
      cases dispatcher.worker.dispatchFrame slot streamId frame with
      | mk outcome after => cases outcome <;> rfl
    induction frames generalizing dispatcher with
    | nil => rfl
    | cons frame frames ih => rw [List.foldl_cons, ih, one]; rfl
  obtain ⟨frames, handled⟩ := @Framing.drainFrames_handles _ (FrameDispatcher.onFrame slot streamId)
    memory maxFrameSize { worker := worker } (existing.getD []) data
  generalize Framing.drainFrames (FrameDispatcher.onFrame slot streamId) memory maxFrameSize
    { worker := worker } (existing.getD []) data = drains at handled ⊢
  obtain ⟨dispatcher, spill, drained⟩ := drains
  have reached := dispatched { worker := worker } frames
  rw [← handled] at reached
  simp only at reached ⊢
  have then_ (events : List Event) {after : GatewayWorker}
      (leads : after = dispatcher.worker.run events) : ∃ events, after = worker.run events :=
    ⟨frames.map (.frame slot streamId) ++ events,
      leads.trans (by rw [reached]; exact (Run.final_append _ _ _).symm)⟩
  have kept := rfl (a := dispatcher.worker.step (.frameSpill slot streamId existing.isSome spill))
  conv at kept => rhs; rw [step]
  split
  · rename_i none
    rw [none] at kept
    exact then_ [.frameSpill slot streamId existing.isSome spill] kept.symm
  rename_i stored some
  rw [some] at kept
  subst kept
  split
  · exact then_ [.frameSpill slot streamId existing.isSome spill, .violate slot] rfl
  split
  · exact then_ [.frameSpill slot streamId existing.isSome spill, .violate slot] rfl
  cases isFin with
  | false =>
      exact then_ [.frameSpill slot streamId existing.isSome spill, .closeIfRequested slot] rfl
  | true =>
      exact then_ [.frameSpill slot streamId existing.isSome spill, .finish slot streamId,
        .closeIfRequested slot] rfl

theorem drainFrames_unfinished {State : Type} (onFrame : State → Frame → State × Bool)
    (state : State) : Framing.drainFrames onFrame (fun _ => true) maxFrameSize state [] [1] =
      (state, [1], .ok ()) := rfl

/-- The first byte of a frame is kept. -/
theorem handleSessionData_unfinished {handle : SessionHandle} {ctx : ConnectionContext}
    (memory : worker.fate = fun _ => true) (known : worker.conns.slotFor handle = some slot)
    (found : worker.conns.context slot = some ctx) (stays : ctx.closeRequested = false)
    (client : StreamType.fromStreamId streamId = .clientBidi)
    (absent : ctx.frameSpills.lookup streamId = none) :
    worker.handleSessionData handle streamId [1] false (fun _ => true) =
      worker.ask.2.modifyConn slot fun ctx => ctx.storeFrameSpill streamId [1] := by
  have asked : worker.ask = (true, worker.ask.2) := by rw [ask, memory]
  have here : worker.context slot = some ctx := found
  have after : (worker.ask.2.modifyConn slot fun ctx => ctx.storeFrameSpill streamId [1]).context
      slot = some (ctx.storeFrameSpill streamId [1]) := by
    change (worker.conns.modify slot _).context slot = _
    rw [ConnectionManager.context_modify, Function.update_self, found]
    rfl
  unfold handleSessionData
  simp only [known, client, here, Option.bind_some, absent, Option.getD_none, drainFrames_unfinished,
    Option.isSome_none, keepFrameSpill]
  rw [asked]
  simp only [Bool.false_eq_true, if_false, List.cons_ne_nil, closeIfRequested, after]
  rw [if_neg]
  rw [ConnectionContext.storeFrameSpill, stays]
  exact Bool.false_ne_true

/-- A client that begins a frame on one stream after the other and completes none. -/
def hoard (worker : GatewayWorker) (handle : SessionHandle) : Nat → GatewayWorker
  | 0 => worker
  | count + 1 =>
      (hoard worker handle count).handleSessionData handle (4 * count) [1] false fun _ => true

/-- The first connection of a worker that has memory for everything. -/
def wssVisitor : GatewayWorker :=
  (init { self := ⟨1, 0⟩, maxConnections := 1 } (.init 1 1) fun _ => true).acceptClientSession .wss true (some 1)

theorem hoard_spills (count : Nat) :
    let worker := wssVisitor.hoard ⟨0, 1⟩ count
    worker.fate = (fun _ => true) ∧ worker.conns.slotFor ⟨0, 1⟩ = some 0 ∧
      ∃ ctx, worker.conns.context 0 = some ctx ∧ ctx.closeRequested = false ∧
        ctx.frameSpills.size = count ∧
        ∀ later, count ≤ later → ctx.frameSpills.lookup (4 * later) = none := by
  induction count with
  | zero => exact ⟨rfl, by decide, _, rfl, rfl, rfl, fun later _ => AList.lookup_empty _⟩
  | succ count ih =>
      obtain ⟨fate, known, ctx, found, open_, size, fresh⟩ := ih
      simp only [hoard]
      generalize wssVisitor.hoard ⟨0, 1⟩ count = worker at fate known found ⊢
      have client : StreamType.fromStreamId (4 * count) = .clientBidi := by
        simp [StreamType.fromStreamId]
      rw [handleSessionData_unfinished fate known found open_ client (fresh count (Nat.le_refl _))]
      refine ⟨fate, ?_, ctx.storeFrameSpill (4 * count) [1], ?_, open_, ?_, fun later above => ?_⟩
      · have same : (worker.ask.2.modifyConn 0 fun ctx =>
            ctx.storeFrameSpill (4 * count) [1]).conns.addressing = worker.conns.addressing :=
          ConnectionManager.addressing_modify 0 fun _ => rfl
        rw [ConnectionManager.slotFor_of_addressing same, known]
      · change (worker.conns.modify 0 _).context 0 = _
        rw [ConnectionManager.context_modify, Function.update_self, found]
        rfl
      · exact (Table.size_insert_of_absent (fresh count (Nat.le_refl _))).trans (by rw [size])
      · exact (AList.lookup_insert_ne (by omega)).trans (fresh later (by omega))

/-- Records of one byte make a connection take up as much as the client likes. -/
theorem hoard_is_unbounded :
    ¬ ∃ bound, ∀ count, (wssVisitor.hoard ⟨0, 1⟩ count).footprint 0 ≤ bound := by
  rintro ⟨bound, holds⟩
  obtain ⟨-, -, ctx, found, -, size, -⟩ := hoard_spills (bound + 1)
  have beyond := holds (bound + 1)
  rw [footprint, ConnectionManager.spills_of_context found, size] at beyond
  omega

end GatewayWorker

end LyuneGateway.Worker
