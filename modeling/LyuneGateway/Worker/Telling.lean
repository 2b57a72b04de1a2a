import LyuneGateway.Worker.Announcements
import LyuneGateway.Worker.Redirect

/-!
# Of whom a worker speaks

A delivery of a backend makes a worker speak of a connection only when it admits
the connection under an identity that it did not have, or when it kicks one that
was admitted. All that is said concerns one realm.
-/

namespace LyuneGateway.Worker

open Foundation Io Protocol Session

namespace Presence

variable {told : RealmId → Prop} {before middle after presence : Presence} {slot : Nat}

/-- Only connections of such realms have been spoken of. -/
def Adds (told : RealmId → Prop) (before after : Presence) : Prop :=
  ∀ client, ∃ said, after.calls client = before.calls client ++ said ∧
    ∀ call ∈ said, told call.notice.realm

namespace Adds

theorem of_calls (same : after.calls = before.calls) : Adds told before after :=
  fun client => ⟨[], by rw [same, List.append_nil], by simp⟩

theorem trans (first : Adds told before middle) (second : Adds told middle after) :
    Adds told before after := by
  intro client
  obtain ⟨said, one, known⟩ := first client
  obtain ⟨more, two, heard⟩ := second client
  refine ⟨said ++ more, by rw [two, one, List.append_assoc], fun call listed => ?_⟩
  exact (List.mem_append.mp listed).elim (known call) (heard call)

theorem publish (tells : ∀ life, presence.lives slot = some life → told life.realm)
    (kind : EventKind) (reason : SessionReason) :
    Adds told presence (presence.publish slot kind reason) := by
  unfold Presence.publish
  split
  · exact of_calls rfl
  · exact of_calls rfl
  rename_i life _ held
  intro client
  by_cases own : client = life.client
  · subst own
    exact ⟨_, Function.update_self _ _ _, by simpa [Life.notice] using tells life held⟩
  · exact ⟨[], (Function.update_of_ne own _ _).trans (List.append_nil _).symm, by simp⟩

theorem publishOffline
    (tells : ∀ life, presence.lives slot = some life → life.authenticated = true →
      told life.realm) (reason : SessionReason) :
    Adds told presence (presence.publishOffline slot reason) := by
  unfold Presence.publishOffline
  split
  · rename_i online
    exact publish (fun life held => tells life held (by simpa [held] using online)) _ _
  · exact of_calls rfl

theorem revoke
    (tells : ∀ life, presence.lives slot = some life → life.authenticated = true →
      told life.realm) (reason : SessionReason) :
    Adds told presence (presence.revoke slot reason) :=
  (publishOffline tells reason).trans (of_calls rfl)

theorem enter {destId : Nat}
    (tells : ∀ life, presence.lives slot = some life →
      ¬ (life.authenticated = true ∧ life.destId = destId) → told life.realm) :
    Adds told presence (presence.enter slot destId) := by
  cases held : presence.lives slot with
  | none =>
      have absent : presence.publishOffline slot .identityReplaced = presence := by
        simp [Presence.publishOffline, held]
      simp only [Presence.enter, held, Option.any_none, Bool.false_eq_true, if_false, absent]
      refine (of_calls rfl : Adds told presence (presence.modify slot _)).trans (publish ?_ _ _)
      simp [Presence.modify, held]
  | some life =>
      by_cases again : life.authenticated = true ∧ life.destId = destId
      · have same : presence.enter slot destId = presence.modify slot fun life =>
            life.enter destId := if_pos (by simpa [held] using again)
        exact same ▸ of_calls rfl
      · have ended : presence.enter slot destId =
            ((presence.publishOffline slot .identityReplaced).modify slot fun life =>
              life.enter destId).publish slot .online .authenticated :=
          if_neg (by simpa [held] using again)
        have realm := tells life held again
        have offline : Adds told presence (presence.publishOffline slot .identityReplaced) :=
          publishOffline (fun own known _ => by
            rwa [← Option.some.inj (held.symm.trans known)]) _
        rw [ended]
        refine (offline.trans (of_calls rfl)).trans (publish (fun own known => ?_) _ _)
        -- An event is counted, which leaves the realm as it is.
        have kept : ∃ counted, (presence.publishOffline slot .identityReplaced).lives slot =
            some counted ∧ counted.realm = life.realm := by
          unfold Presence.publishOffline Presence.publish
          split
          · split
            · exact ⟨life, held, rfl⟩
            · exact ⟨life, held, rfl⟩
            · rename_i one _ other
              obtain rfl := Option.some.inj (held.symm.trans other)
              exact ⟨_, Function.update_self _ _ _, rfl⟩
          · exact ⟨life, held, rfl⟩
        obtain ⟨counted, lives, same⟩ := kept
        have now : life.realm = own.realm := by
          simp only [Presence.modify, lives, Option.map_some, Function.update_self] at known
          rw [← Option.some.inj known, ← same]
          rfl
        exact now ▸ realm

end Adds

end Presence

/-- The realm of which a worker speaks when it gets an event from a backend: that of a connection
which is admitted under an identity it did not have, or of admitted ones that are kicked. -/
def Event.tells (worker : GatewayWorker) (event : Event) : Option RealmId :=
  ((event.answered worker).bind fun answer =>
    if worker.redirects answer.1.realm answer.2.destId = true ∨
        answer.1.authenticated = true ∧ answer.1.destId = answer.2.destId then none
    else some answer.1.realm).or
  ((event.kickCommand worker).bind fun command =>
    if worker.conns.named command.1 command.2.toList fun _ ctx => !ctx.authenticated then none
    else some command.1)

/-- The event is part of what a worker does with the deliveries of a backend transport. -/
def Event.drained : Event → Bool
  | .pushFrame .. | .pushSpill .. | .pushDrop _ | .pushEnd _ | .authResponse .. | .response ..
  | .streamControl .. | .transportFailed .. => true
  | _ => false

/-- The operation says nothing of anyone and leaves all addresses alone, or it kicks a connection
of the list. -/
def Op.Kicks (realm : RealmId) (list : TokenList) (op : Op) : Prop :=
  op.Mum ∧ op.KeepsAddressing ∨ ∃ raw ∈ list.toList, op = .kick realm (.decode raw)

namespace GatewayWorker

variable {worker middle after : GatewayWorker}

/-- The same tokens name the same connections, and none of them has been admitted. -/
structure Subdues (worker after : GatewayWorker) : Prop where
  tokens : ∀ token, after.conns.byToken token = worker.conns.byToken token
  lives : ∀ slot life, after.presence.lives slot = some life → ∃ old,
    worker.presence.lives slot = some old ∧ old.realm = life.realm ∧
      (life.authenticated = true → old.authenticated = true)

namespace Subdues

theorem of_presence (tokens : ∀ token, after.conns.byToken token = worker.conns.byToken token)
    (same : after.presence = worker.presence) : Subdues worker after where
  tokens := tokens
  lives _ life held := ⟨life, same ▸ held, rfl, id⟩

theorem refl : Subdues worker worker := of_presence (fun _ => rfl) rfl

theorem trans (first : Subdues worker middle) (second : Subdues middle after) :
    Subdues worker after where
  tokens token := (second.tokens token).trans (first.tokens token)
  lives slot life held := by
    obtain ⟨own, kept, realm, online⟩ := second.lives slot life held
    obtain ⟨old, was, sameRealm, before⟩ := first.lives slot own kept
    exact ⟨old, was, sameRealm.trans realm, before ∘ online⟩

theorem kickOne (indexed : worker.conns.Indexed) (realm : RealmId) (token : ConnToken) :
    Subdues worker (worker.kickOne realm token).2 := by
  have tokens : ∀ other, (worker.kickOne realm token).2.conns.byToken other =
      worker.conns.byToken other := by
    obtain same | ⟨slot, _, -, -, -, -, same⟩ := worker.kickOne_cases realm token
    · simp [same]
    · intro other
      rw [ConnectionManager.byToken_of_addressing same]
      exact (readdressed_revokeAdmission indexed slot .kicked).tokens other
  obtain same | ⟨slot, _, -, -, -, same⟩ := presence_kickOne indexed realm token
  · exact of_presence tokens same
  refine ⟨tokens, fun other life held => ?_⟩
  rw [same, Presence.revoke, Presence.modify] at held
  by_cases here : other = slot
  · subst here
    simp only [Function.update_self] at held
    obtain ⟨own, counted, rfl⟩ := Option.map_eq_some_iff.mp held
    unfold Presence.publishOffline Presence.publish at counted
    split at counted
    · split at counted
      · exact ⟨own, counted, rfl, fun admitted => by cases admitted⟩
      · exact ⟨own, counted, rfl, fun admitted => by cases admitted⟩
      · rename_i old _ known
        simp only [Function.update_self, Option.some.injEq] at counted
        subst counted
        exact ⟨old, known, rfl, fun admitted => by cases admitted⟩
    · exact ⟨own, counted, rfl, fun admitted => by cases admitted⟩
  · simp only [Function.update_of_ne here] at held
    refine ⟨life, ?_, rfl, id⟩
    unfold Presence.publishOffline Presence.publish at held
    split at held
    · split at held
      · exact held
      · exact held
      · simpa only [Function.update_of_ne here] using held
    · exact held

end Subdues

theorem adds_kicks {told : RealmId → Prop} {realm : RealmId} {list : TokenList}
    (indexed : worker.conns.Indexed) (via : Via (Op.Kicks realm list) worker after)
    (tells : ∀ raw ∈ list.toList, ∀ slot life, worker.conns.byToken (.decode raw) = some slot →
      worker.presence.lives slot = some life → life.realm = realm → life.authenticated = true →
      told realm) :
    Presence.Adds told worker.presence after.presence := by
  refine (@Run.Reaches.invariant _ _ _ _ _ _ (fun middle : GatewayWorker =>
    middle.conns.Indexed ∧ Subdues worker middle ∧
      Presence.Adds told worker.presence middle.presence) ?_ via
      ⟨indexed, .refl, .of_calls rfl⟩).2.2
  rintro middle op ⟨still, subdues, adds⟩ (⟨mum, keeps⟩ | ⟨raw, listed, rfl⟩)
  · have same := mum.presence middle
    have tokens := ConnectionManager.byToken_of_addressing (keeps middle)
    exact ⟨mum.keepsIndexed middle still, subdues.trans (.of_presence tokens same),
      adds.trans (.of_calls (congrArg Presence.calls same))⟩
  · refine ⟨indexed_kickOne still realm _, subdues.trans (.kickOne still realm _), ?_⟩
    change Presence.Adds told worker.presence (middle.kickOne realm (.decode raw)).2.presence
    obtain same | ⟨slot, ctx, resolved, found, own, same⟩ :=
      presence_kickOne still realm (.decode raw)
    · rwa [same]
    rw [same]
    refine adds.trans (.revoke (fun life held online => ?_) _)
    obtain ⟨old, was, sameRealm, before⟩ := subdues.lives slot life held
    rw [lives_presence, found, Option.map_some, Option.some.injEq] at held
    have inRealm : life.realm = realm := by
      rw [← held]
      exact own
    rw [inRealm]
    rw [subdues.tokens] at resolved
    exact tells raw listed slot old resolved was (sameRealm.trans inRealm) (before online)

theorem adds_completeAuth {told : RealmId → Prop} {auth : PendingAuth}
    (indexed : worker.conns.Indexed)
    (tells : ∀ slot ctx, worker.conns.slotFor auth.clientSession = some slot →
      worker.context slot = some ctx → (classify auth.buffer).result = .success →
      worker.redirects ctx.realm (classify auth.buffer).grant.destId = false →
      ¬ (ctx.authenticated = true ∧ ctx.destId = (classify auth.buffer).grant.destId) →
      told ctx.realm) :
    Presence.Adds told worker.presence (worker.completeAuth auth).presence := by
  have mute {after : GatewayWorker} (via : Via Op.Mum worker after) :
      Presence.Adds told worker.presence after.presence :=
    .of_calls (congrArg Presence.calls (Via.presence (via.mono fun _ _ mum => mum.presence)))
  unfold completeAuth
  split
  · exact .of_calls rfl
  rename_i slot resolved
  split
  · exact .of_calls rfl
  rename_i ctx found
  have answered (middle : GatewayWorker) : (if auth.responseSuppressed then middle
      else (middle.writeClient ctx.transport.ptr auth.clientStreamId auth.buffer true
        .backend).2).presence = middle.presence := by
    split
    · rfl
    · exact presence_writeClient _ _ _ _ _
  simp only
  split
  · rename_i success
    cases leaves : worker.redirects ctx.realm (classify auth.buffer).grant.destId with
    | true =>
        rw [redirectIfNotHome_of_redirects found leaves]
        exact mute (redirectToHome_via ⟨fun _ _ _ => trivial, fun _ => trivial⟩
          fun _ _ => fun _ => rfl)
    | false =>
        rw [redirectIfNotHome_of_stays found leaves]
        simp only
        rw [answered, ← indexed.handle_of_slotFor resolved found,
          presence_admitSession indexed found]
        refine .enter fun life held other => ?_
        rw [lives_presence, found, Option.map_some, Option.some.injEq] at held
        subst held
        exact tells slot ctx resolved found success leaves other
  · exact .of_calls (congrArg Presence.calls (answered worker))
  · split
    · exact .of_calls rfl
    · exact mute (replyControl_via fun _ _ => trivial)

/-- A push that brings no command to kick says nothing of anyone. -/
theorem mute_pushFrame {key : StreamKey} {realm : RealmId} {parsed : Frame}
    (tame : (Event.pushFrame key realm parsed).kickCommand worker = none) :
    Via Op.Mum worker (worker.step (.pushFrame key realm parsed)) := by
  refine onPushFrame_via ⟨fun _ _ => trivial, fun _ _ => trivial⟩
    ⟨fun _ _ _ => trivial, fun _ _ _ => trivial, fun _ _ => trivial, fun _ => trivial,
      fun _ _ _ _ => trivial⟩
    (fun _ _ => trivial) ⟨fun _ => trivial, fun _ => trivial⟩ (fun _ => trivial)
    (fun _ => trivial) (fun unclaimed opens last => ⟨fun _ _ _ _ _ _ => trivial, ?_⟩)
    fun _ => fun _ => rfl
  intro list control decoded
  simp [Event.kickCommand, Event.command, unclaimed, opens, last, control, decoded,
    Except.toOption] at tame

theorem kicks_pushFrame {key : StreamKey} {realm own : RealmId} {parsed : Frame}
    {list : TokenList}
    (command : (Event.pushFrame key realm parsed).kickCommand worker = some (own, list)) :
    Via (Op.Kicks own list) worker (worker.step (.pushFrame key realm parsed)) := by
  have quiet {op : Op} (mum : op.Mum) (quiet : op.Quiet) : op.Kicks own list :=
    .inl ⟨mum, quiet.keepsAddressing⟩
  refine onPushFrame_via ⟨fun _ _ => quiet trivial trivial, fun _ _ => quiet trivial trivial⟩
    ⟨fun _ _ _ => quiet trivial trivial, fun _ _ _ => quiet trivial trivial,
      fun _ _ => quiet trivial trivial, fun _ => quiet trivial trivial,
      fun _ _ _ _ => quiet trivial trivial⟩
    (fun _ _ => quiet trivial trivial)
    ⟨fun _ => quiet trivial trivial, fun _ => quiet trivial trivial⟩
    (fun _ => quiet trivial trivial) (fun _ => quiet trivial trivial)
    (fun unclaimed opens last => ?_) fun _ => .inl ⟨fun _ => rfl, fun _ => rfl⟩
  obtain ⟨brought, is, controls⟩ := Event.kickCommand_eq_some command
  have same : (Event.pushFrame key realm parsed).command worker = some (realm, parsed) := by
    simp [Event.command, unclaimed, opens, last]
  obtain ⟨rfl, rfl⟩ := Prod.mk.inj (Option.some.inj (same.symm.trans is))
  refine ⟨fun join binding control => ?_, fun other _ decoded raw listed => .inr ⟨raw, ?_, rfl⟩⟩
  · rw [controls] at control
    cases join <;> cases control
  · simp [Event.kickCommand, same, controls, decoded, Except.toOption] at command
    rwa [← command]

/-- Of whom a worker speaks when it handles a delivery. -/
theorem step_adds (indexed : worker.conns.Indexed) {event : Event}
    (drained : event.drained = true) :
    Presence.Adds (fun realm => event.tells worker = some realm) worker.presence
      (worker.step event).presence := by
  have mute {after : GatewayWorker} (via : Via Op.Mum worker after) :
      Presence.Adds (fun realm => event.tells worker = some realm) worker.presence
        after.presence :=
    .of_calls (congrArg Presence.calls (Via.presence (via.mono fun _ _ mum => mum.presence)))
  have streams : Streams Op.Mum := ⟨fun _ _ _ => trivial, fun _ _ _ => trivial,
    fun _ _ => trivial, fun _ => trivial, fun _ _ _ _ => trivial⟩
  have answers : Answers Op.Mum := ⟨trivial, fun _ _ _ _ => trivial, fun _ _ => trivial⟩
  cases event with
  | pushFrame key realm parsed =>
      cases command : (Event.pushFrame key realm parsed).kickCommand worker with
      | none => exact mute (mute_pushFrame command)
      | some kicked =>
          obtain ⟨own, list⟩ := kicked
          refine adds_kicks indexed (kicks_pushFrame command) ?_
          intro raw listed slot life resolved held same online
          obtain ⟨ctx, found, rfl⟩ := Option.map_eq_some_iff.mp held
          have admitted : ¬ worker.conns.named own list.toList (fun _ ctx => !ctx.authenticated) =
              true := by
            intro none_
            have out := ConnectionManager.named_eq_true.mp none_ raw listed slot ctx resolved found
              same
            have online : ctx.authenticated = true := online
            simp [online] at out
          simp [Event.tells, Event.answered, command, admitted]
  | pushSpill key known spill => exact mute (keepPush_via trivial fun _ => trivial)
  | pushDrop key => exact mute (@Via.op _ _ _ (.pushes fun pushes => pushes.erase key) trivial rfl)
  | pushEnd key => exact mute (abortBackendPush_via streams fun _ => trivial)
  | authResponse key data isFin =>
      simp only [step, collectAuthResponse]
      split
      · exact .of_calls rfl
      rename_i pending waiting
      split <;> rename_i answer
      · exact .of_calls (congrArg (fun asked => asked.2.presence.calls) answer).symm
      obtain rfl : worker.ask.2 = _ := congrArg Prod.snd answer
      split
      · exact .of_calls rfl
      rename_i ended
      refine (adds_completeAuth indexed ?_ : Presence.Adds _ (GatewayWorker.presence { worker.ask.2 with
        inflight := (worker.ask.2.inflight.appendAuth key data).takeAuth key }) _)
      intro slot ctx resolved found success stays other
      obtain rfl : isFin = true := Bool.of_not_eq_false ended
      have known : worker.conns.getByHandle pending.clientSession = some ctx :=
        Option.bind_eq_some_iff.mpr ⟨slot, resolved, found⟩
      have granted : worker.ask.1 = true := congrArg Prod.fst answer
      have stay : worker.redirects ctx.realm
          (classify (pending.buffer ++ data)).grant.destId = false := stays
      have answered : (Event.authResponse key data true).answered worker =
          some (ctx, (classify (pending.buffer ++ data)).grant) := by
        simp [Event.answered, waiting, known, granted, success]
      simp [Event.tells, answered, stay, other]
  | response key data isFin =>
      refine mute ?_
      simp only [step]
      split
      · exact .refl
      · exact relayResponse_via answers fun _ _ _ _ => trivial
  | streamControl key reason peerInitiated =>
      exact mute (handleBackendStreamControl_via answers streams fun _ => trivial)
  | transportFailed transport selector => exact mute (failTransportRequests_via answers)
  | _ => cases drained

end GatewayWorker

end LyuneGateway.Worker
