import LyuneGateway.Worker.Exchanges

/-!
# What backends are told of a connection

With a lifecycle route, a connection that is admitted is said to be online, and
once that ends to be offline. The abstract account of this knows of a connection
only who it is, whether it is admitted and how many events it has had; the worker
keeps to it in every step.
-/

namespace LyuneGateway.Worker

open Foundation Io Protocol Session

/-- A lifecycle event. -/
structure Call where
  kind : EventKind
  reason : SessionReason
  notice : Notice
  deriving DecidableEq, Repr

/-- The lifecycle events of one connection so far are in order. If it is online, the notice is that
of the event that said so. -/
inductive Paired : List Call → Option Notice → Prop
  | start : Paired [] none
  | online {calls : List Call} {call : Call} : Paired calls none → call.kind = .online →
      call.reason ≠ .leaseRefresh → Paired (calls ++ [call]) (some call.notice)
  | refresh {calls : List Call} {call : Call} {begun : Notice} : Paired calls (some begun) →
      call.kind = .online → call.reason = .leaseRefresh → call.notice.realm = begun.realm →
      call.notice.destId = begun.destId → Paired (calls ++ [call]) (some begun)
  | offline {calls : List Call} {call : Call} {begun : Notice} : Paired calls (some begun) →
      call.kind = .offline → call.notice.realm = begun.realm →
      call.notice.destId = begun.destId → Paired (calls ++ [call]) none

/-- The number of the last one of so many events. -/
def eventNumber : Nat → Nat
  | 0 => 0
  | count + 1 => nextSequence (eventNumber count)

theorem eventNumber_of_lt {count : Nat} (few : count < 2 ^ 64) : eventNumber count = count := by
  induction count with
  | zero => rfl
  | succ count ih =>
      rw [eventNumber, ih (Nat.lt_of_succ_lt few), nextSequence, Nat.mod_eq_of_lt few,
        if_neg (Nat.succ_ne_zero count)]

/-- The events are numbered one after the other. -/
def Numbered (calls : List Call) : Prop :=
  calls.map (fun call => call.notice.sequence) =
    (List.range calls.length).map fun earlier => eventNumber (earlier + 1)

theorem Numbered.increasing {calls : List Call} (numbered : Numbered calls)
    (few : calls.length < 2 ^ 64) :
    (calls.map fun call => call.notice.sequence).Pairwise (· < ·) := by
  have counted : (List.range calls.length).map (fun earlier => eventNumber (earlier + 1)) =
      (List.range calls.length).map fun earlier => earlier + 1 := by
    refine List.map_congr_left fun earlier listed => eventNumber_of_lt ?_
    exact Nat.lt_of_le_of_lt (List.mem_range.mp listed) few
  rw [numbered, counted, List.pairwise_map]
  exact List.pairwise_lt_range.imp fun below => Nat.succ_lt_succ below

/-- What the lifecycle of a connection depends on. -/
structure Life where
  client : Nat
  handle : SessionHandle
  realm : RealmId
  authenticated : Bool
  destId : Nat
  sequence : Nat

namespace Life

variable {life : Life} {calls : List Call}

def notice (life : Life) : Notice where
  handle := life.handle
  realm := life.realm
  destId := life.destId
  sequence := nextSequence life.sequence

def count (life : Life) : Life := { life with sequence := nextSequence life.sequence }

/-- Nothing is left of the admission. -/
def leave (life : Life) : Life := { life with authenticated := false, destId := 0 }

def enter (life : Life) (destId : Nat) : Life :=
  { life with authenticated := true, destId := destId }

/-- The events are numbered, and all name the connection. -/
structure Counted (life : Life) (calls : List Call) : Prop where
  numbered : Numbered calls
  sequence : life.sequence = eventNumber calls.length
  named : ∀ call ∈ calls, call.notice.handle = life.handle

/-- What has been said of the connection tells whether it is admitted, and as whom. -/
structure Speaks (life : Life) (calls : List Call) : Prop extends Counted life calls where
  online : life.authenticated = true → ∃ begun, Paired calls (some begun) ∧
    life.realm = begun.realm ∧ life.destId = begun.destId
  offline : life.authenticated = false → Paired calls none

theorem Counted.append (counted : life.Counted calls) (kind : EventKind) (reason : SessionReason) :
    life.count.Counted (calls ++ [⟨kind, reason, life.notice⟩]) := by
  refine ⟨?_, ?_, ?_⟩
  · rw [Numbered, List.map_append, counted.numbered, List.length_append, List.length_singleton,
      List.range_succ, List.map_append, List.map_singleton, List.map_singleton, eventNumber,
      ← counted.sequence]
    rfl
  · rw [List.length_append, List.length_singleton, eventNumber, ← counted.sequence]
    rfl
  · intro call listed
    rcases List.mem_append.mp listed with earlier | new
    · exact counted.named call earlier
    · rw [List.mem_singleton.mp new]
      rfl

theorem Counted.leave (counted : life.Counted calls) : life.leave.Counted calls :=
  ⟨counted.numbered, counted.sequence, counted.named⟩

theorem Counted.enter (counted : life.Counted calls) (destId : Nat) :
    (life.enter destId).Counted calls :=
  ⟨counted.numbered, counted.sequence, counted.named⟩

/-- The event that ends an admission. -/
theorem Speaks.ended (speaks : life.Speaks calls) (admitted : life.authenticated = true)
    (reason : SessionReason) : Paired (calls ++ [⟨.offline, reason, life.notice⟩]) none := by
  obtain ⟨begun, paired, realm, destId⟩ := speaks.online admitted
  exact paired.offline rfl realm destId

end Life

/-- An account of the connections of a worker and of the lifecycle events so far. -/
@[ext]
structure Presence where
  lives : Nat → Option Life
  calls : Nat → List Call
  lifecycleRoute : Option RouteId
  nextTransport : Nat

namespace Presence

variable {presence : Presence} {slot : Nat} {life : Life}

def publish (presence : Presence) (slot : Nat) (kind : EventKind) (reason : SessionReason) :
    Presence :=
  match presence.lifecycleRoute, presence.lives slot with
  | none, _ => presence
  | _, none => presence
  | some _, some life => { presence with
      lives := Function.update presence.lives slot (some life.count)
      calls := Function.update presence.calls life.client
        (presence.calls life.client ++ [⟨kind, reason, life.notice⟩]) }

def modify (presence : Presence) (slot : Nat) (change : Life → Life) : Presence :=
  { presence with
    lives := Function.update presence.lives slot ((presence.lives slot).map change) }

def publishOffline (presence : Presence) (slot : Nat) (reason : SessionReason) : Presence :=
  if (presence.lives slot).any Life.authenticated then presence.publish slot .offline reason
  else presence

def revoke (presence : Presence) (slot : Nat) (reason : SessionReason) : Presence :=
  (presence.publishOffline slot reason).modify slot Life.leave

/-- The connection is admitted under an identity, which ends the one it had. -/
def enter (presence : Presence) (slot destId : Nat) : Presence :=
  if (presence.lives slot).any fun life => life.authenticated && life.destId = destId then
    presence.modify slot fun life => life.enter destId
  else
    ((presence.publishOffline slot .identityReplaced).modify slot fun life =>
      life.enter destId).publish slot .online .authenticated

def refresh (presence : Presence) (slot : Nat) : Presence :=
  if (presence.lives slot).any Life.authenticated then
    presence.publish slot .online .leaseRefresh
  else presence

def accept (presence : Presence) (slot : Nat) (handle : SessionHandle) (realm : RealmId) :
    Presence :=
  { presence with
    lives := Function.update presence.lives slot (some {
      client := presence.nextTransport + 1
      handle := handle
      realm := realm
      authenticated := false
      destId := 0
      sequence := 0 })
    nextTransport := presence.nextTransport + 1 }

def remove (presence : Presence) (slot : Nat) : Presence :=
  { presence with lives := Function.update presence.lives slot none }

/-- An account after a change of one connection and of what has been said of it. -/
def tell (presence : Presence) (slot client : Nat) (life : Option Life) (calls : List Call) :
    Presence :=
  { presence with
    lives := Function.update presence.lives slot life
    calls := Function.update presence.calls client calls }

section Tell

variable {client : Nat} {own : Option Life} {calls : List Call}

@[simp] theorem tell_lives : (presence.tell slot client own calls).lives slot = own :=
  Function.update_self _ _ _

@[simp] theorem tell_calls : (presence.tell slot client own calls).calls client = calls :=
  Function.update_self _ _ _

@[simp] theorem tell_tell (after : Option Life) (more : List Call) :
    (presence.tell slot client own calls).tell slot client after more =
      presence.tell slot client after more := by
  simp [tell]

@[simp] theorem modify_tell (change : Life → Life) :
    (presence.tell slot client own calls).modify slot change =
      presence.tell slot client (own.map change) calls := by
  simp [tell, modify]

@[simp] theorem remove_tell :
    (presence.tell slot client own calls).remove slot = presence.tell slot client none calls := by
  simp [tell, remove]

end Tell

/-- An account in which nothing has changed. -/
theorem eq_tell (found : presence.lives slot = some life) :
    presence = presence.tell slot life.client (some life) (presence.calls life.client) := by
  rw [tell, ← found, Function.update_eq_self, Function.update_eq_self]

theorem publish_eq (routed : presence.lifecycleRoute.isSome = true)
    (found : presence.lives slot = some life) (kind : EventKind) (reason : SessionReason) :
    presence.publish slot kind reason = presence.tell slot life.client (some life.count)
      (presence.calls life.client ++ [⟨kind, reason, life.notice⟩]) := by
  obtain ⟨route, known⟩ := Option.isSome_iff_exists.mp routed
  simp only [publish, known, found, tell]

theorem publishOffline_eq (routed : presence.lifecycleRoute.isSome = true)
    (found : presence.lives slot = some life) (reason : SessionReason) :
    presence.publishOffline slot reason =
      if life.authenticated then presence.tell slot life.client (some life.count)
        (presence.calls life.client ++ [⟨.offline, reason, life.notice⟩])
      else presence := by
  simp only [publishOffline, found, Option.any_some, publish_eq routed found]

theorem publish_tell (routed : presence.lifecycleRoute.isSome = true) {client : Nat} {own : Life}
    {calls : List Call} (same : own.client = client) (kind : EventKind) (reason : SessionReason) :
    (presence.tell slot client (some own) calls).publish slot kind reason =
      presence.tell slot client (some own.count) (calls ++ [⟨kind, reason, own.notice⟩]) := by
  subst same
  have told := @publish_eq (presence.tell slot own.client (some own) calls) slot own routed
    tell_lives kind reason
  rwa [tell_calls, tell_tell] at told

/-- Everything that has been said of a connection that is gone has come to its end. -/
structure Over (calls : List Call) : Prop where
  paired : Paired calls none
  numbered : Numbered calls
  named : ∃ handle, ∀ call ∈ calls, call.notice.handle = handle

/-- The law that lifecycle events follow. -/
structure Lawful (presence : Presence) : Prop where
  routed : presence.lifecycleRoute.isSome = true
  speaks : ∀ slot life, presence.lives slot = some life →
    life.Speaks (presence.calls life.client)
  apart : ∀ slot other life own, presence.lives slot = some life →
    presence.lives other = some own → life.client = own.client → slot = other
  issued : ∀ slot life, presence.lives slot = some life → life.client ≤ presence.nextTransport
  gone : ∀ client, (∀ slot life, presence.lives slot = some life → life.client ≠ client) →
    Over (presence.calls client)
  fresh : ∀ client, presence.nextTransport < client → presence.calls client = []

namespace Lawful

/-- A change of one connection that keeps to what has been said of it. -/
theorem tell (lawful : presence.Lawful) (found : presence.lives slot = some life)
    {after : Option Life} {calls : List Call}
    (stays : ∀ own, after = some own → own.client = life.client ∧ own.Speaks calls)
    (leaves : after = none → Over calls) :
    (presence.tell slot life.client after calls).Lawful := by
  have lives {other : Nat} {own : Life}
      (held : (presence.tell slot life.client after calls).lives other = some own) :
      other = slot ∧ own.client = life.client ∧ own.Speaks calls ∨
        other ≠ slot ∧ presence.lives other = some own ∧ own.client ≠ life.client := by
    simp only [Presence.tell] at held
    by_cases here : other = slot
    · rw [here, Function.update_self] at held
      exact .inl ⟨here, stays own held⟩
    · rw [Function.update_of_ne here] at held
      exact .inr ⟨here, held, fun equal => here (lawful.apart other slot own life held found equal)⟩
  constructor
  case routed => exact lawful.routed
  case speaks =>
    intro other own held
    obtain ⟨-, same, speaks⟩ | ⟨-, before, different⟩ := lives held
    · simpa [Presence.tell, same] using speaks
    · simpa [Presence.tell, different] using lawful.speaks other own before
  case apart =>
    intro other another own also held known equal
    obtain ⟨rfl, same, -⟩ | ⟨-, before, different⟩ := lives held <;>
      obtain ⟨rfl, alike, -⟩ | ⟨-, old, unlike⟩ := lives known
    · rfl
    · exact absurd (equal.symm.trans same) unlike
    · exact absurd (equal.trans alike) different
    · exact lawful.apart other another own also before old equal
  case issued =>
    intro other own held
    obtain ⟨-, same, -⟩ | ⟨-, before, -⟩ := lives held
    · exact same ▸ lawful.issued _ life found
    · exact lawful.issued other own before
  case gone =>
    intro client absent
    by_cases own : client = life.client
    · simp only [Presence.tell, own, Function.update_self]
      refine leaves (Option.eq_none_iff_forall_ne_some.mpr fun held kept => ?_)
      refine absent slot held ?_ ((stays held kept).1.trans own.symm)
      simp only [Presence.tell, Function.update_self, kept]
    · simp only [Presence.tell, Function.update_of_ne own]
      refine lawful.gone client fun place held kept => ?_
      by_cases here : place = slot
      · rw [here, found, Option.some.injEq] at kept
        exact kept ▸ Ne.symm own
      · refine absent place held ?_
        simp only [Presence.tell, Function.update_of_ne here, kept]
  case fresh =>
    intro client beyond
    have issued := lawful.issued slot life found
    have other : client ≠ life.client := fun same =>
      Nat.not_lt.mpr issued (same ▸ beyond)
    simp only [Presence.tell, Function.update_of_ne other]
    exact lawful.fresh client beyond

/-- A connection that is refused uses up a number. -/
theorem skip (lawful : presence.Lawful) :
    Lawful { presence with nextTransport := presence.nextTransport + 1 } where
  routed := lawful.routed
  speaks := lawful.speaks
  apart := lawful.apart
  issued slot life held := Nat.le_succ_of_le (lawful.issued slot life held)
  gone := lawful.gone
  fresh client beyond := lawful.fresh client (Nat.lt_of_succ_lt beyond)

theorem accept (lawful : presence.Lawful) (unused : presence.lives slot = none)
    (handle : SessionHandle) (realm : RealmId) : (presence.accept slot handle realm).Lawful := by
  have lives {other : Nat} {own : Life}
      (held : (presence.accept slot handle realm).lives other = some own) :
      other = slot ∧ own.client = presence.nextTransport + 1 ∧ own.Speaks [] ∨
        other ≠ slot ∧ presence.lives other = some own := by
    simp only [Presence.accept] at held
    by_cases here : other = slot
    · rw [here, Function.update_self, Option.some.injEq] at held
      subst held
      exact .inl ⟨here, rfl, ⟨rfl, rfl, nofun⟩, nofun, fun _ => .start⟩
    · rw [Function.update_of_ne here] at held
      exact .inr ⟨here, held⟩
  constructor
  case routed => exact lawful.routed
  case speaks =>
    intro other own held
    obtain ⟨-, new, speaks⟩ | ⟨-, before⟩ := lives held
    · simpa only [new, Presence.accept, lawful.fresh _ (Nat.lt_succ_self _)] using speaks
    · exact lawful.speaks other own before
  case apart =>
    intro other another own also held known equal
    obtain ⟨rfl, new, -⟩ | ⟨-, before⟩ := lives held <;>
      obtain ⟨rfl, newer, -⟩ | ⟨-, old⟩ := lives known
    · rfl
    · have := lawful.issued another also old
      omega
    · have := lawful.issued other own before
      omega
    · exact lawful.apart other another own also before old equal
  case issued =>
    intro other own held
    obtain ⟨-, new, -⟩ | ⟨-, before⟩ := lives held
    · exact new.le
    · exact Nat.le_succ_of_le (lawful.issued other own before)
  case gone =>
    intro client absent
    refine lawful.gone client fun place own held => absent place own ?_
    have here : place ≠ slot := by
      rintro rfl
      cases unused.symm.trans held
    simp only [Presence.accept, Function.update_of_ne here, held]
  case fresh => exact fun client beyond => lawful.fresh client (Nat.lt_of_succ_lt beyond)

theorem revoke (lawful : presence.Lawful) (slot : Nat) (reason : SessionReason) :
    (presence.revoke slot reason).Lawful := by
  cases found : presence.lives slot with
  | none =>
      rw [Presence.revoke, publishOffline, found, if_neg (by simp), modify, found, Option.map_none,
        ← found, Function.update_eq_self]
      exact lawful
  | some life =>
      have speaks := lawful.speaks slot life found
      rw [Presence.revoke, publishOffline_eq lawful.routed found]
      cases admitted : life.authenticated with
      | true =>
          rw [if_pos rfl, modify_tell, Option.map_some]
          refine lawful.tell found (fun own same => ?_) nofun
          obtain rfl := Option.some.inj same
          refine ⟨rfl, (speaks.append _ _).leave, nofun, fun _ => speaks.ended admitted reason⟩
      | false =>
          rw [if_neg (by simp), eq_tell found, modify_tell, Option.map_some]
          refine lawful.tell found (fun own same => ?_) nofun
          obtain rfl := Option.some.inj same
          exact ⟨rfl, speaks.leave, nofun, fun _ => speaks.offline admitted⟩

/-- A connection is removed after it was said to be offline. -/
theorem remove (lawful : presence.Lawful) (slot : Nat) (reason : SessionReason) :
    ((presence.publishOffline slot reason).remove slot).Lawful := by
  cases found : presence.lives slot with
  | none =>
      rw [publishOffline, found, if_neg (by simp), Presence.remove, ← found,
        Function.update_eq_self]
      exact lawful
  | some life =>
      have speaks := lawful.speaks slot life found
      rw [publishOffline_eq lawful.routed found]
      cases admitted : life.authenticated with
      | true =>
          rw [if_pos rfl, remove_tell]
          have counted := speaks.append .offline reason
          exact lawful.tell found nofun fun _ =>
            ⟨speaks.ended admitted reason, counted.numbered, _, counted.named⟩
      | false =>
          rw [if_neg (by simp), eq_tell found, remove_tell]
          exact lawful.tell found nofun fun _ =>
            ⟨speaks.offline admitted, speaks.numbered, _, speaks.named⟩

theorem refresh (lawful : presence.Lawful) (slot : Nat) : (presence.refresh slot).Lawful := by
  unfold Presence.refresh
  split
  · rename_i admitted
    obtain ⟨life, found, admitted⟩ := (Option.any_eq_true _ _).mp admitted
    have speaks := lawful.speaks slot life found
    rw [publish_eq lawful.routed found]
    refine lawful.tell found (fun own same => ?_) nofun
    obtain rfl := Option.some.inj same
    refine ⟨rfl, speaks.append _ _, fun _ => ?_, fun left => ?_⟩
    · obtain ⟨begun, paired, realm, destId⟩ := speaks.online admitted
      exact ⟨begun, paired.refresh rfl rfl realm destId, realm, destId⟩
    · exact absurd (admitted.symm.trans left) (by simp)
  · exact lawful

theorem enter (lawful : presence.Lawful) (slot destId : Nat) :
    (presence.enter slot destId).Lawful := by
  cases found : presence.lives slot with
  | none =>
      have same (change : Life → Life) : presence.modify slot change = presence := by
        rw [modify, found, Option.map_none, ← found, Function.update_eq_self]
      obtain ⟨route, known⟩ := Option.isSome_iff_exists.mp lawful.routed
      simp only [Presence.enter, publishOffline, found, Option.any_none, Bool.false_eq_true,
        if_false, same, publish, known]
      exact lawful
  | some life =>
      have speaks := lawful.speaks slot life found
      simp only [Presence.enter, found, Option.any_some, Bool.and_eq_true, decide_eq_true_eq]
      split
      · rename_i again
        obtain ⟨begun, paired, realm, bound⟩ := speaks.online again.1
        rw [eq_tell found, modify_tell, Option.map_some]
        refine lawful.tell found (fun own same => ?_) nofun
        obtain rfl := Option.some.inj same
        exact ⟨rfl, speaks.enter destId, fun _ => ⟨begun, paired, realm, again.2 ▸ bound⟩, nofun⟩
      · have announced {own : Life} {calls : List Call} (same : own.client = life.client)
            (counted : own.Counted calls) (paired : Paired calls none) :
            (((presence.tell slot life.client (some own) calls).modify slot fun life =>
              life.enter destId).publish slot .online .authenticated).Lawful := by
          have client : (own.enter destId).client = life.client := same
          rw [modify_tell, Option.map_some, publish_tell lawful.routed client]
          refine lawful.tell found (fun after kept => ?_) nofun
          obtain rfl := Option.some.inj kept
          exact ⟨same, (counted.enter destId).append _ _,
            fun _ => ⟨_, paired.online rfl nofun, rfl, rfl⟩, nofun⟩
        rw [publishOffline_eq lawful.routed found]
        cases admitted : life.authenticated with
        | true =>
            rw [if_pos rfl]
            exact announced rfl (speaks.append _ _) (speaks.ended admitted _)
        | false =>
            rw [if_neg (by simp)]
            have entered := announced rfl speaks.toCounted (speaks.offline admitted)
            rwa [← eq_tell found] at entered

end Lawful

end Presence

end LyuneGateway.Worker
