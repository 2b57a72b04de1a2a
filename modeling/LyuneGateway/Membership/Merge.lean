import Mathlib.Data.Finset.Max
import Mathlib.Data.Prod.Lex
import LyuneGateway.Lib.Run
import LyuneGateway.Membership.Lifetime

/-!
# Whether the order of events matters

Each event about a member either replaces what is known of it or changes nothing.
The greatest event wins in every order, unless a rival of it says at the same
incarnation that the member is gone in the other way, or the member is known to
be gone already in the same way.
-/

namespace LyuneGateway.Membership

open Control (NodeStatus)
open Faulty

/-! ## News about one member -/

/-- A status with the incarnation that it is stated at. -/
structure News where
  status : NodeStatus
  incarnation : Nat
  deriving DecidableEq

namespace News

/-- Whether news replaces what is known of a member, if anything is. -/
def replaces (news : News) : Option News → Bool
  | none => news.status = .alive || news.status = .suspect
  | some current =>
      match news.status with
      | .alive => current.incarnation < news.incarnation
      | .suspect => current.incarnation < news.incarnation ||
          news.incarnation = current.incarnation && current.status = .alive
      | .dead | .left =>
          current.status ≠ news.status && current.incarnation ≤ news.incarnation

def event (news : News) (nodeId : Nat) (address : Address) : Event where
  nodeId := nodeId
  status := news.status
  incarnation := news.incarnation
  address := address

theorem accepts_event {news : News} {known : Option News} {nodeId : Nat} {address : Address} :
    Swim.accepts (known.map fun current => (current.event nodeId address).member)
      (news.event nodeId address) = news.replaces known := by
  obtain ⟨status, incarnation⟩ := news
  cases known <;> cases status <;> rfl

/-- The member is gone. -/
def Gone (status : NodeStatus) : Prop := status = .dead ∨ status = .left

/-- At a lower incarnation, the member is known, or comes to be known, to be gone in the same
way. -/
def Masked (current : News) (told : Finset News) (news : News) : Prop :=
  Gone news.status ∧ news ≠ current ∧ (current.status = news.status ∨
    ∃ other ∈ told, other.status = news.status ∧ current.incarnation ≤ other.incarnation ∧
      other.incarnation < news.incarnation)

variable {winner : NodeStatus} {current news greatest : News} {told : Finset News}

/-- What is known after the news have been told in this order. -/
def settle (current : News) (order : List News) : News :=
  order.foldl (fun known news => if news.replaces (some known) then news else known) current

theorem replaces_gone (gone : Gone news.status) : news.replaces (some current) = true ↔
    current.status ≠ news.status ∧ current.incarnation ≤ news.incarnation := by
  obtain ⟨status, incarnation⟩ := news
  rcases gone with rfl | rfl <;> simp [replaces]

theorem replaces_none (gone : Gone news.status) : news.replaces none = false := by
  obtain ⟨status, incarnation⟩ := news
  rcases gone with rfl | rfl <;> rfl

end News

namespace Swim

variable {nodeId : Nat} {swim : Swim}

/-- News that are told to the node at some time, by another node or by itself. -/
structure Telling where
  now : Nat
  source : Option Nat
  news : News

/-- The node after one telling about a member; none if the process has stopped. -/
def tell (nodeId : Nat) (address : Address) (swim : Option Swim) (telling : Telling) :
    Option Swim :=
  swim.bind fun swim => Outcome.state?
    (applyEventFrom telling.now (telling.news.event nodeId address) telling.source swim)

/-- What is told is stored while the slot of the member has room. -/
def Roomy (nodeId : Nat) (address : Address) (swim : Option Swim) (telling : Telling) : Prop :=
  ∀ node, swim = some node → node.Publishes (telling.news.event nodeId address) →
    node.table.Room nodeId

/-- The news, and no others, are told in some order, as often as it may be. -/
def Covers (told : Finset News) (tellings : List Telling) : Prop :=
  ∀ news, news ∈ told ↔ ∃ telling ∈ tellings, telling.news = news

/-- This is known about a node other than this one. -/
structure Told (nodeId : Nat) (address : Address) (known : Option News) (swim : Swim) : Prop where
  other : nodeId ≠ swim.config.nodeId
  inside : nodeId ≠ 0 ∧ nodeId < swim.config.maxNodes
  capacity : swim.table.capacity = swim.config.maxNodes
  held : swim.table.get nodeId = known.map fun news => (news.event nodeId address).member

section Telling

variable {address : Address} {known : Option News} {telling : Telling} {after : Swim}

theorem Told.publishes_iff (told : Told nodeId address known swim) (news : News) :
    swim.Publishes (news.event nodeId address) ↔ news.replaces known = true := by
  rw [← @News.accepts_event _ _ nodeId address, ← told.held]
  constructor
  · exact fun publishes => publishes.2.2.2.2
  · intro accepted
    refine ⟨told.other, told.inside.1, told.inside.2, ?_, accepted⟩
    intro member held
    rw [News.event, told.held] at held
    cases known with
    | none => cases held
    | some current =>
        cases held
        rfl

theorem tell_stores (told : Told nodeId address known swim)
    (leads : tell nodeId address (some swim) telling = some after) :
    Stores (telling.news.event nodeId address) swim after := by
  have stores := @applyEventFrom_stores telling.now swim (telling.news.event nodeId address)
    telling.source told.other told.capacity
  simp only [tell, Option.bind_some] at leads
  cases answer : applyEventFrom telling.now (telling.news.event nodeId address) telling.source
    swim with
  | done value next =>
      rw [answer] at stores leads
      cases leads
      exact stores
  | failed next =>
      rw [answer] at stores leads
      cases leads
      exact stores
  | trapped fault =>
      rw [answer] at leads
      cases leads

theorem Told.stored {known' : Option News} (told : Told nodeId address known swim) {event : Event}
    (stores : Stores event swim after)
    (held : after.table.get nodeId =
      known'.map fun news => (news.event nodeId address).member) :
    Told nodeId address known' after where
  other := stores.config ▸ told.other
  inside := stores.config ▸ told.inside
  capacity := by rw [stores.capacity, stores.config, told.capacity]
  held := held

/-- What is no news leaves everything as it was. -/
theorem Told.old (told : Told nodeId address known swim)
    (leads : tell nodeId address (some swim) telling = some after)
    (old : telling.news.replaces known = false) : Told nodeId address known after := by
  have stores := tell_stores told leads
  apply told.stored stores
  have same := stores.old fun publishes => by
    rw [(told.publishes_iff _).mp publishes] at old
    cases old
  rw [Table.get_congr same stores.capacity, told.held]

/-- News are known afterwards, unless the number of the slot has started over. -/
theorem Told.news (told : Told nodeId address known swim)
    (leads : tell nodeId address (some swim) telling = some after)
    (replaces : telling.news.replaces known = true) :
    (Told nodeId address (some telling.news) after ∨ Told nodeId address none after) ∧
      (swim.table.Room nodeId → Told nodeId address (some telling.news) after) := by
  have stores := tell_stores told leads
  have slots := stores.news ((told.publishes_iff _).mpr replaces)
  have valid : nodeId ≠ 0 ∧ nodeId < swim.table.capacity :=
    ⟨told.inside.1, told.capacity ▸ told.inside.2⟩
  have get : after.table.get nodeId =
      (swim.table.written (telling.news.event nodeId address).member).get nodeId :=
    Table.get_congr slots stores.capacity nodeId
  constructor
  · apply (@Table.get_written_or swim.table (telling.news.event nodeId address).member valid).imp
    · exact fun held => told.stored stores (get.trans held)
    · exact fun held => told.stored stores (get.trans held)
  · intro room
    apply told.stored stores
    exact get.trans
      (@Table.get_written_self swim.table (telling.news.event nodeId address).member valid room)

/-- What has not been told is not known. -/
theorem Told.avoids {news : News} (told : Told nodeId address known swim)
    (leads : tell nodeId address (some swim) telling = some after) (unknown : known ≠ some news)
    (differ : telling.news ≠ news) :
    ∃ known', Told nodeId address known' after ∧ known' ≠ some news := by
  cases replaces : telling.news.replaces known with
  | false => exact ⟨known, told.old leads replaces, unknown⟩
  | true =>
      obtain told | told := (told.news leads replaces).1
      · exact ⟨_, told, by simpa using differ⟩
      · exact ⟨none, told, by simp⟩

end Telling

section Orders

variable {address : Address} {known : Option News} {tellings : List Telling} {after : Swim}

theorem final_none : Run.final (tell nodeId address) none tellings = none := by
  induction tellings with
  | nil => rfl
  | cons telling tellings ih => exact ih

/-- A run of tellings that leads somewhere leads there over the state after the first one. -/
theorem final_cons_some {telling : Telling}
    (leads : Run.final (tell nodeId address) (some swim) (telling :: tellings) = some after) :
    ∃ next, tell nodeId address (some swim) telling = some next ∧
      Run.final (tell nodeId address) (some next) tellings = some after := by
  rw [Run.final_cons] at leads
  cases answer : tell nodeId address (some swim) telling with
  | none =>
      rw [answer, final_none] at leads
      cases leads
  | some next => exact ⟨next, rfl, answer ▸ leads⟩

/-- As long as there is room, what is known is what the news settle to. -/
theorem Told.settles {current : News} (told : Told nodeId address (some current) swim)
    (roomy : Run.Meets (tell nodeId address) (Roomy nodeId address) (some swim) tellings)
    (leads : Run.final (tell nodeId address) (some swim) tellings = some after) :
    Told nodeId address (some (News.settle current (tellings.map Telling.news))) after := by
  induction tellings generalizing swim current with
  | nil =>
      cases leads
      exact told
  | cons telling tellings ih =>
      obtain ⟨next, first, leads⟩ := final_cons_some leads
      obtain ⟨room, roomy⟩ := roomy
      rw [first] at roomy
      cases replaces : telling.news.replaces (some current) with
      | true =>
          have room := room swim rfl ((told.publishes_iff _).mpr replaces)
          have settled := ih ((told.news first replaces).2 room) roomy leads
          simpa [News.settle, replaces] using settled
      | false =>
          have settled := ih (told.old first replaces) roomy leads
          simpa [News.settle, replaces] using settled

/-- News that are never told are never known. -/
theorem Told.never {news : News} (told : Told nodeId address known swim)
    (unknown : known ≠ some news) (untold : ∀ telling ∈ tellings, telling.news ≠ news)
    (leads : Run.final (tell nodeId address) (some swim) tellings = some after) :
    after.table.get nodeId ≠ some (news.event nodeId address).member := by
  induction tellings generalizing swim known with
  | nil =>
      cases leads
      rw [told.held]
      intro same
      apply unknown
      cases known with
      | none => cases same
      | some current =>
          obtain ⟨status, incarnation⟩ := current
          simp only [Option.map_some, Option.some.injEq, Event.member, News.event,
            Member.mk.injEq] at same
          obtain ⟨-, -, rfl, rfl⟩ := same
          rfl
  | cons telling tellings ih =>
      obtain ⟨next, first, leads⟩ := final_cons_some leads
      obtain ⟨known', told, unknown⟩ :=
        told.avoids first unknown (untold telling List.mem_cons_self)
      exact ih told unknown (fun other listed => untold other (List.mem_cons_of_mem _ listed)) leads

/-- Something has been told by the node itself, at the time zero. -/
def Telling.of (news : News) : Telling where
  now := 0
  source := none
  news := news

theorem covers_of {told : Finset News} {order : List News} (same : ∀ news, news ∈ told ↔ news ∈ order) :
    Covers told (order.map Telling.of) := by
  intro news
  rw [same]
  simp [Telling.of]

/-- Where the member is gone in the same way already, or is not known, it stays so. -/
theorem Told.hidden {told : Finset News} {greatest : News} (knows : Told nodeId address known swim)
    (gone : News.Gone greatest.status)
    (hidden : ∀ current, known = some current →
      current.status = greatest.status ∧ current ≠ greatest)
    (leads : Run.final (tell nodeId address) (some swim)
      ((greatest :: told.toList.filter (· ≠ greatest)).map Telling.of) = some after) :
    after.table.get nodeId ≠ some (greatest.event nodeId address).member := by
  rw [List.map_cons] at leads
  obtain ⟨next, first, leads⟩ := final_cons_some leads
  have old : (Telling.of greatest).news.replaces known = false := by
    cases known with
    | none => exact News.replaces_none gone
    | some current =>
        have same := (hidden current rfl).1
        rw [← Bool.not_eq_true]
        exact fun replaces => ((News.replaces_gone gone).mp replaces).1 same
  refine (knows.old first old).never (fun same => (hidden greatest same).2 rfl) ?_ leads
  intro telling listed
  obtain ⟨news, among, rfl⟩ := List.mem_map.mp listed
  simpa [Telling.of] using (List.mem_filter.mp among).2

/-- News that the member is gone do not displace older ones that say the same. -/
theorem Told.masked {told : Finset News} {current greatest : News}
    (knows : Told nodeId address (some current) swim) (listed : greatest ∈ told)
    (masked : News.Masked current told greatest) :
    ∃ tellings, Covers told tellings ∧ ∀ after,
      Run.final (tell nodeId address) (some swim) tellings = some after →
      after.table.get nodeId ≠ some (greatest.event nodeId address).member := by
  obtain ⟨gone, differ, known⟩ := masked
  by_cases same : current.status = greatest.status
  · refine ⟨(greatest :: told.toList.filter (· ≠ greatest)).map Telling.of, covers_of ?_, ?_⟩
    · intro news
      by_cases equal : news = greatest <;> simp [equal, listed]
    · intro after leads
      apply knows.hidden gone _ leads
      rintro _ ⟨⟩
      exact ⟨same, Ne.symm differ⟩
  · obtain ⟨other, otherListed, status, later, lower⟩ := known.resolve_left same
    have distinct : other ≠ greatest := fun equal => absurd (equal ▸ lower) (lt_irrefl _)
    refine ⟨(other :: greatest :: told.toList.filter (· ≠ greatest)).map Telling.of,
      covers_of ?_, ?_⟩
    · intro news
      by_cases first : news = other
      · simp [first, otherListed]
      · by_cases equal : news = greatest <;> simp [first, equal, listed]
    · intro after leads
      rw [List.map_cons] at leads
      obtain ⟨next, first, leads⟩ := final_cons_some leads
      have replaces : (Telling.of other).news.replaces (some current) = true :=
        (News.replaces_gone (status ▸ gone)).mpr ⟨status ▸ same, later⟩
      obtain told | told := (knows.news first replaces).1
      · apply told.hidden gone _ leads
        rintro _ ⟨⟩
        exact ⟨status, distinct⟩
      · apply told.hidden gone _ leads
        rintro _ ⟨⟩

end Orders

end Swim

end LyuneGateway.Membership
