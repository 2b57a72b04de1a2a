import LyuneGateway.Lib.Run
import LyuneGateway.Worker.PeerLink

/-!
# The streams of peer links

Every connection to a peer has stream numbers of its own, which start at zero.
A link keeps its counter when it connects again: the streams of the connection
that follows start where those of the last one ended. The frames of a session,
which remember the epoch of their link, stay on the connection they began on.
-/

namespace LyuneGateway.Worker

open Protocol

namespace Link

@[simp] theorem fail_cnx (link : Link) (now : Nat) : (link.fail now).cnx = none := rfl
@[simp] theorem fail_state (link : Link) (now : Nat) : (link.fail now).state = .backoff := rfl
@[simp] theorem fail_nodeId (link : Link) (now : Nat) : (link.fail now).nodeId = link.nodeId := rfl
@[simp] theorem fail_epoch (link : Link) (now : Nat) : (link.fail now).epoch = link.epoch := rfl
@[simp] theorem fail_nextStreamId (link : Link) (now : Nat) :
    (link.fail now).nextStreamId = link.nextStreamId := rfl

/-- A link that is brought up waits, fails, or begins to connect. -/
theorem ensureConnecting_cases (link : Link) (cnx now : Nat) (connects : Bool) :
    link.ensureConnecting cnx now connects = link ∨
      link.ensureConnecting cnx now connects = link.fail now ∨
      (connects = true ∧ link.state ≠ .ready ∧
        link.ensureConnecting cnx now connects =
          { link with state := .connecting, cnx := some cnx }) := by
  unfold ensureConnecting
  split
  · exact .inl rfl
  rename_i down
  split
  · exact .inl rfl
  split
  · exact .inr (.inl rfl)
  · rename_i connects
    exact .inr (.inr ⟨by simpa using connects, fun ready => down (.inl ready), rfl⟩)

end Link

namespace PeerLinks

variable {links after : PeerLinks} {nodeId now i j : Nat} {answers : LinkAnswers}

theorem get_set (links : PeerLinks) (link : Link) (i j : Nat) :
    (links.set i link).get j = if i = j ∧ i < links.links.length then link else links.get j := by
  unfold get set
  rw [List.getD_eq_getElem?_getD, List.getElem?_set]
  by_cases same : i = j
  · subst same
    by_cases inside : i < links.links.length
    · simp [inside]
    · simp [inside, List.getD_eq_getElem?_getD]
  · simp [same, List.getD_eq_getElem?_getD]

theorem get_set_self (inside : i < links.links.length) (link : Link) :
    (links.set i link).get i = link := by
  rw [get_set, if_pos ⟨rfl, inside⟩]

theorem get_set_of_ne (other : i ≠ j) (link : Link) : (links.set i link).get j = links.get j := by
  rw [get_set, if_neg fun same => other same.1]

@[simp] theorem set_nextCnx (links : PeerLinks) (i : Nat) (link : Link) :
    (links.set i link).nextCnx = links.nextCnx := rfl

theorem lt_of_ready (ready : (links.get i).state = .ready) : i < links.links.length := by
  by_contra outside
  have absent : links.get i = {} := by
    simp [get, List.getD_eq_getElem?_getD, List.getElem?_eq_none (Nat.le_of_not_lt outside)]
  rw [absent] at ready
  cases ready

theorem get_of_findIdx? {wanted : Link → Bool} (found : links.links.findIdx? wanted = some i) :
    i < links.links.length ∧ wanted (links.get i) = true := by
  obtain ⟨inside, holds, -⟩ := List.findIdx?_eq_some_iff_getElem.mp found
  refine ⟨inside, ?_⟩
  rwa [get, List.getD_eq_getElem?_getD, List.getElem?_eq_getElem inside]

theorem get_mem (inside : i < links.links.length) : links.get i ∈ links.links := by
  rw [get, List.getD_eq_getElem?_getD, List.getElem?_eq_getElem inside]
  exact List.getElem_mem inside

theorem get_of_findIdx?_none {wanted : Link → Bool} (default : wanted {} = false)
    (missing : links.links.findIdx? wanted = none) (i : Nat) : wanted (links.get i) = false := by
  unfold get
  rw [List.getD_eq_getElem?_getD]
  cases held : links.links[i]? with
  | none => exact default
  | some link => exact List.findIdx?_eq_none_iff.mp missing link (List.mem_of_getElem? held)

/-- The link of a node is one it has, or a free one that becomes its own. -/
theorem linkFor_cases (links : PeerLinks) (nodeId : Nat) :
    (∃ i, links.linkFor nodeId = (links, some i) ∧ (links.get i).nodeId = nodeId) ∨
      links.linkFor nodeId = (links, none) ∨
      ∃ i, links.linkFor nodeId = (links.set i { nodeId := nodeId }, some i) ∧
        i < links.links.length ∧ (links.get i).nodeId = 0 ∧ nodeId ≠ 0 ∧
        ∀ j, (links.get j).nodeId ≠ nodeId := by
  unfold linkFor
  cases own : links.links.findIdx? fun link => link.nodeId = nodeId with
  | some i =>
      obtain ⟨-, named⟩ := get_of_findIdx? own
      exact .inl ⟨i, rfl, by simpa using named⟩
  | none =>
      cases free : links.links.findIdx? fun link => link.nodeId = 0 with
      | none => exact .inr (.inl rfl)
      | some i =>
          obtain ⟨inside, unused⟩ := get_of_findIdx? free
          have named : nodeId ≠ 0 := by
            rintro rfl
            rw [own] at free
            cases free
          refine .inr (.inr ⟨i, rfl, inside, by simpa using unused, named, fun j => ?_⟩)
          simpa using get_of_findIdx?_none (by simpa using named.symm) own j

/-- Some links gave up their connection, some began a new one, the others are as before. -/
structure Moved (links after : PeerLinks) : Prop where
  later : links.nextCnx ≤ after.nextCnx
  each : ∀ i, after.get i = links.get i ∨ (∃ now, after.get i = (links.get i).fail now) ∨
    ∃ cnx, (links.get i).state ≠ .ready ∧ (links.get i).nodeId ≠ 0 ∧ links.nextCnx ≤ cnx ∧
      cnx < after.nextCnx ∧
      after.get i = { links.get i with state := .connecting, cnx := some cnx }
  apart : ∀ i j cnx, links.nextCnx ≤ cnx → (after.get i).cnx = some cnx →
    (after.get j).cnx = some cnx → i = j

/-- What a link that has not come up is like after a move. -/
theorem Moved.of_set (known : ∀ j cnx, (links.get j).cnx = some cnx → cnx < links.nextCnx)
    {link : Link} {more : Nat}
    (changed : link = links.get i ∨ (∃ now, link = (links.get i).fail now) ∨
      ((links.get i).state ≠ .ready ∧ (links.get i).nodeId ≠ 0 ∧ 0 < more ∧
        link = { links.get i with state := .connecting, cnx := some links.nextCnx })) :
    Moved links { links.set i link with nextCnx := links.nextCnx + more } := by
  have elsewhere (j : Nat) (other : i ≠ j) :
      PeerLinks.get { links.set i link with nextCnx := links.nextCnx + more } j = links.get j :=
    get_set_of_ne other link
  have only (j cnx : Nat) (fresh : links.nextCnx ≤ cnx)
      (held : (PeerLinks.get { links.set i link with nextCnx := links.nextCnx + more } j).cnx =
        some cnx) : i = j := by
    by_contra other
    rw [elsewhere j other] at held
    exact absurd (known j cnx held) (Nat.not_lt.mpr fresh)
  refine ⟨Nat.le_add_right _ _, fun j => ?_, fun j k cnx fresh first second => ?_⟩
  · by_cases same : i = j
    · subst same
      have here : PeerLinks.get { links.set i link with nextCnx := links.nextCnx + more } i =
          link ∨ PeerLinks.get { links.set i link with nextCnx := links.nextCnx + more } i =
            links.get i := by
        change (links.set i link).get i = _ ∨ (links.set i link).get i = _
        rw [get_set]
        split
        · exact .inl rfl
        · exact .inr rfl
      rcases here with here | here
      · rw [here]
        rcases changed with same | ⟨now, failed⟩ | ⟨down, named, more, connecting⟩
        · exact .inl same
        · exact .inr (.inl ⟨now, failed⟩)
        · exact .inr (.inr ⟨_, down, named, Nat.le_refl _, Nat.lt_add_of_pos_right more,
            connecting⟩)
      · exact .inl here
    · exact .inl (elsewhere j same)
  · exact (only j cnx fresh first).symm.trans (only k cnx fresh second)

/-- The stream that a new frame is numbered with, and the connection it is to go over. -/
def nextStream (links : PeerLinks) (nodeId : Nat) (realm : RealmId) (bytes : Bytes) (now : Nat)
    (answers : LinkAnswers) : Option (PeerStream × Nat) :=
  match links.readyLink nodeId now answers with
  | (_, none) => none
  | (links, some i) =>
      if (patchRealm bytes realm).isSome then (links.get i).cnx.map ((links.openStream i).2, ·)
      else none

/-- The connection that a frame of a session is to go over. -/
def streamCnx (links : PeerLinks) (stream : PeerStream) : Option Nat :=
  match links.streamLink stream with
  | (_, none) => none
  | (links, some i) => (links.get i).cnx

end PeerLinks

/-- The links of a worker, with what went over each connection. A connection starts at the number
its link had reached when it came up; `sessions` has the connection of each session's first frame,
`written` those of all that followed. -/
structure Mesh where
  links : PeerLinks
  starts : Nat → Nat := fun _ => 0
  opened : Nat → List Nat := fun _ => []
  sessions : List (PeerStream × Nat) := []
  written : List (PeerStream × Nat) := []

namespace Mesh

inductive Event where
  | send (nodeId : Nat) (realm : RealmId) (bytes : Bytes) (now : Nat) (answers : LinkAnswers)
  | beginSession (nodeId : Nat) (realm : RealmId) (bytes : Bytes) (now : Nat)
      (answers : LinkAnswers)
  | sendOn (stream : PeerStream) (now : Nat) (answers : LinkAnswers)
  | resetSession (stream : PeerStream)
  | poll (now : Nat) (connects : Nat → Bool)
  | onConnected (cnx : Nat)
  | onClose (cnx now : Nat)

def init (maxLinks : Nat) : Mesh where
  links := PeerLinks.init maxLinks

/-- The numbers of the connections, with one that a new frame has taken. -/
def noteOpening (opened : Nat → List Nat) : Option (PeerStream × Nat) → Nat → List Nat
  | none => opened
  | some (stream, cnx) => Function.update opened cnx (opened cnx ++ [stream.streamId])

/-- The sessions, with one whose first frame was taken. -/
def noteSession (sessions : List (PeerStream × Nat)) (sent : Option (PeerStream × Bytes))
    (opening : Option (PeerStream × Nat)) : List (PeerStream × Nat) :=
  match sent, opening with
  | some (stream, _), some (_, cnx) => sessions ++ [(stream, cnx)]
  | _, _ => sessions

/-- The frames of sessions, with one more if it was taken. -/
def noteFrame (written : List (PeerStream × Nat)) (stream : PeerStream) (cnx : Option Nat)
    (taken : Bool) : List (PeerStream × Nat) :=
  if taken then written ++ cnx.toList.map (stream, ·) else written

/-- Where the numbers of a connection start, once it has come up for the first time. -/
def noteConnected (mesh : Mesh) (cnx : Nat) : Nat → Nat :=
  match mesh.links.findByCnx cnx with
  | none => mesh.starts
  | some i =>
      if (mesh.links.get i).state = .ready then mesh.starts
      else Function.update mesh.starts cnx (mesh.links.get i).nextStreamId

def step (mesh : Mesh) : Event → Mesh
  | .send nodeId realm bytes now answers =>
      { mesh with
        links := (mesh.links.send nodeId realm bytes now answers).1
        opened := noteOpening mesh.opened (mesh.links.nextStream nodeId realm bytes now answers) }
  | .beginSession nodeId realm bytes now answers =>
      { mesh with
        links := (mesh.links.send nodeId realm bytes now answers).1
        opened := noteOpening mesh.opened (mesh.links.nextStream nodeId realm bytes now answers)
        sessions := noteSession mesh.sessions (mesh.links.send nodeId realm bytes now answers).2
          (mesh.links.nextStream nodeId realm bytes now answers) }
  | .sendOn stream now answers =>
      { mesh with
        links := (mesh.links.sendOn stream now answers).1
        written := noteFrame mesh.written stream (mesh.links.streamCnx stream)
          (mesh.links.sendOn stream now answers).2 }
  | .resetSession stream =>
      { mesh with
        links := (mesh.links.resetSession stream).1
        written := noteFrame mesh.written stream (mesh.links.streamCnx stream)
          (mesh.links.resetSession stream).2 }
  | .poll now connects => { mesh with links := mesh.links.poll now connects }
  | .onConnected cnx =>
      { mesh with links := mesh.links.onConnected cnx, starts := mesh.noteConnected cnx }
  | .onClose cnx now => { mesh with links := mesh.links.onClose cnx now }

/-- What the outside and the callers of the links promise: node zero is no member, so nothing
connects to it, and a session's frames follow its first. -/
def Possible (mesh : Mesh) : Event → Prop
  | .send nodeId _ _ _ answers | .beginSession nodeId _ _ _ answers =>
      answers.connects = true → nodeId ≠ 0
  | .sendOn stream _ _ | .resetSession stream => stream ∈ mesh.sessions.map Prod.fst
  | .poll _ _ | .onConnected _ | .onClose _ _ => True

/-- No stream is opened on a connection that came up after its link had opened streams, and the
epoch of a link does not come round. -/
def Sparing (mesh : Mesh) : Event → Prop
  | .send nodeId _ _ _ _ | .beginSession nodeId _ _ _ _ => ∀ link ∈ mesh.links.links,
      link.nodeId = nodeId → link.state = .ready → ∀ cnx ∈ link.cnx, mesh.starts cnx = 0
  | .onConnected cnx => ∀ link ∈ mesh.links.links, link.cnx = some cnx → link.epoch + 1 < 2 ^ 32
  | .sendOn _ _ _ | .resetSession _ | .poll _ _ | .onClose _ _ => True

instance (mesh : Mesh) : (event : Event) → Decidable (mesh.Possible event)
  | .send nodeId _ _ _ answers | .beginSession nodeId _ _ _ answers =>
      inferInstanceAs (Decidable (answers.connects = true → nodeId ≠ 0))
  | .sendOn stream _ _ | .resetSession stream =>
      inferInstanceAs (Decidable (stream ∈ mesh.sessions.map Prod.fst))
  | .poll _ _ | .onConnected _ | .onClose _ _ => .isTrue trivial

instance (mesh : Mesh) : (event : Event) → Decidable (mesh.Sparing event)
  | .send nodeId _ _ _ _ | .beginSession nodeId _ _ _ _ => inferInstanceAs <|
      Decidable (∀ link ∈ mesh.links.links,
        link.nodeId = nodeId → link.state = .ready → ∀ cnx ∈ link.cnx, mesh.starts cnx = 0)
  | .onConnected cnx => inferInstanceAs <| Decidable (∀ link ∈ mesh.links.links,
      link.cnx = some cnx → link.epoch + 1 < 2 ^ 32)
  | .sendOn _ _ _ | .resetSession _ | .poll _ _ | .onClose _ _ => .isTrue trivial

/-- The streams of every connection are numbered from zero, and every frame of a session goes over
the connection that the session began on. -/
structure Sound (mesh : Mesh) : Prop where
  known : ∀ i cnx, (mesh.links.get i).cnx = some cnx → cnx < mesh.links.nextCnx
  apart : ∀ i j cnx, (mesh.links.get i).cnx = some cnx → (mesh.links.get j).cnx = some cnx → i = j
  up : ∀ i, (mesh.links.get i).state = .ready → ∃ cnx, (mesh.links.get i).cnx = some cnx
  unnamed : ∀ i, (mesh.links.get i).nodeId = 0 → (mesh.links.get i).cnx = none
  named : ∀ i j, (mesh.links.get i).nodeId = (mesh.links.get j).nodeId →
    (mesh.links.get i).nodeId ≠ 0 → i = j
  numbered : ∀ i cnx, (mesh.links.get i).cnx = some cnx → (mesh.links.get i).state = .ready →
    (mesh.links.get i).nextStreamId = mesh.starts cnx + 4 * (mesh.opened cnx).length
  unused : ∀ i cnx, (mesh.links.get i).cnx = some cnx → (mesh.links.get i).state ≠ .ready →
    mesh.opened cnx = []
  future : ∀ cnx, mesh.links.nextCnx ≤ cnx → mesh.opened cnx = []
  exact : ∀ cnx, mesh.opened cnx =
    (List.range (mesh.opened cnx).length).map fun n => mesh.starts cnx + 4 * n
  zero : ∀ cnx, mesh.opened cnx = [] ∨ mesh.starts cnx = 0
  live : ∀ stream cnx, (stream, cnx) ∈ mesh.sessions → ∃ i,
    (mesh.links.get i).nodeId = stream.nodeId ∧ stream.nodeId ≠ 0 ∧
    stream.epoch ≤ (mesh.links.get i).epoch ∧
    stream.streamId < (mesh.links.get i).nextStreamId ∧
    ((mesh.links.get i).state = .ready → (mesh.links.get i).epoch = stream.epoch →
      (mesh.links.get i).cnx = some cnx)
  single : ∀ stream first second, (stream, first) ∈ mesh.sessions →
    (stream, second) ∈ mesh.sessions → first = second
  kept : ∀ frame ∈ mesh.written, frame ∈ mesh.sessions

namespace Sound

variable {mesh : Mesh}

theorem init (maxLinks : Nat) : (Mesh.init maxLinks).Sound := by
  have blank (i : Nat) : (PeerLinks.init maxLinks).get i = {} := by
    simp [PeerLinks.init, PeerLinks.get, List.getD_eq_getElem?_getD, List.getElem?_replicate]
    split
    · rfl
    · rfl
  constructor
  case exact => exact fun cnx => rfl
  case zero => exact fun cnx => .inl rfl
  case future => exact fun cnx later => rfl
  case unused => exact fun i cnx held down => rfl
  case kept => exact fun frame listed => nomatch listed
  case live => exact fun stream cnx listed => nomatch listed
  case single => exact fun stream first second listed => nomatch listed
  all_goals simp [Mesh.init, blank]

/-- A free link that a node takes. -/
theorem claim (sound : mesh.Sound) {i nodeId : Nat} (inside : i < mesh.links.links.length)
    (free : (mesh.links.get i).nodeId = 0)
    (absent : ∀ j, (mesh.links.get j).nodeId ≠ nodeId) :
    Sound { mesh with links := mesh.links.set i { nodeId := nodeId } } := by
  have here := mesh.links.get_set_self inside { nodeId := nodeId }
  have elsewhere (j : Nat) (other : i ≠ j) :=
    @PeerLinks.get_set_of_ne mesh.links i j other { nodeId := nodeId }
  constructor
  case future => exact sound.future
  case exact => exact sound.exact
  case zero => exact sound.zero
  case single => exact sound.single
  case kept => exact sound.kept
  case known =>
    intro j cnx held
    by_cases same : i = j
    · subst same
      rw [here] at held
      cases held
    · rw [elsewhere j same] at held
      exact sound.known j cnx held
  case apart =>
    intro j k cnx first second
    by_cases one : i = j
    · subst one
      rw [here] at first
      cases first
    by_cases two : i = k
    · subst two
      rw [here] at second
      cases second
    rw [elsewhere j one] at first
    rw [elsewhere k two] at second
    exact sound.apart j k cnx first second
  case up =>
    intro j ready
    by_cases same : i = j
    · subst same
      rw [here] at ready
      cases ready
    · rw [elsewhere j same] at ready ⊢
      exact sound.up j ready
  case unnamed =>
    intro j unnamed
    by_cases same : i = j
    · subst same
      rw [here]
    · rw [elsewhere j same] at unnamed ⊢
      exact sound.unnamed j unnamed
  case named =>
    intro j k agree own
    by_cases one : i = j
    · subst one
      by_contra two
      rw [here, elsewhere k two] at agree
      exact absent k agree.symm
    by_cases two : i = k
    · subst two
      rw [here, elsewhere j one] at agree
      exact absurd agree (absent j)
    rw [elsewhere j one] at agree own
    rw [elsewhere k two] at agree
    exact sound.named j k agree own
  case numbered =>
    intro j cnx held ready
    by_cases same : i = j
    · subst same
      rw [here] at held
      cases held
    · rw [elsewhere j same] at held ready ⊢
      exact sound.numbered j cnx held ready
  case unused =>
    intro j cnx held down
    by_cases same : i = j
    · subst same
      rw [here] at held
      cases held
    · rw [elsewhere j same] at held down
      exact sound.unused j cnx held down
  case live =>
    intro stream cnx listed
    obtain ⟨j, node', own, rest⟩ := sound.live stream cnx listed
    have other : i ≠ j := by
      rintro rfl
      exact own (node'.symm.trans free)
    refine ⟨j, ?_⟩
    rw [elsewhere j other]
    exact ⟨node', own, rest⟩

/-- Links that give up their connection or begin a new one. -/
theorem moved (sound : mesh.Sound) {after : PeerLinks} (moved : mesh.links.Moved after) :
    Sound { mesh with links := after } := by
  have ready (i : Nat) (up : (after.get i).state = .ready) : after.get i = mesh.links.get i := by
    rcases moved.each i with same | ⟨now, failed⟩ | ⟨cnx, -, -, -, -, connecting⟩
    · exact same
    · rw [failed] at up
      cases up
    · rw [connecting] at up
      cases up
  have held (i cnx : Nat) (own : (after.get i).cnx = some cnx) :
      after.get i = mesh.links.get i ∨ mesh.links.nextCnx ≤ cnx ∧ cnx < after.nextCnx ∧
        (mesh.links.get i).nodeId ≠ 0 := by
    rcases moved.each i with same | ⟨now, failed⟩ | ⟨fresh, -, node, above, below, connecting⟩
    · exact .inl same
    · rw [failed] at own
      cases own
    · rw [connecting] at own
      cases own
      exact .inr ⟨above, below, node⟩
  have constant (i : Nat) : (after.get i).nodeId = (mesh.links.get i).nodeId ∧
      (after.get i).epoch = (mesh.links.get i).epoch ∧
      (after.get i).nextStreamId = (mesh.links.get i).nextStreamId := by
    rcases moved.each i with same | ⟨now, failed⟩ | ⟨cnx, -, -, -, -, connecting⟩
    · rw [same]
      exact ⟨rfl, rfl, rfl⟩
    · rw [failed]
      exact ⟨rfl, rfl, rfl⟩
    · rw [connecting]
      exact ⟨rfl, rfl, rfl⟩
  constructor
  case exact => exact sound.exact
  case zero => exact sound.zero
  case single => exact sound.single
  case kept => exact sound.kept
  case future => exact fun cnx later => sound.future cnx (moved.later.trans later)
  case known =>
    intro i cnx own
    rcases held i cnx own with same | ⟨-, below, -⟩
    · rw [same] at own
      exact (sound.known i cnx own).trans_le moved.later
    · exact below
  case apart =>
    intro i j cnx first second
    by_cases fresh : mesh.links.nextCnx ≤ cnx
    · exact moved.apart i j cnx fresh first second
    have old (k : Nat) (own : (after.get k).cnx = some cnx) :
        (mesh.links.get k).cnx = some cnx := by
      rcases held k cnx own with same | ⟨above, -⟩
      · rwa [same] at own
      · exact absurd above fresh
    exact sound.apart i j cnx (old i first) (old j second)
  case up =>
    intro i up
    have same := ready i up
    rw [same] at up ⊢
    exact sound.up i up
  case unnamed =>
    intro i unnamed
    rw [(constant i).1] at unnamed
    rcases moved.each i with same | ⟨now, failed⟩ | ⟨cnx, -, node, -⟩
    · rw [same]
      exact sound.unnamed i unnamed
    · rw [failed]
      rfl
    · exact absurd unnamed node
  case named =>
    intro i j agree own
    rw [(constant i).1] at agree own
    rw [(constant j).1] at agree
    exact sound.named i j agree own
  case numbered =>
    intro i cnx own up
    have same := ready i up
    rw [same] at own up ⊢
    exact sound.numbered i cnx own up
  case unused =>
    intro i cnx own down
    rcases held i cnx own with same | ⟨above, -⟩
    · rw [same] at own down
      exact sound.unused i cnx own down
    · exact sound.future cnx above
  case live =>
    intro stream cnx listed
    obtain ⟨i, node, own, epoch, number, current⟩ := sound.live stream cnx listed
    obtain ⟨nodeId, sameEpoch, sameNext⟩ := constant i
    refine ⟨i, nodeId.trans node, own, epoch.trans_eq sameEpoch.symm,
      number.trans_eq sameNext.symm, fun up agree => ?_⟩
    have same := ready i up
    rw [same] at up agree ⊢
    exact current up agree

theorem linkFor (sound : mesh.Sound) (nodeId : Nat) :
    Sound { mesh with links := (mesh.links.linkFor nodeId).1 } := by
  rcases mesh.links.linkFor_cases nodeId with
    ⟨i, own, -⟩ | full | ⟨i, claimed, inside, free, -, absent⟩
  · rw [own]
    exact sound
  · rw [full]
    exact sound
  · rw [claimed]
    exact sound.claim inside free absent

/-- A link that comes up. -/
theorem onConnected (sound : mesh.Sound) {cnx : Nat}
    (sparing : mesh.Sparing (.onConnected cnx)) :
    Sound (mesh.step (.onConnected cnx)) := by
  cases found : mesh.links.findByCnx cnx with
  | none =>
      have unchanged : mesh.step (.onConnected cnx) = mesh := by
        simp [step, PeerLinks.onConnected, noteConnected, found]
      rw [unchanged]
      exact sound
  | some i =>
      obtain ⟨inside, own⟩ := PeerLinks.get_of_findIdx? found
      have own : (mesh.links.get i).cnx = some cnx := by simpa using own
      have round := sparing _ (PeerLinks.get_mem inside) own
      generalize starts : mesh.noteConnected cnx = first
      have other (another : Nat) (differs : another ≠ cnx) : first another = mesh.starts another := by
        rw [← starts]
        simp only [noteConnected, found]
        split
        · rfl
        · exact Function.update_of_ne differs _ _
      have fits : (mesh.links.get i).nextStreamId = first cnx + 4 * (mesh.opened cnx).length := by
        rw [← starts]
        simp only [noteConnected, found]
        split
        · rename_i up
          exact sound.numbered i cnx own up
        · rename_i down
          simp [sound.unused i cnx own down]
      have same (another : Nat) : mesh.opened another = [] ∨ first another = mesh.starts another := by
        by_cases this : another = cnx
        · subst this
          rw [← starts]
          simp only [noteConnected, found]
          split
          · exact .inr rfl
          · rename_i down
            exact .inl (sound.unused i another own down)
        · exact .inr (other another this)
      generalize raised : ({ mesh.links.get i with
        state := .ready
        failureCount := 0
        retryAt := 0
        epoch := ((mesh.links.get i).epoch + 1) % 2 ^ 32 } : Link) = link
      have leads : mesh.step (.onConnected cnx) =
          { mesh with links := mesh.links.set i link, starts := first } := by
        simp only [step, PeerLinks.onConnected, found, starts, raised]
      rw [leads]
      have here := mesh.links.get_set_self inside link
      have elsewhere (j : Nat) (other : i ≠ j) :=
        @PeerLinks.get_set_of_ne mesh.links i j other link
      have sameCnx (j : Nat) : ((mesh.links.set i link).get j).cnx = (mesh.links.get j).cnx := by
        by_cases this : i = j
        · subst this
          rw [here, ← raised]
        · rw [elsewhere j this]
      have sameNode (j : Nat) :
          ((mesh.links.set i link).get j).nodeId = (mesh.links.get j).nodeId := by
        by_cases this : i = j
        · subst this
          rw [here, ← raised]
        · rw [elsewhere j this]
      constructor
      case future => exact sound.future
      case single => exact sound.single
      case kept => exact sound.kept
      case known => exact fun j another held => sound.known j another (sameCnx j ▸ held)
      case apart =>
        exact fun j k another one two =>
          sound.apart j k another (sameCnx j ▸ one) (sameCnx k ▸ two)
      case unnamed =>
        exact fun j unnamed => (sameCnx j).trans (sound.unnamed j (sameNode j ▸ unnamed))
      case named =>
        exact fun j k agree node =>
          sound.named j k (sameNode j ▸ sameNode k ▸ agree) (sameNode j ▸ node)
      case up =>
        intro j up
        rw [sameCnx]
        by_cases this : i = j
        · exact ⟨cnx, this ▸ own⟩
        · rw [elsewhere j this] at up
          exact sound.up j up
      case numbered =>
        intro j another held up
        rw [sameCnx] at held
        by_cases this : i = j
        · subst this
          rw [own] at held
          cases held
          rw [here, ← raised]
          exact fits
        · rw [elsewhere j this] at up ⊢
          have differs : another ≠ cnx := by
            rintro rfl
            exact this (sound.apart i j another own held)
          simpa only [other another differs] using sound.numbered j another held up
      case unused =>
        intro j another held down
        rw [sameCnx] at held
        by_cases this : i = j
        · subst this
          rw [here, ← raised] at down
          exact absurd rfl down
        · rw [elsewhere j this] at down
          exact sound.unused j another held down
      case exact =>
        intro another
        change mesh.opened another =
          (List.range (mesh.opened another).length).map fun n => first another + 4 * n
        rcases same another with empty | same
        · simp [empty]
        · rw [same]
          exact sound.exact another
      case zero =>
        intro another
        rcases same another with empty | same
        · exact .inl empty
        · exact (sound.zero another).imp_right same.trans
      case live =>
        intro stream origin listed
        obtain ⟨j, node, own, epoch, number, current⟩ := sound.live stream origin listed
        refine ⟨j, (sameNode j).trans node, own, ?_⟩
        by_cases this : i = j
        · subst this
          rw [here, ← raised]
          -- the streams that were opened before belong to an earlier epoch
          refine ⟨?_, number, fun _ agree => ?_⟩
          · change stream.epoch ≤ ((mesh.links.get i).epoch + 1) % 2 ^ 32
            omega
          · change ((mesh.links.get i).epoch + 1) % 2 ^ 32 = stream.epoch at agree
            omega
        · rw [elsewhere j this]
          exact ⟨epoch, number, current⟩

/-- A new stream of a link that is up. -/
theorem openStream (sound : mesh.Sound) {i cnx : Nat}
    (up : (mesh.links.get i).state = .ready) (own : (mesh.links.get i).cnx = some cnx)
    (first : mesh.starts cnx = 0) :
    Sound { mesh with
      links := (mesh.links.openStream i).1
      opened := noteOpening mesh.opened (some ((mesh.links.openStream i).2, cnx)) } := by
  have inside := PeerLinks.lt_of_ready up
  have here : (mesh.links.openStream i).1.get i =
      { mesh.links.get i with nextStreamId := (mesh.links.get i).nextStreamId + 4 } :=
    mesh.links.get_set_self inside _
  have elsewhere (j : Nat) (other : i ≠ j) :
      (mesh.links.openStream i).1.get j = mesh.links.get j := PeerLinks.get_set_of_ne other _
  have constant (j : Nat) : ∃ next, (mesh.links.get j).nextStreamId ≤ next ∧
      (mesh.links.openStream i).1.get j = { mesh.links.get j with nextStreamId := next } := by
    by_cases this : i = j
    · subst this
      exact ⟨_, Nat.le_add_right _ 4, here⟩
    · exact ⟨_, Nat.le_refl _, elsewhere j this⟩
  have number := sound.numbered i cnx own up
  have others (another : Nat) (differs : another ≠ cnx) :
      noteOpening mesh.opened (some ((mesh.links.openStream i).2, cnx)) another =
        mesh.opened another := Function.update_of_ne differs _ _
  have one : noteOpening mesh.opened (some ((mesh.links.openStream i).2, cnx)) cnx =
      mesh.opened cnx ++ [(mesh.links.get i).nextStreamId] := Function.update_self _ _ _
  generalize noteOpening mesh.opened (some ((mesh.links.openStream i).2, cnx)) = opened
    at others one ⊢
  constructor
  case single => exact sound.single
  case kept => exact sound.kept
  case known =>
    intro j another held
    obtain ⟨next, -, eq⟩ := constant j
    rw [eq] at held
    exact sound.known j another held
  case apart =>
    intro j k another one two
    obtain ⟨next, -, eq⟩ := constant j
    obtain ⟨then', -, eq'⟩ := constant k
    rw [eq] at one
    rw [eq'] at two
    exact sound.apart j k another one two
  case up =>
    intro j up
    obtain ⟨next, -, eq⟩ := constant j
    rw [eq] at up ⊢
    exact sound.up j up
  case unnamed =>
    intro j unnamed
    obtain ⟨next, -, eq⟩ := constant j
    rw [eq] at unnamed ⊢
    exact sound.unnamed j unnamed
  case named =>
    intro j k agree node
    obtain ⟨next, -, eq⟩ := constant j
    obtain ⟨then', -, eq'⟩ := constant k
    rw [eq] at agree node
    rw [eq'] at agree
    exact sound.named j k agree node
  case numbered =>
    intro j another held ready
    by_cases this : i = j
    · subst this
      rw [here] at held ⊢
      obtain rfl := Option.some.inj (own.symm.trans held)
      change (mesh.links.get i).nextStreamId + 4 = mesh.starts cnx + 4 * (opened cnx).length
      rw [one, List.length_append, List.length_singleton]
      omega
    · rw [elsewhere j this] at held ready ⊢
      change _ = mesh.starts another + 4 * (opened another).length
      rw [others another fun same => this (sound.apart i j another (same ▸ own) held)]
      exact sound.numbered j another held ready
  case unused =>
    intro j another held down
    obtain ⟨next, -, eq⟩ := constant j
    rw [eq] at held down
    refine (others another ?_).trans ?_
    rotate_left
    · exact sound.unused j another held down
    · rintro rfl
      obtain rfl := sound.apart i j another own held
      exact down up
  case future =>
    intro another later
    refine (others another ?_).trans ?_
    rotate_left
    · exact sound.future another later
    · rintro rfl
      exact absurd (sound.known i another own) (Nat.not_lt.mpr later)
  case exact =>
    intro another
    change opened another =
      (List.range (opened another).length).map fun n => mesh.starts another + 4 * n
    by_cases this : another = cnx
    · subst this
      rw [one, List.length_append, List.length_singleton, List.range_succ, List.map_append,
        ← sound.exact another, number]
      rfl
    · rw [others another this]
      exact sound.exact another
  case zero =>
    intro another
    by_cases this : another = cnx
    · exact .inr (this ▸ first)
    · exact (sound.zero another).imp_left (others another this).trans
  case live =>
    intro stream origin listed
    obtain ⟨j, node, own, epoch, number, current⟩ := sound.live stream origin listed
    obtain ⟨next, below, eq⟩ := constant j
    refine ⟨j, ?_⟩
    rw [eq]
    exact ⟨node, own, epoch, number.trans_le below, current⟩

/-- What a link that may be brought up is like. -/
theorem readyLink (sound : mesh.Sound) (nodeId now : Nat) (answers : LinkAnswers)
    (member : answers.connects = true → nodeId ≠ 0) :
    (∃ i cnx, mesh.links.readyLink nodeId now answers = (mesh.links, some i) ∧
      (mesh.links.get i).nodeId = nodeId ∧ (mesh.links.get i).state = .ready ∧
      (mesh.links.get i).cnx = some cnx) ∨
    (mesh.links.readyLink nodeId now answers).2 = none ∧
      Sound { mesh with links := (mesh.links.readyLink nodeId now answers).1 } := by
  have brought {links : PeerLinks} (sound : Sound { mesh with links := links }) (i : Nat)
      (own : (links.get i).nodeId = nodeId) :
      Sound { mesh with links := { links.set i
        ((links.get i).ensureConnecting links.nextCnx now answers.connects) with
          nextCnx := links.nextCnx + 1 } } := by
    refine sound.moved (.of_set sound.known ?_)
    rcases (links.get i).ensureConnecting_cases links.nextCnx now answers.connects with
      same | failed | ⟨connects, down, connecting⟩
    · exact .inl same
    · exact .inr (.inl ⟨now, failed⟩)
    · exact .inr (.inr ⟨down, own ▸ member connects, Nat.one_pos, connecting⟩)
  have linked := sound.linkFor nodeId
  unfold PeerLinks.readyLink
  rcases mesh.links.linkFor_cases nodeId with ⟨i, own, node⟩ | full | ⟨i, claimed, inside, -⟩
  · rw [own]
    by_cases up : (mesh.links.get i).state = .ready
    · obtain ⟨cnx, held⟩ := sound.up i up
      exact .inl ⟨i, cnx, by simp [up], node, up, held⟩
    · simp only [up, if_false]
      exact .inr ⟨trivial, brought sound i node⟩
  · rw [full]
    exact .inr ⟨rfl, sound⟩
  · rw [claimed] at linked ⊢
    have here := mesh.links.get_set_self inside { nodeId := nodeId }
    have down : ((mesh.links.set i { nodeId := nodeId }).get i).state ≠ .ready := by
      rw [here]
      exact fun up => nomatch up
    simp only [down, if_false]
    exact .inr ⟨trivial, brought linked i (by rw [here])⟩

/-- A session whose first frame was taken. -/
theorem beginSession (sound : mesh.Sound) {i cnx : Nat}
    (up : (mesh.links.get i).state = .ready) (own : (mesh.links.get i).cnx = some cnx)
    (first : mesh.starts cnx = 0) :
    Sound { mesh with
      links := (mesh.links.openStream i).1
      opened := noteOpening mesh.opened (some ((mesh.links.openStream i).2, cnx))
      sessions := mesh.sessions ++ [((mesh.links.openStream i).2, cnx)] } := by
  have opened := sound.openStream up own first
  have here : (mesh.links.openStream i).1.get i =
      { mesh.links.get i with nextStreamId := (mesh.links.get i).nextStreamId + 4 } :=
    mesh.links.get_set_self (PeerLinks.lt_of_ready up) _
  have node : (mesh.links.get i).nodeId ≠ 0 := by
    intro unnamed
    rw [sound.unnamed i unnamed] at own
    cases own
  have new (cnx : Nat) : ((mesh.links.openStream i).2, cnx) ∉ mesh.sessions := by
    intro listed
    obtain ⟨j, named, -, -, number, -⟩ := sound.live _ _ listed
    obtain rfl := sound.named i j named.symm node
    exact Nat.lt_irrefl _ number
  refine { opened with live := ?live, single := ?single, kept := ?kept }
  case kept => exact fun frame listed => List.mem_append_left _ (sound.kept frame listed)
  case live =>
    intro stream origin listed
    rcases List.mem_append.mp listed with earlier | this
    · exact opened.live stream origin earlier
    · cases List.mem_singleton.mp this
      refine ⟨i, ?_⟩
      rw [here]
      exact ⟨rfl, node, Nat.le_refl _, Nat.lt_add_of_pos_right (by decide), fun _ _ => own⟩
  case single =>
    intro stream one two listed also
    rcases List.mem_append.mp listed with earlier | this
    · rcases List.mem_append.mp also with early | that
      · exact sound.single stream one two earlier early
      · cases List.mem_singleton.mp that
        exact absurd earlier (new one)
    · cases List.mem_singleton.mp this
      rcases List.mem_append.mp also with early | that
      · exact absurd early (new two)
      · cases List.mem_singleton.mp that
        rfl

theorem fail (sound : mesh.Sound) (i now : Nat) :
    Sound { mesh with links := mesh.links.set i ((mesh.links.get i).fail now) } :=
  sound.moved (@PeerLinks.Moved.of_set _ i sound.known _ 0 (.inr (.inl ⟨now, rfl⟩)))

theorem write (sound : mesh.Sound) (i now : Nat) (answers : LinkAnswers) :
    Sound { mesh with links := (mesh.links.write i now answers).1 } := by
  unfold PeerLinks.write
  split
  · exact sound
  split
  · exact sound.fail i now
  · exact sound

variable {nodeId now : Nat} {realm : RealmId} {bytes : Bytes} {answers : LinkAnswers}

/-- A frame that is sent has a new stream on a link that is up, or none. -/
theorem send_cases (sound : mesh.Sound) (member : answers.connects = true → nodeId ≠ 0) :
    (mesh.links.nextStream nodeId realm bytes now answers = none ∧
      (mesh.links.send nodeId realm bytes now answers).2 = none ∧
      Sound { mesh with links := (mesh.links.send nodeId realm bytes now answers).1 }) ∨
    ∃ i cnx, (mesh.links.get i).nodeId = nodeId ∧ (mesh.links.get i).state = .ready ∧
      (mesh.links.get i).cnx = some cnx ∧
      mesh.links.nextStream nodeId realm bytes now answers =
        some ((mesh.links.openStream i).2, cnx) ∧
      (mesh.links.send nodeId realm bytes now answers).1 =
        ((mesh.links.openStream i).1.write i now answers).1 ∧
      ((mesh.links.send nodeId realm bytes now answers).2 = none ∨
        ∃ patched, (mesh.links.send nodeId realm bytes now answers).2 =
          some ((mesh.links.openStream i).2, patched)) := by
  unfold PeerLinks.nextStream PeerLinks.send
  rcases sound.readyLink nodeId now answers member with
    ⟨i, cnx, found, node, up, own⟩ | ⟨down, after⟩
  · rw [found]
    cases patch : patchRealm bytes realm with
    | none => exact .inl ⟨rfl, rfl, sound⟩
    | some patched =>
        refine .inr ⟨i, cnx, node, up, own, by simp [own], ?_⟩
        simp only
        cases taken : ((mesh.links.openStream i).1.write i now answers) with
        | mk after accepted =>
            cases accepted with
            | false => exact ⟨rfl, .inl rfl⟩
            | true => exact ⟨rfl, .inr ⟨patched, rfl⟩⟩
  · generalize mesh.links.readyLink nodeId now answers = ready at down after ⊢
    obtain ⟨links, found⟩ := ready
    subst down
    exact .inl ⟨rfl, rfl, after⟩

/-- The link of a session's stream, if the connection it was opened on is up. -/
theorem streamLink_cases (sound : mesh.Sound) (stream : PeerStream) :
    ((mesh.links.streamLink stream).2 = none ∧
      Sound { mesh with links := (mesh.links.streamLink stream).1 }) ∨
    ∃ i, mesh.links.streamLink stream = (mesh.links, some i) ∧
      (mesh.links.get i).nodeId = stream.nodeId ∧ (mesh.links.get i).state = .ready ∧
      (mesh.links.get i).epoch = stream.epoch := by
  have linked := sound.linkFor stream.nodeId
  unfold PeerLinks.streamLink
  rcases mesh.links.linkFor_cases stream.nodeId with ⟨i, own, node⟩ | full | ⟨i, claimed, inside, -⟩
  · rw [own]
    by_cases current : (mesh.links.get i).state ≠ .ready ∨ (mesh.links.get i).epoch ≠ stream.epoch
    · simp only [current, if_true]
      exact .inl ⟨trivial, sound⟩
    · simp only [current, if_false]
      simp only [not_or, not_not] at current
      exact .inr ⟨i, rfl, node, current⟩
  · rw [full]
    exact .inl ⟨rfl, sound⟩
  · rw [claimed] at linked ⊢
    have down : ((mesh.links.set i { nodeId := stream.nodeId }).get i).state ≠ .ready := by
      rw [mesh.links.get_set_self inside]
      exact fun up => nomatch up
    simp only [down, ne_eq, not_false_eq_true, true_or, if_true]
    exact .inl ⟨trivial, linked⟩

/-- A frame of a session goes over the connection that the session began on. -/
theorem follows (sound : mesh.Sound) {stream : PeerStream} {i cnx : Nat}
    (begun : stream ∈ mesh.sessions.map Prod.fst)
    (node : (mesh.links.get i).nodeId = stream.nodeId) (up : (mesh.links.get i).state = .ready)
    (epoch : (mesh.links.get i).epoch = stream.epoch) (own : (mesh.links.get i).cnx = some cnx) :
    (stream, cnx) ∈ mesh.sessions := by
  obtain ⟨⟨_, origin⟩, listed, rfl⟩ := List.mem_map.mp begun
  obtain ⟨j, named, real, -, -, current⟩ := sound.live _ origin listed
  obtain rfl := sound.named i j (node.trans named.symm) (node ▸ real)
  obtain rfl := Option.some.inj (own.symm.trans (current up epoch))
  exact listed

theorem noteFrame (sound : mesh.Sound) {stream : PeerStream} {cnx : Option Nat} {taken : Bool}
    (follows : ∀ own ∈ cnx, (stream, own) ∈ mesh.sessions) :
    Sound { mesh with written := noteFrame mesh.written stream cnx taken } := by
  refine { sound with kept := fun frame listed => ?_ }
  change frame ∈ Mesh.noteFrame mesh.written stream cnx taken at listed
  unfold Mesh.noteFrame at listed
  split at listed
  · rcases List.mem_append.mp listed with earlier | this
    · exact sound.kept frame earlier
    · obtain ⟨own, held, rfl⟩ := List.mem_map.mp this
      exact follows own (Option.mem_toList.mp held)
  · exact sound.kept frame listed

theorem poll (sound : mesh.Sound) (now : Nat) (connects : Nat → Bool) :
    Sound { mesh with links := mesh.links.poll now connects } := by
  have each (i : Nat) : (mesh.links.poll now connects).get i =
      if (mesh.links.get i).nodeId = 0 ∨ (mesh.links.get i).state ≠ .backoff then mesh.links.get i
      else (mesh.links.get i).ensureConnecting (mesh.links.nextCnx + i) now (connects i) := by
    simp only [PeerLinks.poll, PeerLinks.get, List.getD_eq_getElem?_getD, List.getElem?_mapIdx]
    cases mesh.links.links[i]? with
    | none => rfl
    | some link => rfl
  have inside (i : Nat) (waits : (mesh.links.get i).state = .backoff) :
      i < mesh.links.links.length := by
    by_contra outside
    rw [PeerLinks.get, List.getD_eq_getElem?_getD,
      List.getElem?_eq_none (Nat.le_of_not_lt outside)] at waits
    cases waits
  have changes (i : Nat) : (mesh.links.poll now connects).get i = mesh.links.get i ∨
      (mesh.links.poll now connects).get i = (mesh.links.get i).fail now ∨
      i < mesh.links.links.length ∧ (mesh.links.get i).nodeId ≠ 0 ∧
        (mesh.links.get i).state ≠ .ready ∧
        (mesh.links.poll now connects).get i =
          { mesh.links.get i with state := .connecting, cnx := some (mesh.links.nextCnx + i) } := by
    rw [each]
    split
    · exact .inl rfl
    rename_i waits
    simp only [not_or, not_not] at waits
    rcases (mesh.links.get i).ensureConnecting_cases (mesh.links.nextCnx + i) now (connects i) with
      same | failed | ⟨-, down, connecting⟩
    · exact .inl same
    · exact .inr (.inl failed)
    · exact .inr (.inr ⟨inside i waits.2, waits.1, down, connecting⟩)
  have fresh (i cnx : Nat) (later : mesh.links.nextCnx ≤ cnx)
      (held : ((mesh.links.poll now connects).get i).cnx = some cnx) :
      cnx = mesh.links.nextCnx + i := by
    rcases changes i with same | failed | ⟨-, -, -, connecting⟩
    · rw [same] at held
      exact absurd (sound.known i cnx held) (Nat.not_lt.mpr later)
    · rw [failed] at held
      cases held
    · rw [connecting] at held
      exact (Option.some.inj held).symm
  refine sound.moved ⟨Nat.le_add_right _ _, fun i => ?_, fun i j cnx later one two => ?_⟩
  · rcases changes i with same | failed | ⟨inside, node, down, connecting⟩
    · exact .inl same
    · exact .inr (.inl ⟨now, failed⟩)
    · exact .inr (.inr ⟨_, down, node, Nat.le_add_right _ _, Nat.add_lt_add_left inside _,
        connecting⟩)
  · exact Nat.add_left_cancel ((fresh i cnx later one).symm.trans (fresh j cnx later two))

theorem step (sound : mesh.Sound) {event : Event} (possible : mesh.Possible event)
    (sparing : mesh.Sparing event) : (mesh.step event).Sound := by
  cases event with
  | send nodeId realm bytes now answers =>
      have first (i cnx : Nat) (up : (mesh.links.get i).state = .ready)
          (node : (mesh.links.get i).nodeId = nodeId) (own : (mesh.links.get i).cnx = some cnx) :
          mesh.starts cnx = 0 :=
        sparing _ (PeerLinks.get_mem (PeerLinks.lt_of_ready up)) node up cnx own
      simp only [Mesh.step]
      rcases @send_cases mesh nodeId now realm bytes answers sound possible with
        ⟨none, -, after⟩ | ⟨i, cnx, node, up, own, opening, leads, -⟩
      · rw [none]
        exact after
      · rw [opening, leads]
        exact (sound.openStream up own (first i cnx up node own)).write i now answers
  | beginSession nodeId realm bytes now answers =>
      have first (i cnx : Nat) (up : (mesh.links.get i).state = .ready)
          (node : (mesh.links.get i).nodeId = nodeId) (own : (mesh.links.get i).cnx = some cnx) :
          mesh.starts cnx = 0 :=
        sparing _ (PeerLinks.get_mem (PeerLinks.lt_of_ready up)) node up cnx own
      simp only [Mesh.step]
      rcases @send_cases mesh nodeId now realm bytes answers sound possible with
        ⟨none, refused, after⟩ | ⟨i, cnx, node, up, own, opening, leads, sent⟩
      · rw [none, refused]
        exact after
      · rw [opening, leads]
        rcases sent with refused | ⟨patched, taken⟩
        · rw [refused]
          exact (sound.openStream up own (first i cnx up node own)).write i now answers
        · rw [taken]
          exact (sound.beginSession up own (first i cnx up node own)).write i now answers
  | sendOn stream now answers =>
      simp only [Mesh.step, PeerLinks.sendOn, PeerLinks.streamCnx]
      rcases sound.streamLink_cases stream with ⟨down, after⟩ | ⟨i, found, node, up, epoch⟩
      · generalize mesh.links.streamLink stream = link at down after ⊢
        obtain ⟨links, found⟩ := link
        subst down
        exact after
      · rw [found]
        exact (sound.write i now answers).noteFrame fun own held =>
          sound.follows possible node up epoch held
  | resetSession stream =>
      simp only [Mesh.step, PeerLinks.resetSession, PeerLinks.streamCnx]
      rcases sound.streamLink_cases stream with ⟨down, after⟩ | ⟨i, found, node, up, epoch⟩
      · generalize mesh.links.streamLink stream = link at down after ⊢
        obtain ⟨links, found⟩ := link
        subst down
        exact after
      · rw [found]
        exact sound.noteFrame fun own held => sound.follows possible node up epoch held
  | poll now connects => exact sound.poll now connects
  | onConnected cnx => exact sound.onConnected sparing
  | onClose cnx now =>
      simp only [Mesh.step, PeerLinks.onClose]
      split
      · exact sound
      · exact sound.fail _ now

end Sound

/-- The streams of a connection are numbered from zero on, four apart. -/
def Numbered (mesh : Mesh) : Prop :=
  ∀ cnx, ∃ count, mesh.opened cnx = (List.range count).map fun n => 4 * n

/-- Every frame of a session went over the connection of its first one, and over no other. -/
def Stays (mesh : Mesh) : Prop :=
  ∀ stream origin cnx, (stream, origin) ∈ mesh.sessions → (stream, cnx) ∈ mesh.written →
    cnx = origin

/-- As long as no link that opened streams opens more after it connected again, all is numbered
from zero. -/
theorem streams_are_numbered (maxLinks : Nat) (events : List Event)
    (meets : Run.Meets step (fun mesh event => mesh.Possible event ∧ mesh.Sparing event)
      (init maxLinks) events) :
    (Run.final step (init maxLinks) events).Numbered ∧
      (Run.final step (init maxLinks) events).Stays := by
  have sound : (Run.final step (init maxLinks) events).Sound :=
    Run.invariant (fun mesh event sound may => sound.step may.1 may.2) (.init maxLinks) meets
  constructor
  · intro cnx
    refine ⟨((Run.final step (init maxLinks) events).opened cnx).length,
      (sound.exact cnx).trans ?_⟩
    rcases sound.zero cnx with empty | zero
    · simp [empty]
    · simp [zero]
  · exact fun stream origin cnx begun written =>
      sound.single stream cnx origin (sound.kept _ written) begun

/-- An OPEN with no body. -/
def knock : Bytes := [1, 0, 0, 0, 0, 0, 0, 0]

/-- A link that opens a stream, is closed, and connects again. -/
def reconnection : List Event :=
  [.send 5 0 knock 0 ⟨true, true⟩, .onConnected 0, .beginSession 5 0 knock 0 ⟨true, true⟩,
    .sendOn ⟨5, 1, 0⟩ 0 ⟨true, true⟩, .onClose 0 0, .poll 1000000 fun _ => true, .onConnected 1]

theorem streams_are_numbered_reconnection :
    (Run.final step (init 1) reconnection).Numbered ∧
      (Run.final step (init 1) reconnection).Stays :=
  streams_are_numbered 1 reconnection (by decide)

/-- The first stream of the second connection has the number four. -/
theorem reconnected_link_starts_late :
    Run.Meets step Possible (init 1) (reconnection ++ [.send 5 0 knock 0 ⟨true, true⟩]) ∧
      ¬ (Run.final step (init 1) (reconnection ++ [.send 5 0 knock 0 ⟨true, true⟩])).Numbered := by
  refine ⟨by decide, fun numbered => ?_⟩
  obtain ⟨count, starts⟩ := numbered 1
  have late : (Run.final step (init 1)
      (reconnection ++ [.send 5 0 knock 0 ⟨true, true⟩])).opened 1 = [4] := by decide
  rw [late] at starts
  cases count with
  | zero => cases starts
  | succ count =>
      rw [List.range_succ_eq_map] at starts
      exact absurd (List.cons.inj starts).1 (by decide)

end Mesh

end LyuneGateway.Worker
