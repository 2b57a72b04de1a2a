import LyuneGateway.Wss.Receiving

/-!
# The request does not depend on how it arrives

The head of a request ends with its first empty line. The parser looks at
nothing behind it, so that it never revises an answer when more input arrives.
A connection therefore comes to the same end however the request and the frames
behind it are cut into pieces.
-/

namespace LyuneGateway.Wss

/-! ## The head of a request -/

def emptyLine : Bytes := [13, 10, 13, 10]

/-- A complete head ends with an empty line, and no shorter part of it does. -/
structure IsHead (head : Bytes) : Prop where
  ends : emptyLine <:+ head
  first : ∀ shorter, shorter <+: head → emptyLine <:+ shorter → shorter = head

theorem headEnd_of_emptyLine {input : Bytes} (here : emptyLine <+: input) :
    headEnd input = some 0 := by
  obtain ⟨rest, rfl⟩ := here
  rfl

theorem headEnd_cons {byte : UInt8} {rest : Bytes} (later : ¬ emptyLine <+: byte :: rest) :
    headEnd (byte :: rest) = (headEnd rest).map (· + 1) := by
  rw [headEnd]
  rintro tail rfl rfl
  exact later ⟨tail, rfl⟩

/-- The head ends where an empty line stands for the first time. -/
theorem headEnd_eq_some {input : Bytes} {finish : Nat} :
    headEnd input = some finish ↔
      emptyLine <+: input.drop finish ∧ ∀ place < finish, ¬ emptyLine <+: input.drop place := by
  induction input generalizing finish with
  | nil =>
      constructor
      · nofun
      · rintro ⟨here, _⟩
        simp [emptyLine] at here
  | cons byte rest ih =>
      by_cases here : emptyLine <+: byte :: rest
      · rw [headEnd_of_emptyLine here]
        constructor
        · rintro ⟨⟩
          exact ⟨here, nofun⟩
        · rintro ⟨_, first⟩
          cases finish with
          | zero => rfl
          | succ finish => exact absurd here (first 0 (Nat.succ_pos finish))
      · rw [headEnd_cons here]
        cases finish with
        | zero => simp [here]
        | succ finish =>
            simp only [Option.map_eq_some_iff, Nat.add_right_cancel_iff, exists_eq_right, ih,
              List.drop_succ_cons]
            refine and_congr_right fun _ => ⟨fun first place before => ?_, fun first place before =>
              first (place + 1) (Nat.succ_lt_succ before)⟩
            cases place with
            | zero => exact here
            | succ place => exact first place (Nat.lt_of_succ_lt_succ before)

theorem length_of_emptyLine {input : Bytes} {place : Nat} (here : emptyLine <+: input.drop place) :
    place + 4 ≤ input.length := by
  have long := here.length_le
  rw [List.length_drop] at long
  simp only [emptyLine, List.length_cons, List.length_nil] at long
  omega

/-- Input ends with an empty line where that line starts four bytes before. -/
theorem emptyLine_take {input : Bytes} {place : Nat} (within : place + 4 ≤ input.length) :
    emptyLine <:+ input.take (place + 4) ↔ emptyLine <+: input.drop place := by
  rw [List.take_add, List.prefix_iff_eq_take, List.suffix_iff_eq_drop]
  have four : (input.take place ++ (input.drop place).take 4).length - emptyLine.length = place := by
    simp only [emptyLine, List.length_append, List.length_take, List.length_drop, List.length_cons,
      List.length_nil]
    omega
  have before : (input.take place).length = place := by simp; omega
  rw [four, List.drop_append_of_le_length before.ge, List.drop_eq_nil_of_le before.le]
  rfl

theorem headEnd_iff {input : Bytes} {finish : Nat} :
    headEnd input = some finish ↔
      finish + 4 ≤ input.length ∧ IsHead (input.take (finish + 4)) := by
  rw [headEnd_eq_some]
  constructor
  · rintro ⟨here, first⟩
    have within := length_of_emptyLine here
    refine ⟨within, (emptyLine_take within).mpr here, fun shorter short ends => ?_⟩
    obtain ⟨place, size⟩ : ∃ place, shorter.length = place + 4 :=
      ⟨shorter.length - 4, by have := ends.length_le; simp [emptyLine] at this; omega⟩
    have least := short.length_le
    rw [List.length_take] at least
    obtain rfl : shorter = input.take (place + 4) := by
      rw [← size]
      exact List.prefix_iff_eq_take.mp (short.trans (List.take_prefix _ _))
    have late : ¬ place < finish := fun early =>
      first place early ((emptyLine_take (by omega)).mp ends)
    rw [show place = finish by omega]
  · rintro ⟨within, head⟩
    refine ⟨(emptyLine_take within).mp head.ends, fun place early here => ?_⟩
    have same := head.first (input.take (place + 4)) ?_ ?_
    · have sizes := congrArg List.length same
      simp only [List.length_take] at sizes
      omega
    · exact List.take_prefix_take_left (by omega)
    · exact (emptyLine_take (by omega)).mpr here

theorem headEnd_append {input : Bytes} {finish : Nat} (found : headEnd input = some finish)
    (more : Bytes) : headEnd (input ++ more) = some finish := by
  obtain ⟨within, head⟩ := headEnd_iff.mp found
  refine headEnd_iff.mpr ⟨by rw [List.length_append]; omega, ?_⟩
  rwa [List.take_append_of_le_length within]

/-- There is no complete head where the parser finds no end of one. -/
theorem headEnd_eq_none_iff {input : Bytes} :
    headEnd input = none ↔ ∀ head, head <+: input → ¬ IsHead head := by
  constructor
  · intro nowhere head first complete
    obtain ⟨finish, size⟩ : ∃ finish, head.length = finish + 4 :=
      ⟨head.length - 4, by have := complete.ends.length_le; simp [emptyLine] at this; omega⟩
    have cut := List.prefix_iff_eq_take.mp first
    rw [size] at cut
    rw [headEnd_iff.mpr ⟨size ▸ first.length_le, cut ▸ complete⟩] at nowhere
    cases nowhere
  · intro nowhere
    rcases found : headEnd input with _ | finish
    · rfl
    · exact absurd (headEnd_iff.mp found).2 (nowhere _ (List.take_prefix _ _))

/-! ## The parser looks at the head alone -/

/-- What the parser makes of a head without its empty line. -/
def readHead (head : Bytes) (consumed : Nat) : Except UpgradeError UpgradeRequest :=
  match splitLines head with
  | requestLine :: line :: lines => do
      readRequestLine requestLine
      let headers ← (line :: lines).foldlM Headers.readLine {}
      headers.request consumed
  | _ => .error .malformedRequest

theorem parseUpgrade_of_some {input : Bytes} {finish : Nat} (found : headEnd input = some finish) :
    parseUpgrade input =
      if maxHttpHeadSize < finish + 4 then .error .headerTooLarge
      else readHead (input.take finish) (finish + 4) := by
  simp only [parseUpgrade, found]
  rfl

theorem parseUpgrade_of_none {input : Bytes} (nowhere : headEnd input = none) :
    parseUpgrade input =
      if maxHttpHeadSize < input.length then .error .headerTooLarge else .error .needMore := by
  simp only [parseUpgrade, nowhere]

theorem readRequestLine_definite (line : Bytes) : readRequestLine line ≠ .error .needMore := by
  unfold readRequestLine
  split
  · split
    · nofun
    split <;> nofun
  · nofun

theorem readField_definite (headers : Headers) (name value : Bytes) :
    headers.readField name value ≠ .error .needMore := by
  unfold Headers.readField
  split_ifs <;> nofun

theorem readLine_definite (headers : Headers) (line : Bytes) :
    headers.readLine line ≠ .error .needMore := by
  unfold Headers.readLine
  split
  · nofun
  split
  · nofun
  dsimp only
  split
  · exact readField_definite headers _ _
  · nofun

theorem readLines_definite (headers : Headers) (lines : List Bytes) :
    lines.foldlM Headers.readLine headers ≠ .error .needMore := by
  induction lines generalizing headers with
  | nil => nofun
  | cons line lines ih =>
      rw [List.foldlM_cons]
      have definite := readLine_definite headers line
      generalize headers.readLine line = answer at definite ⊢
      cases answer with
      | error error => exact definite
      | ok headers => exact ih headers

theorem request_definite (headers : Headers) (consumed : Nat) :
    headers.request consumed ≠ .error .needMore := by
  unfold Headers.request
  cases headers.host with
  | none => nofun
  | some host =>
      cases headers.key with
      | none => dsimp only; split_ifs <;> nofun
      | some key => dsimp only; split_ifs <;> nofun

/-- A complete head is judged for good. -/
theorem readHead_definite (head : Bytes) (consumed : Nat) :
    readHead head consumed ≠ .error .needMore := by
  unfold readHead
  split
  · rename_i requestLine line lines same
    have opening := readRequestLine_definite requestLine
    have body := readLines_definite {} (line :: lines)
    generalize readRequestLine requestLine = opened at opening ⊢
    generalize (line :: lines).foldlM Headers.readLine {} = read at body ⊢
    cases opened with
    | error error =>
        change Except.error error ≠ _
        rintro ⟨⟩
        exact opening rfl
    | ok _ =>
        cases read with
        | error error =>
            change Except.error error ≠ _
            rintro ⟨⟩
            exact body rfl
        | ok headers => exact request_definite headers consumed
  · nofun

theorem request_consumed {headers : Headers} {consumed : Nat} {request : UpgradeRequest}
    (made : headers.request consumed = .ok request) : request.consumed = consumed := by
  unfold Headers.request at made
  generalize headers.host = host at made
  generalize headers.key = key at made
  cases host with
  | none => cases made
  | some host =>
      cases key with
      | none =>
          dsimp only at made
          split_ifs at made
      | some key =>
          dsimp only at made
          split_ifs at made
          cases made
          rfl

theorem readHead_consumed {head : Bytes} {consumed : Nat} {request : UpgradeRequest}
    (made : readHead head consumed = .ok request) : request.consumed = consumed := by
  unfold readHead at made
  split at made
  · obtain ⟨_, _, made⟩ := Protocol.FrameHeader.bind_eq_ok.mp made
    obtain ⟨headers, _, made⟩ := Protocol.FrameHeader.bind_eq_ok.mp made
    exact request_consumed made
  · cases made

/-- More is asked for exactly when no complete head is there and there is room for one. -/
theorem parseUpgrade_needMore_iff {input : Bytes} :
    parseUpgrade input = .error .needMore ↔
      (∀ head, head <+: input → ¬ IsHead head) ∧ input.length ≤ maxHttpHeadSize := by
  rw [← headEnd_eq_none_iff]
  rcases found : headEnd input with _ | finish
  · rw [parseUpgrade_of_none found]
    split_ifs with large
    · exact ⟨nofun, fun ⟨_, small⟩ => absurd large (Nat.not_lt.mpr small)⟩
    · exact ⟨fun _ => ⟨rfl, Nat.not_lt.mp large⟩, fun _ => rfl⟩
  · rw [parseUpgrade_of_some found]
    refine ⟨fun waits => ?_, nofun⟩
    split_ifs at waits
    · cases waits
    · exact absurd waits (readHead_definite _ _)

/-- A request that is accepted is a head, which is as long as what is consumed. -/
theorem parseUpgrade_consumed {input : Bytes} {request : UpgradeRequest}
    (parsed : parseUpgrade input = .ok request) :
    request.consumed ≤ input.length ∧ IsHead (input.take request.consumed) := by
  rcases found : headEnd input with _ | finish
  · rw [parseUpgrade_of_none found] at parsed
    split_ifs at parsed
  · rw [parseUpgrade_of_some found] at parsed
    split_ifs at parsed
    rw [readHead_consumed parsed]
    exact headEnd_iff.mp found

/-- An answer stays the same however much input comes behind it. -/
theorem parseUpgrade_append {input : Bytes} (more : Bytes)
    (definite : parseUpgrade input ≠ .error .needMore) :
    parseUpgrade (input ++ more) = parseUpgrade input := by
  rcases found : headEnd input with _ | finish
  · rw [parseUpgrade_of_none found] at definite ⊢
    split_ifs at definite ⊢ with large
    · rcases later : headEnd (input ++ more) with _ | finish
      · rw [parseUpgrade_of_none later, if_pos (by rw [List.length_append]; omega)]
      · rw [parseUpgrade_of_some later, if_pos]
        -- a head that ended within the limit would have been there before
        by_contra small
        have within : finish + 4 ≤ input.length := by omega
        have head := (headEnd_iff.mp later).2
        rw [List.take_append_of_le_length within] at head
        exact headEnd_eq_none_iff.mp found _ (List.take_prefix _ _) head
    · exact absurd rfl definite
  · obtain ⟨within, _⟩ := headEnd_iff.mp found
    rw [parseUpgrade_of_some found, parseUpgrade_of_some (headEnd_append found more),
      List.take_append_of_le_length (by omega)]

namespace Connection

variable {State Worker : Type}

section Opening

variable (config : ListenerConfig) (tls : Tls State) (handler : Handler Worker)

/-- How a connection that waits for its request is left by its input. -/
inductive Opens (connection : Connection State Worker) (input : Bytes) :
    Connection State Worker → Prop where
  | waits (short : parseUpgrade input = .error .needMore) :
      Opens connection input (connection.withPlain input)
  | refused {error : UpgradeError} (rest : Bytes) (other : error ≠ .needMore)
      (refusal : parseUpgrade input = .error error) :
      Opens connection input ((connection.beginImmediateClose tls).withPlain rest)
  | declined {request : UpgradeRequest} {error : DriveError} (rest : Bytes)
      (parsed : parseUpgrade input = .ok request)
      (refusal : (connection.upgrade config tls handler request).1 = .error error) :
      Opens connection input (((connection.upgrade config tls handler
        request).2.beginImmediateClose tls).withPlain rest)
  | opened {request : UpgradeRequest} {after : Connection State Worker}
      (parsed : parseUpgrade input = .ok request)
      (accepted : (connection.upgrade config tls handler request).1 = .ok ())
      (leads : Leads tls ((clientScanner maxRecordSize).fold (hearFrame tls handler)
        (connection.upgrade config tls handler request).2 (input.drop request.consumed)) after) :
      Opens connection input after

end Opening

variable {config : ListenerConfig} {tls : Tls State} {handler : Handler Worker}
  {connection : Connection State Worker}

variable (config tls handler) in
/-- What the upgrade does does not depend on what waits, of which it takes the request. -/
theorem upgrade_withPlain (connection : Connection State Worker) (plain : Bytes)
    (request : UpgradeRequest) :
    ∃ rest, (connection.withPlain plain).upgrade config tls handler request =
        ((connection.upgrade config tls handler request).1,
          (connection.upgrade config tls handler request).2.withPlain rest) ∧
      ((connection.upgrade config tls handler request).1 = .ok () →
        rest = plain.drop request.consumed) := by
  unfold upgrade
  dsimp only
  split_ifs
  · exact ⟨plain, rfl, nofun⟩
  · exact ⟨plain, rfl, nofun⟩
  cases buildUpgradeResponse config.sha1 request.key with
  | error error => exact ⟨plain, rfl, nofun⟩
  | ok response =>
      dsimp only
      cases connection.output.enqueueRaw response with
      | error error => exact ⟨plain, rfl, nofun⟩
      | ok output =>
          dsimp only
          rcases handler.accept connection.worker (tls.serverName connection.tls) with
            ⟨_ | handle, worker⟩
          · exact ⟨plain, rfl, nofun⟩
          · exact ⟨plain.drop request.consumed, rfl, fun _ => rfl⟩

/-- A connection that has accepted its request listens. -/
theorem listens_of_upgrade (reading : connection.closeAfterFlush = false) {request : UpgradeRequest}
    (accepted : (connection.upgrade config tls handler request).1 = .ok ()) :
    (connection.upgrade config tls handler request).2.listens = true ∧
      (connection.upgrade config tls handler request).2.session.isSome := by
  unfold upgrade at accepted ⊢
  dsimp only at accepted ⊢
  split_ifs at accepted ⊢
  generalize buildUpgradeResponse config.sha1 request.key = built at accepted ⊢
  cases built with
  | error error => cases accepted
  | ok response =>
      dsimp only at accepted ⊢
      generalize connection.output.enqueueRaw response = queued at accepted ⊢
      cases queued with
      | error error => cases accepted
      | ok output =>
          dsimp only at accepted ⊢
          generalize handler.accept connection.worker (tls.serverName connection.tls) = answer
            at accepted ⊢
          rcases answer with ⟨_ | handle, worker⟩
          · cases accepted
          · simp [consumePlain, Connection.listens, reading]

theorem deaf_beginImmediateClose (connection : Connection State Worker) :
    Deaf (connection.beginImmediateClose tls) := by
  constructor <;> unfold beginImmediateClose <;> split <;>
    simp [Connection.listens, upgradeComplete, *]

theorem beginImmediateClose_withPlain (connection : Connection State Worker) (plain : Bytes) :
    (connection.withPlain plain).beginImmediateClose tls =
      (connection.beginImmediateClose tls).withPlain plain := by
  unfold beginImmediateClose
  by_cases closing : connection.state = .closing
  · simp only [if_pos closing]
  · simp only [if_neg closing]

variable (config handler) in
/-- A scan goes on with the pieces that come after it. -/
theorem Leads.extend {input : Bytes} {after : Connection State Worker}
    (leads : Leads tls ((clientScanner maxRecordSize).fold (hearFrame tls handler) connection input)
      after) (pieces : List Bytes) :
    Leads tls ((clientScanner maxRecordSize).fold (hearFrame tls handler) connection
        (input ++ pieces.flatten))
      (pieces.foldl (receive config tls handler) after) := by
  rcases scan : (clientScanner maxRecordSize).fold (hearFrame tls handler) connection input with
    ⟨final, verdict⟩
  rw [scan] at leads
  cases leads with
  | more rest listens session =>
      rw [Scanner.fold_append scan]
      exact receive_all_leads config tls handler pieces listens session rest (Scanner.next_rest scan)
  | stopped rest deaf =>
      obtain ⟨collected, same⟩ := receive_all_of_deaf config tls handler deaf rest pieces
      rw [Scanner.fold_append_of_ended scan nofun, same]
      exact .stopped collected deaf
  | failed rest listens =>
      obtain ⟨collected, same⟩ := receive_all_of_deaf config tls handler
        (deaf_protocolClose listens _) rest pieces
      rw [Scanner.fold_append_of_ended scan nofun, same]
      exact .failed collected listens

variable (config tls handler) in
/-- A piece is read behind what waits. -/
theorem receive_opens (upgrading : connection.state = .httpUpgrade)
    (reading : connection.closeAfterFlush = false) (waiting piece : Bytes) :
    Opens config tls handler connection (waiting ++ piece)
      ((connection.withPlain waiting).receive config tls handler piece) := by
  unfold receive processPlain
  dsimp only
  rw [if_neg (by simp [reading])]
  generalize waiting ++ piece = input
  rcases sized : input.length with _ | fuel
  · obtain rfl := List.length_eq_zero_iff.mp sized
    exact .waits rfl
  have filled : input ≠ [] := by
    rintro rfl
    cases sized
  unfold takeUnits
  rw [if_neg filled]
  unfold takeUnit
  simp only [upgrading]
  rcases parsed : parseUpgrade input with error | request
  · by_cases short : error = .needMore
    · subst short
      exact .waits parsed
    · have refused : Opens config tls handler connection input
          ((connection.beginImmediateClose tls).withPlain input) := .refused input short parsed
      rw [← beginImmediateClose_withPlain] at refused
      cases error <;> first | exact refused | exact absurd rfl short
  · obtain ⟨within, head⟩ := parseUpgrade_consumed parsed
    obtain ⟨rest, same, cut⟩ := upgrade_withPlain config tls handler connection input request
    dsimp only
    rw [same]
    rcases answer : (connection.upgrade config tls handler request).1 with error | ⟨⟩
    · have declined : Opens config tls handler connection input
          (((connection.upgrade config tls handler request).2.beginImmediateClose tls).withPlain
            rest) := .declined rest parsed answer
      rw [← beginImmediateClose_withPlain] at declined
      exact declined
    · obtain ⟨listens, session⟩ := listens_of_upgrade reading answer
      have ends := head.ends.length_le
      rw [List.length_take, emptyLine] at ends
      obtain ⟨after, taken, leads⟩ := takeUnits_leads config tls handler
        (connection.upgrade config tls handler request).2 (input.drop request.consumed) fuel
        (by rw [List.length_drop]; simp at ends; omega) listens session
      dsimp only
      rw [cut answer, taken]
      exact .opened parsed answer leads

variable (config tls handler) in
/-- The pieces of the request and of the frames behind it are read as one. -/
theorem receive_all_opens (upgrading : connection.state = .httpUpgrade)
    (reading : connection.closeAfterFlush = false) (pieces : List Bytes) (waiting : Bytes)
    (short : parseUpgrade waiting = .error .needMore) :
    Opens config tls handler connection (waiting ++ pieces.flatten)
      (pieces.foldl (receive config tls handler) (connection.withPlain waiting)) := by
  induction pieces generalizing waiting with
  | nil =>
      rw [List.flatten_nil, List.append_nil]
      exact .waits short
  | cons piece pieces ih =>
      have first := receive_opens config tls handler upgrading reading waiting piece
      rw [List.foldl_cons, List.flatten_cons, ← List.append_assoc]
      generalize (connection.withPlain waiting).receive config tls handler piece = middle at first ⊢
      generalize waiting ++ piece = input at first ⊢
      cases first with
      | waits short => exact ih input short
      | refused rest other refusal =>
          obtain ⟨collected, same⟩ := receive_all_of_deaf config tls handler
            (deaf_beginImmediateClose connection) rest pieces
          rw [same]
          refine .refused collected other ?_
          rw [parseUpgrade_append _ (by rw [refusal]; simpa using other), refusal]
      | declined rest parsed refusal =>
          obtain ⟨collected, same⟩ := receive_all_of_deaf config tls handler
            (deaf_beginImmediateClose _) rest pieces
          rw [same]
          refine .declined collected ?_ refusal
          rw [parseUpgrade_append _ (by rw [parsed]; nofun), parsed]
      | @opened request after parsed accepted leads =>
          obtain ⟨within, _⟩ := parseUpgrade_consumed parsed
          refine .opened (by rw [parseUpgrade_append _ (by rw [parsed]; nofun), parsed]) accepted ?_
          rw [List.drop_append_of_le_length within]
          exact leads.extend config handler pieces

/-! ## The request that is waited for -/

/-- What has been read before the upgrade is not a request yet. -/
def Awaits (connection : Connection State Worker) : Prop :=
  connection.upgradeComplete = false →
    connection.closeAfterFlush = false ∧ parseUpgrade connection.plain = .error .needMore

theorem awaits_of_ready (ready : connection.upgradeComplete = true) : connection.Awaits := by
  intro early
  rw [ready] at early
  cases early

theorem Awaits.of_same {before after : Connection State Worker} (awaits : before.Awaits)
    (complete : after.upgradeComplete = before.upgradeComplete)
    (flush : after.closeAfterFlush = before.closeAfterFlush) (plain : after.plain = before.plain) :
    after.Awaits := by
  unfold Awaits
  rw [complete, flush, plain]
  exact awaits

theorem awaits_beginImmediateClose (connection : Connection State Worker) :
    (connection.beginImmediateClose tls).Awaits :=
  awaits_of_ready (deaf_beginImmediateClose connection).ready

theorem Leads.ready {scan : Connection State Worker × Verdict UInt8 WebFrameError}
    {after : Connection State Worker} (leads : Leads tls scan after) :
    after.upgradeComplete = true := by
  cases leads with
  | more rest listens session => exact ready_of_listens listens
  | stopped rest deaf => exact deaf.ready
  | failed rest listens => exact (deaf_protocolClose listens _).ready

theorem Opens.awaits {input : Bytes} {after : Connection State Worker}
    (opens : Opens config tls handler connection input after)
    (reading : connection.closeAfterFlush = false) : after.Awaits := by
  cases opens with
  | waits short => exact fun _ => ⟨reading, short⟩
  | refused rest other refusal =>
      exact awaits_of_ready (deaf_beginImmediateClose connection).ready
  | declined rest parsed refusal => exact awaits_of_ready (deaf_beginImmediateClose _).ready
  | opened parsed accepted leads => exact awaits_of_ready leads.ready

/-- A part that does not fail leaves the connection waiting as before. -/
def Patient (part : Part State Worker) : Prop :=
  ∀ connection, connection.Awaits →
    (∀ error, (part connection).1 ≠ .error (.failed error)) → (part connection).2.Awaits

theorem inTurn_patient {parts : List (Part State Worker)} (each : ∀ part ∈ parts, Patient part) :
    Patient (inTurn parts) := by
  induction parts with
  | nil => exact fun _ awaits _ => awaits
  | cons part parts ih =>
      intro connection awaits fine
      have first := each part List.mem_cons_self connection awaits
      have later := ih fun part listed => each part (List.mem_cons_of_mem _ listed)
      unfold inTurn at fine ⊢
      rcases done : part connection with ⟨exit | moved, middle⟩
      · rw [done] at first
        simp only [done] at fine ⊢
        exact first fine
      · rw [done] at first
        have rest := later middle (first fun _ same => by cases same)
        rcases more : inTurn parts middle with ⟨exit | moved, last⟩
        · rw [more] at rest
          simp only [done, more] at fine ⊢
          exact rest fine
        · rw [more] at rest
          simp only [done, more] at fine ⊢
          exact rest fun _ same => by cases same

theorem takeOut_patient : Patient (takeOut tls : Part State Worker) := by
  intro connection awaits _
  unfold takeOut
  split <;> exact awaits.of_same rfl rfl rfl

theorem shake_patient : Patient (Connection.shake tls : Part State Worker) := by
  intro connection awaits _
  unfold Connection.shake
  split
  · exact awaits
  rename_i started
  have shaking : connection.state = .tlsHandshake := not_not.mp started
  have early : connection.upgradeComplete = false := by simp [upgradeComplete, shaking]
  split
  · exact awaits.of_same rfl rfl rfl
  · exact awaits.of_same rfl rfl rfl
  · exact fun _ => awaits early

variable (config tls handler) in
theorem awaits_processPlain (reads : connection.state = .httpUpgrade ∨ connection.state = .open)
    (reading : connection.closeAfterFlush = false) (piece : Bytes) {after : Connection State Worker}
    (processed : (connection.withPlain (connection.plain ++ piece)).processPlain config tls handler =
      (.ok (), after)) : after.Awaits := by
  rcases reads with upgrading | running
  · have opens := receive_opens config tls handler upgrading reading connection.plain piece
    have received : (connection.withPlain connection.plain).receive config tls handler piece =
        after := by
      unfold receive
      dsimp only
      rw [processed]
    rw [received] at opens
    exact opens.awaits reading
  · have upright : Upright (connection.withPlain (connection.plain ++ piece))
        ((connection.withPlain (connection.plain ++ piece)).processPlain config tls handler).2 :=
      processPlain_upright _
    rw [processed] at upright
    exact awaits_of_ready (upright.complete (by simp [upgradeComplete, running]))

variable (config tls handler) in
theorem readIn_patient : Patient (readIn config tls handler : Part State Worker) := by
  intro connection awaits fine
  unfold readIn at fine ⊢
  split_ifs at fine ⊢ with reads full
  · exact absurd rfl (fine _)
  · generalize tls.readPlain connection.tls (plainBufferSize - connection.plain.length) = answer
      at fine ⊢
    rcases answer with ⟨error | bytes | - | -, state⟩
    · exact absurd rfl (fine _)
    · have processed {after : Connection State Worker} :
          processPlain config tls handler
            { connection with tls := state, plain := connection.plain ++ bytes } = (.ok (), after) →
          after.Awaits := by
        have process := @awaits_processPlain State Worker config tls handler
          { connection with tls := state } reads.1 reads.2 bytes after
        exact process
      dsimp only at fine ⊢
      generalize processPlain config tls handler
        { connection with tls := state, plain := connection.plain ++ bytes } = answer
        at fine processed ⊢
      rcases answer with ⟨error | ⟨⟩, after⟩
      · exact absurd rfl (fine _)
      · exact processed rfl
    · exact awaits.of_same rfl rfl rfl
    · exact awaits_beginImmediateClose _
  · exact awaits

theorem writeOut_patient : Patient (writeOut tls : Part State Worker) := by
  intro connection awaits _
  unfold writeOut
  split
  · exact awaits
  split
  · exact awaits.of_same rfl rfl rfl
  · exact awaits.of_same rfl rfl rfl
  · exact awaits.of_same rfl rfl rfl
  · exact awaits_beginImmediateClose _

theorem finish_patient : Patient (finish tls : Part State Worker) := by
  intro connection awaits fine
  unfold finish at fine ⊢
  split_ifs at fine ⊢
  case neg => exact awaits
  have patient : Patient (takeOut tls : Part State Worker) := takeOut_patient
  have taken := patient connection awaits
  generalize takeOut tls connection = answer at fine taken ⊢
  rcases answer with ⟨exit | ⟨_ | _⟩, after⟩
  · exact taken fine
  · exact awaits_beginImmediateClose _
  · exact taken fun _ same => by cases same

variable (config tls handler) in
theorem round_patient : Patient (round config tls handler : Part State Worker) := by
  refine inTurn_patient fun part listed => ?_
  simp only [List.mem_cons, List.not_mem_nil, or_false] at listed
  rcases listed with rfl | rfl | rfl | rfl | rfl | rfl
  · intro connection awaits _
    unfold provide
    split
    · exact awaits
    · exact awaits.of_same rfl rfl rfl
  · exact shake_patient
  · exact readIn_patient config tls handler
  · exact writeOut_patient
  · intro connection awaits fine
    unfold send at fine ⊢
    split_ifs at fine ⊢
    · exact awaits
    · exact takeOut_patient connection awaits fine
  · exact finish_patient

theorem driveFor_awaits (rounds : Nat) {connection : Connection State Worker}
    (awaits : connection.Awaits) (fine : (driveFor config tls handler rounds connection).1 = .ok ()) :
    (driveFor config tls handler rounds connection).2.Awaits := by
  have settled {connection : Connection State Worker} (awaits : connection.Awaits) :
      connection.settle.2.Awaits := by
    unfold settle
    split <;> exact awaits
  induction rounds generalizing connection with
  | zero => cases fine
  | succ rounds ih =>
      have once := round_patient config tls handler connection awaits
      unfold driveFor at fine ⊢
      split_ifs at fine ⊢
      · exact settled awaits
      generalize round config tls handler connection = answer at fine once ⊢
      rcases answer with ⟨⟨- | error⟩ | ⟨_ | _⟩, after⟩
      · exact once fun _ same => by cases same
      · cases fine
      · exact settled (once fun _ same => by cases same)
      · exact ih (once fun _ same => by cases same) fine

theorem driveOrClose_awaits {connection : Connection State Worker} (awaits : connection.Awaits) :
    (driveOrClose tls (drive config tls handler) connection).2.Awaits := by
  have driven : (drive config tls handler connection).1 = .ok () →
      (drive config tls handler connection).2.Awaits := driveFor_awaits maxRounds awaits
  unfold driveOrClose
  generalize drive config tls handler connection = answer at driven ⊢
  rcases answer with ⟨error | ⟨⟩, after⟩
  · exact awaits_beginImmediateClose after
  · exact driven rfl

theorem startRead_awaits {connection : Connection State Worker} (awaits : connection.Awaits) :
    connection.startRead.Awaits := by
  unfold startRead
  split
  · exact awaits
  · exact awaits.of_same rfl rfl rfl

/-- Whatever happens to a connection, it waits for its request until it is complete. -/
theorem step_awaits {connection : Connection State Worker} (sound : connection.Sound)
    (awaits : connection.Awaits) (event : Event) :
    (connection.step config tls handler event).Awaits := by
  have done (ready : connection.upgradeComplete = true) :
      (connection.step config tls handler event).Awaits := by
    have upright : Upright connection (connection.step config tls handler event) :=
      step_upright sound event
    exact awaits_of_ready (upright.complete ready)
  rcases ready : connection.upgradeComplete with _ | _
  case true => exact done ready
  have lone : connection.session = none := by
    by_contra live
    rw [sound.upgraded (.inl (Option.isSome_iff_ne_none.mpr live))] at ready
    cases ready
  have destroyed {after : Connection State Worker} (lone : after.session = none)
      (awaits : after.Awaits) : (after.destroy config tls handler).Awaits := by
    unfold destroy notifySessionClosed
    dsimp only
    rw [lone]
    exact awaits.of_same rfl rfl rfl
  unfold step
  split
  · exact awaits
  cases event with
  | read result =>
      dsimp only
      split
      · unfold readCallback
        dsimp only
        split
        · exact awaits_beginImmediateClose _
        · exact awaits_beginImmediateClose _
        split
        · exact awaits_beginImmediateClose _
        · exact startRead_awaits (driveOrClose_awaits (awaits.of_same rfl rfl rfl))
      · exact awaits
  | wrote result =>
      dsimp only
      split
      · unfold writeCallback
        dsimp only
        split
        · exact awaits_beginImmediateClose _
        · exact awaits_beginImmediateClose _
        split_ifs
        · exact awaits.of_same rfl rfl rfl
        · exact awaits.of_same rfl rfl rfl
        · exact driveOrClose_awaits (awaits.of_same rfl rfl rfl)
      · exact awaits
  | call call =>
      dsimp only
      rw [if_neg (by simp [lone])]
      exact awaits
  | poll now =>
      dsimp only
      unfold poll
      dsimp only
      split_ifs
      · exact destroyed (by rw [session_beginImmediateClose]; exact lone)
          (awaits_beginImmediateClose connection)
      · exact awaits_beginImmediateClose connection
      · exact destroyed lone awaits
      · exact awaits
  | loopStopped => exact destroyed lone awaits

/-- In every run a connection without a session waits for the request that opens it. -/
theorem run_awaits (config : ListenerConfig) (tls : Tls State) (handler : Handler Worker)
    (deadline : Nat) (events : List Event) :
    (Run.final (step config tls handler) (create config tls handler deadline) events).Awaits := by
  have follow (connection : Connection State Worker) (sound : connection.Sound)
      (awaits : connection.Awaits) :
      (Run.final (step config tls handler) connection events).Awaits := by
    induction events generalizing connection with
    | nil => exact awaits
    | cons event events ih =>
        have upright : Upright connection (step config tls handler connection event) :=
          step_upright sound event
        exact ih _ (upright.sound sound) (step_awaits sound awaits event)
  exact follow _ (create_sound config tls handler deadline) fun _ => ⟨rfl, rfl⟩

/-! ## One end for every way of cutting the input -/

/-- Two connections are the same, but for input that neither of them reads any more. -/
structure SameEnd (first second : Connection State Worker) : Prop where
  same : first.withPlain [] = second.withPlain []
  rest : first.upgradeComplete = false ∨ first.listens = true → first.plain = second.plain

theorem Deaf.sameEnd (deaf : Deaf connection) (first second : Bytes) :
    SameEnd (connection.withPlain first) (connection.withPlain second) where
  same := rfl
  rest := by
    rintro (early | listens)
    · cases deaf.ready.symm.trans early
    · cases deaf.stopped.symm.trans listens

theorem Leads.sameEnd {scan : Connection State Worker × Verdict UInt8 WebFrameError}
    {first second : Connection State Worker} (one : Leads tls scan first)
    (other : Leads tls scan second) : SameEnd first second := by
  cases one with
  | more rest listens session =>
      cases other
      exact ⟨rfl, fun _ => rfl⟩
  | stopped rest deaf =>
      cases other
      exact deaf.sameEnd _ _
  | failed rest listens =>
      cases other
      exact (deaf_protocolClose listens _).sameEnd _ _

theorem Opens.sameEnd {input : Bytes} {first second : Connection State Worker}
    (one : Opens config tls handler connection input first)
    (other : Opens config tls handler connection input second) : SameEnd first second := by
  cases one with
  | waits short =>
      cases other with
      | waits _ => exact ⟨rfl, fun _ => rfl⟩
      | refused rest definite refusal =>
          exact absurd (Except.error.inj (refusal.symm.trans short)) definite
      | declined rest parsed refusal => cases parsed.symm.trans short
      | opened parsed accepted leads => cases parsed.symm.trans short
  | refused rest definite refusal =>
      cases other with
      | waits short => exact absurd (Except.error.inj (refusal.symm.trans short)) definite
      | refused more _ _ => exact (deaf_beginImmediateClose connection).sameEnd rest more
      | declined rest parsed _ => cases parsed.symm.trans refusal
      | opened parsed accepted leads => cases parsed.symm.trans refusal
  | declined rest parsed refusal =>
      cases other with
      | waits short => cases parsed.symm.trans short
      | refused more other refused => cases parsed.symm.trans refused
      | declined more again _ =>
          cases parsed.symm.trans again
          exact (deaf_beginImmediateClose _).sameEnd rest more
      | opened again accepted leads =>
          cases parsed.symm.trans again
          cases refusal.symm.trans accepted
  | opened parsed accepted leads =>
      cases other with
      | waits short => cases parsed.symm.trans short
      | refused more other refused => cases parsed.symm.trans refused
      | declined more again refusal =>
          cases parsed.symm.trans again
          cases refusal.symm.trans accepted
      | opened again _ follows =>
          cases parsed.symm.trans again
          exact leads.sameEnd follows

/-- What a prefix of the input says about the request is final: the head ends at the first empty
line, and nothing behind it matters. A connection that waits for its request, as every connection
of a run does until it is complete, comes to the same end however its input is cut into reads, and
it hands what stands behind the head to the parser of the frames. -/
theorem upgrade_stable (config : ListenerConfig) (tls : Tls State) (handler : Handler Worker) :
    (∀ (input more : Bytes) (request : UpgradeRequest), parseUpgrade input = .ok request →
      parseUpgrade (input ++ more) = .ok request ∧
      request.consumed ≤ input.length ∧ IsHead (input.take request.consumed)) ∧
    (∀ (input more : Bytes) (error : UpgradeError), parseUpgrade input = .error error →
      error ≠ .needMore → parseUpgrade (input ++ more) = .error error) ∧
    (∀ input : Bytes, parseUpgrade input = .error .needMore ↔
      (∀ head, head <+: input → ¬ IsHead head) ∧ input.length ≤ maxHttpHeadSize) ∧
    (∀ (deadline : Nat) (events : List Event),
      (Run.final (step config tls handler) (create config tls handler deadline) events).Awaits) ∧
    ∀ connection : Connection State Worker, connection.Awaits →
      connection.state = .httpUpgrade → ∀ pieces : List Bytes,
        Opens config tls handler connection (connection.plain ++ pieces.flatten)
          (pieces.foldl (receive config tls handler) connection) ∧
        ∀ others : List Bytes, others.flatten = pieces.flatten →
          SameEnd (pieces.foldl (receive config tls handler) connection)
            (others.foldl (receive config tls handler) connection) := by
  refine ⟨fun input more request parsed => ⟨?_, parseUpgrade_consumed parsed⟩,
    fun input more error refusal other => ?_, fun _ => parseUpgrade_needMore_iff,
    run_awaits config tls handler, fun connection awaits upgrading pieces => ?_⟩
  · rw [parseUpgrade_append more (by rw [parsed]; nofun), parsed]
  · rw [parseUpgrade_append more (by rw [refusal]; simpa using other), refusal]
  · obtain ⟨reading, short⟩ := awaits (by simp [upgradeComplete, upgrading])
    have opens (pieces : List Bytes) := receive_all_opens config tls handler upgrading reading
      pieces connection.plain short
    refine ⟨opens pieces, fun others whole => ?_⟩
    have other := opens others
    rw [whole] at other
    exact (opens pieces).sameEnd other

end Connection

end LyuneGateway.Wss
