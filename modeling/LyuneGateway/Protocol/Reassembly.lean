import LyuneGateway.Protocol.Framing

/-!
# Reassembly does not depend on the chunks

However a byte string is cut into chunks, draining the chunks one after the other
hands over the frames that one scan of the whole string finds, and ends as that
scan does.
-/

namespace LyuneGateway.Protocol.Framing

/-- The state of a handler, the frames it was given, and whether it refused the last of them. -/
structure Delivery (σ : Type) where
  state : σ
  frames : List Frame := []
  refused : Bool := false
  deriving DecidableEq

inductive Outcome where
  | clean
  | pending
  | stopped
  | failed (problem : DrainError)
  deriving DecidableEq

variable {σ : Type} (onFrame : σ → Frame → σ × Bool) (memory : Nat → Bool) (maxFrameSize : Nat)

def Delivery.take (delivery : Delivery σ) (frame : Frame) : Delivery σ × Bool :=
  let answer := onFrame delivery.state frame
  ({ state := answer.1, frames := delivery.frames ++ [frame], refused := !answer.2 }, answer.2)

/-- Drain chunk after chunk with one spill, until the handler refuses a frame or framing fails. -/
def drainChunks (delivery : Delivery σ) (spill : Bytes) :
    List Bytes → Delivery σ × Bytes × Outcome
  | [] => (delivery, spill, if spill = [] then .clean else .pending)
  | chunk :: chunks =>
      match drainFrames (Delivery.take onFrame) memory maxFrameSize delivery spill chunk with
      | (delivery, spill, .error problem) => (delivery, spill, .failed problem)
      | (delivery, spill, .ok ()) =>
          if delivery.refused then (delivery, spill, .stopped)
          else drainChunks delivery spill chunks

/-- One scan of the whole input. -/
def parseAll (delivery : Delivery σ) (input : Bytes) : Delivery σ × Outcome :=
  match (frameScanner maxFrameSize).fold (Delivery.take onFrame) delivery input with
  | (delivery, .more rest) => (delivery, if rest = [] then .clean else .pending)
  | (delivery, .stopped) => (delivery, .stopped)
  | (delivery, .failed problem) => (delivery, .failed (.frame problem))

variable {onFrame memory maxFrameSize}

/-- Only a scan that was stopped ends with a refusal. -/
theorem refused_eq_false_of_fold {delivery final : Delivery σ} {input rest : Bytes}
    (scan : (frameScanner maxFrameSize).fold (Delivery.take onFrame) delivery input =
      (final, .more rest)) (accepted : delivery.refused = false) : final.refused = false := by
  induction delivery, input using
    @Scanner.fold_induction _ _ _ _ (frameScanner maxFrameSize) (Delivery.take onFrame) with
  | error delivery input problem scanned =>
      rw [Scanner.fold_of_error scanned] at scan
      cases scan
  | incomplete delivery input scanned =>
      rw [Scanner.fold_of_none scanned] at scan
      cases scan
      exact accepted
  | refused delivery input frame length scanned refusal =>
      rw [Scanner.fold_of_refused scanned refusal] at scan
      cases scan
  | accepted delivery input frame length scanned acceptance ih =>
      rw [Scanner.fold_of_accepted scanned acceptance] at scan
      refine ih scan ?_
      simpa [Delivery.take] using acceptance

theorem refused_eq_true_of_fold {delivery final : Delivery σ} {input : Bytes}
    (scan : (frameScanner maxFrameSize).fold (Delivery.take onFrame) delivery input =
      (final, .stopped)) : final.refused = true := by
  induction delivery, input using
    @Scanner.fold_induction _ _ _ _ (frameScanner maxFrameSize) (Delivery.take onFrame) with
  | error delivery input problem scanned =>
      rw [Scanner.fold_of_error scanned] at scan
      cases scan
  | incomplete delivery input scanned =>
      rw [Scanner.fold_of_none scanned] at scan
      cases scan
  | refused delivery input frame length scanned refusal =>
      rw [Scanner.fold_of_refused scanned refusal] at scan
      cases scan
      simpa [Delivery.take] using refusal
  | accepted delivery input frame length scanned acceptance ih =>
      rw [Scanner.fold_of_accepted scanned acceptance] at scan
      exact ih scan

theorem fill_isSome (target : Nat) (spill data : Bytes) (consumed : Nat) :
    fill (fun _ => true) target spill data consumed ≠ none := by
  unfold fill
  split <;> simp

theorem completePending_ne_outOfMemory (spill data : Bytes) :
    (completePending (fun _ => true) maxFrameSize spill data).2 ≠ .error .outOfMemory := by
  unfold completePending
  split
  · nofun
  split
  · nofun
  split
  · rename_i full
    exact absurd full (fill_isSome _ _ _ _)
  split
  · nofun
  split
  · nofun
  split
  · nofun
  split
  · rename_i full
    exact absurd full (fill_isSome _ _ _ _)
  · split <;> nofun

theorem drainFrames_ne_outOfMemory (state : σ) (spill data : Bytes) :
    (drainFrames onFrame (fun _ => true) maxFrameSize state spill data).2.2 ≠
      .error .outOfMemory := by
  have inPlace (state : σ) (rest : Bytes) :
      (drainRest onFrame (fun _ => true) maxFrameSize state rest).2.2 ≠ .error .outOfMemory := by
    unfold drainRest
    split
    · nofun
    · nofun
    · simp only [↓reduceIte]
      split <;> nofun
  unfold drainFrames
  split
  · exact inPlace state data
  have completed := @completePending_ne_outOfMemory maxFrameSize spill data
  split <;> rename_i answer <;> rw [answer] at completed
  · intro full
    injection full with problem
    exact completed (by rw [problem])
  · nofun
  · simp only
    split
    · exact inPlace _ _
    · nofun

/-- Draining chunks after a partial frame is scanning that frame and all of them. -/
theorem drainChunks_eq_parseAll {delivery : Delivery σ} {spill : Bytes} {chunks : List Bytes}
    (partialFrame : FrameScanner.next maxFrameSize spill = .ok none)
    (accepted : delivery.refused = false) :
    let drained := drainChunks onFrame (fun _ => true) maxFrameSize delivery spill chunks
    (drained.1, drained.2.2) = parseAll onFrame maxFrameSize delivery (spill ++ chunks.flatten) ∧
      ∀ final rest, (frameScanner maxFrameSize).fold (Delivery.take onFrame) delivery
        (spill ++ chunks.flatten) = (final, .more rest) → drained.2.1 = rest := by
  induction chunks generalizing delivery spill with
  | nil =>
      have scan : (frameScanner maxFrameSize).fold (Delivery.take onFrame) delivery spill =
          (delivery, .more spill) :=
        Scanner.fold_of_none (by simp [partialFrame, Except.map])
      simp only [drainChunks, parseAll, List.flatten_nil, List.append_nil, scan, true_and]
      intro final rest same
      cases same
      rfl
  | cons chunk chunks ih =>
      have drained := @drainFrames_drained _ (Delivery.take onFrame) (fun _ => true) maxFrameSize
        delivery spill chunk partialFrame
      have memory := @drainFrames_ne_outOfMemory _ (Delivery.take onFrame) maxFrameSize delivery
        spill chunk
      rw [drainChunks, List.flatten_cons, ← List.append_assoc]
      generalize drainFrames _ _ _ delivery spill chunk = outcome at drained memory ⊢
      cases drained with
      | more scan =>
          have goes := refused_eq_false_of_fold scan accepted
          have short := Scanner.next_rest scan
          simp only [goes, Bool.false_eq_true, ↓reduceIte]
          rw [parseAll, Scanner.fold_append scan]
          apply ih _ goes
          cases answer : FrameScanner.next maxFrameSize _ with
          | error problem => simp [answer, Except.map] at short
          | ok found => cases found <;> simp [answer, Except.map] at short ⊢
      | stopped scan =>
          simp only [refused_eq_true_of_fold scan, ↓reduceIte]
          rw [parseAll, Scanner.fold_append_of_ended scan nofun]
          exact ⟨rfl, nofun⟩
      | failed scan =>
          simp only
          rw [parseAll, Scanner.fold_append_of_ended scan nofun]
          exact ⟨rfl, nofun⟩
      | unscanned => exact absurd rfl memory
      | unsaved => exact absurd rfl memory

theorem take_eq_bytes (input : Bytes) (frame : Frame) (length : Nat)
    (scanned : (frameScanner maxFrameSize).next input = .ok (some (frame, length))) :
    input.take length = frame.bytes := by
  cases answer : FrameScanner.next maxFrameSize input with
  | error problem => simp [answer, Except.map] at scanned
  | ok found =>
      cases found with
      | none => simp [answer, Except.map] at scanned
      | some other =>
          simp only [frameScanner_next, answer, Except.map, Option.map_some, Except.ok.injEq,
            Option.some.injEq, Prod.mk.injEq] at scanned
          obtain ⟨rfl, rfl⟩ := scanned
          obtain ⟨-, -, complete, bytes, -⟩ := FrameScanner.next_eq_some_iff.mp answer
          rw [bytes, List.length_take, min_eq_left complete]

/-- The chunks do not matter: the same frames reach the handler and the outcome is the same as of
one scan of all bytes. No byte is lost or duplicated; as long as nothing has ended the stream, the
spill is what was received and not yet delivered. -/
theorem drainChunks_independent_of_chunking (onFrame : σ → Frame → σ × Bool) (maxFrameSize : Nat)
    (state : σ) (chunks : List Bytes) :
    let drained := drainChunks onFrame (fun _ => true) maxFrameSize { state := state } [] chunks
    (drained.1, drained.2.2) = parseAll onFrame maxFrameSize { state := state } chunks.flatten ∧
      drained.1.frames.flatMap Frame.bytes <+: chunks.flatten ∧
      (drained.2.2 = .clean ∨ drained.2.2 = .pending →
        drained.1.frames.flatMap Frame.bytes ++ drained.2.1 = chunks.flatten) := by
  have same := @drainChunks_eq_parseAll _ onFrame maxFrameSize { state := state } [] chunks rfl rfl
  simp only [List.nil_append] at same ⊢
  generalize drainChunks _ _ _ _ _ chunks = drained at same ⊢
  obtain ⟨ends, spill⟩ := same
  refine ⟨ends, ?_⟩
  rcases scan : (frameScanner maxFrameSize).fold (Delivery.take onFrame) { state := state }
    chunks.flatten with ⟨final, verdict⟩
  obtain ⟨covers, within⟩ := @Scanner.fold_covers _ _ _ _ _ _ Frame.bytes Delivery.frames
    (take_eq_bytes) (fun _ _ => rfl) _ _ _ _ scan
  simp only [List.flatMap_nil, List.nil_append] at covers within
  rw [parseAll, scan] at ends
  cases verdict with
  | more rest =>
      obtain ⟨rfl, -⟩ := Prod.mk.inj ends
      rw [spill _ rest scan]
      exact ⟨within, fun _ => covers rest rfl⟩
  | failed problem =>
      obtain ⟨rfl, outcome⟩ := Prod.mk.inj ends
      exact ⟨within, by simp [outcome]⟩
  | stopped =>
      obtain ⟨rfl, outcome⟩ := Prod.mk.inj ends
      exact ⟨within, by simp [outcome]⟩

end LyuneGateway.Protocol.Framing
