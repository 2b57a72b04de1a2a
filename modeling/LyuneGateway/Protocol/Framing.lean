import LyuneGateway.Protocol.Codec

/-!
# Reassembling frames across callbacks

A callback may end inside a frame. `drainFrames` keeps the partial frame in a
spill buffer, completes it first when the next bytes arrive, and then scans the
rest in place. The two paths together scan the spill followed by the new bytes.
-/

namespace LyuneGateway.Protocol

inductive DrainError where
  | frame (problem : FrameError)
  | outOfMemory
  deriving DecidableEq, Repr

namespace Framing

/-- The bytes taken from the new data and the header they completed. -/
structure Completed where
  consumed : Nat
  header : FrameHeader
  deriving DecidableEq, Repr

/-- Grow the spill to `target` bytes from the data after `consumed`, as far as the data goes. -/
def fill (memory : Nat → Bool) (target : Nat) (spill data : Bytes) (consumed : Nat) :
    Option (Bytes × Nat) :=
  if spill.length < target then
    let take := min (target - spill.length) (data.length - consumed)
    if memory (spill.length + take) then
      some (spill ++ (data.drop consumed).take take, consumed + take)
    else none
  else some (spill, consumed)

/-- Complete the partial frame in the spill; `none` when the data does not suffice. -/
def completePending (memory : Nat → Bool) (maxFrameSize : Nat) (spill data : Bytes) :
    Bytes × Except DrainError (Option Completed) :=
  match FrameType.decode (spill.getD 0 0) with
  | .error problem => (spill, .error (.frame problem))
  | .ok frameType =>
      if frameType = .datagram then (spill, .error (.frame .datagramOnStream))
      else
        match fill memory frameType.headerSize spill data 0 with
        | none => (spill, .error .outOfMemory)
        | some (spill, consumed) =>
            if spill.length < frameType.headerSize then (spill, .ok none)
            else
              match FrameHeader.decode (spill.take frameType.headerSize) with
              | .error problem => (spill, .error (.frame problem))
              | .ok header =>
                  if maxFrameSize < header.frameSize then
                    (spill, .error (.frame .frameTooLarge))
                  else
                    match fill memory header.frameSize spill data consumed with
                    | none => (spill, .error .outOfMemory)
                    | some (spill, consumed) =>
                        if spill.length < header.frameSize then (spill, .ok none)
                        else (spill, .ok (some { consumed := consumed, header := header }))

variable {σ : Type} (onFrame : σ → Frame → σ × Bool) (memory : Nat → Bool) (maxFrameSize : Nat)

/-- Scan in place and keep what does not make up a frame. -/
def drainRest (state : σ) (rest : Bytes) : σ × Bytes × Except DrainError Unit :=
  match (frameScanner maxFrameSize).fold onFrame state rest with
  | (state, .failed problem) => (state, [], .error (.frame problem))
  | (state, .stopped) => (state, [], .ok ())
  | (state, .more leftover) =>
      if leftover = [] then (state, [], .ok ())
      else if memory leftover.length then (state, leftover, .ok ())
      else (state, [], .error .outOfMemory)

/-- Hand every complete frame of spill and data to `onFrame`; the result has the new spill. -/
def drainFrames (state : σ) (spill data : Bytes) : σ × Bytes × Except DrainError Unit :=
  if spill = [] then drainRest onFrame memory maxFrameSize state data
  else
    match completePending memory maxFrameSize spill data with
    | (spill, .error problem) => (state, spill, .error problem)
    | (spill, .ok none) => (state, spill, .ok ())
    | (spill, .ok (some pending)) =>
        let answer := onFrame state {
          header := pending.header
          body := spill.drop pending.header.headerSize
          bytes := spill }
        if answer.2 then
          drainRest onFrame memory maxFrameSize answer.1 (data.drop pending.consumed)
        else (answer.1, [], .ok ())

variable {onFrame memory maxFrameSize}

/-- The spill after `fill`: still a prefix of what was received, and full unless data ran out. -/
theorem fill_spec {target : Nat} {spill data : Bytes} (consumed : Nat) {filled : Bytes × Nat}
    (bound : consumed ≤ data.length)
    (done : fill memory target (spill ++ data.take consumed) data consumed = some filled) :
    filled.1 = spill ++ data.take filled.2 ∧ consumed ≤ filled.2 ∧ filled.2 ≤ data.length ∧
      (filled.1.length < target → filled.2 = data.length) ∧
      ((spill ++ data.take consumed).length ≤ target → filled.1.length ≤ target) := by
  unfold fill at done
  split at done
  · rename_i short
    simp only at done
    split at done
    · cases done
      simp only [List.length_append, List.length_take] at short ⊢
      refine ⟨?_, by omega, by omega, ?_, ?_⟩
      · rw [List.append_assoc, ← List.take_add]
      · simp only [List.length_drop]
        omega
      · simp only [List.length_drop]
        omega
    · simp at done
  · rename_i long
    cases done
    exact ⟨rfl, le_rfl, bound, fun short => absurd short long, id⟩

/-- The answers of `completePending`, read as answers of the scanner on spill and data. -/
theorem completePending_spec (memory : Nat → Bool) {spill : Bytes} (data : Bytes) (nonempty : spill ≠ [])
    (partialFrame : FrameScanner.next maxFrameSize spill = .ok none) :
    match completePending memory maxFrameSize spill data with
    | (_, .error .outOfMemory) => True
    | (_, .error (.frame problem)) =>
        FrameScanner.next maxFrameSize (spill ++ data) = .error problem
    | (grown, .ok none) =>
        grown = spill ++ data ∧ FrameScanner.next maxFrameSize (spill ++ data) = .ok none
    | (grown, .ok (some pending)) =>
        FrameScanner.next maxFrameSize (spill ++ data) = .ok (some {
          header := pending.header
          body := grown.drop pending.header.headerSize
          bytes := grown }) ∧
        grown ++ data.drop pending.consumed = spill ++ data := by
  obtain ⟨first, tail, rfl⟩ := List.exists_cons_of_ne_nil nonempty
  simp only [completePending, List.getD_cons_zero]
  cases typeDecoded : FrameType.decode first with
  | error problem =>
      simp [FrameScanner.next_cons, typeDecoded, bind, Except.bind]
  | ok frameType =>
      by_cases onDatagram : frameType = .datagram
      · simp [FrameScanner.next_cons, typeDecoded, onDatagram, FrameHeader.ok_bind]
      simp only [onDatagram, ↓reduceIte]
      cases headerFill : fill memory frameType.headerSize (first :: tail) data 0 with
      | none => trivial
      | some filled =>
          obtain ⟨grown, consumed⟩ := filled
          obtain ⟨grownIs, -, within, exhausted, headerBound⟩ := fill_spec 0 (Nat.zero_le _)
            (by simpa using headerFill)
          simp only [List.take_zero, List.append_nil] at grownIs within exhausted headerBound
          have whole : first :: (tail ++ data) = grown ++ data.drop consumed := by
            rw [grownIs, List.append_assoc, List.take_append_drop, List.cons_append]
          simp only
          by_cases short : grown.length < frameType.headerSize
          · have all : grown = first :: (tail ++ data) := by
              simp [grownIs, exhausted short]
            rw [if_pos short]
            refine ⟨all, ?_⟩
            rw [all] at short
            simp [FrameScanner.next_cons, typeDecoded, onDatagram, FrameHeader.ok_bind,
              -List.length_cons, -List.length_append, short]
          rw [if_neg short]
          have long : ¬ (first :: (tail ++ data)).length < frameType.headerSize := by
            rw [whole, List.length_append]
            omega
          have sameHeader : (first :: (tail ++ data)).take frameType.headerSize =
              grown.take frameType.headerSize := by
            rw [whole, List.take_append_of_le_length (not_lt.mp short)]
          have scanned := FrameScanner.next_cons maxFrameSize first (tail ++ data)
          simp only [typeDecoded, FrameHeader.ok_bind, onDatagram, long, sameHeader,
            ↓reduceIte] at scanned
          rw [List.cons_append]
          cases decoded : FrameHeader.decode (grown.take frameType.headerSize) with
          | error problem => simpa [decoded, bind, Except.bind] using scanned
          | ok header =>
              simp only [decoded, FrameHeader.ok_bind] at scanned
              by_cases tooLarge : maxFrameSize < header.frameSize
              · simpa [tooLarge] using scanned
              simp only [tooLarge, ↓reduceIte] at scanned ⊢
              have sameType : header.frameType = frameType := by
                have reads := (FrameHeader.decode_eq_ok_iff.mp decoded).frameType
                rw [← sameHeader, List.getD_eq_getElem?_getD,
                  List.getElem?_take_of_lt frameType.headerSize_pos] at reads
                simpa [typeDecoded, eq_comm] using reads
              have bounded : grown.length ≤ header.frameSize := by
                by_cases fits : (first :: tail).length ≤ frameType.headerSize
                · have := headerBound fits
                  simp only [FrameHeader.frameSize, FrameHeader.headerSize, sameType]
                  omega
                · have same : grown = first :: tail := by
                    rw [fill, if_neg (by omega)] at headerFill
                    simp only [Option.some.injEq, Prod.mk.injEq] at headerFill
                    exact headerFill.1.symm
                  subst same
                  simp only [FrameScanner.next_cons, typeDecoded, FrameHeader.ok_bind, onDatagram,
                    short, decoded, tooLarge, ↓reduceIte] at partialFrame
                  by_contra complete
                  rw [if_neg (by omega)] at partialFrame
                  simp at partialFrame
              cases bodyFill : fill memory header.frameSize grown data consumed with
              | none => trivial
              | some filled =>
                  obtain ⟨final, used⟩ := filled
                  rw [grownIs] at bodyFill
                  obtain ⟨finalIs, -, -, exhausted, exact⟩ := fill_spec _ within bodyFill
                  rw [← grownIs] at exact
                  simp only at finalIs exhausted exact ⊢
                  have total : first :: (tail ++ data) = final ++ data.drop used := by
                    rw [finalIs, List.append_assoc, List.take_append_drop, List.cons_append]
                  by_cases incomplete : final.length < header.frameSize
                  · have all : final = first :: (tail ++ data) := by
                      simp [finalIs, exhausted incomplete]
                    rw [if_pos incomplete]
                    refine ⟨all, ?_⟩
                    rw [scanned, if_pos (all ▸ incomplete)]
                  · have full : final.length = header.frameSize :=
                      le_antisymm (exact bounded) (not_lt.mp incomplete)
                    rw [if_neg incomplete]
                    refine ⟨?_, total.symm⟩
                    have taken : (first :: (tail ++ data)).take header.frameSize = final := by
                      rw [total, ← full, List.take_left]
                    rw [scanned, if_neg (by rw [total, List.length_append]; omega), taken]
                    simp only [FrameHeader.headerSize, sameType]

/-- What a drained chunk did: the scan it stands for, unless memory ran out before or after it. -/
inductive Drained (onFrame : σ → Frame → σ × Bool) (maxFrameSize : Nat) (state : σ)
    (input : Bytes) : σ × Bytes × Except DrainError Unit → Prop where
  | more {final : σ} {rest : Bytes}
      (scan : (frameScanner maxFrameSize).fold onFrame state input = (final, .more rest)) :
      Drained onFrame maxFrameSize state input (final, rest, .ok ())
  | stopped {final : σ}
      (scan : (frameScanner maxFrameSize).fold onFrame state input = (final, .stopped)) :
      Drained onFrame maxFrameSize state input (final, [], .ok ())
  | failed {final : σ} {problem : FrameError} {spill : Bytes}
      (scan : (frameScanner maxFrameSize).fold onFrame state input = (final, .failed problem)) :
      Drained onFrame maxFrameSize state input (final, spill, .error (.frame problem))
  | unscanned {spill : Bytes} :
      Drained onFrame maxFrameSize state input (state, spill, .error .outOfMemory)
  | unsaved {final : σ} {rest spill : Bytes}
      (scan : (frameScanner maxFrameSize).fold onFrame state input = (final, .more rest)) :
      Drained onFrame maxFrameSize state input (final, spill, .error .outOfMemory)

theorem drainRest_drained {start state : σ} {input rest : Bytes}
    (continues : (frameScanner maxFrameSize).fold onFrame start input =
      (frameScanner maxFrameSize).fold onFrame state rest) :
    Drained onFrame maxFrameSize start input
      (drainRest onFrame memory maxFrameSize state rest) := by
  unfold drainRest
  rw [← continues]
  split
  · exact .failed ‹_›
  · exact .stopped ‹_›
  · split
    · rename_i empty
      subst empty
      exact .more ‹_›
    · split
      · exact .more ‹_›
      · exact .unsaved ‹_›

/-- Draining a chunk is scanning the spill followed by the chunk. -/
theorem drainFrames_drained (state : σ) {spill data : Bytes}
    (partialFrame : FrameScanner.next maxFrameSize spill = .ok none) :
    Drained onFrame maxFrameSize state (spill ++ data)
      (drainFrames onFrame memory maxFrameSize state spill data) := by
  unfold drainFrames
  by_cases empty : spill = []
  · subst empty
    simpa using drainRest_drained rfl
  rw [if_neg empty]
  have completed := completePending_spec memory data empty partialFrame
  rcases outcome : completePending memory maxFrameSize spill data with ⟨grown, result⟩
  rw [outcome] at completed
  match result, completed with
  | .error .outOfMemory, _ => exact .unscanned
  | .error (.frame problem), scanned =>
      exact .failed (Scanner.fold_of_error (by simp [scanned, Except.map]))
  | .ok none, ⟨whole, scanned⟩ =>
      subst whole
      exact .more (Scanner.fold_of_none (by simp [scanned, Except.map]))
  | .ok (some pending), ⟨scanned, whole⟩ =>
      have next : (frameScanner maxFrameSize).next (spill ++ data) = .ok (some ({
          header := pending.header
          body := grown.drop pending.header.headerSize
          bytes := grown }, grown.length)) := by simp [scanned, Except.map]
      have rest : (spill ++ data).drop grown.length = data.drop pending.consumed := by
        rw [← whole, List.drop_left]
      simp only
      split
      · rename_i accepted
        have scan := Scanner.fold_of_accepted next accepted
        rw [rest] at scan
        exact drainRest_drained scan
      · rename_i refused
        exact .stopped (Scanner.fold_of_refused next (by simpa using refused))

/-- What is left over without an error is the beginning of a frame. -/
theorem Drained.partialFrame {state : σ} {input : Bytes}
    {answer : σ × Bytes × Except DrainError Unit}
    (drained : Drained onFrame maxFrameSize state input answer) (clean : answer.2.2 = .ok ()) :
    FrameScanner.next maxFrameSize answer.2.1 = .ok none := by
  cases drained with
  | more scan =>
      have short := Scanner.next_rest scan
      rw [frameScanner_next] at short
      cases next : FrameScanner.next maxFrameSize _ with
      | error problem => simp [next, Except.map] at short
      | ok frame => cases frame <;> simp_all [Except.map]
  | stopped scan => rfl
  | failed | unscanned | unsaved => cases clean

theorem drainRest_handles (state : σ) (rest : Bytes) :
    ∃ frames : List Frame, (drainRest onFrame memory maxFrameSize state rest).1 =
      frames.foldl (fun state frame => (onFrame state frame).1) state := by
  have handled := @Scanner.fold_handles _ _ _ _ (frameScanner maxFrameSize) onFrame state rest
  unfold drainRest
  split <;> rename_i scan <;> rw [scan] at handled
  · exact handled
  · exact handled
  · split
    · exact handled
    · split <;> exact handled

/-- Draining a chunk hands some frames to the handler, one after the other. -/
theorem drainFrames_handles (state : σ) (spill data : Bytes) :
    ∃ frames : List Frame, (drainFrames onFrame memory maxFrameSize state spill data).1 =
      frames.foldl (fun state frame => (onFrame state frame).1) state := by
  unfold drainFrames
  split
  · exact drainRest_handles state data
  split
  · exact ⟨[], rfl⟩
  · exact ⟨[], rfl⟩
  · rename_i pending _
    simp only
    split
    · obtain ⟨frames, handled⟩ := @drainRest_handles σ onFrame memory maxFrameSize
        (onFrame state _).1 (data.drop pending.consumed)
      exact ⟨_ :: frames, handled⟩
    · exact ⟨[_], rfl⟩

end Framing

end LyuneGateway.Protocol
