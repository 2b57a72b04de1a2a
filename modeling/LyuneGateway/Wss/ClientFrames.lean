import Mathlib.Data.List.GetD
import LyuneGateway.Lib.Scanner
import LyuneGateway.Wss.Envelope
import LyuneGateway.Wss.Websocket

/-!
# Frames of a client

The parser of client frames is an incremental scanner: it asks for more as long
as the frame is not complete, and what it has answered once it answers however
the input goes on. It reads back every frame that a client may send.
-/

namespace LyuneGateway.Wss

/-! ## More input -/

theorem readAt_append {front : Bytes} {offset width : Nat} (inside : offset + width ≤ front.length)
    (rest : Bytes) :
    BigEndian.readAt (front ++ rest) offset width = BigEndian.readAt front offset width := by
  have dropped : (front ++ rest).drop offset = front.drop offset ++ rest :=
    List.drop_append_of_le_length (by omega)
  have taken : (front.drop offset ++ rest).take width = (front.drop offset).take width :=
    List.take_append_of_le_length (by simp; omega)
  rw [BigEndian.readAt, BigEndian.readAt, dropped, taken]

theorem statedLength_append {input : Bytes} (long : 2 ≤ input.length) (more : Bytes)
    (decided : statedLength input ≠ .error .needMore) :
    statedLength (input ++ more) = statedLength input := by
  have second : (input ++ more).getD 1 0 = input.getD 1 0 := List.getD_append _ _ _ _ (by omega)
  unfold statedLength at decided ⊢
  simp only [second] at decided ⊢
  split
  · rename_i two
    simp only [two, if_true] at decided
    have enough : ¬ input.length < 4 := by
      intro short
      simp [short] at decided
    have enough' : ¬ (input ++ more).length < 4 := by
      rw [List.length_append]
      omega
    rw [if_neg enough, if_neg enough', readAt_append (by omega)]
  split
  · rename_i other eight
    simp only [eight, if_true, if_false, Nat.reduceEqDiff] at decided
    have enough : ¬ input.length < 10 := by
      intro short
      simp [short] at decided
    have enough' : ¬ (input ++ more).length < 10 := by
      rw [List.length_append]
      omega
    rw [if_neg enough, if_neg enough', readAt_append (by omega)]
  · rfl

/-- Where the mask begins does not depend on how much of the frame is there. -/
theorem statedLength_offset {input : Bytes} {payloadLen offset : Nat}
    (stated : statedLength input = .ok (payloadLen, offset)) : 2 ≤ offset ∧ offset ≤ 10 := by
  unfold statedLength at stated
  dsimp only at stated
  split at stated
  · split at stated
    · cases stated
    split at stated <;> cases stated
    omega
  split at stated
  · split at stated
    · cases stated
    split at stated <;> cases stated
    omega
  · cases stated
    omega

/-- What the parser has decided it decides however the input goes on. -/
theorem parseClientFrame_append {input : Bytes} {maxPayload : Nat} (more : Bytes)
    (decided : parseClientFrame input maxPayload ≠ .error .needMore) :
    parseClientFrame (input ++ more) maxPayload = parseClientFrame input maxPayload := by
  unfold parseClientFrame at decided ⊢
  split at decided
  · exact absurd rfl decided
  rename_i long
  have long' : ¬ (input ++ more).length < 2 := by
    rw [List.length_append]
    omega
  rw [if_neg long, if_neg long', List.getD_append _ _ _ 0 (by omega),
    List.getD_append _ _ _ 1 (by omega)]
  dsimp only at decided ⊢
  split
  · rfl
  rename_i plain
  rw [if_neg plain] at decided
  split
  · rfl
  rename_i opcode known
  rw [known] at decided
  dsimp only at decided
  split
  · rfl
  rename_i masked
  rw [if_neg masked] at decided
  cases stated : statedLength input with
  | error error =>
      have lasting : statedLength input ≠ .error .needMore := by
        rintro waits
        rw [waits] at decided
        exact decided rfl
      rw [statedLength_append (by omega) more lasting, stated]
      rfl
  | ok answer =>
      obtain ⟨payloadLen, offset⟩ := answer
      rw [statedLength_append (by omega) more (by simp [stated]), stated]
      rw [stated] at decided
      simp only [bind, Except.bind] at decided ⊢
      split
      · rfl
      rename_i fits
      rw [if_neg fits] at decided
      split
      · rfl
      rename_i whole
      rw [if_neg whole] at decided
      split
      · rfl
      rename_i valid
      rw [if_neg valid] at decided
      have header : ¬ input.length < offset + 4 := by
        intro short
        rw [if_pos short] at decided
        exact decided rfl
      rw [if_neg header] at decided ⊢
      have payload : ¬ input.length < offset + 4 + payloadLen := by
        intro short
        rw [if_pos short] at decided
        exact decided rfl
      have header' : ¬ (input ++ more).length < offset + 4 := by
        rw [List.length_append]
        omega
      have payload' : ¬ (input ++ more).length < offset + 4 + payloadLen := by
        rw [List.length_append]
        omega
      have mask : ((input ++ more).drop offset).take 4 = (input.drop offset).take 4 := by
        rw [List.drop_append_of_le_length (by omega), List.take_append_of_le_length]
        rw [List.length_drop]
        omega
      have body : ((input ++ more).drop (offset + 4)).take payloadLen =
          (input.drop (offset + 4)).take payloadLen := by
        rw [List.drop_append_of_le_length (by omega), List.take_append_of_le_length]
        rw [List.length_drop]
        omega
      rw [if_neg payload, if_neg header', if_neg payload', mask, body]

/-- A frame that is complete is not longer than the input. -/
theorem parseClientFrame_consumed {input : Bytes} {maxPayload : Nat} {parsed : ParsedFrame}
    (complete : parseClientFrame input maxPayload = .ok parsed) :
    0 < parsed.consumed ∧ parsed.consumed ≤ input.length := by
  unfold parseClientFrame at complete
  dsimp only at complete
  split at complete
  · cases complete
  split at complete
  · cases complete
  split at complete
  · cases complete
  split at complete
  · cases complete
  cases stated : statedLength input with
  | error error =>
      rw [stated] at complete
      cases complete
  | ok answer =>
      obtain ⟨payloadLen, offset⟩ := answer
      rw [stated] at complete
      simp only [bind, Except.bind] at complete
      split at complete
      · cases complete
      split at complete
      · cases complete
      split at complete
      · cases complete
      split at complete
      · cases complete
      split at complete
      · cases complete
      cases complete
      dsimp only
      omega

/-- Only an input that cannot hold the longest frame waits for more. -/
theorem length_of_needMore {input : Bytes} {maxPayload : Nat}
    (waits : parseClientFrame input maxPayload = .error .needMore) :
    input.length < maxPayload + 14 := by
  by_contra long
  unfold parseClientFrame at waits
  dsimp only at waits
  rw [if_neg (by omega)] at waits
  split at waits
  · cases waits
  split at waits
  · cases waits
  split at waits
  · cases waits
  cases stated : statedLength input with
  | error error =>
      rw [stated] at waits
      cases waits
      unfold statedLength at stated
      dsimp only at stated
      rw [if_neg (show ¬ input.length < 4 by omega), if_neg (show ¬ input.length < 10 by omega)]
        at stated
      split at stated
      · split at stated <;> cases stated
      split at stated
      · split at stated <;> cases stated
      · cases stated
  | ok answer =>
      obtain ⟨payloadLen, offset⟩ := answer
      have early := statedLength_offset stated
      rw [stated] at waits
      simp only [bind, Except.bind] at waits
      split at waits
      · cases waits
      split at waits
      · cases waits
      split at waits
      · cases waits
      rw [if_neg (by omega), if_neg (by omega)] at waits
      cases waits

/-- The parser cuts what a client sends into frames. -/
def clientScanner (maxPayload : Nat) : Scanner UInt8 WebFrameError WebFrame where
  next input :=
    match parseClientFrame input maxPayload with
    | .ok parsed => .ok (some (parsed.frame, parsed.consumed))
    | .error .needMore => .ok none
    | .error error => .error error
  progress := by
    intro input frame length found
    split at found
    · rename_i parsed complete
      cases found
      exact parseClientFrame_consumed complete
    · cases found
    · cases found
  token_stable := by
    intro input frame length more found
    split at found
    · rename_i parsed complete
      cases found
      rw [parseClientFrame_append more (by simp [complete]), complete]
    · cases found
    · cases found
  error_stable := by
    intro input problem more found
    split at found
    · cases found
    · cases found
    · rename_i waits refused
      cases found
      rw [parseClientFrame_append more (by rwa [refused, Ne, Except.error.injEq]), refused]
      cases problem with
      | needMore => exact absurd rfl waits
      | _ => rfl

/-! ## What a client sends -/

/-- The four bytes that a client hides a payload with. -/
structure Mask where
  bytes : Bytes
  length : bytes.length = 4

/-- The length of a payload, on as few bytes as it fits. -/
def clientLength (payloadLen : Nat) : Bytes :=
  if payloadLen < 126 then [UInt8.ofNat (128 + payloadLen)]
  else if payloadLen ≤ 65535 then 254 :: BigEndian.write 2 payloadLen
  else 255 :: BigEndian.write 8 payloadLen

/-- The bytes of a frame under a mask. -/
def encodeClientFrame (frame : WebFrame) (mask : Mask) : Bytes :=
  UInt8.ofNat ((if frame.fin then 128 else 0) + frame.opcode.toNat) ::
    (clientLength frame.payload.length ++ mask.bytes ++ unmask mask.bytes frame.payload)

/-- A frame that the protocol allows: it is short enough, and a control frame is whole, short and
has no half of a close code. -/
structure WebFrame.Legal (frame : WebFrame) (maxPayload : Nat) : Prop where
  short : frame.payload.length ≤ maxPayload
  whole : frame.opcode.isControl = true → frame.fin = true
  small : frame.opcode.isControl = true → frame.payload.length ≤ 125
  code : frame.opcode = .close → frame.payload.length ≠ 1

theorem length_unmask (mask payload : Bytes) : (unmask mask payload).length = payload.length := by
  simp [unmask]

/-- A mask put on twice is taken off. -/
theorem unmask_unmask (mask payload : Bytes) : unmask mask (unmask mask payload) = payload := by
  unfold unmask
  rw [List.mapIdx_mapIdx]
  refine List.ext_getElem (by simp) fun index _ _ => ?_
  simp [UInt8.xor_assoc]

theorem first_toNat (fin : Bool) (opcode : Opcode) :
    (UInt8.ofNat ((if fin then 128 else 0) + opcode.toNat)).toNat =
      (if fin then 128 else 0) + opcode.toNat := by
  cases fin <;> cases opcode <;> rfl

theorem ofNat?_toNat (opcode : Opcode) : Opcode.ofNat? opcode.toNat = some opcode := by
  cases opcode <;> rfl

/-- The stated length is read back, and the mask begins right after it. -/
theorem statedLength_clientLength {payloadLen : Nat} (small : payloadLen < 2 ^ 63)
    (first : UInt8) (rest : Bytes) :
    statedLength (first :: (clientLength payloadLen ++ rest)) =
      .ok (payloadLen, 1 + (clientLength payloadLen).length) := by
  unfold clientLength statedLength
  split
  · rename_i short
    have second : (first :: ([UInt8.ofNat (128 + payloadLen)] ++ rest)).getD 1 0 =
        UInt8.ofNat (128 + payloadLen) := rfl
    have low : (UInt8.ofNat (128 + payloadLen)).toNat % 128 = payloadLen := by
      rw [UInt8.toNat_ofNat']
      omega
    rw [second, low, if_neg (by omega), if_neg (by omega)]
    rfl
  split
  · rename_i long middle
    rw [List.cons_append]
    have two : BigEndian.readAt (first :: 254 :: (BigEndian.write 2 payloadLen ++ rest)) 2 2 =
        payloadLen :=
      @BigEndian.readAt_write [first, 254] 2 2 payloadLen rfl (by omega) rest
    have second : (first :: 254 :: (BigEndian.write 2 payloadLen ++ rest)).getD 1 0 = 254 := rfl
    have enough : ¬ (first :: 254 :: (BigEndian.write 2 payloadLen ++ rest)).length < 4 := by
      simp
    rw [two, second, if_pos (by decide), if_neg enough, if_neg (by omega)]
    simp
  · rename_i long large
    rw [List.cons_append]
    have eight : BigEndian.readAt (first :: 255 :: (BigEndian.write 8 payloadLen ++ rest)) 2 8 =
        payloadLen :=
      @BigEndian.readAt_write [first, 255] 2 8 payloadLen rfl (by omega) rest
    have second : (first :: 255 :: (BigEndian.write 8 payloadLen ++ rest)).getD 1 0 = 255 := rfl
    have enough : ¬ (first :: 255 :: (BigEndian.write 8 payloadLen ++ rest)).length < 10 := by
      simp
    rw [eight, second, if_neg (by decide), if_pos (by decide), if_neg enough, if_neg (by omega)]
    simp

theorem masked_clientLength (payloadLen : Nat) (first : UInt8) (rest : Bytes) :
    ¬ ((first :: (clientLength payloadLen ++ rest)).getD 1 0).toNat < 128 := by
  unfold clientLength
  split
  · have second : (first :: ([UInt8.ofNat (128 + payloadLen)] ++ rest)).getD 1 0 =
        UInt8.ofNat (128 + payloadLen) := rfl
    rw [second, UInt8.toNat_ofNat']
    omega
  split
  · exact (by decide : ¬ (254 : UInt8).toNat < 128)
  · exact (by decide : ¬ (255 : UInt8).toNat < 128)

/-- Every frame that a client may send is read back, and nothing behind it. -/
theorem parse_encodeClientFrame {frame : WebFrame} {maxPayload : Nat} (legal : frame.Legal maxPayload)
    (representable : maxPayload < 2 ^ 63) (mask : Mask) (rest : Bytes) :
    parseClientFrame (encodeClientFrame frame mask ++ rest) maxPayload =
      .ok ⟨frame, (encodeClientFrame frame mask).length⟩ := by
  have first := first_toNat frame.fin frame.opcode
  have known := ofNat?_toNat frame.opcode
  have stated : ∀ tail, statedLength
      (UInt8.ofNat ((if frame.fin then 128 else 0) + frame.opcode.toNat) ::
        (clientLength frame.payload.length ++ tail)) =
      .ok (frame.payload.length, 1 + (clientLength frame.payload.length).length) :=
    statedLength_clientLength (by have := legal.short; omega) _
  have masked := masked_clientLength frame.payload.length
    (UInt8.ofNat ((if frame.fin then 128 else 0) + frame.opcode.toNat))
  have low : frame.opcode.toNat < 16 := by cases frame.opcode <;> decide
  unfold encodeClientFrame
  simp only [List.append_assoc, List.cons_append]
  generalize UInt8.ofNat ((if frame.fin then 128 else 0) + frame.opcode.toNat) = head at *
  have reserved : ¬ head.toNat / 16 % 8 ≠ 0 := by
    rw [first]
    split <;> omega
  have code : head.toNat % 16 = frame.opcode.toNat := by
    rw [first]
    split <;> omega
  have last : decide (128 ≤ head.toNat) = frame.fin := by
    rw [first]
    cases frame.fin with
    | true => simp
    | false =>
        simp
        omega
  have dropped (front : Bytes) : (head :: (front ++ (mask.bytes ++
      (unmask mask.bytes frame.payload ++ rest)))).drop (1 + front.length) =
        mask.bytes ++ (unmask mask.bytes frame.payload ++ rest) := by
    rw [Nat.add_comm, List.drop_succ_cons, List.drop_left]
  have length := length_unmask mask.bytes frame.payload
  have short := legal.short
  unfold parseClientFrame
  have long := mask.length
  rw [if_neg (by simp only [List.length_cons, List.length_append]; omega)]
  dsimp only
  rw [List.getD_cons_zero, if_neg reserved, code, known]
  dsimp only
  rw [if_neg (masked _), stated]
  simp only [bind, Except.bind]
  rw [if_neg (by omega), if_neg ?_, if_neg ?_, if_neg ?_, if_neg ?_]
  · have four : (mask.bytes ++ (unmask mask.bytes frame.payload ++ rest)).take 4 = mask.bytes := by
      rw [← mask.length, List.take_left]
    have body : ((mask.bytes ++ (unmask mask.bytes frame.payload ++ rest)).drop 4).take
        frame.payload.length = unmask mask.bytes frame.payload := by
      rw [← mask.length, List.drop_left, ← length, List.take_left]
    rw [dropped, ← List.drop_drop, dropped, four, body, unmask_unmask, last]
    simp only [List.length_cons, List.length_append, mask.length, length, Except.ok.injEq,
      ParsedFrame.mk.injEq, true_and]
    omega
  · simp only [List.length_cons, List.length_append, mask.length, length]
    omega
  · simp only [List.length_cons, List.length_append, mask.length]
    omega
  · rintro ⟨control, long | ⟨close, one⟩⟩
    · have small := legal.small control
      omega
    · exact legal.code close one
  · rintro ⟨control, open_⟩
    rw [last, legal.whole control] at open_
    cases open_

end LyuneGateway.Wss
