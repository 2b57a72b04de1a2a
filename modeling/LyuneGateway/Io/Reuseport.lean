import Mathlib.Data.List.GetD
import LyuneGateway.Lib.ClassicBpf
import LyuneGateway.Reactor.Server

/-!
# Which socket the kernel gives a packet to

The workers of a node have a socket each, and the kernel chooses among them by
the connection id in the packet. The choice is made by a program of the kernel's
packet filter, whose jumps are numbered by hand, and once more by a function.
-/

namespace LyuneGateway.Io

open ClassicBpf ClassicBpf.Instruction
open Reactor

def cidLength : UInt8 := 12
def cidMagic0 : UInt8 := 0x4c
def cidMagic1 : UInt8 := 0x59
def cidVersion : UInt8 := 1

/-- The kernel falls back to a hash of its own. -/
def reuseportFallback : Nat := 2 ^ 32 - 1

def lyuneClassifyQuicPacket (packet : Reactor.Bytes) (socketCount : Nat) : Nat :=
  if packet.length < 13 ∨ socketCount = 0 then reuseportFallback
  else
    let long : Bool := packet.getD 0 0 &&& 0x80 ≠ 0
    if long ∧ (packet.length < 18 ∨ packet.getD 5 0 ≠ cidLength) then reuseportFallback
    else
      let cidOffset := if long then 6 else 1
      if packet.getD cidOffset 0 ≠ cidMagic0 ∨ packet.getD (cidOffset + 1) 0 ≠ cidMagic1 ∨
          packet.getD (cidOffset + 2) 0 ≠ cidVersion ∨
          socketCount ≤ (packet.getD (cidOffset + 5) 0).toNat then reuseportFallback
      else (packet.getD (cidOffset + 5) 0).toNat

/-- The program that `lyune_attach_reuseport_classifier` gives to the kernel. -/
def reuseportClassifier (socketCount : Nat) : List Instruction := [
  loadLength,                                       --  0
  jump .atLeast 13 0 24,                            --  1
  loadByte 0,                                       --  2
  jump .anyBit 0x80 9 0,                            --  3
  -- a short header
  loadByte 1,                                       --  4
  jump .equal cidMagic0.toNat 0 20,                 --  5
  loadByte 2,                                       --  6
  jump .equal cidMagic1.toNat 0 18,                 --  7
  loadByte 3,                                       --  8
  jump .equal cidVersion.toNat 0 16,                --  9
  loadByte 6,                                       -- 10
  jump .atLeast socketCount 14 0,                   -- 11
  retA,                                             -- 12
  -- a long header
  loadLength,                                       -- 13
  jump .atLeast 18 0 11,                            -- 14
  loadByte 5,                                       -- 15
  jump .equal cidLength.toNat 0 9,                  -- 16
  loadByte 6,                                       -- 17
  jump .equal cidMagic0.toNat 0 7,                  -- 18
  loadByte 7,                                       -- 19
  jump .equal cidMagic1.toNat 0 5,                  -- 20
  loadByte 8,                                       -- 21
  jump .equal cidVersion.toNat 0 3,                 -- 22
  loadByte 11,                                      -- 23
  jump .atLeast socketCount 1 0,                    -- 24
  retA,                                             -- 25
  ret reuseportFallback]                            -- 26

/-! ## The program computes the function -/

/-- The worker that a connection id names, if it is one of the gateway's. -/
def cidWorker (packet : Reactor.Bytes) (socketCount offset : Nat) : Nat :=
  if packet.getD offset 0 ≠ cidMagic0 ∨ packet.getD (offset + 1) 0 ≠ cidMagic1 ∨
      packet.getD (offset + 2) 0 ≠ cidVersion ∨
      socketCount ≤ (packet.getD (offset + 5) 0).toNat then reuseportFallback
  else (packet.getD (offset + 5) 0).toNat

/-- The part of the program that reads a connection id; there are `misses` instructions between its
end and the last one. -/
def readCid (socketCount offset misses : Nat) : List Instruction := [
  loadByte offset, jump .equal cidMagic0.toNat 0 (misses + 7),
  loadByte (offset + 1), jump .equal cidMagic1.toNat 0 (misses + 5),
  loadByte (offset + 2), jump .equal cidVersion.toNat 0 (misses + 3),
  loadByte (offset + 5), jump .atLeast socketCount (misses + 1) 0, retA]

section

variable {packet : Reactor.Bytes} {socketCount : Nat}

theorem cidWorker_zero (offset : Nat) : cidWorker packet 0 offset = reuseportFallback :=
  if_pos (.inr (.inr (.inr (Nat.zero_le _))))

/-- The header of a packet is long if its first bit is set. -/
abbrev hasLongHeader (packet : Reactor.Bytes) : Prop := packet.getD 0 0 &&& 0x80 ≠ 0

theorem classify_short (enough : 13 ≤ packet.length) (short : ¬ hasLongHeader packet) :
    lyuneClassifyQuicPacket packet socketCount = cidWorker packet socketCount 1 := by
  unfold lyuneClassifyQuicPacket
  rcases Nat.eq_zero_or_pos socketCount with rfl | some
  · rw [if_pos (.inr rfl), cidWorker_zero]
  · rw [if_neg (by omega)]
    simp only [decide_eq_false short, Bool.false_eq_true, false_and, if_false]
    rfl

theorem classify_long (enough : 13 ≤ packet.length) (long : hasLongHeader packet) :
    lyuneClassifyQuicPacket packet socketCount =
      if 18 ≤ packet.length ∧ packet.getD 5 0 = cidLength then cidWorker packet socketCount 6
      else reuseportFallback := by
  unfold lyuneClassifyQuicPacket
  rcases Nat.eq_zero_or_pos socketCount with rfl | some
  · rw [if_pos (.inr rfl), cidWorker_zero, ite_self]
  · rw [if_neg (by omega)]
    simp only [decide_eq_true long, true_and, if_true]
    by_cases fits : 18 ≤ packet.length ∧ packet.getD 5 0 = cidLength
    · rw [if_pos fits, if_neg (by rw [fits.2]; simp [fits.1])]
      rfl
    · rw [if_neg fits, if_pos]
      simpa only [← Nat.not_le, ne_eq, ← not_and_or] using fits

theorem exec_fallback {rest : List Instruction} {accumulator : Nat}
    (last : rest = [ret reuseportFallback]) :
    exec packet rest 0 accumulator = .returned reuseportFallback := by
  rw [last]
  rfl

theorem exec_readCid {offset misses accumulator : Nat} {rest : List Instruction}
    (inside : offset + 5 < packet.length)
    (last : rest.drop misses = [ret reuseportFallback]) :
    exec packet (readCid socketCount offset misses ++ rest) 0 accumulator =
      .returned (cidWorker packet socketCount offset) := by
  unfold readCid cidWorker
  simp only [List.cons_append, List.nil_append]
  rw [exec_expect (by omega)]
  by_cases first : packet.getD offset 0 = cidMagic0
  case neg => rw [if_neg first, exec_fallback (by exact last), if_pos (.inl first)]
  rw [if_pos first, exec_expect (by omega)]
  by_cases second : packet.getD (offset + 1) 0 = cidMagic1
  case neg => rw [if_neg second, exec_fallback (by exact last), if_pos (.inr (.inl second))]
  rw [if_pos second, exec_expect (by omega)]
  by_cases third : packet.getD (offset + 2) 0 = cidVersion
  case neg => rw [if_neg third, exec_fallback (by exact last), if_pos (.inr (.inr (.inl third)))]
  rw [if_pos third, exec_loadByte inside, exec_jump]
  by_cases small : (packet.getD (offset + 5) 0).toNat < socketCount
  · rw [if_neg (by simpa [Test.holds] using small),
      if_neg (by simp only [first, second, third, ne_eq, not_true, false_or, Nat.not_le, small])]
    rfl
  · rw [if_pos (by simpa [Test.holds] using small), exec_fallback (by exact last),
      if_pos (.inr (.inr (.inr (Nat.not_lt.mp small))))]

variable (packet socketCount) in
/-- For every packet the program returns what the function does. -/
theorem run_reuseportClassifier :
    run (reuseportClassifier socketCount) packet =
      .returned (lyuneClassifyQuicPacket packet socketCount) := by
  have highBit : Test.holds .anyBit (packet.getD 0 0).toNat 0x80 =
      decide (hasLongHeader packet) := by
    rw [Test.holds, decide_eq_decide, not_iff_not, ← UInt8.toNat_inj, UInt8.toNat_and]
    rfl
  unfold run reuseportClassifier
  rw [exec_loadLength, exec_jump]
  by_cases enough : 13 ≤ packet.length
  case neg =>
    rw [if_neg (by simpa [Test.holds] using enough), exec_fallback (by exact rfl),
      lyuneClassifyQuicPacket, if_pos (.inl (Nat.not_le.mp enough))]
  rw [if_pos (by simpa [Test.holds] using enough), List.drop_zero, exec_loadByte (by omega),
    exec_jump, highBit]
  by_cases long : hasLongHeader packet
  case neg =>
    rw [if_neg (by simpa using long), classify_short enough long]
    change exec packet (readCid socketCount 1 13 ++ (reuseportClassifier socketCount).drop 13) 0 _ = _
    exact exec_readCid (by omega) rfl
  rw [if_pos (by simpa using long), classify_long enough long, List.drop_succ_cons]
  simp only [List.drop_succ_cons, List.drop_zero]
  rw [exec_loadLength, exec_jump]
  by_cases room : 18 ≤ packet.length
  case neg =>
    rw [if_neg (by simpa [Test.holds] using room), exec_fallback (by exact rfl),
      if_neg fun fits => room fits.1]
  rw [if_pos (by simpa [Test.holds] using room), List.drop_zero, exec_expect (by omega)]
  by_cases whole : packet.getD 5 0 = cidLength
  case neg => rw [if_neg whole, exec_fallback (by exact rfl), if_neg fun fits => whole fits.2]
  rw [if_pos whole, if_pos ⟨room, whole⟩]
  change exec packet (readCid socketCount 6 0 ++ (reuseportClassifier socketCount).drop 26) 0 _ = _
  exact exec_readCid (by omega) rfl

example : run (reuseportClassifier 4) [0x40, 76, 89, 1, 0, 9, 3, 10, 11, 12, 13, 14, 15] =
    .returned 3 := rfl

end

/-! ## The function finds the owner -/

theorem length_of_parse {cid : Reactor.Bytes} {fields : Cid.Fields} (parsed : Cid.parse cid = some fields) :
    cid.length = 12 := by
  unfold Cid.parse at parsed
  split_ifs at parsed with other
  exact not_not.mp other

theorem marks_of_parse {cid : Reactor.Bytes} {fields : Cid.Fields} (parsed : Cid.parse cid = some fields) :
    cid.getD 0 0 = cidMagic0 ∧ cid.getD 1 0 = cidMagic1 ∧ cid.getD 2 0 = cidVersion ∧
      (cid.getD 5 0).toNat = fields.workerId := by
  have twelve := length_of_parse parsed
  unfold Cid.parse at parsed
  split_ifs at parsed with size other
  obtain ⟨magic, version⟩ := not_or.mp other
  obtain ⟨first, second, rest, rfl⟩ : ∃ first second rest, cid = first :: second :: rest := by
    match cid, twelve with
    | first :: second :: rest, _ => exact ⟨first, second, rest, rfl⟩
  have magic : first.toNat * 256 ^ 1 + (second.toNat * 256 ^ 0 + 0) = 0x4c59 := not_not.mp magic
  have small := first.toNat_lt
  have low := second.toNat_lt
  refine ⟨UInt8.toNat_inj.mp (?_ : first.toNat = 0x4c), UInt8.toNat_inj.mp (?_ : second.toNat = 0x59),
    not_not.mp version, ?_⟩
  · omega
  · omega
  · dsimp only at parsed
    split_ifs at parsed
    cases parsed
    rfl

theorem cidWorker_of_parse {cid : Reactor.Bytes} {fields : Cid.Fields}
    (parsed : Cid.parse cid = some fields) (front tail : Reactor.Bytes) (socketCount : Nat) :
    cidWorker (front ++ (cid ++ tail)) socketCount front.length =
      if fields.workerId < socketCount then fields.workerId else reuseportFallback := by
  have twelve := length_of_parse parsed
  obtain ⟨magic0, magic1, version, worker⟩ := marks_of_parse parsed
  have inCid (place : Nat) (inside : place < 12) :
      (front ++ (cid ++ tail)).getD (front.length + place) 0 = cid.getD place 0 := by
    rw [List.getD_append_right _ _ _ _ (Nat.le_add_right _ _), Nat.add_sub_cancel_left,
      List.getD_append _ _ _ _ (by omega)]
  have start := inCid 0 (by omega)
  rw [Nat.add_zero] at start
  unfold cidWorker
  rw [start, inCid 1 (by omega), inCid 2 (by omega), inCid 5 (by omega), magic0, magic1, version,
    worker]
  simp only [ne_eq, not_true, false_or, ← Nat.not_lt, ite_not]

theorem hasLongHeader_cons (first : UInt8) (rest : Reactor.Bytes) :
    hasLongHeader (first :: rest) ↔ 128 ≤ first := by
  have bytes : ∀ number < 256, number &&& 0x80 ≠ 0 ↔ 128 ≤ number := by decide +kernel
  rw [hasLongHeader, List.getD_cons_zero, ne_eq, ← UInt8.toNat_inj, UInt8.toNat_and,
    UInt8.le_iff_toNat_le]
  exact bytes first.toNat first.toNat_lt

/-- A packet of an established connection. -/
theorem classify_established {first : UInt8} (short : first < 128) {cid : Reactor.Bytes}
    {fields : Cid.Fields} (parsed : Cid.parse cid = some fields) (tail : Reactor.Bytes) (socketCount : Nat) :
    lyuneClassifyQuicPacket (first :: (cid ++ tail)) socketCount =
      if fields.workerId < socketCount then fields.workerId else reuseportFallback := by
  have twelve := length_of_parse parsed
  rw [classify_short]
  · exact cidWorker_of_parse parsed [first] tail socketCount
  · simp only [List.length_cons, List.length_append]
    omega
  · rw [hasLongHeader_cons, UInt8.not_le]
    exact short

/-- A packet of a handshake whose client has been told where to go. -/
theorem classify_placed {first : UInt8} (long : 128 ≤ first) {version : Reactor.Bytes}
    (four : version.length = 4) {cid : Reactor.Bytes} {fields : Cid.Fields}
    (parsed : Cid.parse cid = some fields) (tail : Reactor.Bytes) (socketCount : Nat) :
    lyuneClassifyQuicPacket (first :: (version ++ cidLength :: (cid ++ tail))) socketCount =
      if fields.workerId < socketCount then fields.workerId else reuseportFallback := by
  have twelve := length_of_parse parsed
  have size : (first :: (version ++ cidLength :: (cid ++ tail))).length =
      1 + (4 + (1 + (12 + tail.length))) := by
    simp only [List.length_cons, List.length_append, four, twelve]
    omega
  have sixth : (first :: (version ++ cidLength :: (cid ++ tail))).getD 5 0 = cidLength := by
    rw [List.getD_cons_succ, List.getD_append_right _ _ _ _ four.le, four]
    rfl
  rw [classify_long (by omega) ((hasLongHeader_cons first _).mpr long), if_pos ⟨by omega, sixth⟩]
  have placed := cidWorker_of_parse parsed (first :: (version ++ [cidLength])) tail socketCount
  simpa [four] using placed

/-- The reactor takes a packet with a short header to be for whom its connection id names. -/
theorem packetOwner_established {first : UInt8} (short : first < 128) {cid : Reactor.Bytes}
    (twelve : cid.length = 12) (tail : Reactor.Bytes) :
    Reactor.packetOwner (first :: (cid ++ tail)) = Cid.parse cid := by
  have not_long : ¬ (128 : UInt8) ≤ first := UInt8.not_le.mpr short
  have dcid : Reactor.parseDcid (first :: (cid ++ tail)) = some cid := by
    unfold Reactor.parseDcid Reactor.parseDcidDetailed
    rw [if_neg (by simp), if_neg (by simp [Reactor.isLongHeader, not_long]), if_neg (by decide),
      if_neg (by simp [Cid.length, twelve])]
    simp [Cid.length, ← twelve, Except.toOption]
  rw [Reactor.packetOwner, dcid, Option.bind_some]

/-- The program of the kernel and the function agree on every packet, and the packets of a
connection go to the worker that its id names, which is the one that the reactor reads off it. -/
theorem classifiers_agree :
    (∀ (packet : Reactor.Bytes) (socketCount : Nat),
      run (reuseportClassifier socketCount) packet =
        .returned (lyuneClassifyQuicPacket packet socketCount)) ∧
    ∀ (nodeId : UInt16) (workerId : UInt8) (entropy : Vector UInt8 6) (first : UInt8) (tail : Reactor.Bytes)
      (socketCount : Nat), nodeId ≠ 0 → workerId.toNat < socketCount → first < 128 →
      lyuneClassifyQuicPacket (first :: (Cid.encode nodeId workerId entropy ++ tail)) socketCount =
          workerId.toNat ∧
        run (reuseportClassifier socketCount)
            (first :: (Cid.encode nodeId workerId entropy ++ tail)) =
          .returned workerId.toNat ∧
        Cid.parse (Cid.encode nodeId workerId entropy) = some ⟨nodeId.toNat, workerId.toNat⟩ ∧
        Reactor.packetOwner (first :: (Cid.encode nodeId workerId entropy ++ tail)) =
          some ⟨nodeId.toNat, workerId.toNat⟩ := by
  refine ⟨run_reuseportClassifier, fun nodeId workerId entropy first tail socketCount named known
    short => ?_⟩
  have parsed := Cid.parse_encode named workerId entropy
  have classified := classify_established short parsed tail socketCount
  rw [if_pos known] at classified
  refine ⟨classified, ?_, parsed, ?_⟩
  · rw [run_reuseportClassifier, classified]
  · rw [packetOwner_established short (Cid.length_encode nodeId workerId entropy), parsed]

end LyuneGateway.Io
