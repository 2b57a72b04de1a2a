import Mathlib.Data.List.Basic

/-!
# Classic BPF

The part of the language that a filter needs which looks at some bytes of a
packet and picks one of two ways for each. A jump skips a number of the
instructions that follow it. A load outside the packet ends the program.
-/

namespace ClassicBpf

/-- How a conditional jump compares the accumulator with its operand. -/
inductive Test where
  | equal
  | atLeast
  | anyBit
  deriving DecidableEq, Repr

def Test.holds : Test → Nat → Nat → Bool
  | equal, accumulator, operand => accumulator = operand
  | atLeast, accumulator, operand => operand ≤ accumulator
  | anyBit, accumulator, operand => accumulator &&& operand ≠ 0

inductive Instruction where
  | loadLength
  | loadByte (offset : Nat)
  | jump (test : Test) (operand jt jf : Nat)
  | retA
  | ret (value : Nat)
  deriving DecidableEq, Repr

open Instruction

/-- How a program ends. After a load out of range its caller gets zero; `outside` is the end of a
program that has run past its last instruction. -/
inductive Outcome where
  | returned (value : Nat)
  | outOfRange
  | outside
  deriving DecidableEq, Repr

/-- Run a program of which some instructions are to be skipped. None of the instructions computes,
so that the accumulator holds a byte or the length of the packet, and its 32 bits are enough. -/
def exec (packet : List UInt8) : List Instruction → (skipped accumulator : Nat) → Outcome
  | [], _, _ => .outside
  | _ :: rest, skipped + 1, accumulator => exec packet rest skipped accumulator
  | loadLength :: rest, 0, _ => exec packet rest 0 packet.length
  | loadByte offset :: rest, 0, _ =>
      match packet[offset]? with
      | none => .outOfRange
      | some byte => exec packet rest 0 byte.toNat
  | jump test operand jt jf :: rest, 0, accumulator =>
      exec packet rest (if test.holds accumulator operand then jt else jf) accumulator
  | retA :: _, 0, accumulator => .returned accumulator
  | ret value :: _, 0, _ => .returned value

/-- A program is started with an empty accumulator. -/
def run (program : List Instruction) (packet : List UInt8) : Outcome := exec packet program 0 0

variable {packet : List UInt8} {rest : List Instruction} {accumulator : Nat}

/-- Skipped instructions could as well be missing. -/
theorem exec_skip (program : List Instruction) (skipped : Nat) :
    exec packet program skipped accumulator = exec packet (program.drop skipped) 0 accumulator := by
  induction program generalizing skipped with
  | nil =>
      rw [List.drop_nil]
      rfl
  | cons instruction rest ih =>
      cases skipped with
      | zero => rfl
      | succ skipped => exact ih skipped

theorem exec_loadLength :
    exec packet (loadLength :: rest) 0 accumulator = exec packet rest 0 packet.length := rfl

theorem exec_loadByte {offset : Nat} (inside : offset < packet.length) :
    exec packet (loadByte offset :: rest) 0 accumulator =
      exec packet rest 0 (packet.getD offset 0).toNat := by
  simp only [exec, List.getElem?_eq_getElem inside, List.getD_eq_getElem?_getD, Option.getD_some]

theorem exec_jump {test : Test} {operand jt jf : Nat} :
    exec packet (jump test operand jt jf :: rest) 0 accumulator =
      if test.holds accumulator operand then exec packet (rest.drop jt) 0 accumulator
      else exec packet (rest.drop jf) 0 accumulator := by
  rw [exec, exec_skip]
  split <;> rfl

/-- A byte is compared with what it has to be; otherwise some instructions are skipped. -/
theorem exec_expect {offset : Nat} (inside : offset < packet.length) (value : UInt8) (jf : Nat) :
    exec packet (loadByte offset :: jump .equal value.toNat 0 jf :: rest) 0 accumulator =
      if packet.getD offset 0 = value then exec packet rest 0 value.toNat
      else exec packet (rest.drop jf) 0 (packet.getD offset 0).toNat := by
  rw [exec_loadByte inside, exec_jump]
  by_cases same : packet.getD offset 0 = value
  · simp only [Test.holds, same, decide_true, if_true, List.drop_zero]
  · have other : (packet.getD offset 0).toNat ≠ value.toNat := mt UInt8.toNat_inj.mp same
    simp only [Test.holds, other, decide_false, Bool.false_eq_true, if_false, same]

end ClassicBpf
