import Mathlib.Data.List.GetD
import LyuneGateway.Lib.BigEndian

/-!
# Layouts of consecutive fields

A layout is a list of fields, each a width and a number. Its bytes are read back
field by field, whatever follows them, and any bytes are those of the fields
that are read from them. A code that needs no more than its own bytes, and that
later bytes do not disturb, has no meaning for a part of its bytes.
-/

namespace Layout

variable {widths : List Nat} {offset : Nat} {bytes : List UInt8}

def wire (fields : List (Nat × Nat)) : List UInt8 :=
  fields.flatMap fun field => BigEndian.write field.1 field.2

/-- The numbers of consecutive fields of these widths, the first of them at `offset`. -/
def read : List Nat → List UInt8 → Nat → List Nat
  | [], _, _ => []
  | width :: widths, bytes, offset =>
      BigEndian.readAt bytes offset width :: read widths bytes (offset + width)

@[simp] theorem wire_nil : wire [] = [] := rfl

@[simp] theorem wire_cons (width number : Nat) (fields : List (Nat × Nat)) :
    wire ((width, number) :: fields) = BigEndian.write width number ++ wire fields := rfl

theorem length_wire (fields : List (Nat × Nat)) :
    (wire fields).length = (fields.map Prod.fst).sum := by
  induction fields with
  | nil => rfl
  | cons field fields ih =>
      rw [wire_cons, List.length_append, BigEndian.length_write, ih, List.map_cons, List.sum_cons]

/-- A field and what follows it make up the bytes from its start. -/
theorem field_append (offset width : Nat) :
    (bytes.drop offset).take width ++ bytes.drop (offset + width) = bytes.drop offset := by
  rw [← List.drop_drop, List.take_append_drop]

theorem byte_cons (inside : offset < bytes.length) :
    bytes.getD offset 0 :: bytes.drop (offset + 1) = bytes.drop offset := by
  rw [List.drop_eq_getElem_cons inside, List.getD_eq_getElem?_getD,
    List.getElem?_eq_getElem inside, Option.getD_some]

/-- A byte is a field of width one; there is a zero behind the last. -/
theorem readAt_one (bytes : List UInt8) (offset : Nat) :
    BigEndian.readAt bytes offset 1 = (bytes.getD offset 0).toNat := by
  by_cases inside : offset < bytes.length
  · rw [BigEndian.readAt, ← byte_cons inside]
    simp [BigEndian.read]
  · rw [BigEndian.readAt, List.drop_eq_nil_of_le (not_lt.mp inside),
      List.getD_eq_default _ _ (not_lt.mp inside)]
    rfl

/-- Fields are read as they were written. -/
theorem read_wire (fields : List (Nat × Nat)) (front rest : List UInt8)
    (small : ∀ field ∈ fields, field.2 < 256 ^ field.1) :
    read (fields.map Prod.fst) (front ++ (wire fields ++ rest)) front.length =
      fields.map Prod.snd := by
  induction fields generalizing front with
  | nil => rfl
  | cons field fields ih =>
      obtain ⟨width, number⟩ := field
      have here := BigEndian.readAt_write (rfl : front.length = _) (small _ List.mem_cons_self)
        (wire fields ++ rest)
      have later := ih (front ++ BigEndian.write width number) fun field listed =>
        small field (List.mem_cons_of_mem _ listed)
      rw [List.append_assoc, List.length_append, BigEndian.length_write] at later
      simp only [List.map_cons, read, wire_cons, List.append_assoc, here, later]

/-- Bytes are those of the fields that are read from them. -/
theorem wire_read (inside : offset + widths.sum ≤ bytes.length) :
    wire (widths.zip (read widths bytes offset)) = (bytes.drop offset).take widths.sum := by
  induction widths generalizing offset with
  | nil => simp [read]
  | cons width widths ih =>
      rw [List.sum_cons] at inside ⊢
      rw [read, List.zip_cons_cons, wire_cons, BigEndian.write_readAt (by omega),
        ih (by omega), List.take_add, List.drop_drop]

/-- What is read inside the bytes does not depend on what follows them. -/
theorem readAt_append {width : Nat} (inside : offset + width ≤ bytes.length)
    (rest : List UInt8) :
    BigEndian.readAt (bytes ++ rest) offset width = BigEndian.readAt bytes offset width := by
  rw [BigEndian.readAt, BigEndian.readAt, List.drop_append_of_le_length (by omega),
    List.take_append_of_le_length (by rw [List.length_drop]; omega)]

end Layout

/-- A code whose words are told apart from what follows them: `size` bytes are needed for a value
and they are enough. -/
structure Delimits {α ε : Type} (Fits : α → Prop) (size : α → Nat) (encode : α → List UInt8)
    (decode : List UInt8 → Except ε α) : Prop where
  length : ∀ value, Fits value → (encode value).length = size value
  back : ∀ value, Fits value → ∀ tail, decode (encode value ++ tail) = .ok value
  needs : ∀ bytes value, decode bytes = .ok value → size value ≤ bytes.length
  enough : ∀ bytes value, decode bytes = .ok value → ∀ tail, decode (bytes ++ tail) = .ok value

namespace Delimits

variable {α ε : Type} {Fits : α → Prop} {size : α → Nat} {encode : α → List UInt8}
  {decode : List UInt8 → Except ε α} {value : α}

/-- Fewer bytes than a value has are rejected. -/
theorem rejects (delimits : Delimits Fits size encode decode) (fits : Fits value) {count : Nat}
    (short : count < size value) : ∃ error, decode ((encode value).take count) = .error error := by
  cases answer : decode ((encode value).take count) with
  | error error => exact ⟨error, rfl⟩
  | ok other =>
      have whole := delimits.enough _ _ answer ((encode value).drop count)
      have same := delimits.back value fits []
      rw [List.take_append_drop] at whole
      rw [List.append_nil, whole] at same
      obtain rfl := Except.ok.inj same
      have needed := delimits.needs _ _ answer
      have taken := List.length_take_le count (encode other)
      omega

/-- After the bytes of a value come the bytes that follow it. -/
theorem drop_append (delimits : Delimits Fits size encode decode) (fits : Fits value)
    (tail : List UInt8) : (encode value ++ tail).drop (size value) = tail := by
  rw [← delimits.length value fits, List.drop_left]


/-- A code of a fixed length, whose decoder looks at nothing behind it. -/
theorem fixed {length : Nat} {error : ε} {fields : List UInt8 → Except ε α}
    (written : ∀ value, Fits value → (encode value).length = length)
    (back : ∀ value, Fits value → ∀ tail, fields (encode value ++ tail) = .ok value)
    (inside : ∀ bytes tail, length ≤ bytes.length → fields (bytes ++ tail) = fields bytes) :
    Delimits Fits (fun _ => length) encode fun bytes =>
      if bytes.length < length then .error error else fields bytes where
  length := written
  back value fits tail := by
    have long : ¬ (encode value ++ tail).length < length := by
      rw [List.length_append, written value fits]
      omega
    simp only [long, if_false, back value fits tail]
  needs bytes value decoded := by
    by_cases short : bytes.length < length
    · simp only [short, if_true, reduceCtorEq] at decoded
    · exact not_lt.mp short
  enough bytes value decoded tail := by
    by_cases short : bytes.length < length
    · simp only [short, if_true, reduceCtorEq] at decoded
    · have long : ¬ (bytes ++ tail).length < length := by
        rw [List.length_append]
        omega
      simp only [short, if_false] at decoded
      simp only [long, if_false, inside bytes tail (not_lt.mp short), decoded]

end Delimits
