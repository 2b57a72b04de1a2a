import LyuneGateway.Lib.Layout
import LyuneGateway.Protocol.Body

/-!
# Body prefixes come back

What an encoder writes before a payload is read back whatever the payload is,
and no part of it is accepted. The entries of a list that was decoded lie inside
it, and the longest lists fit the body of one frame.
-/

namespace LyuneGateway.Protocol

/-- A value is written on `size` bytes into every buffer that has room for them, and into no other.
It is read back from them whatever follows, and from no part of them. -/
def Recovers {α : Type} (Fits : α → Prop) (size : α → Nat)
    (encode : Nat → α → Except FrameError Bytes) (decode : Bytes → Except FrameError α) : Prop :=
  ∀ value, Fits value → (∀ capacity < size value, encode capacity value = .error .bufferTooSmall) ∧
    ∀ capacity, size value ≤ capacity → ∃ bytes, encode capacity value = .ok bytes ∧
      bytes.length = size value ∧
      (∀ tail, decode (bytes ++ tail) = .ok value ∧ (bytes ++ tail).drop (size value) = tail) ∧
      ∀ count < size value, ∃ error, decode (bytes.take count) = .error error

theorem recovers_of_delimits {α : Type} {Fits : α → Prop} {size : α → Nat} {wire : α → Bytes}
    {encode : Nat → α → Except FrameError Bytes} {decode : Bytes → Except FrameError α}
    (delimits : Delimits Fits size wire decode)
    (writes : ∀ value, Fits value → ∀ capacity, encode capacity value =
      if capacity < size value then .error .bufferTooSmall else .ok (wire value)) :
    Recovers Fits size encode decode := by
  intro value fits
  refine ⟨fun capacity short => (writes value fits capacity).trans (if_pos short),
    fun capacity room => ⟨wire value, ?_, delimits.length value fits, fun tail =>
      ⟨delimits.back value fits tail, delimits.drop_append fits tail⟩,
      fun count short => delimits.rejects fits short⟩⟩
  exact (writes value fits capacity).trans (if_neg (not_lt.mpr room))

/-! ## Prefixes of a fixed length -/

namespace AuthContext

structure Fits (context : AuthContext) : Prop where
  realm : context.realm < 2 ^ 16
  connToken : context.connToken < 2 ^ 128

theorem recovers : Recovers Fits (fun _ => size) encodeInto decode := by
  refine recovers_of_delimits (Delimits.fixed ?_ ?_ ?_) fun _ _ _ => rfl
  · intro context _
    simp [encode, size]
  · intro context fits tail
    have reads := Layout.read_wire [(2, context.realm), (16, context.connToken)] [] tail (by
      simpa using ⟨fits.realm, fits.connToken⟩)
    have same : Layout.wire [(2, context.realm), (16, context.connToken)] = context.encode := by
      simp [encode]
    rw [same] at reads
    simp only [Layout.read, List.map_cons, List.map_nil, List.nil_append, List.length_nil,
      List.cons.injEq, and_true, Nat.zero_add] at reads
    rw [reads.1, reads.2]
  · intro bytes tail long
    rw [Layout.readAt_append ((by decide : 0 + 2 ≤ size).trans long), Layout.readAt_append long]

end AuthContext

namespace AuthGrant

structure Fits (grant : AuthGrant) : Prop where
  destId : grant.destId < 2 ^ 64
  ttlSeconds : grant.ttlSeconds < 2 ^ 32

def wire (grant : AuthGrant) : Bytes :=
  BigEndian.write 8 grant.destId ++ BigEndian.write 4 grant.ttlSeconds

theorem recovers : Recovers Fits (fun _ => size) (fun capacity grant => grant.encode capacity)
    decode := by
  refine @recovers_of_delimits _ _ _ wire _ _ (Delimits.fixed ?_ ?_ ?_) fun _ _ _ => rfl
  · intro grant _
    simp [wire, size]
  · intro grant fits tail
    have reads := Layout.read_wire [(8, grant.destId), (4, grant.ttlSeconds)] [] tail (by
      simpa using ⟨fits.destId, fits.ttlSeconds⟩)
    have same : Layout.wire [(8, grant.destId), (4, grant.ttlSeconds)] = grant.wire := by
      simp [wire]
    rw [same] at reads
    simp only [Layout.read, List.map_cons, List.map_nil, List.nil_append, List.length_nil,
      List.cons.injEq, and_true, Nat.zero_add] at reads
    rw [reads.1, reads.2]
  · intro bytes tail long
    rw [Layout.readAt_append ((by decide : 0 + 8 ≤ size).trans long), Layout.readAt_append long]

end AuthGrant

namespace ChannelBinding

structure Fits (binding : ChannelBinding) : Prop where
  channel : binding.channel < maxChannels
  groupId : binding.groupId < 2 ^ 64

def wire (binding : ChannelBinding) : Bytes :=
  UInt8.ofNat binding.channel :: BigEndian.write 8 binding.groupId

theorem recovers : Recovers Fits (fun _ => size)
    (fun capacity binding => encode capacity binding.channel binding.groupId) decode := by
  refine @recovers_of_delimits _ _ _ wire _ _ (Delimits.fixed ?_ ?_ ?_) ?_
  · intro binding _
    simp [wire, size]
  · intro binding fits tail
    have reads := Layout.read_wire [(8, binding.groupId)] [UInt8.ofNat binding.channel] tail (by
      simpa using fits.groupId)
    have same : [UInt8.ofNat binding.channel] ++ (Layout.wire [(8, binding.groupId)] ++ tail) =
        binding.wire ++ tail := by
      simp [wire]
    have channelRead : ((binding.wire ++ tail).getD 0 0).toNat = binding.channel := by
      have small := fits.channel
      simp only [maxChannels] at small
      simp only [wire, List.cons_append, List.getD_cons_zero, UInt8.toNat_ofNat']
      omega
    rw [same] at reads
    simp only [Layout.read, List.map_cons, List.map_nil, List.length_cons, List.length_nil,
      List.cons.injEq, and_true, Nat.zero_add] at reads
    simp only [channelRead, not_le.mpr fits.channel, if_false, reads]
  · intro bytes tail long
    have first : (bytes ++ tail).getD 0 0 = bytes.getD 0 0 :=
      List.getD_append _ _ _ _ (lt_of_lt_of_le (by decide : 0 < size) long)
    rw [first, Layout.readAt_append long]
  · intro binding fits capacity
    rw [encode, if_neg (not_le.mpr fits.channel)]
    rfl

end ChannelBinding

theorem SessionReason.decode_toByte (reason : SessionReason) :
    SessionReason.decode reason.toByte = .ok reason := by
  cases reason <;> rfl

/-- A time that fits 64 bits is read back from its bits. -/
theorem timeOfBits_timeBits {time : Int} (low : -2 ^ 63 ≤ time) (high : time < 2 ^ 63) :
    timeOfBits (timeBits time) = time := by
  have nonneg : 0 ≤ time % 2 ^ 64 := Int.emod_nonneg _ (by norm_num)
  have modulus : ((2 ^ 64 : Nat) : Int) = 2 ^ 64 := by norm_num
  unfold timeOfBits timeBits
  rw [Int.toNat_of_nonneg nonneg, ← modulus, Int.emod_bmod]
  apply Int.bmod_eq_of_le
  · omega
  · omega

theorem timeBits_lt (time : Int) : timeBits time < 256 ^ 8 := by
  unfold timeBits
  omega

namespace SessionLifecycle

structure Fits (event : SessionLifecycle) : Prop where
  realm : event.realm < 2 ^ 16
  connToken : event.connToken < 2 ^ 128
  destId : event.destId < 2 ^ 64
  connectedAt : -2 ^ 63 ≤ event.connectedAt ∧ event.connectedAt < 2 ^ 63
  occurredAt : -2 ^ 63 ≤ event.occurredAt ∧ event.occurredAt < 2 ^ 63
  sequence : event.sequence < 2 ^ 64

/-- The fields before the reason. -/
def fields (event : SessionLifecycle) : List (Nat × Nat) :=
  [(2, event.realm), (16, event.connToken), (8, event.destId), (8, timeBits event.connectedAt),
    (8, timeBits event.occurredAt), (8, event.sequence)]

theorem encode_eq (event : SessionLifecycle) :
    event.encode = Layout.wire event.fields ++ [event.reason.toByte] := by
  simp [encode, fields]

theorem recovers : Recovers Fits (fun _ => size) encodeInto decode := by
  refine recovers_of_delimits (Delimits.fixed ?_ ?_ ?_) fun _ _ _ => rfl
  · intro event _
    simp [encode, size]
  · intro event fits tail
    have reads := Layout.read_wire event.fields [] ([event.reason.toByte] ++ tail) (by
      have connectedAt := timeBits_lt event.connectedAt
      have occurredAt := timeBits_lt event.occurredAt
      simpa [fields] using
        ⟨fits.realm, fits.connToken, fits.destId, connectedAt, occurredAt, fits.sequence⟩)
    rw [List.nil_append, ← List.append_assoc, ← encode_eq] at reads
    have front : (Layout.wire event.fields).length = 50 := by simp [fields]
    have reasonRead : (event.encode ++ tail).getD 50 0 = event.reason.toByte := by
      rw [encode_eq, List.append_assoc, List.getD_append_right _ _ _ _ front.le, front]
      rfl
    simp only [fields, Layout.read, List.map_cons, List.map_nil, List.length_nil,
      List.cons.injEq, and_true, Nat.zero_add, Nat.reduceAdd] at reads
    obtain ⟨realm, connToken, destId, connectedAt, occurredAt, sequence⟩ := reads
    rw [reasonRead, SessionReason.decode_toByte]
    simp only [bind, Except.bind, realm, connToken, destId, connectedAt, occurredAt, sequence,
      timeOfBits_timeBits fits.connectedAt.1 fits.connectedAt.2,
      timeOfBits_timeBits fits.occurredAt.1 fits.occurredAt.2]
  · intro bytes tail long
    have last : (bytes ++ tail).getD 50 0 = bytes.getD 50 0 :=
      List.getD_append _ _ _ _ (lt_of_lt_of_le (by decide : 50 < size) long)
    have inside : ∀ offset width, offset + width ≤ size →
        BigEndian.readAt (bytes ++ tail) offset width = BigEndian.readAt bytes offset width :=
      fun offset width within => Layout.readAt_append (within.trans long) tail
    rw [last, inside 0 2 (by decide), inside 2 16 (by decide), inside 18 8 (by decide),
      inside 26 8 (by decide), inside 34 8 (by decide), inside 42 8 (by decide)]

end SessionLifecycle

/-! ## Lists -/

namespace EntryList

variable {width : Nat}

/-- A list that the format has room for, of numbers that fit their entries. -/
structure Fits (width : Nat) (values : List Nat) : Prop where
  few : values.length ≤ maxEntries width
  small : ∀ value ∈ values, value < 256 ^ width

def entriesOf (width : Nat) (values : List Nat) : Bytes := values.flatMap (BigEndian.write width)

def wire (width : Nat) (values : List Nat) : Bytes :=
  BigEndian.write 2 values.length ++ entriesOf width values

/-- The list that stands for these numbers. -/
def ofList (width : Nat) (values : List Nat) : EntryList width where
  count := values.length
  entries := entriesOf width values

@[simp] theorem length_entriesOf (values : List Nat) :
    (entriesOf width values).length = values.length * width := by
  induction values with
  | nil => simp [entriesOf]
  | cons value values ih =>
      have rest : (values.flatMap (BigEndian.write width)).length = values.length * width := ih
      rw [entriesOf, List.flatMap_cons, List.length_append, BigEndian.length_write, rest,
        List.length_cons, Nat.succ_mul, Nat.add_comm]

@[simp] theorem length_wire (values : List Nat) :
    (wire width values).length = byteSize width values.length := by
  simp [wire, byteSize]

/-- Every entry is read from its own place. -/
theorem get_ofList {values : List Nat} (small : ∀ value ∈ values, value < 256 ^ width) {i : Nat}
    (inside : i < values.length) : (ofList width values).get i = values[i] := by
  have parts : entriesOf width values = entriesOf width (values.take i) ++
      (BigEndian.write width values[i] ++ entriesOf width (values.drop (i + 1))) := by
    conv_lhs => rw [← List.take_append_drop i values, List.drop_eq_getElem_cons inside]
    rw [entriesOf, List.flatMap_append, List.flatMap_cons]
    rfl
  have before : (entriesOf width (values.take i)).length = i * width := by
    rw [length_entriesOf, List.length_take, Nat.min_eq_left (Nat.le_of_lt inside)]
  rw [get, ofList, parts]
  exact BigEndian.readAt_write before (small _ (List.getElem_mem inside)) _

theorem toList_ofList {values : List Nat} (small : ∀ value ∈ values, value < 256 ^ width) :
    (ofList width values).toList = values := by
  apply List.ext_getElem
  · simp [ofList]
  · intro i _ inside
    rw [← get_ofList small inside]
    simp [toList]

theorem count_lt {values : List Nat} (few : values.length ≤ maxEntries width) :
    values.length < 256 ^ 2 := by
  have most : maxEntries width ≤ maxBodySize - 2 := Nat.div_le_self _ _
  simp only [maxBodySize] at most
  omega

/-- The format has room for just the lists that fit the body of one frame. -/
theorem byteSize_le_iff {count : Nat} (wide : 0 < width) :
    byteSize width count ≤ maxBodySize ↔ count ≤ maxEntries width := by
  rw [maxEntries, Nat.le_div_iff_mul_le wide, byteSize, maxBodySize]
  omega

theorem decode_eq_ok {body : Bytes} {list : EntryList width} :
    decode width body = .ok list ↔ 2 ≤ body.length ∧
      byteSize width (BigEndian.readAt body 0 2) ≤ body.length ∧
      list.count = BigEndian.readAt body 0 2 ∧
      list.entries = (body.drop 2).take (BigEndian.readAt body 0 2 * width) := by
  have cut : (body.take (byteSize width (BigEndian.readAt body 0 2))).drop 2 =
      (body.drop 2).take (BigEndian.readAt body 0 2 * width) := by
    rw [List.drop_take, byteSize, Nat.add_sub_cancel_left]
  unfold decode
  by_cases short : body.length < 2
  · simp [short]
  by_cases cutShort : body.length < byteSize width (BigEndian.readAt body 0 2)
  · simp [short, cutShort]
  · obtain ⟨count, entries⟩ := list
    simp only [short, cutShort, if_false, Except.ok.injEq, mk.injEq, cut, not_lt.mp short,
      not_lt.mp cutShort, true_and, eq_comm]

/-- The entries of a decoded list lie inside it. -/
theorem get_inside {body : Bytes} {list : EntryList width} (decoded : decode width body = .ok list)
    {i : Nat} (inside : i < list.count) : i * width + width ≤ list.entries.length := by
  obtain ⟨-, long, counted, listed⟩ := decode_eq_ok.mp decoded
  have next := Nat.mul_le_mul_right width (Nat.succ_le_of_lt inside)
  rw [Nat.succ_mul, counted] at next
  rw [byteSize] at long
  rw [listed, List.length_take, List.length_drop]
  omega

theorem decode_wire {values : List Nat} (narrow : values.length < 256 ^ 2) (tail : Bytes) :
    decode width (wire width values ++ tail) = .ok (ofList width values) := by
  have counted : BigEndian.readAt (wire width values ++ tail) 0 2 = values.length := by
    have read := BigEndian.readAt_write List.length_nil narrow (entriesOf width values ++ tail)
    simpa [wire] using read
  have long : ¬ (wire width values ++ tail).length < byteSize width values.length := by simp
  have some_ : ¬ (wire width values ++ tail).length < 2 := by
    rw [List.length_append, length_wire, byteSize]
    omega
  have taken : (wire width values ++ tail).take (byteSize width values.length) =
      wire width values := by
    rw [← @length_wire width values, List.take_left]
  simp only [decode, some_, if_false, counted, long, taken, ofList]
  simp [wire]

/-- A decoded list needs its own bytes and no others. -/
theorem decode_append {body : Bytes} {list : EntryList width}
    (decoded : decode width body = .ok list) (tail : Bytes) :
    byteSize width list.count ≤ body.length ∧ decode width (body ++ tail) = .ok list := by
  obtain ⟨some_, long, counted, listed⟩ := decode_eq_ok.mp decoded
  have same := Layout.readAt_append (show 0 + 2 ≤ body.length from some_) tail
  refine ⟨counted ▸ long, decode_eq_ok.mpr ⟨?_, ?_, same ▸ counted, ?_⟩⟩
  · rw [List.length_append]
    omega
  · rw [same, List.length_append]
    omega
  · rw [byteSize] at long
    rw [same, listed, List.drop_append_of_le_length some_, List.take_append_of_le_length]
    rw [List.length_drop]
    omega

theorem delimits (width : Nat) : Delimits (Fits width)
    (fun values => byteSize width values.length) (wire width)
    fun body => (decode width body).map toList where
  length values _ := length_wire values
  back values fits tail := by
    rw [decode_wire (count_lt fits.few), Except.map, toList_ofList fits.small]
  needs body values decoded := by
    cases found : decode width body with
    | error error => simp [found, Except.map] at decoded
    | ok list =>
        simp only [found, Except.map, Except.ok.injEq] at decoded
        rw [← decoded, length_toList]
        exact (decode_append found []).1
  enough body values decoded tail := by
    cases found : decode width body with
    | error error => simp [found, Except.map] at decoded
    | ok list =>
        rw [(decode_append found tail).2, ← decoded, found]

theorem encode_eq {capacity : Nat} {values : List Nat} (few : values.length ≤ maxEntries width) :
    encode width capacity values =
      if capacity < byteSize width values.length then .error .bufferTooSmall
      else .ok (wire width values) := by
  rw [encode, if_neg (not_lt.mpr few)]
  rfl

theorem recovers (width : Nat) : Recovers (Fits width) (fun values => byteSize width values.length)
    (encode width) fun body => (decode width body).map toList :=
  recovers_of_delimits (delimits width) fun _ fits _ => encode_eq fits.few

end EntryList

/-! ## A group and its members -/

namespace GroupBinding

/-- The group and the tokens of a binding. -/
def view (binding : GroupBinding) : Nat × List Nat := (binding.groupId, binding.members.toList)

structure Fits (value : Nat × List Nat) : Prop where
  groupId : value.1 < 2 ^ 64
  members : EntryList.Fits connTokenSize value.2

def wire (value : Nat × List Nat) : Bytes :=
  BigEndian.write 8 value.1 ++ EntryList.wire connTokenSize value.2

def span (value : Nat × List Nat) : Nat := size + EntryList.byteSize connTokenSize value.2.length

theorem decode_eq_ok {body : Bytes} {binding : GroupBinding} :
    decode body = .ok binding ↔ size ≤ body.length ∧
      binding.groupId = BigEndian.readAt body 0 8 ∧
      EntryList.decode connTokenSize (body.drop size) = .ok binding.members := by
  unfold decode
  by_cases short : body.length < size
  · simp [short]
  · cases found : TokenList.decode (body.drop size) with
    | error error =>
        rw [TokenList.decode] at found
        simp [short, found, bind, Except.bind]
    | ok members =>
        rw [TokenList.decode] at found
        obtain ⟨groupId, others⟩ := binding
        simp only [short, if_false, bind, Except.bind, Except.ok.injEq, mk.injEq, found,
          not_lt.mp short, true_and, eq_comm]

theorem delimits : Delimits Fits span wire fun body => (decode body).map view where
  length value _ := by simp [wire, span, size]
  back value fits tail := by
    have groupRead : BigEndian.readAt (wire value ++ tail) 0 8 = value.1 := by
      have read := BigEndian.readAt_write List.length_nil (show value.1 < 256 ^ 8 from fits.groupId)
        (EntryList.wire connTokenSize value.2 ++ tail)
      simpa [wire] using read
    have rest : (wire value ++ tail).drop size = EntryList.wire connTokenSize value.2 ++ tail := by
      rw [wire, List.append_assoc, List.drop_append_of_le_length (by simp [size])]
      simp [size]
    have members := @EntryList.decode_wire connTokenSize value.2
      (EntryList.count_lt fits.members.few) tail
    have found : decode (wire value ++ tail) = .ok {
        groupId := value.1
        members := EntryList.ofList connTokenSize value.2 } := by
      refine decode_eq_ok.mpr ⟨?_, groupRead.symm, rest ▸ members⟩
      simp only [wire, List.length_append, BigEndian.length_write, size]
      omega
    rw [found, Except.map, view, EntryList.toList_ofList fits.members.small]
  needs body value decoded := by
    cases found : decode body with
    | error error => simp [found, Except.map] at decoded
    | ok binding =>
        simp only [found, Except.map, Except.ok.injEq] at decoded
        obtain ⟨long, -, members⟩ := decode_eq_ok.mp found
        have inside := (EntryList.decode_append members []).1
        rw [List.length_drop] at inside
        rw [← decoded, span, view, EntryList.length_toList]
        omega
  enough body value decoded tail := by
    cases found : decode body with
    | error error => simp [found, Except.map] at decoded
    | ok binding =>
        obtain ⟨long, groupId, members⟩ := decode_eq_ok.mp found
        have again : decode (body ++ tail) = .ok binding := by
          refine decode_eq_ok.mpr ⟨?_, ?_, ?_⟩
          · rw [List.length_append]
            omega
          · rw [groupId, Layout.readAt_append long]
          · rw [List.drop_append_of_le_length long]
            exact (EntryList.decode_append members tail).2
        rw [again, ← decoded, found]

theorem encode_eq {capacity : Nat} {value : Nat × List Nat} (fits : Fits value) :
    encode capacity value.1 value.2 =
      if capacity < span value then .error .bufferTooSmall else .ok (wire value) := by
  unfold encode
  rw [EntryList.encode_eq fits.members.few]
  by_cases tiny : capacity < size
  · rw [if_pos tiny, if_pos (by unfold span; omega)]
  by_cases short : capacity - size < EntryList.byteSize connTokenSize value.2.length
  · simp only [if_neg tiny, if_pos short, bind, Except.bind]
    rw [if_pos (by unfold span; omega)]
  · simp only [if_neg tiny, if_neg short, bind, Except.bind]
    rw [if_neg (by unfold span; omega)]
    rfl

theorem recovers : Recovers Fits span (fun capacity value => encode capacity value.1 value.2)
    fun body => (decode body).map view :=
  recovers_of_delimits delimits fun _ fits _ => encode_eq fits

end GroupBinding

/-! ## A hint and an address -/

namespace RedirectHint

structure Fits (redirect : RedirectHint) : Prop where
  hint : redirect.hint.length ≤ 255
  address : redirect.address.length ≤ 255

def span (redirect : RedirectHint) : Nat :=
  headerSize + redirect.hint.length + redirect.address.length

def wire (redirect : RedirectHint) : Bytes :=
  UInt8.ofNat redirect.hint.length :: UInt8.ofNat redirect.address.length ::
    (redirect.hint ++ redirect.address)

theorem decode_eq_ok {body : Bytes} {redirect : RedirectHint} :
    decode body = .ok redirect ↔ headerSize ≤ body.length ∧
      headerSize + (body.getD 0 0).toNat + (body.getD 1 0).toNat ≤ body.length ∧
      redirect.hint = (body.drop headerSize).take (body.getD 0 0).toNat ∧
      redirect.address =
        (body.drop (headerSize + (body.getD 0 0).toNat)).take (body.getD 1 0).toNat := by
  unfold decode
  by_cases short : body.length < headerSize
  · simp [short]
  dsimp only
  by_cases cutShort : body.length <
      headerSize + (body.getD 0 0).toNat + (body.getD 1 0).toNat
  · simp only [short, cutShort, if_true, if_false, reduceCtorEq, false_iff]
    omega
  · obtain ⟨hint, address⟩ := redirect
    simp only [short, cutShort, if_false, Except.ok.injEq, mk.injEq, not_lt.mp short,
      not_lt.mp cutShort, true_and, eq_comm]

theorem delimits : Delimits Fits span wire decode where
  length redirect _ := by
    simp [wire, span, headerSize]
    omega
  back redirect fits tail := by
    have hintFits := fits.hint
    have addressFits := fits.address
    have hintRead : ((wire redirect ++ tail).getD 0 0).toNat = redirect.hint.length := by
      simp [wire]
      omega
    have addressRead : ((wire redirect ++ tail).getD 1 0).toNat = redirect.address.length := by
      simp [wire]
      omega
    rw [decode_eq_ok, hintRead, addressRead]
    refine ⟨?_, ?_, ?_, ?_⟩
    · simp [wire, headerSize]
    · simp [wire, headerSize]
      omega
    · simp [wire, headerSize]
    · simp [wire, headerSize, Nat.add_comm 2]
  needs body redirect decoded := by
    obtain ⟨-, long, hint, address⟩ := decode_eq_ok.mp decoded
    rw [span, hint, address, List.length_take, List.length_take, List.length_drop,
      List.length_drop]
    omega
  enough body redirect decoded tail := by
    obtain ⟨some_, long, hint, address⟩ := decode_eq_ok.mp decoded
    have first : (body ++ tail).getD 0 0 = body.getD 0 0 :=
      List.getD_append _ _ _ _ (lt_of_lt_of_le (by decide : 0 < headerSize) some_)
    have second : (body ++ tail).getD 1 0 = body.getD 1 0 :=
      List.getD_append _ _ _ _ (lt_of_lt_of_le (by decide : 1 < headerSize) some_)
    rw [decode_eq_ok, first, second, List.length_append, hint, address]
    refine ⟨by omega, by omega, ?_, ?_⟩
    · rw [List.drop_append_of_le_length some_, List.take_append_of_le_length]
      rw [List.length_drop]
      omega
    · rw [List.drop_append_of_le_length (by omega), List.take_append_of_le_length]
      rw [List.length_drop]
      omega

theorem recovers : Recovers Fits span
    (fun capacity redirect => encode capacity redirect.hint redirect.address) decode := by
  refine recovers_of_delimits delimits fun redirect fits capacity => ?_
  rw [encode, if_neg]
  · rfl
  · have hintFits := fits.hint
    have addressFits := fits.address
    omega

end RedirectHint

/-! ## All prefixes -/

/-- All eight prefixes come back and leave the payload behind them alone. The entries of a decoded
list lie inside it, and whatever fits its format fits the body of one frame. -/
theorem prefixes_come_back :
    (Recovers (EntryList.Fits destIdSize) (fun values => EntryList.byteSize destIdSize values.length)
        (EntryList.encode destIdSize) fun body => (TargetList.decode body).map EntryList.toList) ∧
    (Recovers (EntryList.Fits connTokenSize)
        (fun values => EntryList.byteSize connTokenSize values.length)
        (EntryList.encode connTokenSize) fun body => (TokenList.decode body).map EntryList.toList) ∧
    (Recovers GroupBinding.Fits GroupBinding.span
        (fun capacity value => GroupBinding.encode capacity value.1 value.2)
        fun body => (GroupBinding.decode body).map GroupBinding.view) ∧
    (Recovers RedirectHint.Fits RedirectHint.span
        (fun capacity redirect => RedirectHint.encode capacity redirect.hint redirect.address)
        RedirectHint.decode) ∧
    (Recovers SessionLifecycle.Fits (fun _ => SessionLifecycle.size) SessionLifecycle.encodeInto
        SessionLifecycle.decode) ∧
    (Recovers AuthContext.Fits (fun _ => AuthContext.size) AuthContext.encodeInto
        AuthContext.decode) ∧
    (Recovers AuthGrant.Fits (fun _ => AuthGrant.size) (fun capacity grant => grant.encode capacity)
        AuthGrant.decode) ∧
    (Recovers ChannelBinding.Fits (fun _ => ChannelBinding.size)
        (fun capacity binding => ChannelBinding.encode capacity binding.channel binding.groupId)
        ChannelBinding.decode) ∧
    (∀ (width : Nat) (body : Bytes) (list : EntryList width), EntryList.decode width body = .ok list →
      list.prefixLen ≤ body.length ∧
        ∀ i < list.count, i * width + width ≤ list.entries.length) ∧
    (∀ count, EntryList.byteSize destIdSize count ≤ maxBodySize ↔ count ≤ maxTargets) ∧
    (∀ count, EntryList.byteSize connTokenSize count ≤ maxBodySize ↔ count ≤ maxConnTokens) ∧
    (∀ value, GroupBinding.Fits value → GroupBinding.span value ≤ maxBodySize) ∧
    ∀ redirect : RedirectHint, redirect.Fits → redirect.span ≤ maxBodySize := by
  refine ⟨EntryList.recovers destIdSize, EntryList.recovers connTokenSize, GroupBinding.recovers,
    RedirectHint.recovers, SessionLifecycle.recovers, AuthContext.recovers, AuthGrant.recovers,
    ChannelBinding.recovers, ?_, fun count => EntryList.byteSize_le_iff (by decide),
    fun count => EntryList.byteSize_le_iff (by decide), ?_, ?_⟩
  · exact fun width body list decoded => ⟨(EntryList.decode_append decoded []).1,
      fun i inside => EntryList.get_inside decoded inside⟩
  · intro value fits
    have few := fits.members.few
    have most : EntryList.maxEntries connTokenSize = 4095 := by decide
    rw [GroupBinding.span, EntryList.byteSize, GroupBinding.size, connTokenSize, maxBodySize]
    omega
  · intro redirect fits
    have hintFits := fits.hint
    have addressFits := fits.address
    rw [RedirectHint.span, RedirectHint.headerSize, maxBodySize]
    omega

end LyuneGateway.Protocol
