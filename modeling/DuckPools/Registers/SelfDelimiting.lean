import DuckPools.Backend.VlqSerializer
import DuckPools.Language.Loops
import DuckPools.Sdk.Serialization

/-!
# Variable-length quantities in any surroundings

The loops of the SDK and of the backend, round by round, and what they leave behind: the code
of a number and the number of a code. A code ends with its first byte without the top bit, so
nothing that stands in front of it or behind it is read.
-/

namespace DuckPools.Registers

/-- The variables of a writer: `remaining`, and the list it is written to. -/
structure EncodeState (α : Type) where
  remaining : Int
  written : List α

/-- `while (remaining > 0)`, where `write` is what becomes of a byte. -/
def groupsLoop {α : Type} (write : Byte → α) : Loop (EncodeState α) where
  guard := fun s => 0 < s.remaining
  body := fun s =>
    let byte := BitVec.ofInt 8 (Int.land s.remaining 0x7f)
    let remaining := Int.shiftRight s.remaining 7
    { remaining
      written := s.written ++ [write (if 0 < remaining then byte ||| 0x80 else byte)] }

/-- The loop of the SDK's `encodeVLQ`, with `written` its `bytes`. -/
def encodeLoop : Loop (EncodeState Byte) := groupsLoop fun byte => byte

/-- The loop of `_encode_vlq`, with `written` its `hex_digits`. -/
def encode_vlq_loop : Loop (EncodeState Text) := groupsLoop Hex.ofByte

/-- The variables of the SDK's `decodeVLQ`. -/
structure DecodeState where
  value : Int
  shift : Nat
  currentOffset : Nat
  more : Bool

def DecodeState.start (offset : Nat) : DecodeState :=
  { value := 0, shift := 0, currentOffset := offset, more := true }

/-- `while (more && currentOffset < buffer.length)` -/
def decodeLoop (buffer : Bytes) : Loop DecodeState where
  guard := fun s => s.more && decide (s.currentOffset < buffer.length)
  body := fun s =>
    let byte : Int := (buffer.getD s.currentOffset 0).toNat
    { value := Int.lor s.value (Int.shiftLeft (Int.land byte 0x7f) s.shift)
      shift := s.shift + 7
      currentOffset := s.currentOffset + 1
      more := Int.land byte 0x80 ≠ 0 }

section Writing

variable {α : Type} (write : Byte → α)

/-- Of a negative number nothing is written. -/
theorem vlqGroups_of_not_pos {remaining : Int} (h : ¬ 0 < remaining) :
    Integers.vlqGroups remaining = [] := by
  rw [Integers.vlqGroups, dif_neg h]

theorem groupsLoop_ends (start : EncodeState α) :
    (groupsLoop write).Ends
      (fun s => s.written = start.written ++ (Integers.vlqGroups start.remaining).map write)
      start := by
  refine Loop.ends_of_invariant
    (fun s => s.written ++ (Integers.vlqGroups s.remaining).map write =
      start.written ++ (Integers.vlqGroups start.remaining).map write)
    (fun s => s.remaining.toNat) ?_ ?_ rfl
  · intro s inv running
    have positive : 0 < s.remaining := of_decide_eq_true running
    refine ⟨?_, Integers.shiftRight_seven_lt positive⟩
    rw [Integers.vlqGroups, dif_pos positive, List.map_cons] at inv
    rw [← inv]
    exact List.append_assoc s.written [_] _
  · intro s inv finished
    have nothing := vlqGroups_of_not_pos (of_decide_eq_false finished)
    rw [nothing, List.map_nil, List.append_nil] at inv
    exact inv

end Writing

section Reading

variable (buffer : Bytes) (offset : Nat)

/-- What is still to be read completes what has been read; a byte without the top bit ends
it. -/
structure Reading (s : DecodeState) : Prop where
  started : offset ≤ s.currentOffset
  inside : s.currentOffset ≤ max offset buffer.length
  pending : s.more = true →
    Integers.readVlq (buffer.drop s.currentOffset) s.value s.shift =
      Integers.readVlq (buffer.drop offset) 0 0
  ended : s.more = false → s.currentOffset ≤ buffer.length ∧
    (s.value, buffer.drop s.currentOffset) = Integers.readVlq (buffer.drop offset) 0 0

variable {buffer offset}

theorem Reading.round {s : DecodeState} (h : Reading buffer offset s)
    (running : (decodeLoop buffer).guard s = true) :
    Reading buffer offset ((decodeLoop buffer).body s) := by
  obtain ⟨more, inside⟩ := Bool.and_eq_true_iff.mp running
  have hlt : s.currentOffset < buffer.length := of_decide_eq_true inside
  have next : buffer.drop s.currentOffset =
      buffer.getD s.currentOffset 0 :: buffer.drop (s.currentOffset + 1) := by
    rw [List.getD_eq_getElem _ _ hlt, List.drop_eq_getElem_cons hlt]
  have read := h.pending more
  rw [next, Integers.readVlq] at read
  refine ⟨Nat.le_succ_of_le h.started, le_max_of_le_right hlt, ?_, ?_⟩
  · intro continues
    rw [if_neg (of_decide_eq_true continues)] at read
    exact read
  · intro ends
    rw [if_pos (not_not.mp (of_decide_eq_false ends))] at read
    exact ⟨hlt, read⟩

/-- The loop ends on every buffer, with what `decodeVLQ` returns. -/
theorem decodeLoop_ends (buffer : Bytes) (offset : Nat) :
    (decodeLoop buffer).Ends
      (fun s => Sdk.decodeVLQ buffer offset = { value := s.value, offset := s.currentOffset })
      (.start offset) := by
  refine Loop.ends_of_invariant (Reading buffer offset)
    (fun s => buffer.length - s.currentOffset) ?_ ?_
    ⟨le_refl offset, le_max_left _ _, fun _ => rfl, fun h => nomatch h⟩
  · intro s reading running
    refine ⟨reading.round running, ?_⟩
    obtain ⟨_, inside⟩ := Bool.and_eq_true_iff.mp running
    have hlt : s.currentOffset < buffer.length := of_decide_eq_true inside
    show buffer.length - (s.currentOffset + 1) < buffer.length - s.currentOffset
    omega
  · intro s reading finished
    have started := reading.started
    have inside := reading.inside
    cases more : s.more with
    | true =>
        -- the bytes are used up before a number has ended
        have reached : buffer.length ≤ s.currentOffset := by
          rw [decodeLoop] at finished
          simp only [more, Bool.true_and, decide_eq_false_iff_not] at finished
          omega
        have read := reading.pending more
        rw [List.drop_of_length_le reached, Integers.readVlq] at read
        simp only [Sdk.decodeVLQ, ← read, Sdk.VlqResult.mk.injEq, true_and, List.length_nil]
        omega
    | false =>
        obtain ⟨here, read⟩ := reading.ended more
        simp only [Sdk.decodeVLQ, ← read, Sdk.VlqResult.mk.injEq, true_and, List.length_drop]
        omega

end Reading

section Codes

open Backend (VLQSerializer.encode_vlq VLQSerializer.decode_vlq)

/-- What holds of the code of `n` in the SDK and in the backend. -/
structure SelfDelimiting (n : Nat) : Prop where
  reads : ∀ front rest : Bytes,
    Sdk.decodeVLQ (front ++ Sdk.encodeVLQ n ++ rest) front.length =
      { value := n, offset := front.length + (Sdk.encodeVLQ n).length }
  continuation : ∃ front last, Sdk.encodeVLQ n = front ++ [last] ∧
    (∀ b ∈ front, b &&& 0x80 ≠ 0) ∧ last &&& 0x80 = 0 ∧ (last = 0 ↔ n = 0)
  canonical : ∀ bs, Vlq.Canonical bs → Vlq.value bs = n → bs = Sdk.encodeVLQ n
  writes : n ≠ 0 → encodeLoop.Ends (fun s => s.written = Sdk.encodeVLQ n)
    { remaining := n, written := [] }
  backendWrites : n ≠ 0 →
    encode_vlq_loop.Ends (fun s => s.written.flatten = VLQSerializer.encode_vlq n)
      { remaining := n, written := [] }
  sameBytes : VLQSerializer.encode_vlq n = Hex.encode (Sdk.encodeVLQ n)
  backendReads : ∀ rest : Bytes,
    VLQSerializer.decode_vlq (VLQSerializer.encode_vlq n ++ Hex.encode rest) = .ok (n : Int)
  backendReadsText : ∀ follow : Text,
    VLQSerializer.decode_vlq (VLQSerializer.encode_vlq n ++ follow) = .ok (n : Int) ↔
      (Py.bytesFromhex follow).isSome

theorem decode_vlq_encode_append (n : Nat) {follow : Text} {rest : Bytes}
    (read : Py.bytesFromhex follow = some rest) :
    VLQSerializer.decode_vlq (Hex.encode (Vlq.encode n) ++ follow) = .ok (n : Int) := by
  have code := Integers.readVlq_encode_zero n rest
  rw [VLQSerializer.decode_vlq, Py.bytesFromhex_encode_append, read, Option.map_some]
  simp only [code]
  rfl

theorem decode_vlq_of_not_hex (n : Nat) {follow : Text} (unread : Py.bytesFromhex follow = none) :
    VLQSerializer.decode_vlq (Hex.encode (Vlq.encode n) ++ follow) ≠ .ok (n : Int) := by
  rw [VLQSerializer.decode_vlq, Py.bytesFromhex_encode_append, unread, Option.map_none]
  exact Exceptions.throw_ne_ok _ _

theorem and_top_ne_zero {b : Byte} (h : 128 ≤ b.toNat) : b &&& 0x80 ≠ 0 := by
  intro clear
  have ends := (Vlq.and_top_eq_zero_iff b).mp clear
  omega

theorem selfDelimiting (n : Nat) : SelfDelimiting n := by
  have code := Sdk.encodeVLQ_natCast n
  have text := Backend.VLQSerializer.encode_vlq_natCast n
  constructor
  · intro front rest
    rw [code, List.append_assoc, Sdk.decodeVLQ_encode]
  · obtain ⟨front, last, split, continues, ends, zero⟩ := Vlq.exists_last_encode n
    rw [code]
    exact ⟨front, last, split, fun b hb => and_top_ne_zero (continues b hb),
      (Vlq.and_top_eq_zero_iff last).mpr ends, zero⟩
  · rintro bs canonical rfl
    rw [code, Vlq.encode_value canonical]
  · intro nonzero
    have loop := groupsLoop_ends (fun byte => byte) { remaining := (n : Int), written := [] }
    rw [Integers.vlqGroups_natCast (Nat.pos_of_ne_zero nonzero), List.map_id', ← code] at loop
    exact loop
  · intro nonzero
    have loop := groupsLoop_ends Hex.ofByte { remaining := (n : Int), written := [] }
    rw [Integers.vlqGroups_natCast (Nat.pos_of_ne_zero nonzero)] at loop
    obtain ⟨rounds, running, done, written⟩ := loop
    refine ⟨rounds, running, done, ?_⟩
    rw [text]
    exact congrArg List.flatten written
  · rw [text, code]
  · intro rest
    rw [text]
    exact decode_vlq_encode_append n (Py.bytesFromhex_of_decode (Hex.decode_encode rest))
  · intro follow
    rw [text]
    cases read : Py.bytesFromhex follow with
    | none => exact iff_of_false (decode_vlq_of_not_hex n read) Bool.false_ne_true
    | some rest => exact iff_of_true (decode_vlq_encode_append n read) rfl

/-- Every number has one code, which ends itself, and the loops that write and read it end, the
one that reads on all bytes. -/
theorem vlq_self_delimiting :
    (∀ n : Nat, SelfDelimiting n) ∧ ∀ (buffer : Bytes) (offset : Nat),
      (decodeLoop buffer).Ends
        (fun s => Sdk.decodeVLQ buffer offset = { value := s.value, offset := s.currentOffset })
        (.start offset) :=
  ⟨selfDelimiting, decodeLoop_ends⟩

end Codes

end DuckPools.Registers
