import StateMovementFabric.Store.Contents

namespace StateMovementFabric

open Foundation

/-!
# The log as a framed format

A record header declares the number, the kind and the length of its payload, and
its checksum covers all three and the payload.  This module reads a header back
field by field, and from that shows that a written record is accepted by recovery
whatever stands behind it and that a cut record is torn.
-/

/-! ## Reading a header back -/

section Header

variable (type : UInt8) (sequence : UInt64) (length : Nat) (rest : Bytes)

@[simp] theorem recordHeaderFront_length :
    (recordHeaderFront type sequence length).length = 24 := by
  simp [recordHeaderFront, kRecordMagic, ascii]

@[simp] theorem recordFrame_length (payload : Bytes) :
    (recordFrame type sequence payload).length = kRecordHeaderBytes + payload.length := by
  simp only [recordFrame, List.length_append, recordHeaderFront_length, Digest.width,
    kRecordHeaderBytes]

theorem slice_append_middle {front middle back : Bytes} {start width : Nat}
    (starts : front.length = start) (wide : middle.length = width) :
    slice (front ++ (middle ++ back)) start width = middle := by
  rw [slice, List.drop_left' starts, List.take_left' wide]

theorem magic_of_front :
    (recordHeaderFront type sequence length ++ rest).take 4 = kRecordMagic := rfl

theorem version_of_front :
    ((recordHeaderFront type sequence length ++ rest).getD 4 0).toNat =
      kMovementStoreFormatVersion := rfl

theorem type_of_front : (recordHeaderFront type sequence length ++ rest).getD 5 0 = type := rfl

theorem reserved_of_front :
    ¬(loadLe (slice (recordHeaderFront type sequence length ++ rest) 6 2) ≠ 0 ∨
      loadLe (slice (recordHeaderFront type sequence length ++ rest) 20 4) ≠ 0) := by
  have first : slice (recordHeaderFront type sequence length ++ rest) 6 2 = [0, 0] := rfl
  have second : slice (recordHeaderFront type sequence length ++ rest) 20 4 = [0, 0, 0, 0] := rfl
  rw [first, second]
  decide

theorem payloadLength_of_front (fits : length < 4294967296) :
    loadLe (slice (recordHeaderFront type sequence length ++ rest) 16 4) = length := by
  have field : slice (recordHeaderFront type sequence length ++ rest) 16 4 = storeLe length 4 := rfl
  rw [field, loadLe_storeLe_of_lt fits]

theorem sequence_of_front :
    UInt64.ofNat (loadLe (slice (recordHeaderFront type sequence length ++ rest) 8 8)) =
      sequence := by
  have field : slice (recordHeaderFront type sequence length ++ rest) 8 8 =
      storeLe sequence.toNat 8 := rfl
  rw [field, loadLe_storeLe_of_lt sequence.toNat_lt, UInt64.ofNat_toNat]

end Header

/-- One round of recovery on a well-formed header, an arbitrary checksum field and
an arbitrary rest. -/
theorem recoverStep_header (options : MovementStoreOptions) (state : RecoveryState) (type : UInt8)
    (sequence : UInt64) {length : Nat} (fits : length < 4294967296) {checksum : Bytes}
    (wide : checksum.length = 32) (body : Bytes) :
    recoverStep options state (recordHeaderFront type sequence length ++ (checksum ++ body)) =
      if length > options.maxRecordBytes.toNat then
        .refused (.of .STORE_OVERSIZED "store record declares an oversized payload")
      else if length > body.length then .torn
      else if (recordChecksum (recordHeaderFront type sequence length) (body.take length)).bytes ≠
          checksum then
        if length ≥ body.length then .torn
        else .refused (.of .STORE_CHECKSUM_MISMATCH "store record checksum mismatch")
      else if sequence ≤ state.sequence then
        .refused (.of .STORE_RECORD_INVALID "store record sequence is not strictly increasing")
      else
        match applyRecord options state.contents type (body.take length) with
        | .error status => .refused status
        | .ok contents =>
            .consumed (kRecordHeaderBytes + length) ⟨sequence, state.recordsRead + 1, contents⟩ := by
  have total : (recordHeaderFront type sequence length ++ (checksum ++ body)).length =
      kRecordHeaderBytes + body.length := by
    simp only [List.length_append, recordHeaderFront_length, wide, kRecordHeaderBytes]
    omega
  have covered : (recordHeaderFront type sequence length ++ (checksum ++ body)).take 24 =
      recordHeaderFront type sequence length :=
    List.take_left' (recordHeaderFront_length type sequence length)
  have stored : slice (recordHeaderFront type sequence length ++ (checksum ++ body)) 24 32 =
      checksum :=
    slice_append_middle (recordHeaderFront_length type sequence length) wide
  have payload : slice (recordHeaderFront type sequence length ++ (checksum ++ body))
      kRecordHeaderBytes length = body.take length := by
    have start : (recordHeaderFront type sequence length ++ checksum).length =
        kRecordHeaderBytes := by
      simp [wide, kRecordHeaderBytes]
    rw [slice, ← List.append_assoc, List.drop_left' start]
  unfold recoverStep
  rw [if_neg (by rw [total]; omega), if_neg (not_not.mpr (magic_of_front _ _ _ _)),
    if_neg (not_not.mpr (version_of_front _ _ _ _)), if_neg (reserved_of_front _ _ _ _)]
  simp only [payloadLength_of_front _ _ _ _ fits, total, payload, covered, stored,
    sequence_of_front, type_of_front]
  simp only [Nat.add_sub_cancel_left, ge_iff_le, Nat.add_le_add_iff_left] <;> rfl

/-! ## Entries -/

/-- A record of the log with its number. -/
structure LogEntry where
  sequence : UInt64
  record : LogRecord
  deriving DecidableEq

namespace LogEntry

def frame (entry : LogEntry) : Bytes :=
  recordFrame entry.record.type entry.sequence entry.record.payload

@[simp] theorem frame_length (entry : LogEntry) :
    entry.frame.length = kRecordHeaderBytes + entry.record.payload.length := by
  simp [frame]

end LogEntry

/-- A record that recovery reads back as itself: it is in stored form, within the
size bound, and its payload decodes to it. -/
structure Readable (options : MovementStoreOptions) (record : LogRecord) : Prop where
  stored_eq : record.stored = record
  bounded : record.payload.length ≤ options.maxRecordBytes.toNat
  decodes : decodeRecord options record.type record.payload = .ok record

/-- The state after reading one more entry. -/
def RecoveryState.read (state : RecoveryState) (entry : LogEntry) : RecoveryState :=
  ⟨entry.sequence, state.recordsRead + 1, state.contents.apply entry.record⟩

/-- An entry that recovery accepts next. -/
def ReadyEntry (options : MovementStoreOptions) (state : RecoveryState) (entry : LogEntry) : Prop :=
  state.sequence < entry.sequence ∧ Readable options entry.record

variable {options : MovementStoreOptions} {state : RecoveryState} {entry : LogEntry}

theorem payload_lt_of_readable {record : LogRecord} (readable : Readable options record) :
    record.payload.length < 4294967296 := by
  have := readable.bounded
  have := options.maxRecordBytes.toNat_lt
  omega

theorem LogEntry.frame_append (entry : LogEntry) (rest : Bytes) :
    entry.frame ++ rest =
      recordHeaderFront entry.record.type entry.sequence entry.record.payload.length ++
        ((recordChecksum (recordHeaderFront entry.record.type entry.sequence
          entry.record.payload.length) entry.record.payload).bytes ++
          (entry.record.payload ++ rest)) := by
  simp [LogEntry.frame, recordFrame]

/-- A written entry whose number does not advance is refused. -/
theorem recoverStep_stale (rest : Bytes) (readable : Readable options entry.record)
    (stale : entry.sequence ≤ state.sequence) :
    recoverStep options state (entry.frame ++ rest) =
      .refused (.of .STORE_RECORD_INVALID "store record sequence is not strictly increasing") := by
  have bounded := readable.bounded
  rw [entry.frame_append, recoverStep_header options state _ _ (payload_lt_of_readable readable)
    (Digest.width _), List.take_left, if_neg (by omega), if_neg (by simp), if_neg (by simp),
    if_pos stale]

/-- A written entry is accepted in front of anything. -/
theorem recoverStep_frame (rest : Bytes) (ready : ReadyEntry options state entry) :
    recoverStep options state (entry.frame ++ rest) =
      .consumed entry.frame.length (state.read entry) := by
  rcases ready with ⟨later, readable⟩
  have bounded := readable.bounded
  have applied : applyRecord options state.contents entry.record.type entry.record.payload =
      .ok (state.contents.apply entry.record) := by
    rw [applyRecord, readable.decodes]
    rfl
  have laterNot : ¬entry.sequence ≤ state.sequence := by
    rw [UInt64.not_le]
    exact later
  rw [entry.frame_append, recoverStep_header options state _ _ (payload_lt_of_readable readable)
    (Digest.width _), List.take_left, if_neg (by omega), if_neg (by simp), if_neg (by simp),
    if_neg laterNot, applied, LogEntry.frame_length]
  rfl

/-- A cut entry is torn, wherever the cut is. -/
theorem recoverStep_cut {cut : Nat} (ready : ReadyEntry options state entry)
    (inside : cut < entry.frame.length) :
    recoverStep options state (entry.frame.take cut) = .torn := by
  rcases ready with ⟨_, readable⟩
  have bounded := readable.bounded
  rw [LogEntry.frame_length] at inside
  by_cases short : cut < kRecordHeaderBytes
  · -- the header itself is cut
    have small : (entry.frame.take cut).length < kRecordHeaderBytes := by
      rw [List.length_take]
      omega
    rw [recoverStep, if_pos small]
  · -- the header is whole and declares more payload than is left
    have layout : entry.frame.take cut =
        recordHeaderFront entry.record.type entry.sequence entry.record.payload.length ++
          ((recordChecksum (recordHeaderFront entry.record.type entry.sequence
            entry.record.payload.length) entry.record.payload).bytes ++
            entry.record.payload.take (cut - kRecordHeaderBytes)) := by
      have whole : (recordHeaderFront entry.record.type entry.sequence
          entry.record.payload.length ++ (recordChecksum (recordHeaderFront entry.record.type
            entry.sequence entry.record.payload.length) entry.record.payload).bytes).length =
          kRecordHeaderBytes := by
        simp [Digest.width, kRecordHeaderBytes]
      rw [LogEntry.frame, recordFrame, List.take_append, whole,
        List.take_of_length_le (by rw [whole]; omega), List.append_assoc]
    rw [layout, recoverStep_header options state _ _ (payload_lt_of_readable readable)
      (Digest.width _), if_neg (by omega), if_pos]
    rw [List.length_take]
    omega

/-- The movement log as a frame format. -/
def logFormat (options : MovementStoreOptions) :
    FrameFormat Byte RecoveryState Status LogEntry where
  step := recoverStep options
  frame := LogEntry.frame
  apply := RecoveryState.read
  Ready := ReadyEntry options
  frame_ne_nil entry := by
    apply List.ne_nil_of_length_pos
    rw [LogEntry.frame_length, kRecordHeaderBytes]
    omega
  accepts rest ready := recoverStep_frame rest ready
  tears ready _ inside := recoverStep_cut ready inside

end StateMovementFabric
