import QueueFabric.Framing
import QueueFabric.Corruption

/-!
A byte of an encoded frame changed in place. The magic and the version are
compared, everything else but the length is under the checksum.
-/

namespace QueueFabric

open Streaming

/-! Fields of changed bytes. -/

section Fields

variable {raw : Bytes} {position offset : Nat} {byte old : UInt8}

theorem slice_set_outside (width : Nat) (outside : position < offset ∨ offset + width ≤ position) :
    ((raw.set position byte).drop offset).take width = (raw.drop offset).take width := by
  apply List.ext_getElem?
  intro index
  simp only [List.getElem?_take, List.getElem?_drop, List.getElem?_set]
  split
  · rw [if_neg (by omega)]
  · rfl

theorem leValue_injective {first second : Bytes} (length : first.length = second.length)
    (same : Wire.leValue first = Wire.leValue second) : first = second := by
  rw [← Wire.leBytes_leValue first, same, length, Wire.leBytes_leValue]

theorem slice_set_inside (width : Nat) (there : raw[position]? = some old) (changed : byte ≠ old)
    (inside : offset ≤ position ∧ position < offset + width) :
    ((raw.set position byte).drop offset).take width ≠ (raw.drop offset).take width := by
  intro same
  have read := congrArg (fun slice => slice[position - offset]?) same
  have reached : offset + (position - offset) = position := by omega
  have bound : position < raw.length := (List.getElem?_eq_some_iff.mp there).1
  simp only [List.getElem?_take, List.getElem?_drop, reached, there,
    List.getElem?_set_self bound] at read
  rw [if_pos (by omega), if_pos (by omega)] at read
  exact changed (Option.some.inj read)

theorem getU16At_set_outside (outside : position < offset ∨ offset + 2 ≤ position) :
    getU16At (raw.set position byte) offset = getU16At raw offset := by
  rw [getU16At, getU16At, slice_set_outside 2 outside]

theorem getU32At_set_outside (outside : position < offset ∨ offset + 4 ≤ position) :
    getU32At (raw.set position byte) offset = getU32At raw offset := by
  rw [getU32At, getU32At, slice_set_outside 4 outside]

theorem length_slice_set (width : Nat) :
    (((raw.set position byte).drop offset).take width).length =
      ((raw.drop offset).take width).length := by
  simp

theorem getU16At_set_inside (there : raw[position]? = some old) (changed : byte ≠ old)
    (inside : offset ≤ position ∧ position < offset + 2) :
    getU16At (raw.set position byte) offset ≠ getU16At raw offset := by
  intro same
  have bound (slice : Bytes) : Wire.leValue (slice.take 2) < UInt16.size := by
    refine Nat.lt_of_lt_of_le (Wire.leValue_lt _) ?_
    exact Nat.pow_le_pow_right (show 256 > 0 by decide) (List.length_take_le 2 slice)
  have values := congrArg UInt16.toNat same
  rw [getU16At, getU16At, UInt16.toNat_ofNat_of_lt' (bound _),
    UInt16.toNat_ofNat_of_lt' (bound _)] at values
  exact slice_set_inside 2 there changed inside (leValue_injective (length_slice_set 2) values)

theorem getU32At_set_inside (there : raw[position]? = some old) (changed : byte ≠ old)
    (inside : offset ≤ position ∧ position < offset + 4) :
    getU32At (raw.set position byte) offset ≠ getU32At raw offset := by
  intro same
  have bound (slice : Bytes) : Wire.leValue (slice.take 4) < UInt32.size := by
    refine Nat.lt_of_lt_of_le (Wire.leValue_lt _) ?_
    exact Nat.pow_le_pow_right (show 256 > 0 by decide) (List.length_take_le 4 slice)
  have values := congrArg UInt32.toNat same
  rw [getU32At, getU32At, UInt32.toNat_ofNat_of_lt' (bound _),
    UInt32.toNat_ofNat_of_lt' (bound _)] at values
  exact slice_set_inside 4 there changed inside (leValue_injective (length_slice_set 4) values)

end Fields

/-! The checks of one whole frame. -/

/-- The bytes the checksum of a frame is taken over. -/
def covered (raw : Bytes) : Bytes := raw.take 20 ++ raw.drop frameHeaderBytes

theorem sum_covered {raw : Bytes} {length : Nat} (whole : raw.length = frameHeaderBytes + length) :
    crc32cExtend (crc32c (raw.take 20)) ((raw.drop frameHeaderBytes).take length) =
      crc32c (covered raw) := by
  have payload : (raw.drop frameHeaderBytes).take length = raw.drop frameHeaderBytes := by
    refine List.take_of_length_le ?_
    rw [List.length_drop]
    omega
  rw [payload, covered, crc32c, crc32c, crc32cExtend_append]

section Covered

variable {raw : Bytes} {position : Nat} {byte old : UInt8}

theorem covered_set_sum (inside : 20 ≤ position ∧ position < 24) :
    covered (raw.set position byte) = covered raw := by
  rw [covered, covered, List.take_set_of_le inside.1,
    List.drop_set_of_lt (show position < frameHeaderBytes from inside.2)]

/-- The byte stands in the head or in the payload of what the checksum covers. -/
theorem covered_set (there : raw[position]? = some old) (changed : byte ≠ old)
    (elsewhere : position < 20 ∨ 24 ≤ position) :
    crc32c (covered (raw.set position byte)) ≠ crc32c (covered raw) := by
  have bound : position < raw.length := (List.getElem?_eq_some_iff.mp there).1
  rcases elsewhere with head | payload
  · have room : position < (raw.take 20).length := by
      rw [List.length_take]
      omega
    have moved : covered (raw.set position byte) = (covered raw).set position byte := by
      rw [covered, covered, List.take_set, List.drop_set_of_lt (by simp [frameHeaderBytes]; omega),
        List.set_append_left _ _ room]
    rw [moved]
    refine crc32cExtend_set 0 ?_ changed
    rw [covered, List.getElem?_append_left room, List.getElem?_take, if_pos head]
    exact there
  · have twenty : (raw.take 20).length = 20 := List.length_take_of_le (by omega)
    have moved : covered (raw.set position byte) = (covered raw).set (position - 4) byte := by
      rw [covered, covered, List.take_set_of_le (by omega), List.drop_set, if_neg (by
        simp [frameHeaderBytes]; omega), List.set_append_right _ _ (by omega), twenty]
      simp only [frameHeaderBytes, Nat.sub_sub]
    rw [moved]
    refine crc32cExtend_set 0 ?_ changed
    rw [covered, List.getElem?_append_right (by omega), twenty, List.getElem?_drop]
    have reached : frameHeaderBytes + (position - 4 - 20) = position := by
      simp only [frameHeaderBytes]
      omega
    rw [reached]
    exact there

end Covered

/-- Bytes that are one frame and nothing more. -/
structure Whole (maxPayload : UInt64) (raw : Bytes) : Prop where
  magic : getU32At raw 0 = frameMagic
  version : getU16At raw 4 = protocolVersion
  bounded : (getU32At raw 16).toNat ≤ maxPayload.toNat
  length : raw.length = frameHeaderBytes + (getU32At raw 16).toNat
  sum : getU32At raw 20 = crc32c (covered raw)

theorem whole_of_read {maxPayload : UInt64} {raw : Bytes} {frame : Frame}
    (attempted : frameAttempt maxPayload raw = .read frame []) : Whole maxPayload raw := by
  obtain ⟨complete, rest⟩ := frameAttempt_read attempted
  have length : raw.length = frameHeaderBytes + (getU32At raw 16).toNat := by
    have short := List.drop_eq_nil_iff.mp rest.symm
    omega
  simp only [frameAttempt, sum_covered length] at attempted
  split at attempted
  · cases attempted
  split at attempted
  · cases attempted
  rename_i magic
  split at attempted
  · cases attempted
  rename_i version
  split at attempted
  · cases attempted
  rename_i bounded
  split at attempted
  · cases attempted
  split at attempted
  · cases attempted
  rename_i sum
  exact ⟨not_not.mp magic, not_not.mp version, by omega, length, not_not.mp sum⟩

/-- The stored sum and the computed one are apart once a byte of either is changed. -/
theorem Whole.sums_differ {maxPayload : UInt64} {raw : Bytes} {position : Nat} {byte old : UInt8}
    (whole : Whole maxPayload raw) (there : raw[position]? = some old) (changed : byte ≠ old) :
    getU32At (raw.set position byte) 20 ≠ crc32c (covered (raw.set position byte)) := by
  by_cases stored : 20 ≤ position ∧ position < 24
  · rw [covered_set_sum stored, ← whole.sum]
    exact getU32At_set_inside there changed stored
  · rw [getU32At_set_outside (by omega), whole.sum]
    exact (covered_set there changed (by omega)).symm

theorem frameAttempt_set {maxPayload : UInt64} {raw : Bytes} {position : Nat} {byte old : UInt8}
    (whole : Whole maxPayload raw) (there : raw[position]? = some old) (changed : byte ≠ old)
    (outside : position < 16 ∨ 20 ≤ position) :
    ∃ status, frameAttempt maxPayload (raw.set position byte) = .refused status := by
  have size : getU32At (raw.set position byte) 16 = getU32At raw 16 :=
    getU32At_set_outside (by omega)
  have length : (raw.set position byte).length =
      frameHeaderBytes + (getU32At (raw.set position byte) 16).toNat := by
    rw [List.length_set, size]
    exact whole.length
  have bounded := whole.bounded
  have differ := whole.sums_differ there changed
  simp only [frameAttempt, sum_covered length]
  split
  · omega
  split
  · exact ⟨_, rfl⟩
  split
  · exact ⟨_, rfl⟩
  split
  · exact ⟨_, rfl⟩
  split
  · omega
  -- the sums differ
  exact ⟨_, rfl⟩

/-! The decoder. -/

namespace FrameDecoder

theorem receiveAll_failed {decoder : FrameDecoder} (failed : decoder.failed = true)
    (chunks : List Bytes) : (decoder.receiveAll chunks).1 = [] := by
  induction chunks with
  | nil => rfl
  | cons chunk rest ih =>
      have pushed : (decoder.push chunk).2 = decoder := by simp [push, failed]
      have drained : decoder.drain = ([], decoder) := by
        simp [drain, drainUpTo, next, failed]
      simp only [receiveAll, receive, pushed, drained, List.nil_append]
      exact ih

/-- Refused bytes make the next read of a new decoder fail, even where they do not fit its buffer. -/
theorem push_refused {maxPayload : UInt64} {data : Bytes} {reason : Status}
    (refused : frameAttempt maxPayload data = .refused reason) :
    ∃ status decoder, (push { maxPayload } data).2.next = (.error status, decoder) ∧
      decoder.failed = true := by
  have some : data ≠ [] := by
    intro empty
    rw [empty] at refused
    cases refused
  by_cases exceeds : exceeds { maxPayload } data = true
  · refine ⟨⟨.capacityExceeded, "frame buffer bound exceeded"⟩,
      fail { maxPayload } ⟨.capacityExceeded, "frame buffer bound exceeded"⟩, ?_, rfl⟩
    simp [push, some, exceeds, next, fail]
  · have pushed : (push { maxPayload } data).2 = { maxPayload, buffer := data } := by
      simp [push, some, exceeds]
    have sound : Sound { maxPayload, buffer := data } := ⟨Nat.zero_le _, fun _ => rfl⟩
    have ended := next_cases sound rfl
    rw [pushed]
    generalize next { maxPayload, buffer := data } = reply at ended
    cases ended with
    | short status attempted =>
        have same : frameAttempt maxPayload data = .short := attempted
        rw [refused] at same
        cases same
    | refused status attempted => exact ⟨status, _, rfl, rfl⟩
    | read frame after sound attempted alive same =>
        have read : frameAttempt maxPayload data = .read frame after.unread := attempted
        rw [refused] at read
        cases read

/-- One changed byte of an encoded frame, outside its length: `next` fails for good. -/
theorem changed_frame_refused {frame : Frame} {limit maxPayload : UInt64} {position : Nat}
    {byte old : UInt8} (allowed : frame.payload.length ≤ limit.toNat)
    (bounded : frame.payload.length ≤ maxPayload.toNat)
    (framed : frame.payload.length ≤ Limits.maxFramePayloadBytes)
    (there : (encodeFrame frame limit)[position]? = some old) (changed : byte ≠ old)
    (outside : position < 16 ∨ 20 ≤ position) :
    ∃ status decoder,
      (push { maxPayload } ((encodeFrame frame limit).set position byte)).2.next =
        (.error status, decoder) ∧
      decoder.failed = true ∧ ∀ chunks, (decoder.receiveAll chunks).1 = [] := by
  have read := frameAttempt_encodeFrame allowed bounded framed []
  rw [List.append_nil] at read
  obtain ⟨reason, refused⟩ := frameAttempt_set (whole_of_read read) there changed outside
  generalize (encodeFrame frame limit).set position byte = data at refused
  obtain ⟨status, decoder, ended, failed⟩ := push_refused refused
  exact ⟨status, decoder, ended, failed, receiveAll_failed failed⟩

/-- The sequence number of a small frame changed. -/
theorem changed_sequence_refused :
    ∃ status decoder,
      (push {} ((encodeFrame ⟨7, 1, [1, 2, 3]⟩ 64).set 12 9)).2.next = (.error status, decoder) ∧
      decoder.failed = true ∧ ∀ chunks, (decoder.receiveAll chunks).1 = [] :=
  @changed_frame_refused ⟨7, 1, [1, 2, 3]⟩ 64 _ 12 9 1 (by decide) (by decide) (by decide)
    (by decide +kernel) (by decide) (by decide)

end FrameDecoder

end QueueFabric
