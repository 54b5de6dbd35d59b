import QueueFabric.Lib.Stream
import QueueFabric.FrameCore

/-!
The frame decoder reads a stream: its buffer and offset stand for the bytes not
yet turned into frames, and what it yields does not depend on how the stream was
cut into pushes.
-/

namespace QueueFabric

open Streaming

/-- What the unread bytes of a stream start with. -/
def frameAttempt (maxPayload : UInt64) (raw : Bytes) : Attempt UInt8 Frame Status :=
  let length := (getU32At raw 16).toNat
  let payload := (raw.drop frameHeaderBytes).take length
  if raw.length < frameHeaderBytes then .short
  else if getU32At raw 0 ≠ frameMagic then .refused ⟨.malformedInput, "frame magic mismatch"⟩
  else if getU16At raw 4 ≠ protocolVersion then
    .refused ⟨.unsupported, "frame protocol version is not supported"⟩
  else if length > maxPayload.toNat then
    .refused ⟨.capacityExceeded, "frame payload exceeds the configured bound"⟩
  else if raw.length < frameHeaderBytes + length then .short
  else if getU32At raw 20 ≠ crc32cExtend (crc32c (raw.take 20)) payload then
    .refused ⟨.integrityFailure, "frame checksum mismatch"⟩
  else .read ⟨getU16At raw 6, getU32At raw 12, payload⟩ (raw.drop (frameHeaderBytes + length))

section Steady

variable {maxPayload : UInt64} {raw : Bytes}

theorem frameAttempt_header (complete : frameHeaderBytes ≤ raw.length) (later : Bytes) :
    getU32At (raw ++ later) 0 = getU32At raw 0 ∧ getU16At (raw ++ later) 4 = getU16At raw 4 ∧
      getU16At (raw ++ later) 6 = getU16At raw 6 ∧ getU32At (raw ++ later) 12 = getU32At raw 12 ∧
      getU32At (raw ++ later) 16 = getU32At raw 16 ∧
      getU32At (raw ++ later) 20 = getU32At raw 20 ∧ (raw ++ later).take 20 = raw.take 20 := by
  simp only [frameHeaderBytes] at complete
  exact ⟨getU32At_append (by omega) later, getU16At_append (by omega) later,
    getU16At_append (by omega) later, getU32At_append (by omega) later,
    getU32At_append (by omega) later, getU32At_append (by omega) later,
    List.take_append_of_le_length (by omega)⟩

theorem frameAttempt_payload {length : Nat} (complete : frameHeaderBytes + length ≤ raw.length)
    (later : Bytes) : ((raw ++ later).drop frameHeaderBytes).take length =
      (raw.drop frameHeaderBytes).take length := by
  rw [List.drop_append_of_le_length (by omega), List.take_append_of_le_length (by simp; omega)]

theorem frameAttempt_append (later : Bytes) :
    match frameAttempt maxPayload raw with
    | .short => True
    | .refused status => frameAttempt maxPayload (raw ++ later) = .refused status
    | .read frame rest => frameAttempt maxPayload (raw ++ later) = .read frame (rest ++ later) := by
  by_cases header : raw.length < frameHeaderBytes
  · simp [frameAttempt, header]
  have longer : ¬ (raw ++ later).length < frameHeaderBytes := by simp; omega
  obtain ⟨magic, version, type, sequence, size, stored, head⟩ :=
    frameAttempt_header (Nat.le_of_not_lt header) later
  simp only [frameAttempt, header, longer, magic, version, type, sequence, size, stored, head,
    ↓reduceIte]
  by_cases wrong : getU32At raw 0 ≠ frameMagic
  · simp [wrong]
  by_cases foreign : getU16At raw 4 ≠ protocolVersion
  · simp [wrong, foreign]
  by_cases large : (getU32At raw 16).toNat > maxPayload.toNat
  · simp [wrong, foreign, large]
  by_cases partially : raw.length < frameHeaderBytes + (getU32At raw 16).toNat
  · simp [wrong, foreign, large, partially]
  have whole : ¬ (raw ++ later).length < frameHeaderBytes + (getU32At raw 16).toNat := by
    simp; omega
  have payload := frameAttempt_payload (Nat.le_of_not_lt partially) later
  simp only [wrong, foreign, large, partially, whole, payload, ↓reduceIte]
  by_cases damaged : getU32At raw 20 ≠ crc32cExtend (crc32c (raw.take 20))
      ((raw.drop frameHeaderBytes).take (getU32At raw 16).toNat)
  · simp [damaged]
  · simp only [damaged, ↓reduceIte, Attempt.read.injEq, true_and]
    exact List.drop_append_of_le_length (by omega)

theorem frameAttempt_read {frame : Frame} {rest : Bytes}
    (attempted : frameAttempt maxPayload raw = .read frame rest) :
    frameHeaderBytes + (getU32At raw 16).toNat ≤ raw.length ∧
      rest = raw.drop (frameHeaderBytes + (getU32At raw 16).toNat) := by
  simp only [frameAttempt] at attempted
  split at attempted
  · cases attempted
  split at attempted
  · cases attempted
  split at attempted
  · cases attempted
  split at attempted
  · cases attempted
  split at attempted
  · cases attempted
  split at attempted
  · cases attempted
  · cases attempted
    exact ⟨by omega, rfl⟩

theorem frameAttempt_steady (maxPayload : UInt64) : Steady (frameAttempt maxPayload) where
  refused {input reason} later attempted := by
    have appended := @frameAttempt_append maxPayload input later
    rw [attempted] at appended
    exact appended
  read {input item rest} later attempted := by
    have appended := @frameAttempt_append maxPayload input later
    rw [attempted] at appended
    exact appended
  shrinks {input item rest} attempted := by
    obtain ⟨complete, rfl⟩ := frameAttempt_read attempted
    simp only [List.length_drop, frameHeaderBytes] at complete ⊢
    omega

end Steady

theorem frameAttempt_encodeFrame {frame : Frame} {limit maxPayload : UInt64}
    (allowed : frame.payload.length ≤ limit.toNat)
    (bounded : frame.payload.length ≤ maxPayload.toNat)
    (framed : frame.payload.length ≤ Limits.maxFramePayloadBytes) (rest : Bytes) :
    frameAttempt maxPayload (encodeFrame frame limit ++ rest) = .read frame rest := by
  have crc : (if frame.payload ≠ [] then crc32cExtend (crc32c (encodeFrameHead frame)) frame.payload
      else crc32c (encodeFrameHead frame)) =
      crc32cExtend (crc32c (encodeFrameHead frame)) frame.payload := by
    split
    · rfl
    · rename_i empty
      rw [ne_eq, not_not] at empty
      rw [empty, crc32cExtend_nil]
  have size : (UInt32.ofNat frame.payload.length).toNat = frame.payload.length := by
    simp only [Limits.maxFramePayloadBytes] at framed
    rw [UInt32.toNat_ofNat']
    omega
  rw [encodeFrame, if_neg (by omega)]
  simp only [crc]
  generalize checksum : crc32cExtend (crc32c (encodeFrameHead frame)) frame.payload = stored
  have head : (encodeFrameHead frame).length = 20 := by simp [encodeFrameHead]
  have whole : encodeFrameHead frame ++ (putU32At stored ++ frame.payload) ++ rest =
      encodeFrameHead frame ++ (putU32At stored ++ (frame.payload ++ rest)) := by simp
  rw [whole]
  generalize spelled : encodeFrameHead frame ++ (putU32At stored ++ (frame.payload ++ rest)) = raw
  have long : raw.length = 24 + (frame.payload.length + rest.length) := by
    rw [← spelled]
    simp [head]
    omega
  have flat : raw = putU32At frameMagic ++ (putU16At protocolVersion ++ (putU16At frame.type ++
      (putU16At 0 ++ (putU16At 0 ++ (putU32At frame.sequence ++
        (putU32At (UInt32.ofNat frame.payload.length) ++
          (putU32At stored ++ (frame.payload ++ rest)))))))) := by
    rw [← spelled, encodeFrameHead]
    simp only [List.append_assoc]
  have magic : getU32At raw 0 = frameMagic := by
    rw [flat]
    exact @getU32At_field [] _ 0 rfl _
  have version : getU16At raw 4 = protocolVersion := by
    rw [flat]
    exact getU16At_field rfl _
  have type : getU16At raw 6 = frame.type := by
    rw [flat, ← List.append_assoc]
    exact getU16At_field rfl _
  have sequence : getU32At raw 12 = frame.sequence := by
    rw [flat, ← List.append_assoc, ← List.append_assoc, ← List.append_assoc, ← List.append_assoc]
    exact getU32At_field rfl _
  have sized : getU32At raw 16 = UInt32.ofNat frame.payload.length := by
    rw [flat, ← List.append_assoc, ← List.append_assoc, ← List.append_assoc, ← List.append_assoc,
      ← List.append_assoc]
    exact getU32At_field rfl _
  have length : (getU32At raw 16).toNat = frame.payload.length := by rw [sized, size]
  have sum : getU32At raw 20 = stored := by
    rw [← spelled]
    exact getU32At_field head stored
  have covered : raw.take 20 = encodeFrameHead frame := by
    rw [← spelled, ← head, List.take_left]
  have start : raw.drop frameHeaderBytes = frame.payload ++ rest := by
    rw [← spelled, ← List.append_assoc]
    exact List.drop_left' (by simp [head, frameHeaderBytes])
  have payload : (raw.drop frameHeaderBytes).take frame.payload.length = frame.payload := by
    rw [start, List.take_left]
  have remaining : raw.drop (frameHeaderBytes + frame.payload.length) = rest := by
    rw [← List.drop_drop, start, List.drop_left]
  have full : ¬ raw.length < frameHeaderBytes + frame.payload.length := by
    simp only [frameHeaderBytes]
    omega
  have header : ¬ raw.length < frameHeaderBytes := by omega
  simp only [frameAttempt, magic, version, type, sequence, length, sum, covered, payload, remaining,
    full, header, checksum, ne_eq, not_true_eq_false, ↓reduceIte]
  rw [if_neg (by omega)]

/-! The decoder. -/

namespace FrameDecoder

/-- The bytes received and not yet decoded. -/
def unread (decoder : FrameDecoder) : Bytes := decoder.buffer.drop decoder.offset

/-- The offset stays inside the buffer and only a failed decoder has a failure. -/
structure Sound (decoder : FrameDecoder) : Prop where
  inside : decoder.offset ≤ decoder.buffer.length
  clean : decoder.failed = false → decoder.failure = .success

/-- The decoder as a reader of the stream. -/
def pending (decoder : FrameDecoder) : Pending UInt8 Status :=
  if decoder.failed then .stopped decoder.failure else .waiting decoder.unread

variable {decoder : FrameDecoder}

theorem length_unread (decoder : FrameDecoder) : decoder.unread.length = decoder.buffered := by
  simp [unread, buffered]

theorem unread_consume {total : Nat} (inside : decoder.offset + total ≤ decoder.buffer.length)
    (some : 0 < total) :
    (decoder.consume total).unread = decoder.unread.drop total ∧
      (decoder.consume total).offset = 0 := by
  simp only [consume, compact, unread, List.drop_drop]
  split
  · rename_i emptied
    refine ⟨?_, rfl⟩
    rw [emptied]
    simp
  · rw [if_neg (by omega), if_neg (by omega)]
    exact ⟨rfl, rfl⟩

theorem consume_frame (decoder : FrameDecoder) (total : Nat) :
    (decoder.consume total).failed = decoder.failed ∧
      (decoder.consume total).failure = decoder.failure ∧
      (decoder.consume total).maxPayload = decoder.maxPayload := by
  simp only [consume, compact]
  split
  · exact ⟨rfl, rfl, rfl⟩
  split
  · exact ⟨rfl, rfl, rfl⟩
  split <;> exact ⟨rfl, rfl, rfl⟩

/-- One call to `next` is one attempt on the unread bytes. -/
inductive NextCase (decoder : FrameDecoder) : Except Status Frame × FrameDecoder → Prop
  | short (status : Status)
      (attempted : frameAttempt decoder.maxPayload decoder.unread = .short) :
      NextCase decoder (.error status, decoder)
  | refused (status : Status)
      (attempted : frameAttempt decoder.maxPayload decoder.unread = .refused status) :
      NextCase decoder (.error status, decoder.fail status)
  | read (frame : Frame) (after : FrameDecoder) (sound : after.Sound)
      (attempted : frameAttempt decoder.maxPayload decoder.unread = .read frame after.unread)
      (alive : after.failed = false) (same : after.maxPayload = decoder.maxPayload) :
      NextCase decoder (.ok frame, after)

theorem drop_offset (decoder : FrameDecoder) :
    decoder.buffer.drop decoder.offset = decoder.unread := rfl

theorem next_cases (sound : decoder.Sound) (alive : decoder.failed = false) :
    NextCase decoder decoder.next := by
  have inside := sound.inside
  have length := length_unread decoder
  simp only [next, alive, drop_offset, Bool.false_eq_true, ↓reduceIte]
  by_cases header : decoder.buffered < frameHeaderBytes
  · simp only [header, ↓reduceIte]
    refine .short _ ?_
    simp [frameAttempt, length, header]
  by_cases wrong : ¬ getU32At decoder.unread 0 = frameMagic
  · simp only [header, wrong, ne_eq, not_false_eq_true, ↓reduceIte]
    refine .refused _ ?_
    simp [frameAttempt, length, header, wrong]
  by_cases foreign : ¬ getU16At decoder.unread 4 = protocolVersion
  · simp only [header, wrong, foreign, ne_eq, not_false_eq_true, ↓reduceIte]
    refine .refused _ ?_
    simp [frameAttempt, length, header, wrong, foreign]
  by_cases large : (getU32At decoder.unread 16).toNat > decoder.maxPayload.toNat
  · simp only [header, wrong, foreign, large, ↓reduceIte]
    refine .refused _ ?_
    simp [frameAttempt, length, header, wrong, foreign, large]
  by_cases partially : decoder.buffered < frameHeaderBytes + (getU32At decoder.unread 16).toNat
  · simp only [header, wrong, foreign, large, partially, ↓reduceIte]
    refine .short _ ?_
    simp [frameAttempt, length, header, wrong, foreign, large, partially]
  by_cases damaged : ¬ getU32At decoder.unread 20 = crc32cExtend (crc32c (decoder.unread.take 20))
      ((decoder.unread.drop frameHeaderBytes).take (getU32At decoder.unread 16).toNat)
  · simp only [header, wrong, foreign, large, partially, damaged, ne_eq, not_false_eq_true,
      ↓reduceIte]
    refine .refused _ ?_
    simp [frameAttempt, length, header, wrong, foreign, large, partially, damaged]
  simp only [header, wrong, foreign, large, partially, damaged, ↓reduceIte]
  have room : decoder.offset + (frameHeaderBytes + (getU32At decoder.unread 16).toNat) ≤
      decoder.buffer.length := by
    simp only [buffered, frameHeaderBytes] at partially ⊢
    omega
  obtain ⟨rest, start⟩ := unread_consume room (by simp [frameHeaderBytes])
  obtain ⟨failed, failure, same⟩ :=
    consume_frame decoder (frameHeaderBytes + (getU32At decoder.unread 16).toNat)
  refine .read _ _ ⟨by omega, fun _ => failure.trans (sound.clean alive)⟩ ?_ (failed.trans alive) same
  rw [rest]
  simp only [frameAttempt, length, header, wrong, foreign, large, partially, damaged,
    ↓reduceIte]

theorem drainUpTo_pending {fuel : Nat} (sound : decoder.Sound) (enough : decoder.buffered < fuel) :
    ((decoder.drainUpTo fuel).1, (decoder.drainUpTo fuel).2.pending) =
        deliver (frameAttempt decoder.maxPayload) decoder.pending [] ∧
      (decoder.drainUpTo fuel).2.Sound ∧
      (decoder.drainUpTo fuel).2.maxPayload = decoder.maxPayload := by
  induction fuel generalizing decoder with
  | zero => omega
  | succ fuel ih =>
      cases alive : decoder.failed with
      | true =>
          have stuck : decoder.next = (.error decoder.failure, decoder) := by simp [next, alive]
          simp only [drainUpTo, stuck, pending, alive, ↓reduceIte, deliver, true_and, and_true]
          exact sound
      | false =>
          have ended := next_cases sound alive
          rw [drainUpTo]
          generalize decoder.next = result at ended
          have waiting : deliver (frameAttempt decoder.maxPayload) decoder.pending [] =
              Streaming.drain (frameAttempt decoder.maxPayload) decoder.unread := by
            simp [pending, alive, deliver]
          rw [waiting]
          cases ended with
          | short status attempted =>
              refine ⟨?_, sound, rfl⟩
              rw [drain_short attempted]
              simp [pending, alive]
          | refused status attempted =>
              refine ⟨?_, ⟨sound.inside, fun clean => by cases clean⟩, rfl⟩
              rw [drain_refused attempted]
              rfl
          | read frame after sound' attempted alive' same =>
              have steady := frameAttempt_steady decoder.maxPayload
              have shorter := steady.shrinks attempted
              rw [length_unread, length_unread] at shorter
              obtain ⟨drained, sound'', same'⟩ := ih sound' (by omega)
              have rest : deliver (frameAttempt after.maxPayload) after.pending [] =
                  Streaming.drain (frameAttempt decoder.maxPayload) after.unread := by
                simp [pending, alive', deliver, same]
              rw [rest] at drained
              refine ⟨?_, sound'', same'.trans same⟩
              rw [drain_read steady attempted, ← drained]

/-- The push is refused because the buffer cannot take it. -/
def Overruns (decoder : FrameDecoder) (chunk : Bytes) : Prop :=
  decoder.failed = false ∧ chunk ≠ [] ∧ decoder.exceeds chunk = true

instance (decoder : FrameDecoder) (chunk : Bytes) : Decidable (decoder.Overruns chunk) := by
  unfold Overruns
  infer_instance

/-- No push exceeds the buffer bound. -/
def Fits (decoder : FrameDecoder) : List Bytes → Prop
  | [] => True
  | chunk :: rest => ¬ decoder.Overruns chunk ∧ (decoder.receive chunk).2.Fits rest

instance decidableFits : ∀ (decoder : FrameDecoder) (chunks : List Bytes),
    Decidable (decoder.Fits chunks)
  | _, [] => inferInstanceAs (Decidable True)
  | decoder, chunk :: rest =>
      @instDecidableAnd _ _ _ (decidableFits (decoder.receive chunk).2 rest)

theorem receive_pending {chunk : Bytes} (sound : decoder.Sound) (fits : ¬ decoder.Overruns chunk) :
    ((decoder.receive chunk).1, (decoder.receive chunk).2.pending) =
        deliver (frameAttempt decoder.maxPayload) decoder.pending chunk ∧
      (decoder.receive chunk).2.Sound ∧
      (decoder.receive chunk).2.maxPayload = decoder.maxPayload := by
  have pushed : (decoder.push chunk).2.Sound ∧
      (decoder.push chunk).2.maxPayload = decoder.maxPayload ∧
      deliver (frameAttempt decoder.maxPayload) (decoder.push chunk).2.pending [] =
        deliver (frameAttempt decoder.maxPayload) decoder.pending chunk := by
    cases alive : decoder.failed with
    | true =>
        have same : (decoder.push chunk).2 = decoder := by simp [push, alive]
        rw [same]
        refine ⟨sound, rfl, ?_⟩
        simp [pending, alive, deliver]
    | false =>
        by_cases empty : chunk = []
        · have same : (decoder.push chunk).2 = decoder := by simp [push, alive, empty]
          rw [same, empty]
          exact ⟨sound, rfl, rfl⟩
        · have room : decoder.exceeds chunk = false := by
            by_contra exceeds
            exact fits ⟨alive, empty, by simpa using exceeds⟩
          have same : (decoder.push chunk).2 =
              { decoder with buffer := decoder.buffer ++ chunk } := by
            simp [push, alive, empty, room]
          have inside := sound.inside
          have extended : (decoder.push chunk).2.unread = decoder.unread ++ chunk := by
            rw [same]
            exact List.drop_append_of_le_length inside
          refine ⟨?_, by rw [same], ?_⟩
          · rw [same]
            refine ⟨?_, sound.clean⟩
            simp only [List.length_append]
            omega
          · have still : (decoder.push chunk).2.failed = false := by rw [same, ← alive]
            simp [pending, alive, still, extended, deliver]
  obtain ⟨sound', same, delivered⟩ := pushed
  obtain ⟨drained, sound'', same'⟩ := drainUpTo_pending sound' (Nat.lt_succ_self _)
  refine ⟨?_, sound'', same'.trans same⟩
  rw [same, delivered] at drained
  exact drained

theorem receiveAll_pending {chunks : List Bytes} (sound : decoder.Sound)
    (fits : decoder.Fits chunks) :
    ((decoder.receiveAll chunks).1, (decoder.receiveAll chunks).2.pending) =
        deliverAll (frameAttempt decoder.maxPayload) decoder.pending chunks ∧
      (decoder.receiveAll chunks).2.Sound := by
  induction chunks generalizing decoder with
  | nil => exact ⟨rfl, sound⟩
  | cons chunk rest ih =>
      obtain ⟨first, sound', same⟩ := receive_pending sound fits.1
      obtain ⟨more, sound''⟩ := ih sound' fits.2
      rw [same] at more
      refine ⟨?_, sound''⟩
      rw [Prod.ext_iff] at first more
      simp only [receiveAll, deliverAll, ← first.1, ← first.2, ← more.1, ← more.2]

/-- A new decoder reads the whole stream it receives, whatever the pushes. -/
theorem receiveAll_stream {maxPayload : UInt64} {chunks : List Bytes}
    (fits : Fits { maxPayload } chunks) :
    ((receiveAll { maxPayload } chunks).1, (receiveAll { maxPayload } chunks).2.pending) =
        Streaming.drain (frameAttempt maxPayload) chunks.flatten ∧
      (receiveAll { maxPayload } chunks).2.Sound := by
  have sound : Sound { maxPayload } := ⟨Nat.le_refl 0, fun _ => rfl⟩
  obtain ⟨received, sound'⟩ := receiveAll_pending sound fits
  have steady := frameAttempt_steady maxPayload
  have blank : Streaming.drain (frameAttempt maxPayload) [] = ([], .waiting []) := drain_short rfl
  have whole := deliverAll_flatten steady [] chunks
  rw [blank] at whole
  rw [List.nil_append, List.nil_append] at whole
  rw [whole]
  exact ⟨received, sound'⟩

theorem Sound.failure_eq {first second : FrameDecoder} (one : first.Sound) (two : second.Sound)
    (same : first.pending = second.pending) :
    first.failed = second.failed ∧ first.failure = second.failure := by
  simp only [pending] at same
  cases failed : first.failed with
  | true =>
      cases failed' : second.failed with
      | true =>
          simp only [failed, failed', ↓reduceIte, Pending.stopped.injEq] at same
          exact ⟨rfl, same⟩
      | false => simp [failed, failed'] at same
  | false =>
      cases failed' : second.failed with
      | true => simp [failed, failed'] at same
      | false => exact ⟨rfl, (one.clean failed).trans (two.clean failed').symm⟩

/-- Frames and failure do not depend on how the stream was cut, and a stream of encoded frames
yields exactly those frames. -/
theorem decoding_ignores_chunks (maxPayload : UInt64) (chunks : List Bytes)
    (fits : Fits { maxPayload } chunks) :
    (∀ others, others.flatten = chunks.flatten → Fits { maxPayload } others →
      (receiveAll { maxPayload } others).1 = (receiveAll { maxPayload } chunks).1 ∧
      (receiveAll { maxPayload } others).2.failed = (receiveAll { maxPayload } chunks).2.failed ∧
      (receiveAll { maxPayload } others).2.failure =
        (receiveAll { maxPayload } chunks).2.failure) ∧
    ∀ frames limit, (∀ frame ∈ frames, frame.payload.length ≤ limit.toNat ∧
        frame.payload.length ≤ maxPayload.toNat ∧
        frame.payload.length ≤ Limits.maxFramePayloadBytes) →
      chunks.flatten = frames.flatMap (encodeFrame · limit) →
      (receiveAll { maxPayload } chunks).1 = frames ∧
        (receiveAll { maxPayload } chunks).2.failed = false := by
  obtain ⟨received, sound⟩ := receiveAll_stream fits
  refine ⟨fun others same fits' => ?_, fun frames limit bounded stream => ?_⟩
  · obtain ⟨received', sound'⟩ := receiveAll_stream fits'
    rw [same, ← received, Prod.mk.injEq] at received'
    exact ⟨received'.1, sound'.failure_eq sound received'.2⟩
  · have steady := frameAttempt_steady maxPayload
    have written := drain_written steady frames [] fun frame listed rest => by
      obtain ⟨allowed, below, framed⟩ := bounded frame listed
      exact frameAttempt_encodeFrame allowed below framed rest
    have blank : Streaming.drain (frameAttempt maxPayload) [] = ([], .waiting []) := drain_short rfl
    rw [List.append_nil, ← stream, blank, ← received, Prod.mk.injEq] at written
    refine ⟨by rw [written.1, List.append_nil], ?_⟩
    by_contra failed
    rw [Bool.not_eq_false] at failed
    simp [pending, failed] at written

/-- Two frames, pushed byte by byte. -/
theorem decoding_ignores_chunks_once :
    (receiveAll { maxPayload := 64 } (((encodeFrame { type := 3, payload := [1, 2] } 64) ++
      encodeFrame { sequence := 9 } 64).map fun byte => [byte])).1 =
        [{ type := 3, payload := [1, 2] }, { sequence := 9 }] := by
  have fits : Fits { maxPayload := 64 } (((encodeFrame { type := 3, payload := [1, 2] } 64) ++
      encodeFrame { sequence := 9 } 64).map fun byte => [byte]) := by decide +kernel
  refine ((decoding_ignores_chunks 64 _ fits).2 _ 64 ?_ ?_).1
  · decide
  · decide +kernel

end FrameDecoder

end QueueFabric
