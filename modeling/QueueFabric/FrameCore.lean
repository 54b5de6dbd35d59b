import QueueFabric.HashCore

/-!
`frame.hpp` and `frame.cpp`: the frame layout and the incremental decoder with
its buffer, offset and latched failure.
-/

namespace QueueFabric

def Limits.maxFramePayloadBytes : Nat := 1048576

def protocolVersion : UInt16 := 1

structure Frame where
  type : UInt16 := 0
  sequence : UInt32 := 0
  payload : Bytes := []
  deriving DecidableEq

def frameHeaderBytes : Nat := 24

/-- "QFF1". -/
def frameMagic : UInt32 := 0x31464651

/-- The header up to the checksum. -/
def encodeFrameHead (frame : Frame) : Bytes :=
  putU32At frameMagic ++ (putU16At protocolVersion ++ (putU16At frame.type ++ (putU16At 0 ++
    (putU16At 0 ++ (putU32At frame.sequence ++ putU32At (UInt32.ofNat frame.payload.length))))))

def encodeFrame (frame : Frame) (maxPayload : UInt64) : Bytes :=
  if frame.payload.length > maxPayload.toNat ∨
      frame.payload.length > Limits.maxFramePayloadBytes then []
  else
    let head := encodeFrameHead frame
    let crc := crc32c head
    let crc := if frame.payload ≠ [] then crc32cExtend crc frame.payload else crc
    head ++ (putU32At crc ++ frame.payload)

/-- `FrameDecoder`. Sizes of the buffer are unbounded naturals; the buffer bound is computed in
`size_t`. -/
structure FrameDecoder where
  buffer : Bytes := []
  offset : Nat := 0
  maxPayload : UInt64 := UInt64.ofNat Limits.maxFramePayloadBytes
  framesDecoded : Nat := 0
  framesRejected : Nat := 0
  bytesConsumed : Nat := 0
  failed : Bool := false
  failure : Status := .success

namespace FrameDecoder

def buffered (decoder : FrameDecoder) : Nat := decoder.buffer.length - decoder.offset

/-- A failure latches. -/
def fail (decoder : FrameDecoder) (status : Status) : FrameDecoder :=
  { decoder with
    failed := true
    failure := status
    framesRejected := decoder.framesRejected + 1 }

def bound (decoder : FrameDecoder) : Nat :=
  (decoder.maxPayload + UInt64.ofNat frameHeaderBytes).toNat

/-- The push does not fit into the buffer. -/
def exceeds (decoder : FrameDecoder) (data : Bytes) : Bool :=
  decoder.buffered > decoder.bound || data.length > decoder.bound - decoder.buffered

def push (decoder : FrameDecoder) (data : Bytes) : Status × FrameDecoder :=
  if decoder.failed then (decoder.failure, decoder)
  else if data.isEmpty then (.success, decoder)
  else if decoder.exceeds data then
    let status : Status := ⟨.capacityExceeded, "frame buffer bound exceeded"⟩
    (status, decoder.fail status)
  else (.success, { decoder with buffer := decoder.buffer ++ data })

def compact (decoder : FrameDecoder) : FrameDecoder :=
  if decoder.offset = 0 then decoder
  else if decoder.offset ≥ decoder.buffer.length then
    { decoder with
      bytesConsumed := decoder.bytesConsumed + decoder.buffer.length
      buffer := []
      offset := 0 }
  else
    { decoder with
      buffer := decoder.buffer.drop decoder.offset
      bytesConsumed := decoder.bytesConsumed + decoder.offset
      offset := 0 }

/-- The decoder once `total` bytes at its offset have become a frame. -/
def consume (decoder : FrameDecoder) (total : Nat) : FrameDecoder :=
  let decoder := { decoder with
    offset := decoder.offset + total
    framesDecoded := decoder.framesDecoded + 1 }
  if decoder.offset = decoder.buffer.length then { decoder with buffer := [], offset := 0 }
  else decoder.compact

def next (decoder : FrameDecoder) : Except Status Frame × FrameDecoder :=
  let reject (status : Status) := (.error status, decoder.fail status)
  if decoder.failed then (.error decoder.failure, decoder)
  else if decoder.buffered < frameHeaderBytes then
    (.error ⟨.notFound, "frame header incomplete"⟩, decoder)
  else
    let raw := decoder.buffer.drop decoder.offset
    let length := (getU32At raw 16).toNat
    let total := frameHeaderBytes + length
    if getU32At raw 0 ≠ frameMagic then reject ⟨.malformedInput, "frame magic mismatch"⟩
    else if getU16At raw 4 ≠ protocolVersion then
      reject ⟨.unsupported, "frame protocol version is not supported"⟩
    else if length > decoder.maxPayload.toNat then
      reject ⟨.capacityExceeded, "frame payload exceeds the configured bound"⟩
    else if decoder.buffered < total then
      (.error ⟨.notFound, "frame payload incomplete"⟩, decoder)
    else
      let payload := (raw.drop frameHeaderBytes).take length
      if getU32At raw 20 ≠ crc32cExtend (crc32c (raw.take 20)) payload then
        reject ⟨.integrityFailure, "frame checksum mismatch"⟩
      else (.ok ⟨getU16At raw 6, getU32At raw 12, payload⟩, decoder.consume total)

/-- Calls `next` until it yields no frame. -/
def drainUpTo : Nat → FrameDecoder → List Frame × FrameDecoder
  | 0, decoder => ([], decoder)
  | fuel + 1, decoder =>
      match decoder.next with
      | (.error _, decoder) => ([], decoder)
      | (.ok frame, decoder) =>
          let more := drainUpTo fuel decoder
          (frame :: more.1, more.2)

def drain (decoder : FrameDecoder) : List Frame × FrameDecoder :=
  decoder.drainUpTo (decoder.buffered + 1)

/-- One received chunk: pushed, then drained. -/
def receive (decoder : FrameDecoder) (chunk : Bytes) : List Frame × FrameDecoder :=
  (decoder.push chunk).2.drain

def receiveAll (decoder : FrameDecoder) : List Bytes → List Frame × FrameDecoder
  | [] => ([], decoder)
  | chunk :: rest =>
      let first := decoder.receive chunk
      let more := first.2.receiveAll rest
      (first.1 ++ more.1, more.2)

end FrameDecoder

end QueueFabric
