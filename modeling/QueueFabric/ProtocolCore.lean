import QueueFabric.FrameCore
import QueueFabric.SerializeCore

/-!
`protocol.cpp`: the messages a coordinator and its peers exchange, and their wire
encoding. One flat structure carries every message; its type says which fields
are encoded.
-/

namespace QueueFabric

open Wire

def Limits.maxOccupancyBatch : Nat := 4096

inductive Role
  | worker
  | monitor
  | unlisted (offset : Fin 254)
  deriving DecidableEq

namespace Role

def toRaw : Role → UInt8
  | worker => 1
  | monitor => 2
  | unlisted offset => UInt8.ofNat (if offset.val = 0 then 0 else offset.val + 2)

def ofRaw (raw : UInt8) : Role :=
  if raw = 1 then worker
  else if raw = 2 then monitor
  else unlisted ⟨raw.toNat - 2, by have := raw.toNat_lt; omega⟩

end Role

inductive MessageType
  | none
  | hello
  | helloAck
  | heartbeat
  | occupancyBatch
  | mutation
  | mutationResponse
  | epochAdvance
  | fenceNotice
  | statsRequest
  | statsResponse
  | shutdown
  | errorMessage
  | unlisted (offset : Fin 65523)
  deriving DecidableEq

namespace MessageType

def toRaw : MessageType → UInt16
  | none => 0
  | hello => 1
  | helloAck => 2
  | heartbeat => 3
  | occupancyBatch => 4
  | mutation => 5
  | mutationResponse => 6
  | epochAdvance => 7
  | fenceNotice => 8
  | statsRequest => 9
  | statsResponse => 10
  | shutdown => 11
  | errorMessage => 12
  | unlisted offset => UInt16.ofNat (offset.val + 13)

def named : List MessageType := [none, hello, helloAck, heartbeat, occupancyBatch, mutation,
  mutationResponse, epochAdvance, fenceNotice, statsRequest, statsResponse, shutdown, errorMessage]

def ofRaw (raw : UInt16) : MessageType :=
  if below : raw.toNat < 13 then named.get ⟨raw.toNat, below⟩
  else unlisted ⟨raw.toNat - 13, by have := raw.toNat_lt; omega⟩

end MessageType

structure Hello where
  role : Role := .worker
  node : NodeId := default
  incarnation : Incarnation := default
  boot : BootId := default
  epoch : Epoch := default
  name : Text := []
  deriving DecidableEq

structure HelloAck where
  accepted : Bool := false
  code : Code := .ok
  message : Text := []
  coordinatorEpoch : Epoch := default
  coordinatorIncarnation : Incarnation := default
  deriving DecidableEq

structure Heartbeat where
  sequence : Sequence := default
  epoch : Epoch := default
  deriving DecidableEq

structure MutationResponse where
  attempt : AttemptId := default
  queue : QueueId := default
  code : Code := .ok
  message : Text := []
  generation : Generation := default
  replayed : Bool := false
  deriving DecidableEq

structure FenceNotice where
  queue : QueueId := default
  generation : Generation := default
  token : UInt64 := 0
  reason : Text := []
  deriving DecidableEq

structure CoordinatorStats where
  epoch : Epoch := default
  coordinatorIncarnation : Incarnation := default
  workers : UInt64 := 0
  queues : UInt64 := 0
  occupancyAccepted : UInt64 := 0
  occupancyRejected : UInt64 := 0
  occupancyOverflow : UInt64 := 0
  mutationsApplied : UInt64 := 0
  mutationsReplayed : UInt64 := 0
  mutationsRejected : UInt64 := 0
  staleEpochRejections : UInt64 := 0
  staleIncarnationRejections : UInt64 := 0
  revalidationsRequired : UInt64 := 0
  ambiguousAttempts : UInt64 := 0
  framesReceived : UInt64 := 0
  framesRejected : UInt64 := 0
  connectionsAccepted : UInt64 := 0
  connectionsLost : UInt64 := 0
  livenessExpirations : UInt64 := 0
  recoveries : UInt64 := 0
  durableRecords : UInt64 := 0
  deriving DecidableEq

structure ErrorMessage where
  code : Code := .internal
  message : Text := []
  deriving DecidableEq

structure Message where
  type : MessageType := .none
  sequence : UInt32 := 0
  hello : Hello := {}
  helloAck : HelloAck := {}
  heartbeat : Heartbeat := {}
  occupancy : List OccupancySample := []
  mutation : MutationRequest := {}
  mutationResponse : MutationResponse := {}
  epoch : Epoch := default
  fence : FenceNotice := {}
  stats : CoordinatorStats := {}
  error : ErrorMessage := {}
  text : Text := []
  deriving DecidableEq

/-! Byte strings inside a message. -/

def ByteWriter.putBytes (writer : ByteWriter) (data : Bytes) : ByteWriter :=
  (writer.putU32 (UInt32.ofNat data.length)).putRaw data

def getBytes (maxBytes : Nat) : Get Bytes := do
  let length ← getU32
  if (← failing) || length.toNat > maxBytes then
    latch
    return []
  else getRaw length.toNat

/-! The bodies. -/

def putHello (writer : ByteWriter) (hello : Hello) : ByteWriter :=
  writer.putU8 hello.role.toRaw
    |>.putU64 hello.node.value
    |>.putU64 hello.incarnation.value
    |>.putU64 hello.boot.hi
    |>.putU64 hello.boot.lo
    |>.putU64 hello.epoch.value
    |>.putString hello.name

def getHello : Get Hello := do
  let role ← getU8
  let node ← getIdent .node
  let incarnation ← getCounter .incarnation
  let hi ← getU64
  let lo ← getU64
  let epoch ← getCounter .epoch
  let name ← getString Limits.maxNameChars
  return { role := Role.ofRaw role, node, incarnation, boot := ⟨hi, lo⟩, epoch, name }

def putHelloAck (writer : ByteWriter) (ack : HelloAck) : ByteWriter :=
  writer.putBool ack.accepted
    |>.putU16 ack.code.toRaw
    |>.putString ack.message
    |>.putU64 ack.coordinatorEpoch.value
    |>.putU64 ack.coordinatorIncarnation.value

def getHelloAck : Get HelloAck := do
  let accepted ← getBool
  let code ← getU16
  let message ← getString Limits.maxMessageChars
  let coordinatorEpoch ← getCounter .epoch
  let coordinatorIncarnation ← getCounter .incarnation
  return { accepted, code := Code.ofRaw code, message, coordinatorEpoch, coordinatorIncarnation }

def putHeartbeat (writer : ByteWriter) (heartbeat : Heartbeat) : ByteWriter :=
  writer.putU64 heartbeat.sequence.value |>.putU64 heartbeat.epoch.value

def getHeartbeat : Get Heartbeat := do
  let sequence ← getCounter .sequence
  let epoch ← getCounter .epoch
  return { sequence, epoch }

def putMutationResponse (writer : ByteWriter) (response : MutationResponse) : ByteWriter :=
  putAttempt writer response.attempt
    |>.putU64 response.queue.value
    |>.putU16 response.code.toRaw
    |>.putString response.message
    |>.putU64 response.generation.value
    |>.putBool response.replayed

def getMutationResponse : Get MutationResponse := do
  let attempt ← getAttempt
  let queue ← getIdent .queue
  let code ← getU16
  let message ← getString Limits.maxMessageChars
  let generation ← getCounter .generation
  let replayed ← getBool
  return { attempt, queue, code := Code.ofRaw code, message, generation, replayed }

def putFenceNotice (writer : ByteWriter) (fence : FenceNotice) : ByteWriter :=
  writer.putU64 fence.queue.value
    |>.putU64 fence.generation.value
    |>.putU64 fence.token
    |>.putString fence.reason

def getFenceNotice : Get FenceNotice := do
  let queue ← getIdent .queue
  let generation ← getCounter .generation
  let token ← getU64
  let reason ← getString Limits.maxReasonChars
  return { queue, generation, token, reason }

def putStats (writer : ByteWriter) (stats : CoordinatorStats) : ByteWriter :=
  writer.putU64 stats.epoch.value
    |>.putU64 stats.coordinatorIncarnation.value
    |>.putU64 stats.workers
    |>.putU64 stats.queues
    |>.putU64 stats.occupancyAccepted
    |>.putU64 stats.occupancyRejected
    |>.putU64 stats.occupancyOverflow
    |>.putU64 stats.mutationsApplied
    |>.putU64 stats.mutationsReplayed
    |>.putU64 stats.mutationsRejected
    |>.putU64 stats.staleEpochRejections
    |>.putU64 stats.staleIncarnationRejections
    |>.putU64 stats.revalidationsRequired
    |>.putU64 stats.ambiguousAttempts
    |>.putU64 stats.framesReceived
    |>.putU64 stats.framesRejected
    |>.putU64 stats.connectionsAccepted
    |>.putU64 stats.connectionsLost
    |>.putU64 stats.livenessExpirations
    |>.putU64 stats.recoveries
    |>.putU64 stats.durableRecords

def getStats : Get CoordinatorStats := do
  let epoch ← getCounter .epoch
  let coordinatorIncarnation ← getCounter .incarnation
  let workers ← getU64
  let queues ← getU64
  let occupancyAccepted ← getU64
  let occupancyRejected ← getU64
  let occupancyOverflow ← getU64
  let mutationsApplied ← getU64
  let mutationsReplayed ← getU64
  let mutationsRejected ← getU64
  let staleEpochRejections ← getU64
  let staleIncarnationRejections ← getU64
  let revalidationsRequired ← getU64
  let ambiguousAttempts ← getU64
  let framesReceived ← getU64
  let framesRejected ← getU64
  let connectionsAccepted ← getU64
  let connectionsLost ← getU64
  let livenessExpirations ← getU64
  let recoveries ← getU64
  let durableRecords ← getU64
  return {
    epoch, coordinatorIncarnation, workers, queues, occupancyAccepted, occupancyRejected,
    occupancyOverflow, mutationsApplied, mutationsReplayed, mutationsRejected,
    staleEpochRejections, staleIncarnationRejections, revalidationsRequired, ambiguousAttempts,
    framesReceived, framesRejected, connectionsAccepted, connectionsLost, livenessExpirations,
    recoveries, durableRecords }

def putErrorMessage (writer : ByteWriter) (error : ErrorMessage) : ByteWriter :=
  writer.putU16 error.code.toRaw |>.putString error.message

def getErrorMessage : Get ErrorMessage := do
  let code ← getU16
  let message ← getString Limits.maxMessageChars
  return { code := Code.ofRaw code, message }

/-! Messages. -/

def putMessageHead (writer : ByteWriter) (message : Message) : ByteWriter :=
  writer.putU16 message.type.toRaw |>.putU32 message.sequence

def encodeMessage (message : Message) (maxBytes : Nat := Limits.maxFramePayloadBytes) : Bytes :=
  let writer := putMessageHead (Wire.Writer.fresh maxBytes) message
  match message.type with
  | .hello => (putHello writer message.hello).finish
  | .helloAck => (putHelloAck writer message.helloAck).finish
  | .heartbeat => (putHeartbeat writer message.heartbeat).finish
  | .occupancyBatch =>
      if message.occupancy.length > Limits.maxOccupancyBatch then []
      else (putSection putOccupancySample writer message.occupancy).finish
  | .mutation =>
      let encoded := encodeMutation message.mutation
      if encoded = [] then [] else (writer.putBytes encoded).finish
  | .mutationResponse => (putMutationResponse writer message.mutationResponse).finish
  | .epochAdvance => (writer.putU64 message.epoch.value).finish
  | .fenceNotice => (putFenceNotice writer message.fence).finish
  | .statsRequest => writer.finish
  | .statsResponse => (putStats writer message.stats).finish
  | .shutdown => (writer.putString message.text).finish
  | .errorMessage => (putErrorMessage writer message.error).finish
  | .none => []
  | .unlisted _ => []

/-- The fields that the type announces. -/
def getMessageBody (type : MessageType) (sequence : UInt32) : Get (Except Status Message) :=
  match type with
  | .hello => do
      let hello ← getHello
      if hello.role ≠ .worker ∧ hello.role ≠ .monitor then
        return .error ⟨.malformedInput, "hello role is unknown"⟩
      else return .ok { type, sequence, hello }
  | .helloAck => do return .ok { type, sequence, helloAck := ← getHelloAck }
  | .heartbeat => do return .ok { type, sequence, heartbeat := ← getHeartbeat }
  | .occupancyBatch =>
      getSection getOccupancySample Limits.maxOccupancyBatch
        "occupancy batch count is out of range" fun occupancy =>
          return .ok { type, sequence, occupancy }
  | .mutation => do
      let blob ← getBytes Limits.maxFramePayloadBytes
      if ← failing then return .error ⟨.malformedInput, "mutation payload is truncated"⟩
      else return (decodeMutation blob).map fun mutation => { type, sequence, mutation }
  | .mutationResponse => do
      return .ok { type, sequence, mutationResponse := ← getMutationResponse }
  | .epochAdvance => do return .ok { type, sequence, epoch := ← getCounter .epoch }
  | .fenceNotice => do return .ok { type, sequence, fence := ← getFenceNotice }
  | .statsRequest => return .ok { type, sequence }
  | .statsResponse => do return .ok { type, sequence, stats := ← getStats }
  | .shutdown => do return .ok { type, sequence, text := ← getString Limits.maxMessageChars }
  | .errorMessage => do return .ok { type, sequence, error := ← getErrorMessage }
  | .none => return .error ⟨.unsupported, "message type is unknown"⟩
  | .unlisted _ => return .error ⟨.unsupported, "message type is unknown"⟩

def getMessage : Get (Except Status Message) := do
  let type ← getU16
  let sequence ← getU32
  if ← failing then return .error ⟨.malformedInput, "message header is truncated"⟩
  else getMessageBody (MessageType.ofRaw type) sequence

def decodeMessage (data : Bytes) : Except Status Message :=
  decodeWhole getMessage data "message payload is malformed"

end QueueFabric
