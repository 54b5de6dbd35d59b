import QueueFabric.CoordinatorCore

/-!
`worker.hpp` and `worker.cpp`: the client that speaks to a coordinator over one
connection, one request at a time. Its transport carries everything the
coordinator will send it.
-/

namespace QueueFabric

/-- `WorkerConfig` without the address of the coordinator. -/
structure WorkerConfig where
  node : NodeId := default
  incarnation : Incarnation := default
  epoch : Epoch := default
  boot : BootId := default
  name : Text := []
  role : Role := .worker
  receiveBufferBytes : Nat := 65536

/-- A status whose text may have come over the wire. -/
structure ClientStatus where
  code : Code
  message : Text
  deriving DecidableEq

namespace ClientStatus

def ofStatus (status : Status) : ClientStatus := ⟨status.code, text status.message⟩

def isOk (status : ClientStatus) : Bool := status.code = .ok

end ClientStatus

namespace TcpTransport

/-- A receive would not wait. -/
def ready (transport : TcpTransport) : Bool :=
  !transport.unread.isEmpty || transport.finished || transport.broken

/-- The transport once there is something to receive, or nothing will arrive any more. -/
def settle : Nat → TcpTransport → TcpTransport
  | 0, transport => transport
  | later + 1, transport => if transport.ready then transport else settle later transport.arrive

end TcpTransport

/-- `WorkerClient::Impl`. -/
structure WorkerClient where
  config : WorkerConfig
  transport : TcpTransport := { connected := false }
  decoder : FrameDecoder := {}
  sequence : Sequence := ⟨1⟩
  coordinatorEpoch : Epoch := default
  admitted : Bool := false
  framesSent : UInt64 := 0
  framesReceived : UInt64 := 0
  framesRejected : UInt64 := 0
  epochNotices : UInt64 := 0
  lastError : ClientStatus := .ofStatus .success

namespace WorkerClient

def send (client : WorkerClient) (message : Message) : Status × WorkerClient :=
  let payload := encodeMessage message
  if payload.isEmpty then (⟨.internal, "message could not be encoded"⟩, client)
  else
    let encoded := encodeFrame ⟨message.type.toRaw, message.sequence, payload⟩
      (UInt64.ofNat Limits.maxFramePayloadBytes)
    if encoded.isEmpty then
      (⟨.capacityExceeded, "frame exceeds the configured bound"⟩, client)
    else
      let sent := client.transport.send encoded
      let client := { client with transport := sent.2 }
      if sent.1.isOk then (sent.1, { client with framesSent := client.framesSent + 1 })
      else (sent.1, { client with lastError := .ofStatus sent.1 })

/-- A message that is not the one waited for. -/
def handleNotice (client : WorkerClient) (message : Message) : ClientStatus × WorkerClient :=
  match message.type with
  | .epochAdvance =>
      (.ofStatus .success, { client with
        coordinatorEpoch := message.epoch
        epochNotices := client.epochNotices + 1 })
  | .errorMessage =>
      let status : ClientStatus := ⟨message.error.code, message.error.message⟩
      (status, { client with lastError := status })
  | _ => (.ofStatus .success, client)

def rejectFrame (client : WorkerClient) : WorkerClient :=
  { client with framesRejected := client.framesRejected + 1 }

/-- The decode loop of `await`: whether it ended the wait, and how. Every frame takes bytes from the
decoder, so `fuel` above the bytes it holds is never used up. -/
def decodeFor (expected : MessageType) :
    Nat → WorkerClient → Option (Except ClientStatus Message) × WorkerClient
  | 0, client => (none, client)
  | fuel + 1, client =>
      let next := client.decoder.next
      let client := { client with decoder := next.2 }
      match next.1 with
      | .error status =>
          if status.code = .notFound then (none, client)
          else (some (.error (.ofStatus status)), client.rejectFrame)
      | .ok frame =>
          let client := { client with framesReceived := client.framesReceived + 1 }
          match decodeMessage frame.payload with
          | .error _ => decodeFor expected fuel client.rejectFrame
          | .ok message =>
              if message.type = expected then (some (.ok message), client)
              else
                let notice := client.handleNotice message
                if !notice.1.isOk && message.type = .errorMessage then
                  (some (.error notice.1), notice.2)
                else decodeFor expected fuel notice.2

/-- The receive loop of `await`. Without a result the call does not return: the coordinator sends
nothing more and keeps the connection open. Every round takes bytes from the transport, so `fuel`
above the bytes that can still arrive is never used up. -/
def awaitFor (expected : MessageType) :
    Nat → WorkerClient → Option (Except ClientStatus Message) × WorkerClient
  | 0, client => (none, client)
  | fuel + 1, client =>
      let capacity := client.config.receiveBufferBytes
      if !client.transport.connected then
        (some (.error (.ofStatus ⟨.notFound, "connection closed before a response arrived"⟩)), client)
      else
        let transport := client.transport.settle client.transport.arrivals.length
        if capacity ≠ 0 ∧ !transport.ready then (none, { client with transport })
        else
          let received := transport.receive capacity
          let client := { client with transport := received.2 }
          match received.1 with
          | .error status =>
              (some (.error (.ofStatus status)), { client with lastError := .ofStatus status })
          | .ok chunk =>
              if chunk.isEmpty then
                (some (.error (.ofStatus ⟨.notFound, "coordinator closed the connection"⟩)),
                  { client with transport := client.transport.close })
              else
                let pushed := client.decoder.push chunk
                let client := { client with decoder := pushed.2 }
                if !pushed.1.isOk then (some (.error (.ofStatus pushed.1)), client)
                else
                  let decoded := client.decodeFor expected (client.decoder.buffered + 1)
                  match decoded.1 with
                  | some result => (some result, decoded.2)
                  | none => awaitFor expected fuel decoded.2

def await (client : WorkerClient) (expected : MessageType) :
    Option (Except ClientStatus Message) × WorkerClient :=
  client.awaitFor expected (client.transport.pending + 1)

/-! The operations. -/

/-- `connect`, with the outcome of connecting to the coordinator. -/
def connect (client : WorkerClient) (outcome : Except Status TcpTransport) :
    Status × WorkerClient :=
  match outcome with
  | .error status => (status, client)
  | .ok transport => (.success, { client with
      transport
      decoder := { client.decoder with
        buffer := []
        offset := 0
        failed := false
        failure := .success } })

/-- The number a message carries. -/
def number (client : WorkerClient) : UInt32 := UInt32.ofNat client.sequence.value.toNat

def hello (client : WorkerClient) : Message where
  type := .hello
  sequence := client.number
  hello := {
    role := client.config.role
    node := client.config.node
    incarnation := client.config.incarnation
    boot := if client.config.boot.valid then client.config.boot else ⟨1, 1⟩
    epoch := client.config.epoch
    name := client.config.name }

def heartbeat (client : WorkerClient) : Message where
  type := .heartbeat
  sequence := client.number
  heartbeat := ⟨client.sequence, client.config.epoch⟩

def nextSequence (client : WorkerClient) : Sequence × WorkerClient :=
  match client.sequence.next with
  | .error _ => (client.sequence, client)
  | .ok next => (next, { client with sequence := next })

def close (client : WorkerClient) : WorkerClient :=
  { client with transport := client.transport.close, admitted := false }

end WorkerClient

/-- The operations of a connected client. -/
inductive WorkerCall
  | handshake
  | publish (samples : List OccupancySample)
  | sendHeartbeat
  | sendMutation (request : MutationRequest)
  | requestStats
  | sendShutdown (reason : Text)
  | nextSequence

/-- What an operation returns. -/
inductive WorkerAnswer
  | failed (status : ClientStatus)
  | sent
  | hello (ack : HelloAck)
  | mutation (response : MutationResponse)
  | stats (stats : CoordinatorStats)
  | sequence (number : Sequence)
  deriving DecidableEq

namespace WorkerClient

/-- Sends a request and waits for the response of the expected type. -/
def exchange (client : WorkerClient) (request : Message) (expected : MessageType)
    (accept : Message → WorkerAnswer) : Option WorkerAnswer × WorkerClient :=
  let sent := client.send request
  if !sent.1.isOk then (some (.failed (.ofStatus sent.1)), sent.2)
  else
    let awaited := sent.2.await expected
    (awaited.1.map fun result =>
      match result with
      | .error status => .failed status
      | .ok response => accept response, awaited.2)

/-- Sends a message that is not answered. -/
def post (client : WorkerClient) (message : Message) : Option WorkerAnswer × WorkerClient :=
  let sent := client.send message
  (some (if sent.1.isOk then .sent else .failed (.ofStatus sent.1)), sent.2)

def handshake (client : WorkerClient) : Option WorkerAnswer × WorkerClient :=
  let greeted := client.exchange client.hello .helloAck fun response => .hello response.helloAck
  match greeted.1 with
  | some (.hello ack) => (greeted.1, { greeted.2 with
      coordinatorEpoch := ack.coordinatorEpoch
      admitted := ack.accepted })
  | _ => greeted

def publish (client : WorkerClient) (samples : List OccupancySample) :
    Option WorkerAnswer × WorkerClient :=
  if !client.admitted then
    (some (.failed (.ofStatus ⟨.authorityDenied, "connection is not admitted"⟩)), client)
  else if samples.isEmpty || samples.length > Limits.maxOccupancyBatch then
    (some (.failed (.ofStatus ⟨.outOfRange, "occupancy batch size is out of range"⟩)), client)
  else client.post { type := .occupancyBatch, sequence := client.number, occupancy := samples }

def sendHeartbeat (client : WorkerClient) : Option WorkerAnswer × WorkerClient :=
  client.post client.heartbeat

def sendMutation (client : WorkerClient) (request : MutationRequest) :
    Option WorkerAnswer × WorkerClient :=
  client.exchange { type := .mutation, sequence := client.number, mutation := request }
    .mutationResponse fun response => .mutation response.mutationResponse

def requestStats (client : WorkerClient) : Option WorkerAnswer × WorkerClient :=
  client.exchange { type := .statsRequest, sequence := client.number } .statsResponse
    fun response => .stats response.stats

def sendShutdown (client : WorkerClient) (reason : Text) : Option WorkerAnswer × WorkerClient :=
  client.post {
    type := .shutdown
    sequence := client.number
    text := reason.take Limits.maxMessageChars }

/-- One operation; without an answer it does not return. -/
def call (client : WorkerClient) : WorkerCall → Option WorkerAnswer × WorkerClient
  | .handshake => client.handshake
  | .publish samples => client.publish samples
  | .sendHeartbeat => client.sendHeartbeat
  | .sendMutation request => client.sendMutation request
  | .requestStats => client.requestStats
  | .sendShutdown reason => client.sendShutdown reason
  | .nextSequence => (some (.sequence client.nextSequence.1), client.nextSequence.2)

/-- Operations one after the other, until one does not return. -/
def session : WorkerClient → List WorkerCall → List (WorkerCall × WorkerAnswer) × WorkerClient
  | client, [] => ([], client)
  | client, call :: later =>
      let returned := client.call call
      match returned.1 with
      | none => ([], returned.2)
      | some answer =>
          let rest := session returned.2 later
          ((call, answer) :: rest.1, rest.2)

end WorkerClient

end QueueFabric
