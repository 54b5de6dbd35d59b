import QueueFabric.ProtocolCore
import QueueFabric.RecoveryCore

/-!
`transport.hpp`, `coordinator.hpp` and `coordinator.cpp`: the single-threaded
service cycle over framed connections. What the peers do is part of the state: a
transport carries everything its peer will still send and how each reply fares.
-/

namespace QueueFabric

def Limits.maxConnections : Nat := 256
def Limits.maxSubscribeQueues : Nat := 4096

/-! Transports. -/

/-- What a peer does before the next readiness check. -/
structure Arrival where
  bytes : Bytes := []
  closes : Bool := false
  resets : Bool := false

/-- `TcpTransport` with the peer behind it. `unread` was sent and not yet received; `arrivals` and
`sends` say what the peer will do and which replies will reach it. -/
structure TcpTransport where
  connected : Bool := true
  unread : Bytes := []
  finished : Bool := false
  broken : Bool := false
  arrivals : List Arrival := []
  sends : List Bool := []
  sent : Bytes := []

namespace TcpTransport

def closedStatus : Status := ⟨.internal, "transport is closed"⟩

def arrive (transport : TcpTransport) : TcpTransport :=
  match transport.arrivals with
  | [] => transport
  | arrival :: later => { transport with
      unread := transport.unread ++ arrival.bytes
      finished := transport.finished || arrival.closes
      broken := transport.broken || arrival.resets
      arrivals := later }

/-- `readable(0)`: a transport that is no longer open counts as readable. -/
def readable (transport : TcpTransport) : Bool × TcpTransport :=
  if !transport.connected then (true, transport)
  else
    let transport := transport.arrive
    (!transport.unread.isEmpty || transport.finished || transport.broken, transport)

/-- An empty result means that the peer closed the connection, or that there is no room. -/
def receive (transport : TcpTransport) (capacity : Nat) : Except Status Bytes × TcpTransport :=
  if !transport.connected then (.error closedStatus, transport)
  else if capacity = 0 then (.ok [], transport)
  else if transport.broken then (.error ⟨.internal, "socket error"⟩, transport)
  else (.ok (transport.unread.take capacity),
    { transport with unread := transport.unread.drop capacity })

def send (transport : TcpTransport) (data : Bytes) : Status × TcpTransport :=
  if !transport.connected then (closedStatus, transport)
  else if transport.sends.headD true then
    (.success, { transport with
      sends := transport.sends.tail
      sent := transport.sent ++ data })
  else (⟨.internal, "socket error"⟩, { transport with sends := transport.sends.tail })

def close (transport : TcpTransport) : TcpTransport := { transport with connected := false }

/-- Bytes that can still be received. -/
def pending (transport : TcpTransport) : Nat :=
  transport.unread.length + (transport.arrivals.map fun arrival => arrival.bytes.length).sum

end TcpTransport

/-! Connections. -/

structure CoordinatorConfig where
  heartbeatDeadline : Nanos := 5000000000
  maxConnections : Nat := Limits.maxConnections
  maxFramesPerCycle : Nat := 512
  receiveBufferBytes : Nat := 65536

structure WorkerSession where
  role : Role := .monitor
  handshaken : Bool := false
  node : NodeId := default
  incarnation : Incarnation := default
  boot : BootId := default
  epoch : Epoch := default
  name : Text := []
  lastActivity : Nanos := 0
  framesIn : UInt64 := 0
  framesOut : UInt64 := 0
  framesRejected : UInt64 := 0
  messagesHandled : UInt64 := 0

/-- The identity is a natural number: the source's counter does not run out. -/
structure Connection where
  id : Nat
  transport : TcpTransport
  decoder : FrameDecoder := {}
  session : WorkerSession := {}
  queues : List QueueId := []
  closing : Bool := false

namespace Connection

def rejectFrame (connection : Connection) : Connection :=
  { connection with
    session := { connection.session with
      framesRejected := connection.session.framesRejected + 1 } }

def sendMessage (connection : Connection) (message : Message) : Status × Connection :=
  let payload := encodeMessage message
  if payload.isEmpty then (⟨.internal, "message could not be encoded"⟩, connection)
  else
    let encoded := encodeFrame ⟨message.type.toRaw, message.sequence, payload⟩
      (UInt64.ofNat Limits.maxFramePayloadBytes)
    if encoded.isEmpty then
      (⟨.capacityExceeded, "frame exceeds the configured bound"⟩, connection)
    else
      let sent := connection.transport.send encoded
      let connection := { connection with transport := sent.2 }
      if sent.1.isOk then
        (sent.1, { connection with
          session := { connection.session with framesOut := connection.session.framesOut + 1 } })
      else (sent.1, connection)

/-- Lists a queue whose evidence is withdrawn when the connection is lost. The list is bounded. -/
def subscribe (connection : Connection) (queue : QueueId) : Connection :=
  if queue ∉ connection.queues ∧ connection.queues.length < Limits.maxSubscribeQueues then
    { connection with queues := connection.queues ++ [queue] }
  else connection

end Connection

/-- What a coordinator does for its peers, each with the state it is done in. The source keeps no
such record, and nothing here reads it back. -/
inductive Activity (J : Type)
  | began
  | took (connection : Connection)
  | applied (fabric : Fabric J) (connection : Connection) (request : MutationRequest)
  | lost (fabric : Fabric J) (connection : Connection) (room : Nat)
  | invalidating (fabric : Fabric J) (connection : Connection) (queue : QueueId)
      (principal : OwnerId)

/-- `CoordinatorServer::Impl`. The journal is the fabric's; `log` is newest first. -/
structure Coordinator (J : Type) where
  config : CoordinatorConfig
  fabric : Fabric J
  listening : Bool := false
  connections : List Connection := []
  principals : Table ResourceId OwnerId := .empty
  stats : CoordinatorStats := {}
  nextConnectionId : Nat := 1
  outboundSequence : UInt32 := 0
  stopped : Bool := false
  log : List (Activity J) := []

namespace Coordinator

variable {J : Type}

def note (coordinator : Coordinator J) (activity : Activity J) : Coordinator J :=
  { coordinator with log := activity :: coordinator.log }

/-- A reading of the clock the coordinator shares with its fabric. -/
def nowNanos (coordinator : Coordinator J) : Nanos × Coordinator J :=
  (coordinator.fabric.clock.nowNanos.1,
    { coordinator with
      fabric := { coordinator.fabric with clock := coordinator.fabric.clock.nowNanos.2 } })

def principalFor (coordinator : Coordinator J) (queue : QueueId) : OwnerId × Coordinator J :=
  match coordinator.fabric.findQueue queue with
  | none => (default, coordinator)
  | some record =>
      match coordinator.principals.get? record.definition.resource with
      | some cached => (cached, coordinator)
      | none =>
          match coordinator.fabric.findResource record.definition.resource with
          | none => (default, coordinator)
          | some resource => (resource.owner, { coordinator with
              principals := coordinator.principals.emplace resource.id resource.owner })

end Coordinator

/-- The coordinator while it serves one connection; its list holds the other connections. -/
structure Service (J : Type) where
  coordinator : Coordinator J
  connection : Connection

structure MutationContext where
  principal : OwnerId
  provenance : Provenance
  epoch : Epoch

/-- The request `ingest_occupancy` makes of a sample. -/
def ingestRequest (context : MutationContext) (sample : OccupancySample) : MutationRequest where
  attempt := ⟨sample.provenance.publisher, sample.provenance.sequence.value⟩
  kind := .ingestOccupancy
  queue := sample.queue
  expectedGeneration := sample.queueGeneration
  expectedEpoch := context.epoch
  principal := context.principal
  provenance := sample.provenance
  payload := .occupancy sample

namespace Service

variable {J : Type}

def note (service : Service J) (activity : Activity J) : Service J :=
  { service with coordinator := service.coordinator.note activity }

def sendMessage (service : Service J) (message : Message) : Status × Service J :=
  let sent := service.connection.sendMessage message
  (sent.1, { service with connection := sent.2 })

def countStats (service : Service J) (count : CoordinatorStats → CoordinatorStats) : Service J :=
  { service with
    coordinator := { service.coordinator with stats := count service.coordinator.stats } }

def countStaleEpoch (stats : CoordinatorStats) : CoordinatorStats :=
  { stats with staleEpochRejections := stats.staleEpochRejections + 1 }

def countFrameRejected (stats : CoordinatorStats) : CoordinatorStats :=
  { stats with framesRejected := stats.framesRejected + 1 }

def countRevalidation (stats : CoordinatorStats) : CoordinatorStats :=
  { stats with revalidationsRequired := stats.revalidationsRequired + 1 }

def nextSequence (service : Service J) : UInt32 × Service J :=
  let sequence := service.coordinator.outboundSequence + 1
  (sequence, { service with
    coordinator := { service.coordinator with outboundSequence := sequence } })

def replyError (service : Service J) (code : Code) (line : String) : Status × Service J :=
  let next := service.nextSequence
  next.2.sendMessage {
    type := .errorMessage
    sequence := next.1
    error := ⟨code, (text line).take Limits.maxMessageChars⟩ }

/-- Every connection, the served one included. -/
def sessions (service : Service J) : List Connection :=
  service.connection :: service.coordinator.connections

def snapshotStats (service : Service J) : CoordinatorStats :=
  { service.coordinator.stats with
    epoch := service.coordinator.fabric.epoch
    workers := UInt64.ofNat (service.sessions.countP fun connection =>
      connection.session.handshaken && connection.session.role = .worker)
    queues := UInt64.ofNat service.coordinator.fabric.queues.size
    durableRecords := service.coordinator.fabric.stats.journalRecords
    ambiguousAttempts := UInt64.ofNat service.coordinator.fabric.recovery.orphanedBegins }

/-! Handshake. -/

/-- Why a hello is not admitted. -/
def refuseHello (service : Service J) (hello : Hello) : Option (Code × String) :=
  let epoch := service.coordinator.fabric.epoch
  if !hello.node.valid || !hello.incarnation.valid || !hello.boot.valid then
    some (.malformedInput, "hello requires node, incarnation and boot identity")
  else if hello.role = .worker ∧ !hello.epoch.valid then
    some (.staleEpoch, "a coordinator epoch is required for admission")
  else if hello.role = .worker ∧ hello.epoch ≠ epoch then
    some (.staleEpoch, "presented epoch is not the current coordinator epoch")
  else if service.sessions.any fun existing => existing.session.handshaken &&
      existing.session.node = hello.node &&
      decide (hello.incarnation.value < existing.session.incarnation.value) then
    some (.staleIncarnation, "publisher incarnation is superseded by an admitted session")
  else none

/-- The counter a refused hello moves. -/
def countRefusedHello (service : Service J) (code : Code) : Service J :=
  if code = .malformedInput then { service with connection := service.connection.rejectFrame }
  else if code = .staleEpoch then service.countStats countStaleEpoch
  else service.countStats fun stats =>
    { stats with staleIncarnationRejections := stats.staleIncarnationRejections + 1 }

def helloAck (service : Service J) (sequence : UInt32) (accepted : Bool) (code : Code)
    (message : String) : Message where
  type := .helloAck
  sequence := sequence
  helloAck := {
    accepted
    code
    message := text message
    coordinatorEpoch := service.coordinator.fabric.epoch
    coordinatorIncarnation := service.coordinator.stats.coordinatorIncarnation }

def admitHello (service : Service J) (hello : Hello) : Service J :=
  let now := service.coordinator.nowNanos
  { coordinator := now.2
    connection := { service.connection with
      session := { service.connection.session with
        handshaken := true
        role := hello.role
        node := hello.node
        incarnation := hello.incarnation
        boot := hello.boot
        epoch := service.coordinator.fabric.epoch
        name := hello.name
        lastActivity := now.1 } } }

def handleHello (service : Service J) (message : Message) : Status × Service J :=
  let next := service.nextSequence
  let service := next.2
  match service.refuseHello message.hello with
  | some (code, line) =>
      (service.countRefusedHello code).sendMessage (service.helloAck next.1 false code line)
  | none =>
      (service.admitHello message.hello).sendMessage (service.helloAck next.1 true .ok "admitted")

section Fabric

variable [IJournal J]

/-- Hands a request to the fabric. -/
def apply (service : Service J) (request : MutationRequest) :
    Except Status MutationOutcome × Service J :=
  let reply := service.coordinator.fabric.apply request
  let service' := { service with
    coordinator := { service.coordinator with fabric := reply.fabric } }
  match reply.result with
  | .error status => (.error status, service')
  | .ok outcome =>
      if outcome.replayed then (.ok outcome, service')
      else (.ok outcome,
        service'.note (.applied service.coordinator.fabric service.connection request))

/-! Occupancy. -/

/-- One sample of a batch: whether it was accepted. -/
def handleSample (service : Service J) (current : Epoch) (sample : OccupancySample) :
    Bool × Service J :=
  if sample.epoch.valid ∧ sample.epoch ≠ current then
    (false, service.countStats countStaleEpoch)
  else if !sample.queue.valid then (false, service)
  else
    let looked := service.coordinator.principalFor sample.queue
    let service := { service with coordinator := looked.2 }
    if !looked.1.valid then (false, service)
    else
      let outcome := service.apply (ingestRequest ⟨looked.1, sample.provenance, current⟩ sample)
      match outcome.1 with
      | .error _ => (false, outcome.2)
      | .ok _ => (true, { outcome.2 with
          connection := outcome.2.connection.subscribe sample.queue })

/-- The samples of a batch in order, with the numbers accepted and rejected. -/
def handleSamples (current : Epoch) : List OccupancySample → Service J → Nat × Nat × Service J
  | [], service => (0, 0, service)
  | sample :: rest, service =>
      let handled := service.handleSample current sample
      let later := handleSamples current rest handled.2
      if handled.1 then (later.1 + 1, later.2.1, later.2.2)
      else (later.1, later.2.1 + 1, later.2.2)

def handleOccupancy (service : Service J) (message : Message) : Status × Service J :=
  let handled := handleSamples service.coordinator.fabric.epoch message.occupancy service
  let service := handled.2.2.countStats fun stats => { stats with
    occupancyAccepted := stats.occupancyAccepted + UInt64.ofNat handled.1
    occupancyRejected := stats.occupancyRejected + UInt64.ofNat handled.2.1 }
  (.success, if handled.2.1 > 0 then service.countStats countRevalidation else service)

/-! Mutations. -/

def mutationResponse (sequence : UInt32) (attempt : AttemptId)
    (result : Except Status MutationOutcome) : Message where
  type := .mutationResponse
  sequence := sequence
  mutationResponse := match result with
    | .ok outcome => {
        attempt
        queue := outcome.queue
        code := .ok
        message := text outcome.rule
        generation := outcome.generation
        replayed := outcome.replayed }
    | .error status => { attempt, code := status.code, message := text status.message }

def countMutation (result : Except Status MutationOutcome) (stats : CoordinatorStats) :
    CoordinatorStats :=
  match result with
  | .error _ => { stats with mutationsRejected := stats.mutationsRejected + 1 }
  | .ok outcome =>
      let stats := { stats with mutationsApplied := stats.mutationsApplied + 1 }
      if outcome.replayed then { stats with mutationsReplayed := stats.mutationsReplayed + 1 }
      else stats

def handleMutation (service : Service J) (message : Message) : Status × Service J :=
  let next := service.nextSequence
  let outcome := next.2.apply message.mutation
  let service := outcome.2.countStats (countMutation outcome.1)
  let service := match outcome.1 with
    | .error _ => service
    | .ok accepted => if accepted.queue.valid then
        { service with connection := service.connection.subscribe accepted.queue } else service
  service.sendMessage (mutationResponse next.1 message.mutation.attempt outcome.1)

/-! Dispatch. -/

/-- Every message counts as activity of its peer, admitted or not. -/
def touch (service : Service J) : Service J :=
  let now := service.coordinator.nowNanos
  { coordinator := now.2
    connection := { service.connection with
      session := { service.connection.session with
        lastActivity := now.1
        messagesHandled := service.connection.session.messagesHandled + 1 } } }

def handleHeartbeat (service : Service J) (message : Message) : Status × Service J :=
  if message.heartbeat.epoch.valid ∧ message.heartbeat.epoch ≠ service.coordinator.fabric.epoch then
    (service.countStats countStaleEpoch).replyError .staleEpoch "heartbeat epoch is superseded"
  else (.success, service)

def handleStats (service : Service J) : Status × Service J :=
  let next := service.nextSequence
  next.2.sendMessage { type := .statsResponse, sequence := next.1, stats := next.2.snapshotStats }

def handleMessage (service : Service J) (message : Message) : Status × Service J :=
  let service := service.touch
  if !service.connection.session.handshaken ∧ message.type ≠ .hello then
    { service with connection := service.connection.rejectFrame }.replyError .authorityDenied
      "first message must be a hello"
  else match message.type with
    | .hello => service.handleHello message
    | .heartbeat => service.handleHeartbeat message
    | .occupancyBatch => service.handleOccupancy message
    | .mutation => service.handleMutation message
    | .statsRequest => service.handleStats
    | .shutdown =>
        (.success, { service with coordinator := { service.coordinator with stopped := true } })
    | _ =>
        ({ service with connection := service.connection.rejectFrame }.countStats
          countFrameRejected).replyError .unsupported "message type is not accepted from a peer"

/-! Disconnection. -/

/-- Withdraws the evidence of one queue of a lost connection. -/
def invalidate (service : Service J) (current : Epoch) (reason : Text) (queue : QueueId) :
    Service J :=
  let looked := service.coordinator.principalFor queue
  let service := { service with coordinator := looked.2 }.note
    (.invalidating service.coordinator.fabric service.connection queue looked.1)
  if !looked.1.valid then service
  else
    let reply := service.coordinator.fabric.invalidateEvidence queue looked.1 current reason
    let service := { service with
      coordinator := { service.coordinator with fabric := reply.fabric } }
    match reply.result with
    | .ok _ => service.countStats countRevalidation
    | .error _ => service

/-- `room` is only recorded: how many frames the decode loop may still take. -/
def handleDisconnect (service : Service J) (reason : String) (room : Nat) : Service J :=
  if service.connection.closing then service
  else
    let started := service.note (.lost service.coordinator.fabric service.connection room)
    let marked := { started with connection := { started.connection with closing := true } }
    let counted := marked.countStats fun stats =>
      { stats with connectionsLost := stats.connectionsLost + 1 }
    let withdrawn := counted.connection.queues.foldl
      (fun service queue => service.invalidate counted.coordinator.fabric.epoch (text reason) queue)
      counted
    { withdrawn with connection := { withdrawn.connection with
        transport := withdrawn.connection.transport.close } }

/-! The service cycle. -/

def countFrame (service : Service J) : Service J :=
  { service with
    connection := { service.connection with
      session := { service.connection.session with
        framesIn := service.connection.session.framesIn + 1 } } }.countStats fun stats =>
    { stats with framesReceived := stats.framesReceived + 1 }

/-- Whether the reply reaches its peer does not matter here. -/
def refuseFrame (service : Service J) : Service J :=
  (({ service with connection := service.connection.rejectFrame }.countStats
    countFrameRejected).replyError .malformedInput "frame body could not be decoded").2

/-- One frame that the decoder yielded; `room` frames may follow it in this cycle. -/
def handleFrame (service : Service J) (frame : Frame) (room : Nat) : Service J :=
  let service := service.countFrame
  match decodeMessage frame.payload with
  | .error _ => service.refuseFrame
  | .ok message =>
      if message.type.toRaw ≠ frame.type then service.refuseFrame
      else
        let handled := service.handleMessage message
        if handled.1.isOk then handled.2
        else handled.2.handleDisconnect "message-handling-failed" room

/-- The decode loop, with the number of frames the cycle may still take. -/
def decodeFrames : Nat → Service J → Nat × Service J
  | 0, service => (0, service)
  | room + 1, service =>
      let next := service.connection.decoder.next
      let decoded := { service with connection := { service.connection with decoder := next.2 } }
      match next.1 with
      | .ok frame =>
          decodeFrames room
            ((decoded.note (.took service.connection)).handleFrame frame room)
      | .error status =>
          if status.code = .notFound then (room + 1, decoded)
          else (room + 1, ({ decoded with
            connection := decoded.connection.rejectFrame }.countStats
            countFrameRejected).handleDisconnect "frame-decoder-failed" 0)

/-- The receive loop. Every round but the last takes at least one byte from the transport, so
`fuel` above the bytes that can still arrive is never used up. -/
def receiveChunks : Nat → Nat → Service J → Nat × Service J
  | 0, room, service => (room, service)
  | fuel + 1, room, service =>
      if room = 0 then (0, service)
      else
        let ready := service.connection.transport.readable
        let checked := { service with connection := { service.connection with
          transport := ready.2 } }
        if !ready.1 then (room, checked)
        else
          let received := ready.2.receive service.coordinator.config.receiveBufferBytes
          let service := { service with connection := { service.connection with
            transport := received.2 } }
          match received.1 with
          | .error _ => (room, service.handleDisconnect "transport-receive-failed" 0)
          | .ok chunk =>
              if chunk.isEmpty then
                (room, service.handleDisconnect "publisher-connection-closed" 0)
              else
                let pushed := service.connection.decoder.push chunk
                let service := { service with connection := { service.connection with
                  decoder := pushed.2 } }
                if !pushed.1.isOk then
                  (room, ({ service with
                    connection := service.connection.rejectFrame }.countStats
                    countFrameRejected).handleDisconnect "frame-buffer-bound-exceeded" 0)
                else
                  let decoded := decodeFrames room service
                  receiveChunks fuel decoded.1 decoded.2

/-- Service of one connection in one cycle. -/
def serve (service : Service J) : Service J :=
  if !service.connection.transport.connected then service
  else
    (receiveChunks (service.connection.transport.pending + 1)
      service.coordinator.config.maxFramesPerCycle service).2

/-- A handshaken peer that was silent beyond the deadline is gone. -/
def expire (now : Nanos) (service : Service J) : Service J :=
  let deadline := service.coordinator.config.heartbeatDeadline
  if !service.connection.transport.connected || !service.connection.session.handshaken then service
  else if deadline > 0 ∧ now - service.connection.session.lastActivity > deadline then
    (service.countStats fun stats =>
      { stats with livenessExpirations := stats.livenessExpirations + 1 }).handleDisconnect
        "publisher-liveness-expired" 0
  else service

end Fabric

end Service

namespace Coordinator

variable {J : Type}

/-- Runs `serve` on the connections in order, each taken out of the list while it is served. -/
def eachConnection (serve : Service J → Service J) :
    List Connection → List Connection → Coordinator J → Coordinator J
  | served, [], coordinator => { coordinator with connections := served }
  | served, connection :: rest, coordinator =>
      let after := serve ⟨{ coordinator with connections := served ++ rest }, connection⟩
      eachConnection serve (served ++ [after.connection]) rest after.coordinator

/-- The connection pending at the listener, if there is one, is accepted while there is room. -/
def accept (coordinator : Coordinator J) (incoming : Option TcpTransport) : Coordinator J :=
  if coordinator.listening ∧ coordinator.connections.length < coordinator.config.maxConnections then
    match incoming with
    | none => coordinator
    | some transport =>
        let now := coordinator.nowNanos
        { now.2 with
          connections := coordinator.connections ++
            [{ id := coordinator.nextConnectionId
               transport := { transport with connected := true }
               session := { lastActivity := now.1 } }]
          nextConnectionId := coordinator.nextConnectionId + 1
          stats := { coordinator.stats with
            connectionsAccepted := coordinator.stats.connectionsAccepted + 1 } }
  else coordinator

def reap (coordinator : Coordinator J) : Coordinator J :=
  { coordinator with
    connections := coordinator.connections.filter fun connection =>
      connection.transport.connected }

variable [IJournal J]

/-- One service cycle: accept, decode and admit, enforce liveness, reap. -/
def runOnce (coordinator : Coordinator J) (incoming : Option TcpTransport) :
    Status × Coordinator J :=
  if coordinator.stopped then (⟨.shuttingDown, "coordinator is stopped"⟩, coordinator)
  else
    let accepted := (coordinator.note .began).accept incoming
    let served := eachConnection Service.serve [] accepted.connections accepted
    let now := served.nowNanos
    let expired := eachConnection (Service.expire now.1) [] now.2.connections now.2
    (.success, expired.reap)

/-- `start`, with the outcome of binding the listener. -/
def start (coordinator : Coordinator J) (bound : Status) : Status × Coordinator J :=
  let reply := coordinator.fabric.recover
  let coordinator := { coordinator with fabric := reply.fabric, stopped := false }
  match reply.result with
  | .error status => (status, coordinator)
  | .ok () =>
      let stats := { coordinator.stats with
        recoveries := coordinator.stats.recoveries + 1
        coordinatorIncarnation := ⟨reply.fabric.epoch.value⟩ }
      if !bound.isOk then (bound, { coordinator with stats })
      else (.success, { coordinator with
        listening := true
        stats := { stats with epoch := reply.fabric.epoch } })

def run (coordinator : Coordinator J) (cycles : List (Option TcpTransport)) : Coordinator J :=
  cycles.foldl (fun coordinator incoming => (coordinator.runOnce incoming).2) coordinator

end Coordinator

end QueueFabric
