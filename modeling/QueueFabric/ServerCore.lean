import QueueFabric.Conversations
import QueueFabric.SystemCore

/-!
The rest of `coordinator.cpp`: epoch advances, messages sent on request and the
stop, and a coordinator's life between them. The owner of the server may also
call its fabric.
-/

namespace QueueFabric

namespace Coordinator

variable {J : Type}

/-- The provenance of an epoch advance. -/
def administration (coordinator : Coordinator J) : Provenance where
  publisher := ⟨1⟩
  node := ⟨1⟩
  incarnation := if coordinator.stats.coordinatorIncarnation.valid then
    coordinator.stats.coordinatorIncarnation else ⟨1⟩
  epoch := coordinator.fabric.epoch
  sequence := ⟨(coordinator.outboundSequence + 1).toUInt64⟩
  boot := coordinator.fabric.boot

/-- The owner that an unordered map of principals yields first: any of them. -/
def administrator (coordinator : Coordinator J) (first : Nat) : OwnerId :=
  let owners := coordinator.principals.entries.map Prod.snd
  (owners[first % owners.length]?).getD default

/-- Tells every open connection of an epoch; whether a notice reaches its peer does not matter. -/
def notifyAll (epoch : Epoch) : List Connection → UInt32 → List Connection × UInt32
  | [], sequence => ([], sequence)
  | connection :: rest, sequence =>
      if !connection.transport.connected then
        let others := notifyAll epoch rest sequence
        (connection :: others.1, others.2)
      else
        let others := notifyAll epoch rest (sequence + 1)
        ((connection.sendMessage { type := .epochAdvance, sequence := sequence + 1, epoch }).2 ::
          others.1, others.2)

def advanceEpoch [IJournal J] (coordinator : Coordinator J) (first : Nat) :
    Except Status Epoch × Coordinator J :=
  let reply := coordinator.fabric.advanceEpoch (coordinator.administrator first)
    coordinator.administration
  let coordinator := { coordinator with fabric := reply.fabric }
  match reply.result with
  | .error status => (.error status, coordinator)
  | .ok epoch =>
      let notified := notifyAll epoch coordinator.connections coordinator.outboundSequence
      (.ok epoch, { coordinator with
        connections := notified.1
        outboundSequence := notified.2
        stats := { coordinator.stats with epoch } })

/-- Sends to the first connection of this identity. -/
def sendIn (id : Nat) (message : Message) : List Connection → Status × List Connection
  | [] => (⟨.notFound, "session is not connected"⟩, [])
  | connection :: rest =>
      if connection.id = id then
        let sent := connection.sendMessage message
        (sent.1, sent.2 :: rest)
      else
        let sent := sendIn id message rest
        (sent.1, connection :: sent.2)

def sendTo (coordinator : Coordinator J) (id : Nat) (message : Message) :
    Status × Coordinator J :=
  let sent := sendIn id message coordinator.connections
  (sent.1, { coordinator with connections := sent.2 })

def stop (coordinator : Coordinator J) : Coordinator J :=
  { coordinator with stopped := true, connections := [], listening := false }

end Coordinator

/-- What the owner of a server does with it. -/
inductive Operation
  | cycle (incoming : Option TcpTransport)
  | advanceEpoch (first : Nat)
  | sendTo (id : Nat) (message : Message)
  | call (call : Call)
  | stop

namespace Coordinator

variable {J : Type} [IJournal J]

def operate (coordinator : Coordinator J) : Operation → Coordinator J
  | .cycle incoming => (coordinator.runOnce incoming).2
  | .advanceEpoch first => (coordinator.advanceEpoch first).2
  | .sendTo id message => (coordinator.sendTo id message).2
  | .call call => { coordinator with fabric := (coordinator.fabric.serve call).fabric }
  | .stop => coordinator.stop

def live (coordinator : Coordinator J) (operations : List Operation) : Coordinator J :=
  operations.foldl operate coordinator

/-! What a life does for its peers. -/

def noticesTo (epoch : Epoch) : List Connection → UInt32 → List (Nat × Message)
  | [], _ => []
  | connection :: rest, sequence =>
      if !connection.transport.connected then noticesTo epoch rest sequence
      else
        let notice : Message := { type := .epochAdvance, sequence := sequence + 1, epoch }
        if connection.transport.takes notice then
          (connection.id, notice) :: noticesTo epoch rest (sequence + 1)
        else noticesTo epoch rest (sequence + 1)

/-- The messages one operation writes, each with the connection it goes to. -/
def letters (coordinator : Coordinator J) : Operation → List (Nat × Message)
  | .cycle incoming => (coordinator.cycleDeliveries incoming).filterMap Delivery.letter
  | .advanceEpoch first =>
      match (coordinator.advanceEpoch first).1 with
      | .error _ => []
      | .ok epoch => noticesTo epoch coordinator.connections coordinator.outboundSequence
  | .sendTo id message =>
      match coordinator.connections.find? fun connection => connection.id = id with
      | none => []
      | some connection => if connection.transport.takes message then [(id, message)] else []
  | .call _ => []
  | .stop => []

/-- The frames one operation handles. -/
def handled (coordinator : Coordinator J) : Operation → List (Delivery J)
  | .cycle incoming => coordinator.cycleDeliveries incoming
  | _ => []

/-- The connections one operation accepts, each with the transport of its peer. -/
def admitted (coordinator : Coordinator J) : Operation → List (Nat × TcpTransport)
  | .cycle incoming => (coordinator.welcomes incoming).toList
  | _ => []

/-- What the operations of a life yield, in order. -/
def gather {α : Type} (yields : Coordinator J → Operation → List α) :
    Coordinator J → List Operation → List α
  | _, [] => []
  | coordinator, operation :: later =>
      yields coordinator operation ++ gather yields (coordinator.operate operation) later

end Coordinator

end QueueFabric
