import QueueFabric.Admissions
import QueueFabric.Messages

/-!
What a coordinator writes to its peers. Every frame is answered with at most one
message, and handling it writes the bytes of that message to the connection it
came from, or nothing when the connection does not take them.
-/

namespace QueueFabric

open Relation

/-! Writing. -/

/-- The frame a message travels in. -/
def Message.frame (message : Message) : Frame :=
  ⟨message.type.toRaw, message.sequence, encodeMessage message⟩

/-- The bytes of a message; one that cannot be encoded has none. -/
def Message.wire (message : Message) : Bytes :=
  if encodeMessage message = [] then []
  else encodeFrame message.frame (UInt64.ofNat Limits.maxFramePayloadBytes)

/-- Whether the next bytes sent reach the peer. -/
def TcpTransport.reaches (transport : TcpTransport) : Bool :=
  transport.connected && transport.sends.headD true

theorem send_spec (transport : TcpTransport) (data : Bytes) :
    (transport.send data).1.isOk = transport.reaches ∧
      (transport.send data).2.sent =
        transport.sent ++ if transport.reaches then data else [] := by
  cases connected : transport.connected with
  | false =>
      simp only [TcpTransport.send, TcpTransport.reaches, connected]
      exact ⟨rfl, (List.append_nil _).symm⟩
  | true =>
      simp only [TcpTransport.send, TcpTransport.reaches, connected]
      cases transport.sends.headD true with
      | false => exact ⟨rfl, (List.append_nil _).symm⟩
      | true => exact ⟨rfl, rfl⟩

namespace TcpTransport

/-- Whether the peer gets the message. -/
def takes (transport : TcpTransport) (message : Message) : Bool :=
  !message.wire.isEmpty && transport.reaches

/-- What is written of a message. -/
def transmitted (transport : TcpTransport) (message : Message) : Bytes :=
  if transport.takes message then message.wire else []

end TcpTransport

/-- Sending succeeds exactly when the message is written. -/
theorem Connection.sendMessage_spec (connection : Connection) (message : Message) :
    (connection.sendMessage message).1.isOk = connection.transport.takes message ∧
      (connection.sendMessage message).2.transport.sent =
        connection.transport.sent ++ connection.transport.transmitted message := by
  simp only [sendMessage, TcpTransport.transmitted, TcpTransport.takes, Message.wire,
    List.isEmpty_iff]
  by_cases unencoded : encodeMessage message = []
  · simp [unencoded, Status.isOk]
  simp only [unencoded, ↓reduceIte]
  generalize encoded : encodeFrame message.frame (UInt64.ofNat Limits.maxFramePayloadBytes) = data
  rw [Message.frame] at encoded
  rw [encoded]
  by_cases large : data = []
  · simp [large, Status.isOk]
  obtain ⟨status, sent⟩ := send_spec connection.transport data
  simp only [large, ↓reduceIte, status]
  cases reaches : connection.transport.reaches with
  | true => simp [large, status, sent, reaches]
  | false => simp [status, sent, reaches]

theorem Connection.transport_subscribe (connection : Connection) (queue : QueueId) :
    (connection.subscribe queue).transport = connection.transport := by
  rw [subscribe_eq]

/-! Answering. -/

namespace Service

variable {J : Type}

/-- The number the next message of the coordinator carries. -/
def upcoming (service : Service J) : UInt32 := service.coordinator.outboundSequence + 1

def errorReply (service : Service J) (code : Code) (line : String) : Message where
  type := .errorMessage
  sequence := service.upcoming
  error := ⟨code, (text line).take Limits.maxMessageChars⟩

def helloReply (service : Service J) (hello : Hello) : Message :=
  match service.refuseHello hello with
  | some (code, line) => service.helloAck service.upcoming false code line
  | none => service.helloAck service.upcoming true .ok "admitted"

/-- What handling a message did to the peer: the reply was written, or else the handler failed. -/
structure Answers (transport : TcpTransport) (reply : Option Message)
    (handled : Status × Service J) : Prop where
  status : handled.1.isOk = reply.all transport.takes
  sent : handled.2.connection.transport.sent =
    transport.sent ++ (reply.map transport.transmitted).getD []

theorem answers_sendMessage {transport : TcpTransport} (service : Service J)
    (same : service.connection.transport = transport) (message : Message) :
    Answers transport (some message) (service.sendMessage message) := by
  obtain ⟨status, sent⟩ := service.connection.sendMessage_spec message
  rw [same] at status sent
  exact ⟨status, sent⟩

theorem answers_silently {transport : TcpTransport} (service : Service J)
    (same : service.connection.transport = transport) :
    Answers transport none (.success, service) := by
  refine ⟨rfl, ?_⟩
  rw [same]
  exact (List.append_nil _).symm

theorem answers_replyError {transport : TcpTransport} (service : Service J)
    (same : service.connection.transport = transport) (code : Code) (line : String) :
    Answers transport (some (service.errorReply code line)) (service.replyError code line) :=
  answers_sendMessage service.nextSequence.2 same _

theorem transport_countRefusedHello (service : Service J) (code : Code) :
    (service.countRefusedHello code).connection.transport = service.connection.transport := by
  rw [countRefusedHello]
  split
  · rfl
  · split <;> rfl

theorem answers_handleHello (service : Service J) (message : Message) :
    Answers service.connection.transport (some (service.helloReply message.hello))
      (service.handleHello message) := by
  have same : service.nextSequence.2.refuseHello message.hello =
    service.refuseHello message.hello := rfl
  have ack (accepted : Bool) (code : Code) (line : String) :
      service.nextSequence.2.helloAck service.nextSequence.1 accepted code line =
        service.helloAck service.upcoming accepted code line := rfl
  simp only [handleHello, helloReply, same, ack]
  cases service.refuseHello message.hello with
  | none => exact answers_sendMessage (service.nextSequence.2.admitHello message.hello) rfl _
  | some refusal =>
      exact answers_sendMessage (service.nextSequence.2.countRefusedHello refusal.1)
        (transport_countRefusedHello service.nextSequence.2 refusal.1) _

theorem answers_handleStats (service : Service J) :
    Answers service.connection.transport (some {
        type := .statsResponse
        sequence := service.upcoming
        stats := service.snapshotStats }) service.handleStats :=
  answers_sendMessage service.nextSequence.2 rfl _

theorem answers_handleHeartbeat (service : Service J) (message : Message) :
    Answers service.connection.transport
      (if message.heartbeat.epoch.valid ∧
          message.heartbeat.epoch ≠ service.coordinator.fabric.epoch then
        some (service.errorReply .staleEpoch "heartbeat epoch is superseded")
      else none) (service.handleHeartbeat message) := by
  simp only [handleHeartbeat]
  split
  · exact answers_replyError (service.countStats countStaleEpoch) rfl _ _
  · exact answers_silently _ rfl

variable [IJournal J]

/-- The message a message is answered with, by a service that has noted the activity. -/
def reply (service : Service J) (message : Message) : Option Message :=
  if !service.connection.session.handshaken ∧ message.type ≠ .hello then
    some (service.errorReply .authorityDenied "first message must be a hello")
  else match message.type with
    | .hello => some (service.helloReply message.hello)
    | .heartbeat =>
        if message.heartbeat.epoch.valid ∧
            message.heartbeat.epoch ≠ service.coordinator.fabric.epoch then
          some (service.errorReply .staleEpoch "heartbeat epoch is superseded")
        else none
    | .occupancyBatch => none
    | .mutation => some (mutationResponse service.upcoming message.mutation.attempt
        (service.coordinator.fabric.apply message.mutation).result)
    | .statsRequest => some {
        type := .statsResponse
        sequence := service.upcoming
        stats := service.snapshotStats }
    | .shutdown => none
    | _ => some (service.errorReply .unsupported "message type is not accepted from a peer")

theorem transport_handleSample (service : Service J) (current : Epoch)
    (sample : OccupancySample) :
    (service.handleSample current sample).2.connection.transport =
      service.connection.transport := by
  simp only [handleSample]
  split
  · rfl
  split
  · rfl
  split
  · rfl
  have applied := @apply_connection J _
    ⟨(service.coordinator.principalFor sample.queue).2, service.connection⟩
    (ingestRequest ⟨(service.coordinator.principalFor sample.queue).1, sample.provenance,
      current⟩ sample)
  split
  · rw [applied]
  · refine (Connection.transport_subscribe _ _).trans ?_
    rw [applied]

theorem transport_handleSamples (current : Epoch) (samples : List OccupancySample)
    (service : Service J) :
    (handleSamples current samples service).2.2.connection.transport =
      service.connection.transport := by
  induction samples generalizing service with
  | nil => rfl
  | cons sample rest ih =>
      have handled := (ih _).trans (transport_handleSample service current sample)
      simp only [handleSamples]
      split <;> exact handled

theorem answers_handleOccupancy (service : Service J) (message : Message) :
    Answers service.connection.transport none (service.handleOccupancy message) := by
  have handled := transport_handleSamples service.coordinator.fabric.epoch message.occupancy service
  simp only [handleOccupancy]
  split <;> exact answers_silently _ handled

theorem apply_result (service : Service J) (request : MutationRequest) :
    (service.apply request).1 = (service.coordinator.fabric.apply request).result := by
  simp only [Service.apply]
  cases result : (service.coordinator.fabric.apply request).result with
  | error status => rfl
  | ok outcome =>
      simp only []
      split <;> rfl

theorem answers_handleMutation (service : Service J) (message : Message) :
    Answers service.connection.transport
      (some (mutationResponse service.upcoming message.mutation.attempt
        (service.coordinator.fabric.apply message.mutation).result))
      (service.handleMutation message) := by
  have result := apply_result service.nextSequence.2 message.mutation
  have applied := apply_connection service.nextSequence.2 message.mutation
  have fabric : service.nextSequence.2.coordinator.fabric = service.coordinator.fabric := rfl
  have transport : service.nextSequence.2.connection = service.connection := rfl
  have number : service.nextSequence.1 = service.upcoming := rfl
  rw [fabric] at result
  rw [transport] at applied
  simp only [handleMutation, number]
  generalize service.nextSequence.2.apply message.mutation = outcome at result applied ⊢
  rw [← result, ← applied]
  refine answers_sendMessage _ ?_ _
  cases outcome.1 with
  | error status => rfl
  | ok accepted =>
      simp only []
      split
      · exact Connection.transport_subscribe _ _
      · rfl

theorem answers_handleMessage (service : Service J) (message : Message) :
    Answers service.connection.transport (service.touch.reply message)
      (service.handleMessage message) := by
  have touched : service.touch.connection.transport = service.connection.transport := rfl
  rw [← touched, handleMessage]
  generalize service.touch = service
  simp only [reply]
  split
  · exact answers_replyError { service with connection := service.connection.rejectFrame } rfl _ _
  · cases message.type with
    | hello => exact answers_handleHello service message
    | heartbeat => exact answers_handleHeartbeat service message
    | occupancyBatch => exact answers_handleOccupancy service message
    | mutation => exact answers_handleMutation service message
    | statsRequest => exact answers_handleStats service
    | shutdown => exact answers_silently _ rfl
    | _ =>
        exact answers_replyError ({ service with
          connection := service.connection.rejectFrame }.countStats countFrameRejected) rfl _ _

end Service

namespace Delivery

variable {J : Type} [IJournal J]

/-- The message the frame brings, if it brings one. -/
def message (delivery : Delivery J) : Option Message :=
  match decodeMessage delivery.frame.payload with
  | .error _ => none
  | .ok message => if message.type.toRaw = delivery.frame.type then some message else none

/-- The service that handles the message. -/
def handler (delivery : Delivery J) : Service J := delivery.service.countFrame.touch

/-- What the frame is answered with. -/
def reply (delivery : Delivery J) : Option Message :=
  match delivery.message with
  | none => some (delivery.service.errorReply .malformedInput "frame body could not be decoded")
  | some message => delivery.handler.reply message

/-- The answer, if the peer gets it. -/
def told (delivery : Delivery J) : Option Message :=
  delivery.reply.filter delivery.service.connection.transport.takes

/-- The frame was understood, but the peer did not get the answer. -/
def failed (delivery : Delivery J) : Bool :=
  delivery.message.isSome && delivery.reply.any fun reply =>
    !delivery.service.connection.transport.takes reply

/-- The bytes written to the peer for the frame. -/
def written (delivery : Delivery J) : Bytes := (delivery.told.map Message.wire).getD []

theorem written_eq (delivery : Delivery J) : delivery.written =
    (delivery.reply.map delivery.service.connection.transport.transmitted).getD [] := by
  rw [written, told]
  cases delivery.reply with
  | none => rfl
  | some reply =>
      simp only [Option.filter_some, TcpTransport.transmitted, Option.map_some, Option.getD_some]
      split <;> rfl

end Delivery

namespace Service

variable {J : Type}

theorem sent_handleDisconnect (service : Service J) (reason : String) (room : Nat) :
    (service.handleDisconnect reason room).connection.transport.sent =
      service.connection.transport.sent := by
  cases closing : service.connection.closing with
  | true => rw [handleDisconnect, closing]; rfl
  | false => rw [handleDisconnect_eq closing]; rfl

variable [IJournal J]

theorem handleFrame_message (service : Service J) (frame : Frame) (room : Nat) :
    service.handleFrame frame room =
      match Delivery.message ⟨service, frame⟩ with
      | none => service.countFrame.refuseFrame
      | some message =>
          if (service.countFrame.handleMessage message).1.isOk then
            (service.countFrame.handleMessage message).2
          else (service.countFrame.handleMessage message).2.handleDisconnect
            "message-handling-failed" room := by
  rw [handleFrame, Delivery.message]
  cases decodeMessage frame.payload with
  | error status => rfl
  | ok message =>
      simp only [ne_eq, ite_not]
      split <;> rfl

omit [IJournal J] in
theorem sent_refuseFrame (service : Service J) :
    service.countFrame.refuseFrame.connection.transport.sent =
      service.connection.transport.sent ++ service.connection.transport.transmitted
        (service.errorReply .malformedInput "frame body could not be decoded") := by
  rw [refuseFrame]
  generalize moved_eq : { service.countFrame with
    connection := service.countFrame.connection.rejectFrame }.countStats countFrameRejected = moved
  have transport : moved.connection.transport = service.connection.transport := by
    rw [← moved_eq]
    rfl
  have number : moved.upcoming = service.upcoming := by
    rw [← moved_eq]
    rfl
  have answers := (answers_replyError moved transport .malformedInput
    "frame body could not be decoded").sent
  rwa [errorReply, number] at answers

/-- Handling a frame writes what it is answered with, and nothing else. -/
theorem sent_handleFrame (service : Service J) (frame : Frame) (room : Nat) :
    (service.handleFrame frame room).connection.transport.sent =
      service.connection.transport.sent ++ Delivery.written ⟨service, frame⟩ := by
  rw [handleFrame_message, Delivery.written_eq, Delivery.reply]
  cases Delivery.message ⟨service, frame⟩ with
  | none => exact sent_refuseFrame service
  | some message =>
      have counted : service.countFrame.connection.transport = service.connection.transport := rfl
      have answers := (answers_handleMessage service.countFrame message).sent
      rw [counted] at answers
      simp only [Delivery.handler]
      split
      · exact answers
      · rw [sent_handleDisconnect]
        exact answers

/-- A peer that does not get an answer loses the connection. -/
theorem handleFrame_failed {service : Service J} (paired : service.connection.Paired)
    {frame : Frame} (failed : Delivery.failed ⟨service, frame⟩ = true) (room : Nat) :
    (service.handleFrame frame room).connection.transport.connected = false := by
  rw [Delivery.failed, Bool.and_eq_true] at failed
  rw [handleFrame_message]
  cases brought : Delivery.message ⟨service, frame⟩ with
  | none => simp [brought] at failed
  | some message =>
      have counted : service.countFrame.connection.transport = service.connection.transport := rfl
      have status := (answers_handleMessage service.countFrame message).status
      have untaken := failed.2
      rw [Delivery.reply, brought] at untaken
      rw [counted] at status
      obtain ⟨reply, replied, refused⟩ : ∃ reply,
          service.countFrame.touch.reply message = some reply ∧
            service.connection.transport.takes reply = false := by
        cases replied : service.countFrame.touch.reply message with
        | none => simp [Delivery.handler, replied] at untaken
        | some reply =>
            simp only [Delivery.handler, replied, Option.any_some] at untaken
            exact ⟨reply, rfl, by simpa using untaken⟩
      rw [replied, Option.all_some, refused] at status
      have kept := (serves_of_acts (handleMessage_acts service.countFrame message)).paired paired
      simp only [status, Bool.false_eq_true, ↓reduceIte]
      exact handleDisconnect_closed kept _ _

/-- Nothing is written to a lost connection. -/
theorem told_closed {service : Service J} {frame : Frame}
    (closed : service.connection.transport.connected = false) :
    Delivery.told ⟨service, frame⟩ = none := by
  rw [Delivery.told, Option.filter_eq_none_iff]
  intro reply _
  simp [TcpTransport.takes, TcpTransport.reaches, closed]

end Service

end QueueFabric
