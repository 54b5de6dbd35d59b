import Mathlib.Logic.Relation
import QueueFabric.CoordinatorCore
import QueueFabric.QueueSteps

/-!
What the coordinator can do while it serves one connection. Handling a message is
a sequence of bookkeeping, listing a queue, and handing a request to the fabric;
only a lost connection does more. `Serves` collects what all of it leaves alone.
-/

namespace QueueFabric

open Relation Fabric

/-! Transports. -/

namespace Connection

/-- Equal up to session counters and the replies sent. -/
structure Alike (before after : Connection) : Prop where
  id : after.id = before.id
  decoder : after.decoder = before.decoder
  queues : after.queues = before.queues
  closing : after.closing = before.closing
  connected : after.transport.connected = before.transport.connected
  unread : after.transport.unread = before.transport.unread
  arrivals : after.transport.arrivals = before.transport.arrivals

theorem Alike.refl (connection : Connection) : Alike connection connection :=
  ⟨rfl, rfl, rfl, rfl, rfl, rfl, rfl⟩

theorem Alike.trans {first second third : Connection} (one : Alike first second)
    (two : Alike second third) : Alike first third where
  id := two.id.trans one.id
  decoder := two.decoder.trans one.decoder
  queues := two.queues.trans one.queues
  closing := two.closing.trans one.closing
  connected := two.connected.trans one.connected
  unread := two.unread.trans one.unread
  arrivals := two.arrivals.trans one.arrivals

/-- The transport is closed exactly when the connection is being dropped. -/
def Paired (connection : Connection) : Prop :=
  connection.closing = !connection.transport.connected

theorem Alike.paired {before after : Connection} (alike : Alike before after)
    (paired : before.Paired) : after.Paired := by
  rw [Paired, alike.closing, alike.connected]
  exact paired

theorem alike_sendMessage (connection : Connection) (message : Message) :
    Alike connection (connection.sendMessage message).2 := by
  have sent (data : Bytes) : Alike connection
      { connection with transport := (connection.transport.send data).2 } := by
    simp only [TcpTransport.send]
    split
    · exact .refl connection
    · split <;> exact ⟨rfl, rfl, rfl, rfl, rfl, rfl, rfl⟩
  simp only [sendMessage]
  split
  · exact .refl connection
  split
  · exact .refl connection
  split
  · exact (sent _).trans ⟨rfl, rfl, rfl, rfl, rfl, rfl, rfl⟩
  · exact sent _

theorem mem_subscribe {connection : Connection} {queue : QueueId} :
    queue ∈ (connection.subscribe queue).queues ∨
      Limits.maxSubscribeQueues ≤ (connection.subscribe queue).queues.length := by
  simp only [subscribe]
  split
  · exact .inl (by simp)
  · rename_i refused
    by_cases listed : queue ∈ connection.queues
    · exact .inl listed
    · exact .inr (by by_contra few; exact refused ⟨listed, by omega⟩)

theorem subscribe_queues (connection : Connection) (queue : QueueId) :
    ∃ added, (connection.subscribe queue).queues = connection.queues ++ added := by
  simp only [subscribe]
  split
  · exact ⟨[queue], rfl⟩
  · exact ⟨[], (List.append_nil _).symm⟩

theorem subscribe_eq (connection : Connection) (queue : QueueId) :
    connection.subscribe queue =
      { connection with queues := (connection.subscribe queue).queues } := by
  simp only [subscribe]
  split <;> rfl

end Connection

/-- Neither the begin of a cycle nor a frame taken. -/
def Activity.Quiet {J : Type} : Activity J → Prop
  | .began => False
  | .took _ => False
  | _ => True

namespace Service

variable {J : Type}

/-! Bookkeeping. -/

/-- Counters, replies, cached owners and readings of the clock. -/
structure Books (before after : Service J) : Prop where
  config : after.coordinator.config = before.coordinator.config
  connections : after.coordinator.connections = before.coordinator.connections
  nextConnectionId : after.coordinator.nextConnectionId = before.coordinator.nextConnectionId
  log : after.coordinator.log = before.coordinator.log
  fabric : ∃ clock, after.coordinator.fabric = { before.coordinator.fabric with clock }
  connection : before.connection.Alike after.connection

theorem Books.refl (service : Service J) : Books service service :=
  ⟨rfl, rfl, rfl, rfl, ⟨_, rfl⟩, .refl _⟩

theorem Books.trans {first second third : Service J} (one : Books first second)
    (two : Books second third) : Books first third where
  config := two.config.trans one.config
  connections := two.connections.trans one.connections
  nextConnectionId := two.nextConnectionId.trans one.nextConnectionId
  log := two.log.trans one.log
  fabric := by
    obtain ⟨early, same⟩ := one.fabric
    obtain ⟨late, same'⟩ := two.fabric
    exact ⟨late, by rw [same', same]⟩
  connection := one.connection.trans two.connection

theorem books_sendMessage (service : Service J) (message : Message) :
    Books service (service.sendMessage message).2 :=
  ⟨rfl, rfl, rfl, rfl, ⟨_, rfl⟩, Connection.alike_sendMessage _ _⟩

theorem books_countStats (service : Service J) (count : CoordinatorStats → CoordinatorStats) :
    Books service (service.countStats count) := ⟨rfl, rfl, rfl, rfl, ⟨_, rfl⟩, .refl _⟩

theorem books_nextSequence (service : Service J) : Books service service.nextSequence.2 :=
  ⟨rfl, rfl, rfl, rfl, ⟨_, rfl⟩, .refl _⟩

theorem books_replyError (service : Service J) (code : Code) (line : String) :
    Books service (service.replyError code line).2 :=
  (books_nextSequence service).trans (books_sendMessage _ _)

theorem books_rejectFrame (service : Service J) :
    Books service { service with connection := service.connection.rejectFrame } :=
  ⟨rfl, rfl, rfl, rfl, ⟨_, rfl⟩, ⟨rfl, rfl, rfl, rfl, rfl, rfl, rfl⟩⟩

theorem books_touch (service : Service J) : Books service service.touch :=
  ⟨rfl, rfl, rfl, rfl, ⟨_, rfl⟩, ⟨rfl, rfl, rfl, rfl, rfl, rfl, rfl⟩⟩

theorem books_admitHello (service : Service J) (hello : Hello) :
    Books service (service.admitHello hello) :=
  ⟨rfl, rfl, rfl, rfl, ⟨_, rfl⟩, ⟨rfl, rfl, rfl, rfl, rfl, rfl, rfl⟩⟩

theorem books_countRefusedHello (service : Service J) (code : Code) :
    Books service (service.countRefusedHello code) := by
  rw [countRefusedHello]
  split
  · exact books_rejectFrame service
  · split <;> exact books_countStats service _

theorem books_handleHello (service : Service J) (message : Message) :
    Books service (service.handleHello message).2 := by
  simp only [handleHello]
  split
  · exact ((books_nextSequence service).trans (books_countRefusedHello _ _)).trans
      (books_sendMessage _ _)
  · exact ((books_nextSequence service).trans (books_admitHello _ _)).trans
      (books_sendMessage _ _)

theorem books_handleHeartbeat (service : Service J) (message : Message) :
    Books service (service.handleHeartbeat message).2 := by
  rw [handleHeartbeat]
  split
  · exact (books_countStats service _).trans (books_replyError _ _ _)
  · exact .refl service

theorem books_handleStats (service : Service J) : Books service service.handleStats.2 :=
  (books_nextSequence service).trans (books_sendMessage _ _)

theorem books_principalFor (service : Service J) (queue : QueueId) :
    Books service { service with coordinator := (service.coordinator.principalFor queue).2 } := by
  simp only [Coordinator.principalFor]
  split
  · exact .refl service
  split
  · exact .refl service
  split
  · exact .refl service
  · exact ⟨rfl, rfl, rfl, rfl, ⟨_, rfl⟩, .refl _⟩

theorem principalFor_kept (coordinator : Coordinator J) (queue : QueueId) :
    (coordinator.principalFor queue).2.fabric = coordinator.fabric ∧
      (coordinator.principalFor queue).2.log = coordinator.log := by
  simp only [Coordinator.principalFor]
  split
  · exact ⟨rfl, rfl⟩
  split
  · exact ⟨rfl, rfl⟩
  split <;> exact ⟨rfl, rfl⟩

/-! The acts of a handler. -/

section Acts

variable [IJournal J]

/-- The service after the fabric has seen `request`. -/
def seen (service : Service J) (request : MutationRequest) : Service J :=
  { service with
    coordinator := { service.coordinator with
      fabric := (service.coordinator.fabric.apply request).fabric } }

/-- One act of a message handler. -/
inductive Act : Service J → Service J → Prop
  | books {before after : Service J} (books : Books before after) : Act before after
  | subscribed (service : Service J) (queue : QueueId) :
      Act service { service with connection := service.connection.subscribe queue }
  | answered (service : Service J) (request : MutationRequest)
      (idle : ¬ Executed (service.coordinator.fabric.apply request).result) :
      Act service (service.seen request)
  | applied (service : Service J) (request : MutationRequest) (outcome : MutationOutcome)
      (connection : Connection)
      (ok : (service.coordinator.fabric.apply request).result = .ok outcome)
      (first : outcome.replayed = false)
      (listed : connection = service.connection.subscribe request.queue ∨
        connection = if outcome.queue.valid then service.connection.subscribe outcome.queue
          else service.connection) :
      Act service { (service.seen request).note
        (.applied service.coordinator.fabric service.connection request) with connection }

theorem Books.acts {before after : Service J} (books : Books before after) :
    ReflTransGen Act before after := .single (.books books)

/-- The three ways a request fares at the fabric. -/
inductive Applied (service : Service J) (request : MutationRequest) :
    Except Status MutationOutcome × Service J → Prop
  | refused (status : Status)
      (idle : ¬ Executed (service.coordinator.fabric.apply request).result) :
      Applied service request (.error status, service.seen request)
  | replayed (outcome : MutationOutcome)
      (idle : ¬ Executed (service.coordinator.fabric.apply request).result) :
      Applied service request (.ok outcome, service.seen request)
  | executed (outcome : MutationOutcome)
      (ok : (service.coordinator.fabric.apply request).result = .ok outcome)
      (first : outcome.replayed = false) :
      Applied service request (.ok outcome, (service.seen request).note
        (.applied service.coordinator.fabric service.connection request))

theorem apply_cases (service : Service J) (request : MutationRequest) :
    Applied service request (service.apply request) := by
  simp only [Service.apply]
  cases result : (service.coordinator.fabric.apply request).result with
  | error status =>
      refine .refused status ?_
      rintro ⟨outcome, impossible, _⟩
      simp [result] at impossible
  | ok outcome =>
      cases again : outcome.replayed with
      | true =>
          simp only [again, ↓reduceIte]
          refine .replayed outcome ?_
          rintro ⟨other, same, first⟩
          rw [result, Except.ok.injEq] at same
          simp [← same, again] at first
      | false =>
          simp only [again, Bool.false_eq_true, ↓reduceIte]
          exact .executed outcome result again

theorem handleSample_acts (service : Service J) (current : Epoch) (sample : OccupancySample) :
    ReflTransGen Act service (service.handleSample current sample).2 := by
  simp only [handleSample]
  split
  · exact (books_countStats service _).acts
  split
  · exact .refl
  have looked := (books_principalFor service sample.queue).acts
  split
  · exact looked
  generalize named : ingestRequest ⟨(service.coordinator.principalFor sample.queue).1,
    sample.provenance, current⟩ sample = request
  have queue : request.queue = sample.queue := by rw [← named]; rfl
  rw [← queue] at looked ⊢
  generalize (service.coordinator.principalFor request.queue).2 = coordinator at looked ⊢
  have applied := apply_cases ⟨coordinator, service.connection⟩ request
  generalize Service.apply ⟨coordinator, service.connection⟩ request = outcome at applied ⊢
  cases applied with
  | refused status idle => exact looked.tail (.answered _ _ idle)
  | replayed accepted idle =>
      exact (looked.tail (.answered _ _ idle)).tail (.subscribed _ request.queue)
  | executed accepted ok first => exact looked.tail (.applied _ _ accepted _ ok first (.inl rfl))

theorem handleSamples_acts (current : Epoch) (samples : List OccupancySample)
    (service : Service J) :
    ReflTransGen Act service (handleSamples current samples service).2.2 := by
  induction samples generalizing service with
  | nil => exact .refl
  | cons sample rest ih =>
      have handled := (handleSample_acts service current sample).trans (ih _)
      simp only [handleSamples]
      split <;> exact handled

theorem handleOccupancy_acts (service : Service J) (message : Message) :
    ReflTransGen Act service (service.handleOccupancy message).2 := by
  have handled := handleSamples_acts service.coordinator.fabric.epoch message.occupancy service
  simp only [handleOccupancy]
  split
  · exact (handled.trans (books_countStats _ _).acts).trans (books_countStats _ _).acts
  · exact handled.trans (books_countStats _ _).acts

theorem handleMutation_acts (service : Service J) (message : Message) :
    ReflTransGen Act service (service.handleMutation message).2 := by
  have numbered := (books_nextSequence service).acts
  have applied := apply_cases service.nextSequence.2 message.mutation
  simp only [handleMutation]
  refine ReflTransGen.trans ?_ (books_sendMessage _ _).acts
  generalize service.nextSequence.2.apply message.mutation = outcome at applied
  cases applied with
  | refused status idle =>
      exact (numbered.tail (.answered _ _ idle)).trans (books_countStats _ _).acts
  | replayed accepted idle =>
      have counted := (numbered.tail (.answered _ _ idle)).trans
        (books_countStats _ (countMutation (.ok accepted))).acts
      by_cases valid : accepted.queue.valid = true
      · simp only [valid, ↓reduceIte]
        exact counted.tail (.subscribed _ accepted.queue)
      · simp only [valid, Bool.false_eq_true, ↓reduceIte]
        exact counted
  | executed accepted ok first =>
      have listed := (numbered.tail (.applied _ _ accepted _ ok first (.inr rfl))).trans
        (books_countStats _ (countMutation (.ok accepted))).acts
      by_cases valid : accepted.queue.valid = true
      · simp only [valid, ↓reduceIte] at listed ⊢
        exact listed
      · simp only [valid, Bool.false_eq_true, ↓reduceIte] at listed ⊢
        exact listed

theorem handleMessage_acts (service : Service J) (message : Message) :
    ReflTransGen Act service (service.handleMessage message).2 := by
  have touched := books_touch service
  simp only [handleMessage]
  split
  · exact ((touched.trans (books_rejectFrame _)).trans (books_replyError _ _ _)).acts
  split
  · exact (touched.trans (books_handleHello _ _)).acts
  · exact (touched.trans (books_handleHeartbeat _ _)).acts
  · exact touched.acts.trans (handleOccupancy_acts _ _)
  · exact touched.acts.trans (handleMutation_acts _ _)
  · exact (touched.trans (books_handleStats _)).acts
  · have stopped : Books service.touch { service.touch with
        coordinator := { service.touch.coordinator with stopped := true } } :=
      ⟨rfl, rfl, rfl, rfl, ⟨_, rfl⟩, .refl _⟩
    exact (touched.trans stopped).acts
  · exact (((touched.trans (books_rejectFrame _)).trans (books_countStats _ _)).trans
      (books_replyError _ _ _)).acts

end Acts

/-! What serving a connection leaves alone. -/

/-- What no handler touches, the loss of the connection included. -/
structure Serves (before after : Service J) : Prop where
  config : after.coordinator.config = before.coordinator.config
  connections : after.coordinator.connections = before.coordinator.connections
  nextConnectionId : after.coordinator.nextConnectionId = before.coordinator.nextConnectionId
  id : after.connection.id = before.connection.id
  decoder : after.connection.decoder = before.connection.decoder
  unread : after.connection.transport.unread = before.connection.transport.unread
  arrivals : after.connection.transport.arrivals = before.connection.transport.arrivals
  paired : before.connection.Paired → after.connection.Paired
  shut : before.connection.transport.connected = false →
    after.connection.transport.connected = false
  log : ∃ newer, after.coordinator.log = newer ++ before.coordinator.log ∧
    ∀ activity ∈ newer, activity.Quiet

theorem Serves.refl (service : Service J) : Serves service service where
  config := rfl
  connections := rfl
  nextConnectionId := rfl
  id := rfl
  decoder := rfl
  unread := rfl
  arrivals := rfl
  paired paired := paired
  shut closed := closed
  log := ⟨[], rfl, by simp⟩

theorem Serves.trans {first second third : Service J} (one : Serves first second)
    (two : Serves second third) : Serves first third where
  config := two.config.trans one.config
  connections := two.connections.trans one.connections
  nextConnectionId := two.nextConnectionId.trans one.nextConnectionId
  id := two.id.trans one.id
  decoder := two.decoder.trans one.decoder
  unread := two.unread.trans one.unread
  arrivals := two.arrivals.trans one.arrivals
  paired := two.paired ∘ one.paired
  shut := two.shut ∘ one.shut
  log := by
    obtain ⟨early, same, quiet⟩ := one.log
    obtain ⟨late, same', quiet'⟩ := two.log
    refine ⟨late ++ early, by rw [same', same, List.append_assoc], fun activity listed => ?_⟩
    rcases List.mem_append.mp listed with new | old
    · exact quiet' activity new
    · exact quiet activity old

/-- A connection that only lists other queues, under a log that only grew by quiet entries. -/
theorem serves_of_queues {before after : Service J}
    (config : after.coordinator.config = before.coordinator.config)
    (connections : after.coordinator.connections = before.coordinator.connections)
    (next : after.coordinator.nextConnectionId = before.coordinator.nextConnectionId)
    (connection : ∃ queues, after.connection = { before.connection with queues })
    (log : ∃ newer, after.coordinator.log = newer ++ before.coordinator.log ∧
      ∀ activity ∈ newer, activity.Quiet) : Serves before after := by
  obtain ⟨queues, same⟩ := connection
  refine ⟨config, connections, next, ?_, ?_, ?_, ?_, ?_, ?_, log⟩
  all_goals rw [same]
  · exact id
  · exact id

theorem Books.serves {before after : Service J} (books : Books before after) :
    Serves before after where
  config := books.config
  connections := books.connections
  nextConnectionId := books.nextConnectionId
  id := books.connection.id
  decoder := books.connection.decoder
  unread := books.connection.unread
  arrivals := books.connection.arrivals
  paired := books.connection.paired
  shut closed := books.connection.connected.trans closed
  log := ⟨[], books.log, by simp⟩

theorem Act.serves [IJournal J] {before after : Service J} (act : Act before after) : Serves before after := by
  cases act with
  | books books => exact books.serves
  | subscribed queue =>
      exact serves_of_queues rfl rfl rfl ⟨_, Connection.subscribe_eq _ _⟩ ⟨[], rfl, by simp⟩
  | answered request idle => exact serves_of_queues rfl rfl rfl ⟨_, rfl⟩ ⟨[], rfl, by simp⟩
  | applied request outcome connection ok first listed =>
      refine serves_of_queues rfl rfl rfl ?_ ⟨[_], rfl, by simp [Activity.Quiet]⟩
      rcases listed with rfl | rfl
      · exact ⟨_, Connection.subscribe_eq _ _⟩
      · split
        · exact ⟨_, Connection.subscribe_eq _ _⟩
        · exact ⟨_, rfl⟩

theorem serves_of_acts [IJournal J] {before after : Service J} (acts : ReflTransGen Act before after) :
    Serves before after := by
  induction acts with
  | refl => exact .refl before
  | tail early last ih => exact ih.trans last.serves

theorem serves_fabric (service : Service J) (fabric : Fabric J) :
    Serves service { service with coordinator := { service.coordinator with fabric } } :=
  serves_of_queues rfl rfl rfl ⟨_, rfl⟩ ⟨[], rfl, by simp⟩

theorem serves_note (service : Service J) {activity : Activity J} (quiet : activity.Quiet) :
    Serves service (service.note activity) :=
  serves_of_queues rfl rfl rfl ⟨_, rfl⟩ ⟨[activity], rfl, by simpa using quiet⟩

theorem serves_invalidate (service : Service J) (current : Epoch) (reason : Text)
    (queue : QueueId) : Serves service (service.invalidate current reason queue) := by
  have noted := (books_principalFor service queue).serves.trans (serves_note _
    (show (Activity.invalidating service.coordinator.fabric service.connection queue
      (service.coordinator.principalFor queue).1).Quiet from trivial))
  simp only [invalidate]
  split
  · exact noted
  · split
    · exact (noted.trans (serves_fabric _ _)).trans (books_countStats _ _).serves
    · exact noted.trans (serves_fabric _ _)

theorem serves_withdraw (current : Epoch) (reason : Text) (queues : List QueueId)
    (service : Service J) :
    Serves service
      (queues.foldl (fun service queue => service.invalidate current reason queue) service) := by
  induction queues generalizing service with
  | nil => exact .refl service
  | cons queue rest ih => exact (serves_invalidate service current reason queue).trans (ih _)

theorem invalidate_connection (service : Service J) (current : Epoch) (reason : Text)
    (queue : QueueId) :
    (service.invalidate current reason queue).connection = service.connection := by
  simp only [invalidate]
  split
  · rfl
  · split <;> rfl

theorem withdraw_connection (current : Epoch) (reason : Text) (queues : List QueueId)
    (service : Service J) :
    (queues.foldl (fun service queue => service.invalidate current reason queue)
      service).connection = service.connection := by
  induction queues generalizing service with
  | nil => rfl
  | cons queue rest ih => exact (ih _).trans (invalidate_connection service current reason queue)

/-- The state in which the evidence of a lost connection is withdrawn. -/
def losing (service : Service J) (room : Nat) : Service J :=
  { coordinator := { service.coordinator with
      log := .lost service.coordinator.fabric service.connection room :: service.coordinator.log
      stats := { service.coordinator.stats with
        connectionsLost := service.coordinator.stats.connectionsLost + 1 } }
    connection := { service.connection with closing := true } }

def withdrawn (service : Service J) (reason : String) (room : Nat) : Service J :=
  service.connection.queues.foldl
    (fun service' queue => service'.invalidate service.coordinator.fabric.epoch (text reason) queue)
    (service.losing room)

theorem handleDisconnect_eq {service : Service J} (kept : service.connection.closing = false)
    (reason : String) (room : Nat) :
    service.handleDisconnect reason room = { service.withdrawn reason room with
      connection := { service.connection with
        closing := true
        transport := service.connection.transport.close } } := by
  rw [handleDisconnect, kept]
  have connection := withdraw_connection service.coordinator.fabric.epoch (text reason)
    service.connection.queues (service.losing room)
  simp only [Bool.false_eq_true, ↓reduceIte, Service.mk.injEq]
  refine ⟨rfl, ?_⟩
  exact congrArg (fun connection : Connection =>
    { connection with transport := connection.transport.close }) connection

theorem serves_handleDisconnect (service : Service J) (reason : String) (room : Nat) :
    Serves service (service.handleDisconnect reason room) := by
  cases closing : service.connection.closing with
  | true =>
      rw [handleDisconnect, closing]
      exact .refl service
  | false =>
      have withdrawn := serves_withdraw service.coordinator.fabric.epoch (text reason)
        service.connection.queues (service.losing room)
      rw [handleDisconnect_eq closing]
      refine ⟨withdrawn.config, withdrawn.connections, withdrawn.nextConnectionId, rfl, rfl, rfl,
        rfl, fun _ => rfl, fun _ => rfl, ?_⟩
      obtain ⟨newer, same, quiet⟩ := withdrawn.log
      refine ⟨newer ++ [.lost service.coordinator.fabric service.connection room], ?_, ?_⟩
      · rw [List.append_assoc]
        exact same
      · intro activity listed
        rcases List.mem_append.mp listed with new | first
        · exact quiet activity new
        · rw [List.mem_singleton.mp first]
          trivial

theorem handleDisconnect_closed {service : Service J} (paired : service.connection.Paired)
    (reason : String) (room : Nat) :
    (service.handleDisconnect reason room).connection.transport.connected = false := by
  rw [handleDisconnect]
  split
  · rename_i closing
    rw [Connection.Paired, closing] at paired
    simpa using paired.symm
  · rfl

variable [IJournal J]

/-- A frame is handled, or a failure to handle it costs the connection. -/
inductive FrameCase (service : Service J) (room : Nat) : Service J → Prop
  | handled {after : Service J} (acts : ReflTransGen Act service after) :
      FrameCase service room after
  | dropped {after : Service J} (acts : ReflTransGen Act service after) (reason : String) :
      FrameCase service room (after.handleDisconnect reason room)

omit [IJournal J] in
theorem books_countFrame (service : Service J) : Books service service.countFrame :=
  ⟨rfl, rfl, rfl, rfl, ⟨_, rfl⟩, ⟨rfl, rfl, rfl, rfl, rfl, rfl, rfl⟩⟩

omit [IJournal J] in
theorem books_refuseFrame (service : Service J) : Books service service.refuseFrame :=
  ((books_rejectFrame service).trans (books_countStats _ _)).trans (books_replyError _ _ _)

theorem handleFrame_cases (service : Service J) (frame : Frame) (room : Nat) :
    FrameCase service room (service.handleFrame frame room) := by
  have counted := books_countFrame service
  have refused := (counted.trans (books_refuseFrame _)).acts
  simp only [handleFrame]
  split
  · exact .handled refused
  split
  · exact .handled refused
  have handled := counted.acts.trans (handleMessage_acts service.countFrame ‹_›)
  split
  · exact .handled handled
  · exact .dropped handled _

theorem serves_handleFrame (service : Service J) (frame : Frame) (room : Nat) :
    Serves service (service.handleFrame frame room) := by
  have ended := handleFrame_cases service frame room
  generalize service.handleFrame frame room = after at ended
  cases ended with
  | handled acts => exact serves_of_acts acts
  | dropped acts reason => exact (serves_of_acts acts).trans (serves_handleDisconnect _ _ _)

end Service

end QueueFabric
