import QueueFabric.Conflicts
import QueueFabric.ServiceSteps

/-!
What a peer that is not a worker can change. The handlers look at the handshake
and not at the role, so a request of a monitor reaches the fabric. The fabric is
left alone exactly as long as it turns every such request away before a queue is
concerned.
-/

namespace QueueFabric

namespace Fabric

variable {J : Type}

/-- The records, the epoch and the journal are the same; counters and clock are not compared. -/
structure Kept (before after : Fabric J) : Prop where
  queues : after.queues = before.queues
  resources : after.resources = before.resources
  epoch : after.epoch = before.epoch
  journal : after.journal = before.journal

theorem Kept.refl (fabric : Fabric J) : Kept fabric fabric := ⟨rfl, rfl, rfl, rfl⟩

theorem Kept.trans {first second third : Fabric J} (one : Kept first second)
    (two : Kept second third) : Kept first third :=
  ⟨two.queues.trans one.queues, two.resources.trans one.resources, two.epoch.trans one.epoch,
    two.journal.trans one.journal⟩

variable [IJournal J]

/-- The request gets past the checks that concern no queue: it addresses a queue the fabric holds,
declares a new one, or repeats a declaration. -/
inductive TakesUp (fabric : Fabric J) (request : MutationRequest) : Prop
  | mutation (queue : QueueRecord) (running : fabric.shuttingDown = false)
      (valid : request.validate.isOk = true) (kind : request.kind ≠ .declareQueue)
      (found : fabric.findQueue request.queue = some queue)
  | declaration (payload : DeclareQueuePayload) (resource : ResourceRecord)
      (running : fabric.shuttingDown = false) (valid : request.validate.isOk = true)
      (kind : request.kind = .declareQueue) (carried : request.payload = .declareQueue payload)
      (declarable : Declarable fabric request payload resource)
  | repetition (running : fabric.shuttingDown = false) (valid : request.validate.isOk = true)
      (again : Redeclares fabric request)

omit [IJournal J] in
theorem takesUp_of_now {fabric : Fabric J} {request : MutationRequest}
    (takes : TakesUp fabric.monotonicNow.2 request) : TakesUp fabric request := by
  cases takes with
  | mutation queue running valid kind found => exact .mutation queue running valid kind found
  | declaration payload resource running valid kind carried declarable =>
      obtain ⟨found, authorized, free, checked, gate⟩ := declarable
      exact .declaration payload resource running valid kind carried
        ⟨found, authorized, free, checked, gate⟩
  | repetition running valid again =>
      obtain ⟨payload, resource, key, queue, kind, carried, home, authorized, named, found,
        publisher, sequence⟩ := again
      exact .repetition running valid (.intro payload resource key queue kind carried home
        authorized named found publisher sequence)

/-- A request that is not taken up leaves the records and the journal alone. -/
theorem applyAt_kept {fabric : Fabric J} {request : MutationRequest}
    (turned : ¬ TakesUp fabric request) (now : Nanos) : Kept fabric (fabric.applyAt request now).fabric := by
  have ended := applyAt_cases fabric request now
  by_cases running : fabric.shuttingDown = true
  · rw [applyAt, if_pos running]
    exact .refl fabric
  rw [Bool.not_eq_true] at running
  generalize fabric.applyAt request now = reply at ended
  cases ended with
  | stopped stopping => exact .refl fabric
  | unbound refusal => exact ⟨rfl, rfl, rfl, rfl⟩
  | existing queue reply valid kind found ended =>
      exact absurd (.mutation queue running valid kind found) turned
  | declare payload reply valid kind carried ended =>
      cases ended with
      | refused refusal => exact ⟨rfl, rfl, rfl, rfl⟩
      | answered key taken =>
          simp only [answerDeclared]
          split
          · exact ⟨rfl, rfl, rfl, rfl⟩
          · split <;> exact ⟨rfl, rfl, rfl, rfl⟩
      | undurable resource refusal after declarable failed =>
          exact absurd (.declaration payload resource running valid kind carried declarable) turned
      | committed resource after declarable written =>
          exact absurd (.declaration payload resource running valid kind carried declarable) turned

theorem takesUp_of_ok {fabric : Fabric J} {request : MutationRequest} {now : Nanos}
    {outcome : MutationOutcome} (ok : (fabric.applyAt request now).result = .ok outcome) :
    TakesUp fabric request := by
  obtain ⟨running, valid⟩ := applyAt_running ok
  cases (applyAt_ok_iff running valid).mp ⟨outcome, ok⟩ with
  | remembered queue entry kind found recorded ok same =>
      exact .mutation queue running valid kind found
  | redeclared again => exact .repetition running valid again
  | fresh passes =>
      cases passes with
      | mutation queue tracker applied kind found admitted durable =>
          exact .mutation queue running valid kind found
      | declaration payload resource kind carried declarable durable =>
          exact .declaration payload resource running valid kind carried declarable

theorem apply_kept {fabric : Fabric J} {request : MutationRequest}
    (turned : ¬ TakesUp fabric request) : Kept fabric (fabric.apply request).fabric := by
  have still : ¬ TakesUp fabric.monotonicNow.2 request := turned ∘ takesUp_of_now
  have kept := applyAt_kept still fabric.monotonicNow.1
  exact ⟨kept.queues, kept.resources, kept.epoch, kept.journal⟩

theorem apply_refused {fabric : Fabric J} {request : MutationRequest}
    (turned : ¬ TakesUp fabric request) :
    ∃ status, (fabric.apply request).result = .error status := by
  cases result : (fabric.apply request).result with
  | error status => exact ⟨status, rfl⟩
  | ok outcome =>
      have ok : (fabric.monotonicNow.2.applyAt request fabric.monotonicNow.1).result =
          .ok outcome := result
      exact absurd (takesUp_of_now (takesUp_of_ok ok)) turned

end Fabric

namespace Service

open Fabric

variable {J : Type}

/-- The fabric is kept and the connection lists no further queue. -/
structure Spared (before after : Service J) : Prop where
  fabric : Kept before.coordinator.fabric after.coordinator.fabric
  queues : after.connection.queues = before.connection.queues

theorem Spared.refl (service : Service J) : Spared service service := ⟨.refl _, rfl⟩

theorem Spared.trans {first second third : Service J} (one : Spared first second)
    (two : Spared second third) : Spared first third :=
  ⟨one.fabric.trans two.fabric, two.queues.trans one.queues⟩

theorem Books.spared {before after : Service J} (books : Books before after) :
    Spared before after := by
  obtain ⟨clock, same⟩ := books.fabric
  refine ⟨?_, books.connection.queues⟩
  rw [same]
  exact ⟨rfl, rfl, rfl, rfl⟩

variable [IJournal J]

theorem apply_spared (service : Service J) {request : MutationRequest}
    (turned : ¬ TakesUp service.coordinator.fabric request) :
    ∃ status, (service.apply request).1 = .error status ∧
      Spared service (service.apply request).2 := by
  obtain ⟨status, refused⟩ := apply_refused turned
  refine ⟨status, ?_, ?_⟩
  · simp only [Service.apply, refused]
  · simp only [Service.apply, refused]
    exact ⟨apply_kept turned, rfl⟩

/-! Batches. -/

/-- The fabric turns the sample away, if the handler offers it at all. -/
def SparesSample (current : Epoch) (service : Service J) (sample : OccupancySample) : Prop :=
  let principal := (service.coordinator.principalFor sample.queue).1
  (sample.epoch.valid = true → sample.epoch = current) → sample.queue.valid = true →
    principal.valid = true → ¬ TakesUp service.coordinator.fabric
      (ingestRequest ⟨principal, sample.provenance, current⟩ sample)

theorem handleSample_spared {service : Service J} {current : Epoch} {sample : OccupancySample}
    (spares : SparesSample current service sample) :
    Spared service (service.handleSample current sample).2 := by
  have looked := books_principalFor service sample.queue
  simp only [handleSample]
  split
  · exact (books_countStats service _).spared
  rename_i live
  split
  · exact .refl service
  rename_i named
  split
  · exact looked.spared
  rename_i owned
  have turned := spares (fun valid => by simpa [valid] using live) (by simpa using named)
    (by simpa using owned)
  rw [← (principalFor_kept service.coordinator sample.queue).1] at turned
  obtain ⟨status, refused, spared⟩ :=
    apply_spared ⟨(service.coordinator.principalFor sample.queue).2, service.connection⟩ turned
  simp only [refused]
  exact looked.spared.trans spared

def SparesBatch (current : Epoch) (service : Service J) (samples : List OccupancySample) : Prop :=
  Runs.Along (fun service sample => (handleSample service current sample).2)
    (SparesSample current) service samples

theorem handleSamples_spared {current : Epoch} {samples : List OccupancySample}
    {service : Service J} (spares : SparesBatch current service samples) :
    Spared service (handleSamples current samples service).2.2 := by
  induction samples generalizing service with
  | nil => exact .refl service
  | cons sample rest ih =>
      obtain ⟨first, others⟩ := spares
      have handled := (handleSample_spared first).trans (ih others)
      simp only [handleSamples]
      split <;> exact handled

theorem handleOccupancy_spared {service : Service J} {message : Message}
    (spares : SparesBatch service.coordinator.fabric.epoch service message.occupancy) :
    Spared service (service.handleOccupancy message).2 := by
  have handled := handleSamples_spared spares
  simp only [handleOccupancy]
  split
  · exact (handled.trans (books_countStats _ _).spared).trans (books_countStats _ _).spared
  · exact handled.trans (books_countStats _ _).spared

theorem handleMutation_spared {service : Service J} {message : Message}
    (turned : ¬ TakesUp service.coordinator.fabric message.mutation) :
    Spared service (service.handleMutation message).2 := by
  have numbered := (books_nextSequence service).spared
  obtain ⟨status, refused, spared⟩ := apply_spared service.nextSequence.2 turned
  simp only [handleMutation, refused]
  exact ((numbered.trans spared).trans (books_countStats _ _).spared).trans
    (books_sendMessage _ _).spared

/-! Frames. -/

/-- No request in the message of an admitted peer is taken up. -/
structure SparesMessage (service : Service J) (message : Message) : Prop where
  mutation : message.type = .mutation →
    ¬ TakesUp service.coordinator.fabric message.mutation
  occupancy : message.type = .occupancyBatch →
    SparesBatch service.coordinator.fabric.epoch service message.occupancy

theorem handleMessage_spared (service : Service J) {message : Message}
    (spares : service.connection.session.handshaken = true →
      SparesMessage service.touch message) :
    Spared service (service.handleMessage message).2 := by
  have touched := (books_touch service).spared
  refine touched.trans ?_
  have same : service.touch.connection.session.handshaken =
    service.connection.session.handshaken := rfl
  simp only [handleMessage]
  split
  · exact ((books_rejectFrame _).trans (books_replyError _ _ _)).spared
  rename_i admitted
  split
  · exact (books_handleHello _ _).spared
  · exact (books_handleHeartbeat _ _).spared
  · rename_i kind
    have handshaken : service.connection.session.handshaken = true := by
      simpa [kind, same] using admitted
    exact handleOccupancy_spared ((spares handshaken).occupancy kind)
  · rename_i kind
    have handshaken : service.connection.session.handshaken = true := by
      simpa [kind, same] using admitted
    exact handleMutation_spared ((spares handshaken).mutation kind)
  · exact (books_handleStats _).spared
  · exact ⟨.refl _, rfl⟩
  · exact (((books_rejectFrame _).trans (books_countStats _ _)).trans
      (books_replyError _ _ _)).spared

omit [IJournal J] in
theorem handleDisconnect_spared {service : Service J} (unlisted : service.connection.queues = [])
    (reason : String) (room : Nat) :
    Spared service (service.handleDisconnect reason room) := by
  cases closing : service.connection.closing with
  | true =>
      rw [handleDisconnect, closing]
      exact .refl service
  | false =>
      rw [handleDisconnect_eq closing, withdrawn, unlisted]
      exact ⟨.refl _, rfl⟩

/-- What a frame must not carry: a request the fabric takes up, from a peer that is admitted. -/
def Spares (service : Service J) (taken : Frame × Nat) : Prop :=
  ∀ message, decodeMessage taken.1.payload = .ok message → message.type.toRaw = taken.1.type →
    service.connection.session.handshaken = true →
      SparesMessage service.countFrame.touch message

theorem handleFrame_spared {service : Service J} {frame : Frame} {room : Nat}
    (unlisted : service.connection.queues = []) (spares : Spares service (frame, room)) :
    Spared service (service.handleFrame frame room) := by
  have counted := (books_countFrame service).spared
  have refused := counted.trans (books_refuseFrame service.countFrame).spared
  simp only [handleFrame]
  split
  · exact refused
  rename_i message decoded
  split
  · exact refused
  rename_i typed
  have handled := counted.trans (handleMessage_spared service.countFrame
    (spares message decoded (by simpa using typed)))
  split
  · exact handled
  · exact handled.trans (handleDisconnect_spared (handled.queues.trans unlisted) _ _)

/-- The frames of one connection, each with the number that may follow it in its cycle. -/
def handleFrames (service : Service J) (frames : List (Frame × Nat)) : Service J :=
  frames.foldl (fun service taken => service.handleFrame taken.1 taken.2) service

/-- As long as no frame of an admitted peer carries a request that the fabric takes up, the records,
the epoch and the journal stay what they were, whatever role the peer was admitted with. -/
theorem frames_keep_fabric (service : Service J) (frames : List (Frame × Nat))
    (unlisted : service.connection.queues = [])
    (spares : Runs.Along (fun service taken => handleFrame service taken.1 taken.2) Spares
      service frames) :
    Kept service.coordinator.fabric (service.handleFrames frames).coordinator.fabric := by
  have spared : Spared service (service.handleFrames frames) := by
    refine @Runs.invariant _ _ _ _ (Spared service) ?_ _ (.refl service) _ spares
    intro before taken earlier spares
    exact earlier.trans (handleFrame_spared (earlier.queues.trans unlisted) spares)
  exact spared.fabric

theorem spares_of_type {service : Service J} {frame : Frame} {room : Nat}
    (mutation : frame.type ≠ MessageType.mutation.toRaw)
    (occupancy : frame.type ≠ MessageType.occupancyBatch.toRaw) :
    Spares service (frame, room) := by
  intro message _ typed _
  refine ⟨fun kind => ?_, fun kind => ?_⟩
  · rw [kind] at typed
    exact absurd typed.symm mutation
  · rw [kind] at typed
    exact absurd typed.symm occupancy

/-- The peer is at no time admitted as a worker. -/
def NeverWorker (service : Service J) (frames : List (Frame × Nat)) : Prop :=
  ∀ done ∈ frames.inits,
    (service.handleFrames done).connection.session.handshaken = true →
      (service.handleFrames done).connection.session.role ≠ .worker

instance (service : Service J) (frames : List (Frame × Nat)) :
    Decidable (service.NeverWorker frames) :=
  inferInstanceAs (Decidable (∀ done ∈ frames.inits, _ → _))

def monitorHello : Message :=
  { type := .hello
    sequence := 1
    hello := { role := .monitor, node := ⟨1⟩, incarnation := ⟨1⟩, boot := ⟨1, 1⟩ } }

def monitoring : Service StableStore :=
  ⟨{ config := {}, fabric := System.sampleSystem.fabric }, { id := 1, transport := {} }⟩

def framing (message : Message) : Frame :=
  ⟨message.type.toRaw, message.sequence, encodeMessage message⟩

theorem statistics_keep_fabric :
    Kept monitoring.coordinator.fabric (monitoring.handleFrames
      [(framing monitorHello, 1), (framing { type := .statsRequest, sequence := 2 }, 0)]
        ).coordinator.fabric :=
  frames_keep_fabric monitoring _ rfl
    ⟨spares_of_type (by decide) (by decide), spares_of_type (by decide) (by decide), trivial⟩

def monitorMutation : Message :=
  { type := .mutation
    sequence := 2
    mutation := System.sampleRequest 2 .validateQueue .monostate }

/-- A peer that is only ever a monitor moves a queue. -/
theorem monitor_moves_queue :
    monitoring.NeverWorker [(framing monitorHello, 1), (framing monitorMutation, 0)] ∧
      ¬ Kept monitoring.coordinator.fabric (monitoring.handleFrames
        [(framing monitorHello, 1), (framing monitorMutation, 0)]).coordinator.fabric := by
  refine ⟨by decide +kernel, fun kept => ?_⟩
  have same : ((monitoring.handleFrames [(framing monitorHello, 1),
      (framing monitorMutation, 0)]).coordinator.fabric.findQueue ⟨1⟩).map QueueRecord.lifecycle =
      (monitoring.coordinator.fabric.findQueue ⟨1⟩).map QueueRecord.lifecycle := by
    rw [Fabric.findQueue, kept.queues, Fabric.findQueue]
  exact absurd same (by decide +kernel)

end Service

end QueueFabric
