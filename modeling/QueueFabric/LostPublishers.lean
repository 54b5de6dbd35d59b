import QueueFabric.Buffering
import QueueFabric.Emptiness

/-!
Lost publishers. When a connection is lost the coordinator withdraws the evidence
of the queues it lists for it. That leaves nothing trusted as long as the list
holds every queue the connection published, the owner of each resource may
invalidate, no frame is taken after the loss, and no redefinition lifts the mark
again in the same cycle.
-/

namespace QueueFabric

open Relation QueueRecord Fabric

variable {J : Type}

/-! What the log of a coordinator says. -/

/-- The connection whose observation of a queue was accepted last. -/
def lastAccepted (id : QueueId) : List (Activity J) → Option Nat
  | [] => none
  | .applied _ connection request :: older =>
      if request.kind = .ingestOccupancy ∧ request.queue = id then some connection.id
      else lastAccepted id older
  | _ :: older => lastAccepted id older

/-- A connection was handed to `handle_disconnect` in the current cycle. -/
def LostInCycle (id : Nat) : List (Activity J) → Prop
  | [] => False
  | .began :: _ => False
  | .lost _ connection _ :: older => connection.id = id ∨ LostInCycle id older
  | _ :: older => LostInCycle id older

/-- A connection was handed to `handle_disconnect`. -/
def EverLost (id : Nat) : List (Activity J) → Prop
  | [] => False
  | .lost _ connection _ :: older => connection.id = id ∨ EverLost id older
  | _ :: older => EverLost id older

/-- No frame is taken from a connection that was lost. -/
def Silent : List (Activity J) → Prop
  | [] => True
  | .took connection :: older => ¬ EverLost connection.id older ∧ Silent older
  | _ :: older => Silent older

/-- The request gives the queue another class, other thresholds or another owner. -/
def Alters (queue : QueueRecord) (request : MutationRequest) : Prop :=
  match request.kind, request.payload with
  | .rebindClass, .rebindClass cls => queue.definition.cls ≠ cls
  | .setThresholds, .thresholds thresholds => thresholds ≠ queue.definition.thresholds
  | .transferOwnership, .ownership owner => owner ≠ queue.definition.owner
  | _, _ => False

/-- What each activity must find for lost publishers to leave no trusted evidence. -/
def Activity.Meets (older : List (Activity J)) : Activity J → Prop
  | .began => True
  | .took _ => True
  -- a redefinition replaces the mark of a withdrawal by one that only the generation check reads
  | .applied fabric _ request => ∀ queue connection,
      fabric.findQueue request.queue = some queue → Alters queue request →
      lastAccepted request.queue older = some connection → LostInCycle connection older →
      fabric.config.occupancy.requireGenerationMatch = true
  -- the decode loop goes on after a loss, and the list of queues is bounded
  | .lost fabric connection room =>
      (room = 0 ∨ connection.decoder.holdsFrame = false) ∧
        ∀ id queue, fabric.findQueue id = some queue →
          lastAccepted id older = some connection.id → Doubted fabric.config queue ∨
            id ∈ connection.queues ∨ connection.queues.length < Limits.maxSubscribeQueues
  -- the owner of the resource is the principal of the invalidation
  | .invalidating fabric connection id principal => ∀ queue,
      fabric.findQueue id = some queue → lastAccepted id older = some connection.id →
      Doubted fabric.config queue ∨ principal.valid = true ∧
        ∃ resource, fabric.findResource queue.definition.resource = some resource ∧
          authorize resource.authority principal .admin fabric.epoch queue.applicability
            queue.lifecycle = none

/-- Every activity met its condition when it was done. -/
def Orderly : List (Activity J) → Prop
  | [] => True
  | activity :: older => activity.Meets older ∧ Orderly older

theorem Orderly.older {newer older : List (Activity J)} (orderly : Orderly (newer ++ older)) :
    Orderly older := by
  induction newer with
  | nil => exact orderly
  | cons activity rest ih => exact ih orderly.2

theorem Orderly.of_suffix {older log : List (Activity J)} (orderly : Orderly log)
    (suffix : older <:+ log) : Orderly older := by
  obtain ⟨newer, rfl⟩ := suffix
  exact orderly.older

theorem LostInCycle.ever {id : Nat} {log : List (Activity J)} (lost : LostInCycle id log) :
    EverLost id log := by
  induction log with
  | nil => exact lost
  | cons activity older ih =>
      cases activity with
      | began => exact lost.elim
      | lost fabric connection room =>
          rcases lost with same | earlier
          · exact .inl same
          · exact .inr (ih earlier)
      | _ => exact ih lost

/-! What the fabric does to a doubted queue. -/

namespace Fabric

section Kinds

variable {fabric : Fabric J} {target : QueueRecord} {request : MutationRequest} {now : Nanos}
  {applied : KindApplied}

theorem target_of_not_alters (ok : applyKindLocked fabric target request now = .ok applied)
    (kind : request.kind = .rebindClass ∨ request.kind = .setThresholds ∨
      request.kind = .transferOwnership)
    (idle : ¬ Alters target request) : applied.target = target := by
  rcases kind with kind | kind | kind
  · cases carried : request.payload with
    | rebindClass cls =>
        have same : target.definition.cls = cls := by
          by_contra other
          exact idle (by simpa only [Alters, kind, carried] using other)
        simp only [applyKindLocked, kind, carried, applyRebind, same, ↓reduceIte] at ok
        obtain ⟨_, _, ok⟩ := bind_ok ok
        cases ok
        rfl
    | _ => simp [applyKindLocked, kind, carried] at ok
  · cases carried : request.payload with
    | thresholds thresholds =>
        have same : thresholds = target.definition.thresholds := by
          by_contra other
          exact idle (by simpa only [Alters, kind, carried] using other)
        simp only [applyKindLocked, kind, carried, applySetThresholds, same, ↓reduceIte] at ok
        split at ok
        · cases ok
        · cases ok
          rfl
    | _ => simp [applyKindLocked, kind, carried] at ok
  · cases carried : request.payload with
    | ownership owner =>
        have same : owner = target.definition.owner := by
          by_contra other
          exact idle (by simpa only [Alters, kind, carried] using other)
        simp only [applyKindLocked, kind, carried, applyTransfer, same, ↓reduceIte] at ok
        cases ok
        rfl
    | _ => simp [applyKindLocked, kind, carried] at ok

theorem doubted_of_same {config : FabricConfig} {before after : QueueRecord}
    (occupancy : after.occupancy = before.occupancy)
    (definition : after.definition.generation = before.definition.generation)
    (doubted : Doubted config before) : Doubted config after := by
  rw [Doubted, occupancy, definition]
  exact doubted

/-- Only an accepted observation, or a redefinition that nothing checks, ends the distrust. -/
theorem doubted_applied (config : FabricConfig) (bounded : target.Bounded)
    (ok : applyKindLocked fabric target request now = .ok applied)
    (kind : request.kind ≠ .ingestOccupancy)
    (checked : Alters target request → config.occupancy.requireGenerationMatch = true)
    (doubted : Doubted config target) : Doubted config applied.target := by
  cases applyKindLocked_cases ok with
  | redefined cls thresholds owner generation rule events minted redefines changed bound ladder =>
      by_cases redefined : Alters target request
      · refine .inr (.inr ⟨checked redefined, fun same => ?_⟩)
        simp only [redefine, invalidate_queueGeneration] at same
        have behind := UInt64.lt_of_le_of_lt bounded (Counter.next_lt minted)
        rw [same] at behind
        exact UInt64.lt_irrefl _ behind
      · have kept := target_of_not_alters ok redefines redefined
        rw [kept]
        exact doubted
  | ingested sample overflows rule events stats ingests payload generation epoch =>
      exact absurd ingests kind
  | retired rule events kind moves allowed => exact .inl rfl
  -- the other kinds leave the occupancy and the generation alone
  | _ => exact doubted_of_same rfl rfl doubted

end Kinds

variable [IJournal J]

theorem apply_config (fabric : Fabric J) (request : MutationRequest) :
    (fabric.apply request).fabric.config = fabric.config :=
  (applyAt_cases fabric.monotonicNow.2 request fabric.monotonicNow.1).evidence.1.2

theorem apply_bounded (fabric : Fabric J) (request : MutationRequest)
    (bounded : AllBounded fabric.queues) : AllBounded (fabric.apply request).fabric.queues :=
  (applyAt_cases fabric.monotonicNow.2 request fabric.monotonicNow.1).bounded bounded

/-- Every queue is stored under its own identity. -/
def Keyed (fabric : Fabric J) : Prop :=
  ∀ id queue, fabric.findQueue id = some queue → queue.definition.id = id

omit [IJournal J] in
theorem Moves.keyed {fabric : Fabric J} {request : MutationRequest} {now : Nanos}
    {result : Except Status MutationOutcome} {id : QueueId} {before : Option QueueRecord}
    {after : QueueRecord} (moves : Moves fabric request now result id before (some after))
    (keyed : ∀ queue, before = some queue → queue.definition.id = id) :
    after.definition.id = id := by
  cases moves with
  | unmoved unmoved idle remembers =>
      rw [unmoved.definition]
      exact keyed _ rfl
  | mutated named kind executed mutated =>
      obtain ⟨middle, applied, touch, ended, unmoved⟩ := mutated.kindCase
      rw [unmoved.definition, ended.identical.1.id]
      exact keyed _ rfl
  | declared executed declared =>
      cases declared with
      | intro after payload resource durable config numbered next kind carried declarable =>
          rw [next, ← numbered]
          rfl

omit [IJournal J] in
theorem Moves.doubted {fabric : Fabric J} {request : MutationRequest} {now : Nanos}
    {result : Except Status MutationOutcome} {id : QueueId} {before : Option QueueRecord}
    {after : QueueRecord} {config : FabricConfig}
    (moves : Moves fabric request now result id before (some after))
    (doubted : ∀ queue, before = some queue → queue.Bounded ∧ Doubted config queue)
    (checked : ∀ queue, Executed result → request.queue = id → before = some queue →
      request.kind ≠ .ingestOccupancy ∧
        (Alters queue request → config.occupancy.requireGenerationMatch = true)) :
    Doubted config after := by
  cases moves with
  | unmoved unmoved idle remembers =>
      exact doubted_of_same unmoved.occupancy (congrArg _ unmoved.definition)
        (doubted _ rfl).2
  | @mutated before after named kind executed mutated =>
      obtain ⟨bounded, doubted⟩ := doubted before rfl
      obtain ⟨ingests, redefined⟩ := checked before executed named rfl
      cases mutated with
      | intro middle after tracker applied durable touch config admitted =>
          have unmoved := unmoved_publishQueue after before request applied durable
          exact doubted_of_same unmoved.occupancy (congrArg _ unmoved.definition)
            (doubted_applied _ bounded admitted.kind ingests redefined doubted)
  | declared executed declared =>
      left
      rw [declared.blank.2.2.1]

omit [IJournal J] in
theorem queue_of_valid {request : MutationRequest} (valid : request.validate.isOk = true)
    (kind : request.kind ≠ .declareQueue) : request.queue.valid = true := by
  by_contra unnamed
  rw [Bool.not_eq_true] at unnamed
  have target := target_of_valid valid
  simp only [MutationRequest.validateTarget] at target
  split at target
  · rename_i declares _
    exact absurd declares kind
  · rw [unnamed] at target
    cases target

/-- A first acceptance names the queue the observation is stored under. -/
theorem ingested_queue {fabric : Fabric J} (keyed : Keyed fabric) {request : MutationRequest}
    {outcome : MutationOutcome} (ok : (fabric.apply request).result = .ok outcome)
    (first : outcome.replayed = false) (kind : request.kind = .ingestOccupancy) :
    outcome.queue = request.queue ∧ request.queue.valid = true := by
  have ended := applyAt_cases fabric.monotonicNow.2 request fabric.monotonicNow.1
  change (fabric.monotonicNow.2.applyAt request fabric.monotonicNow.1).result = _ at ok
  generalize fabric.monotonicNow.2.applyAt request fabric.monotonicNow.1 = reply at ended ok
  cases ended with
  | stopped stopping => cases ok
  | unbound refusal => cases ok
  | declare payload _ valid declares carried ended =>
      rw [kind] at declares
      cases declares
  | existing queue _ valid other found ended =>
      refine ⟨?_, queue_of_valid valid other⟩
      cases ended with
      | answered memo recorded =>
          obtain ⟨_, _, _, _, again⟩ := answerFromMemo_unmoved fabric.monotonicNow.2 request.queue
            queue request fabric.monotonicNow.1 memo
          exact absurd ⟨outcome, ok, first⟩ again
      | refused tracker refusal unseen gate real => cases ok
      | undurable tracker applied refusal after admitted durable failed real => cases ok
      | published tracker applied after admitted committed =>
          cases ok
          exact (applyKindLocked_cases admitted.kind).identical.1.id.trans (keyed _ queue found)

end Fabric

/-! The invariant of a cycle. -/

namespace Connection

/-- The same connection, possibly with more queues listed. -/
structure Follows (before after : Connection) : Prop where
  id : after.id = before.id
  closing : after.closing = before.closing
  connected : after.transport.connected = before.transport.connected
  queues : ∃ added, after.queues = before.queues ++ added

theorem Alike.follows {before after : Connection} (alike : Alike before after) :
    Follows before after :=
  ⟨alike.id, alike.closing, alike.connected, [], by rw [alike.queues, List.append_nil]⟩

theorem follows_subscribe (connection : Connection) (queue : QueueId) :
    Follows connection (connection.subscribe queue) := by
  refine ⟨?_, ?_, ?_, subscribe_queues connection queue⟩
  all_goals rw [subscribe_eq]

/-- A queue whose evidence is withdrawn with the connection, unless the list is full. -/
def Lists (connection : Connection) (id : QueueId) : Prop :=
  id ∈ connection.queues ∨ Limits.maxSubscribeQueues ≤ connection.queues.length

theorem Follows.lists {before after : Connection} (follows : Follows before after) {id : QueueId}
    (lists : before.Lists id) : after.Lists id := by
  obtain ⟨added, same⟩ := follows.queues
  rw [Lists, same]
  rcases lists with listed | full
  · exact .inl (List.mem_append_left added listed)
  · refine .inr ?_
    rw [List.length_append]
    omega

end Connection

namespace Coordinator

/-- What holds at every point of a cycle; `connections` are all connections, in any order. -/
structure Guarded (coordinator : Coordinator J) (connections : List Connection) : Prop where
  keyed : Keyed coordinator.fabric
  bounded : AllBounded coordinator.fabric.queues
  unique : (connections.map Connection.id).Nodup
  below : ∀ connection ∈ connections, connection.id < coordinator.nextConnectionId
  published : ∀ id connection, lastAccepted id coordinator.log = some connection →
    connection < coordinator.nextConnectionId
  lost : ∀ connection, EverLost connection coordinator.log →
    connection < coordinator.nextConnectionId
  paired : ∀ connection ∈ connections, connection.Paired
  closed : ∀ connection ∈ connections, EverLost connection.id coordinator.log →
    connection.closing = true
  listed : ∀ connection ∈ connections, ∀ id,
    lastAccepted id coordinator.log = some connection.id → connection.Lists id
  doubted : ∀ id queue connection, coordinator.fabric.findQueue id = some queue →
    lastAccepted id coordinator.log = some connection →
    LostInCycle connection coordinator.log → Doubted coordinator.fabric.config queue
  silent : Silent coordinator.log

namespace Guarded

variable {before after : Coordinator J} {connections others : List Connection}

theorem state (guarded : Guarded before connections)
    (queues : after.fabric.queues = before.fabric.queues)
    (config : after.fabric.config = before.fabric.config)
    (next : after.nextConnectionId = before.nextConnectionId) (log : after.log = before.log) :
    Guarded after connections where
  keyed id queue found := guarded.keyed id queue (by rwa [findQueue, queues] at found)
  bounded := queues ▸ guarded.bounded
  unique := guarded.unique
  below := next ▸ guarded.below
  published := by rw [next, log]; exact guarded.published
  lost := by rw [next, log]; exact guarded.lost
  paired := guarded.paired
  closed := log ▸ guarded.closed
  listed := log ▸ guarded.listed
  doubted id queue connection found := by
    rw [findQueue, queues] at found
    rw [log, config]
    exact guarded.doubted id queue connection found
  silent := log ▸ guarded.silent

theorem replace {connection connection' : Connection}
    (guarded : Guarded before (connection :: others))
    (follows : connection.Follows connection') : Guarded before (connection' :: others) where
  keyed := guarded.keyed
  bounded := guarded.bounded
  unique := by simpa only [List.map_cons, follows.id] using guarded.unique
  published := guarded.published
  lost := guarded.lost
  below other listed := by
    rcases List.mem_cons.mp listed with rfl | later
    · rw [follows.id]
      exact guarded.below connection List.mem_cons_self
    · exact guarded.below other (List.mem_cons_of_mem _ later)
  paired other listed := by
    rcases List.mem_cons.mp listed with rfl | later
    · rw [Connection.Paired, follows.closing, follows.connected]
      exact guarded.paired connection List.mem_cons_self
    · exact guarded.paired other (List.mem_cons_of_mem _ later)
  closed other listed ever := by
    rcases List.mem_cons.mp listed with rfl | later
    · rw [follows.id] at ever
      rw [follows.closing]
      exact guarded.closed connection List.mem_cons_self ever
    · exact guarded.closed other (List.mem_cons_of_mem _ later) ever
  listed other listed id accepted := by
    rcases List.mem_cons.mp listed with rfl | later
    · rw [follows.id] at accepted
      exact follows.lists (guarded.listed connection List.mem_cons_self id accepted)
    · exact guarded.listed other (List.mem_cons_of_mem _ later) id accepted
  doubted := guarded.doubted
  silent := guarded.silent

theorem among {connections' : List Connection} (guarded : Guarded before connections)
    (subset : connections' ⊆ connections) (unique : (connections'.map Connection.id).Nodup) :
    Guarded before connections' where
  keyed := guarded.keyed
  bounded := guarded.bounded
  unique := unique
  below connection listed := guarded.below connection (subset listed)
  published := guarded.published
  lost := guarded.lost
  paired connection listed := guarded.paired connection (subset listed)
  closed connection listed := guarded.closed connection (subset listed)
  listed connection listed := guarded.listed connection (subset listed)
  doubted := guarded.doubted
  silent := guarded.silent

theorem perm {connections' : List Connection} (guarded : Guarded before connections)
    (perm : connections.Perm connections') : Guarded before connections' :=
  guarded.among perm.symm.subset ((perm.map Connection.id).nodup_iff.mp guarded.unique)

end Guarded

end Coordinator

namespace Service

/-- The invariant while one connection is served. -/
def Watched (service : Service J) : Prop := service.coordinator.Guarded service.sessions

theorem Books.watched {before after : Service J} (books : Books before after)
    (watched : before.Watched) : after.Watched := by
  obtain ⟨clock, fabric⟩ := books.fabric
  have replaced := (Coordinator.Guarded.replace watched books.connection.follows).state
    (by rw [fabric]) (by rw [fabric]) books.nextConnectionId books.log
  rw [Watched, sessions, books.connections]
  exact replaced

variable [IJournal J]

theorem Watched.seen {service : Service J} (watched : service.Watched) (request : MutationRequest) :
    Keyed (service.seen request).coordinator.fabric ∧
      AllBounded (service.seen request).coordinator.fabric.queues ∧
      ∀ id queue connection, (service.seen request).coordinator.fabric.findQueue id = some queue →
        lastAccepted id service.coordinator.log = some connection →
        LostInCycle connection service.coordinator.log →
        (∀ before, Executed (service.coordinator.fabric.apply request).result →
          request.queue = id → service.coordinator.fabric.findQueue id = some before →
          request.kind ≠ .ingestOccupancy ∧ (Alters before request →
            service.coordinator.fabric.config.occupancy.requireGenerationMatch = true)) →
        Doubted service.coordinator.fabric.config queue := by
  refine ⟨fun id queue found => ?_, apply_bounded _ request watched.bounded,
    fun id queue connection found accepted lost checked => ?_⟩
  · have moves := apply_moves service.coordinator.fabric request id
    change (service.coordinator.fabric.apply request).fabric.findQueue id = _ at found
    rw [found] at moves
    exact moves.keyed (watched.keyed id)
  · have moves := apply_moves service.coordinator.fabric request id
    change (service.coordinator.fabric.apply request).fabric.findQueue id = _ at found
    rw [found] at moves
    exact moves.doubted
      (fun before known => ⟨watched.bounded id before known,
        watched.doubted id before connection known accepted lost⟩)
      (fun before executed named known => checked before executed named known)

/-- The connection an executed request came from follows it, with the queue listed. -/
theorem Watched.lists {service : Service J} (watched : service.Watched)
    {request : MutationRequest} {outcome : MutationOutcome} {connection : Connection}
    (ok : (service.coordinator.fabric.apply request).result = .ok outcome)
    (first : outcome.replayed = false)
    (listed : connection = service.connection.subscribe request.queue ∨
      connection = if outcome.queue.valid then service.connection.subscribe outcome.queue
        else service.connection) :
    service.connection.Follows connection ∧
      (request.kind = .ingestOccupancy → connection.Lists request.queue) := by
  rcases listed with rfl | rfl
  · exact ⟨Connection.follows_subscribe _ _, fun _ => Connection.mem_subscribe⟩
  · split
    · refine ⟨Connection.follows_subscribe _ _, fun kind => ?_⟩
      rw [(ingested_queue watched.keyed ok first kind).1]
      exact Connection.mem_subscribe
    · rename_i unnamed
      refine ⟨(Connection.Alike.refl _).follows, fun kind => ?_⟩
      obtain ⟨same, valid⟩ := ingested_queue watched.keyed ok first kind
      exact absurd (same ▸ valid) unnamed

theorem Watched.applied {service : Service J} (watched : service.Watched)
    (opened : service.connection.closing = false) {request : MutationRequest}
    {connection : Connection} (follows : service.connection.Follows connection)
    (lists : request.kind = .ingestOccupancy → connection.Lists request.queue)
    (meets : (Activity.applied service.coordinator.fabric service.connection request).Meets
      service.coordinator.log) :
    Watched { (service.seen request).note
      (.applied service.coordinator.fabric service.connection request) with connection } := by
  obtain ⟨keyed, bounded, doubted⟩ := watched.seen request
  have replaced := Coordinator.Guarded.replace watched follows
  have alive : ¬ EverLost service.connection.id service.coordinator.log := fun ever =>
    absurd (opened.symm.trans (watched.closed _ List.mem_cons_self ever)) Bool.false_ne_true
  refine ⟨keyed, bounded, replaced.unique, replaced.below, fun id other accepted => ?_,
    replaced.lost, replaced.paired, replaced.closed, fun other member id accepted => ?_,
    fun id queue other found accepted lost => ?_, replaced.silent⟩
  · simp only [note, Coordinator.note, lastAccepted] at accepted
    split at accepted
    · cases accepted
      exact watched.below _ List.mem_cons_self
    · exact watched.published id other accepted
  · simp only [note, Coordinator.note, lastAccepted] at accepted
    split at accepted
    · rename_i here
      have own : other = connection := by
        have unique := replaced.unique
        rcases List.mem_cons.mp member with same | later
        · exact same
        · rw [Option.some.injEq, ← follows.id] at accepted
          rw [List.map_cons, List.nodup_cons, accepted] at unique
          exact absurd (List.mem_map_of_mem later) unique.1
      rw [own, ← here.2]
      exact lists here.1
    · exact replaced.listed other member id accepted
  · simp only [note, Coordinator.note, lastAccepted] at accepted
    split at accepted
    · cases accepted
      exact absurd (LostInCycle.ever lost) alive
    · rename_i elsewhere
      have config : (service.seen request).coordinator.fabric.config =
        service.coordinator.fabric.config := apply_config _ request
      change Doubted (service.seen request).coordinator.fabric.config queue
      rw [config]
      refine doubted id queue other found accepted lost fun before executed named known => ?_
      refine ⟨fun kind => elsewhere ⟨kind, named⟩, fun redefines => ?_⟩
      subst named
      exact meets before other known redefines accepted lost

theorem Act.watched {before after : Service J} (act : Act before after)
    (opened : before.connection.closing = false) (orderly : Orderly after.coordinator.log)
    (watched : before.Watched) : after.Watched := by
  cases act with
  | books books => exact books.watched watched
  | subscribed queue => exact watched.replace (Connection.follows_subscribe _ _)
  | answered request idle =>
      obtain ⟨keyed, bounded, doubted⟩ := watched.seen request
      refine { watched with
        keyed := keyed, bounded := bounded
        doubted := fun id queue connection found accepted lost => ?_ }
      have config : (before.seen request).coordinator.fabric.config =
        before.coordinator.fabric.config := apply_config _ request
      rw [config]
      exact doubted id queue connection found accepted lost
        fun _ executed => absurd executed idle
  | applied request outcome connection ok first listed =>
      obtain ⟨follows, lists⟩ := watched.lists ok first listed
      exact watched.applied opened follows lists orderly.1

theorem Act.closing {before after : Service J} (act : Act before after) :
    after.connection.closing = before.connection.closing := by
  cases act with
  | books books => exact books.connection.closing
  | subscribed queue => exact (Connection.follows_subscribe _ _).closing
  | answered request idle => rfl
  | applied request outcome connection ok first listed =>
      rcases listed with rfl | rfl
      · exact (Connection.follows_subscribe _ _).closing
      · split
        · exact (Connection.follows_subscribe _ _).closing
        · rfl

theorem watched_of_acts {before after : Service J} (acts : ReflTransGen Act before after)
    (opened : before.connection.closing = false) (orderly : Orderly after.coordinator.log)
    (watched : before.Watched) : after.Watched ∧ after.connection.closing = false := by
  induction acts with
  | refl => exact ⟨watched, opened⟩
  | tail early last ih =>
      obtain ⟨newer, same, _⟩ := last.serves.log
      obtain ⟨kept, still⟩ := ih (same ▸ orderly).older
      exact ⟨last.watched still orderly kept, last.closing.trans still⟩

/-! The loss of a connection. -/

omit [IJournal J] in
theorem doubted_invalidateQueue (config : FabricConfig) (queue : QueueRecord) :
    Doubted config (invalidateQueue queue) := by
  by_cases present : queue.occupancy.present = true
  · refine .inr (.inl ?_)
    have marked : (invalidateQueue queue).occupancy.freshness = .staleBackend := by
      simp [invalidateQueue, invalidateOccupancy, present]
    rw [marked]
    rfl
  · refine .inl ?_
    simp [invalidateQueue, present]

omit [IJournal J] in
/-- An invalidation marks the queue it names or leaves the queues alone. -/
theorem invalidateEvidence_marks (fabric : Fabric J) (id : QueueId) (principal : OwnerId)
    (epoch : Epoch) (reason : Text) :
    (fabric.invalidateEvidence id principal epoch reason).fabric.config = fabric.config ∧
      (fabric.invalidateEvidence id principal epoch reason).fabric.epoch = fabric.epoch ∧
      ((fabric.invalidateEvidence id principal epoch reason).fabric.queues = fabric.queues ∨
        ∃ queue, fabric.findQueue id = some queue ∧
          (fabric.invalidateEvidence id principal epoch reason).fabric.queues =
            fabric.queues.insert id (invalidateQueue queue)) := by
  rw [invalidateEvidence]
  split
  · exact ⟨rfl, rfl, .inl rfl⟩
  rename_i queue found
  split
  · exact ⟨rfl, rfl, .inl rfl⟩
  split
  · exact ⟨rfl, rfl, .inl rfl⟩
  · exact ⟨rfl, rfl, .inr ⟨queue, found, rfl⟩⟩

omit [IJournal J] in
theorem invalidateEvidence_authorized {fabric : Fabric J} {id : QueueId} {principal : OwnerId}
    {reason : Text} {queue : QueueRecord} {resource : ResourceRecord}
    (found : fabric.findQueue id = some queue)
    (housed : fabric.findResource queue.definition.resource = some resource)
    (allowed : authorize resource.authority principal .admin fabric.epoch queue.applicability
      queue.lifecycle = none) :
    (fabric.invalidateEvidence id principal fabric.epoch reason).fabric.findQueue id =
      some (invalidateQueue queue) := by
  rw [invalidateEvidence]
  simp only [found, housed, allowed]
  exact Table.get?_insert_self _ _ _

omit [IJournal J] in
/-- What withdrawing evidence keeps. -/
structure Withdraws (before after : Service J) : Prop where
  config : after.coordinator.fabric.config = before.coordinator.fabric.config
  epoch : after.coordinator.fabric.epoch = before.coordinator.fabric.epoch
  keyed : Keyed before.coordinator.fabric → Keyed after.coordinator.fabric
  bounded : AllBounded before.coordinator.fabric.queues → AllBounded after.coordinator.fabric.queues
  kept : ∀ id queue, after.coordinator.fabric.findQueue id = some queue →
    ∃ old, before.coordinator.fabric.findQueue id = some old ∧
      (Doubted before.coordinator.fabric.config old →
        Doubted before.coordinator.fabric.config queue)
  accepted : ∀ id, lastAccepted id after.coordinator.log = lastAccepted id before.coordinator.log
  lostInCycle : ∀ id, LostInCycle id after.coordinator.log ↔ LostInCycle id before.coordinator.log
  everLost : ∀ id, EverLost id after.coordinator.log ↔ EverLost id before.coordinator.log
  silent : Silent after.coordinator.log ↔ Silent before.coordinator.log

omit [IJournal J] in
theorem Withdraws.refl (service : Service J) : Withdraws service service :=
  ⟨rfl, rfl, id, id, fun _ queue found => ⟨queue, found, id⟩, fun _ => rfl, fun _ => .rfl,
    fun _ => .rfl, .rfl⟩

omit [IJournal J] in
theorem Withdraws.trans {first second third : Service J} (one : Withdraws first second)
    (two : Withdraws second third) : Withdraws first third where
  config := two.config.trans one.config
  epoch := two.epoch.trans one.epoch
  keyed := two.keyed ∘ one.keyed
  bounded := two.bounded ∘ one.bounded
  kept id queue found := by
    obtain ⟨middle, known, later⟩ := two.kept id queue found
    obtain ⟨old, known', earlier⟩ := one.kept id middle known
    rw [one.config] at later
    exact ⟨old, known', later ∘ earlier⟩
  accepted id := (two.accepted id).trans (one.accepted id)
  lostInCycle id := (two.lostInCycle id).trans (one.lostInCycle id)
  everLost id := (two.everLost id).trans (one.everLost id)
  silent := two.silent.trans one.silent

omit [IJournal J] in
theorem invalidate_spec (service : Service J) (current : Epoch) (reason : Text) (queue : QueueId) :
    (service.invalidate current reason queue).coordinator.log =
        .invalidating service.coordinator.fabric service.connection queue
          (service.coordinator.principalFor queue).1 :: service.coordinator.log ∧
      (service.invalidate current reason queue).coordinator.fabric =
        if (service.coordinator.principalFor queue).1.valid then
          (service.coordinator.fabric.invalidateEvidence queue
            (service.coordinator.principalFor queue).1 current reason).fabric
        else service.coordinator.fabric := by
  obtain ⟨fabric, log⟩ := principalFor_kept service.coordinator queue
  simp only [invalidate]
  split
  · rename_i absent
    simp only [note, Coordinator.note, fabric, log, Bool.not_eq_true'] at absent ⊢
    simp [absent]
  · rename_i valid
    simp only [Bool.not_eq_true', Bool.not_eq_false] at valid
    simp only [note, Coordinator.note, fabric, valid, ↓reduceIte]
    split
    · exact ⟨congrArg _ log, rfl⟩
    · exact ⟨congrArg _ log, rfl⟩

omit [IJournal J] in
theorem invalidate_withdraws (service : Service J) (current : Epoch) (reason : Text)
    (queue : QueueId) : Withdraws service (service.invalidate current reason queue) := by
  obtain ⟨log, fabric⟩ := invalidate_spec service current reason queue
  obtain ⟨config, epoch, queues⟩ := invalidateEvidence_marks service.coordinator.fabric queue
    (service.coordinator.principalFor queue).1 current reason
  have marks : (service.invalidate current reason queue).coordinator.fabric.config =
        service.coordinator.fabric.config ∧
      (service.invalidate current reason queue).coordinator.fabric.epoch =
        service.coordinator.fabric.epoch ∧
      ((service.invalidate current reason queue).coordinator.fabric.queues =
          service.coordinator.fabric.queues ∨
        ∃ old, service.coordinator.fabric.findQueue queue = some old ∧
          (service.invalidate current reason queue).coordinator.fabric.queues =
            service.coordinator.fabric.queues.insert queue (invalidateQueue old)) := by
    rw [fabric]
    split
    · exact ⟨config, epoch, queues⟩
    · exact ⟨rfl, rfl, .inl rfl⟩
  generalize service.invalidate current reason queue = after at log marks ⊢
  obtain ⟨config, epoch, queues⟩ := marks
  have found : ∀ id updated, after.coordinator.fabric.findQueue id = some updated →
      ∃ old, service.coordinator.fabric.findQueue id = some old ∧
        (updated = old ∨ updated = invalidateQueue old) := by
    intro id updated found
    rcases queues with same | ⟨old, known, same⟩
    · exact ⟨updated, by rwa [findQueue, same] at found, .inl rfl⟩
    · rw [findQueue, same, Table.get?_insert] at found
      split at found
      · rename_i here
        rw [Option.some.injEq] at found
        exact ⟨old, here ▸ known, .inr found.symm⟩
      · exact ⟨updated, found, .inl rfl⟩
  refine ⟨config, epoch, fun keyed id updated known => ?_, fun bounded id updated known => ?_,
    fun id updated known => ?_, fun id => ?_, fun id => ?_, fun id => ?_, ?_⟩
  · obtain ⟨old, held, rfl | rfl⟩ := found id updated known
    · exact keyed id updated held
    · exact keyed id old held
  · obtain ⟨old, held, rfl | rfl⟩ := found id updated known
    · exact bounded id updated held
    · exact (invalidateQueue_withdrawn old).1.bounded (bounded id old held)
  · obtain ⟨old, held, rfl | rfl⟩ := found id updated known
    · exact ⟨updated, held, fun doubted => doubted⟩
    · exact ⟨old, held, fun _ => doubted_invalidateQueue _ old⟩
  all_goals rw [log]; rfl

omit [IJournal J] in
theorem invalidate_doubts {service : Service J} {queue : QueueId} {reason : Text}
    {updated : QueueRecord}
    (meets : (Activity.invalidating service.coordinator.fabric service.connection queue
      (service.coordinator.principalFor queue).1).Meets service.coordinator.log)
    (accepted : lastAccepted queue service.coordinator.log = some service.connection.id)
    (found : (service.invalidate service.coordinator.fabric.epoch reason
      queue).coordinator.fabric.findQueue queue = some updated) :
    Doubted service.coordinator.fabric.config updated := by
  obtain ⟨old, known, keeps⟩ := (invalidate_withdraws service _ reason queue).kept queue updated found
  rcases meets old known accepted with doubted | ⟨valid, resource, housed, allowed⟩
  · exact keeps doubted
  · rw [(invalidate_spec service _ reason queue).2, if_pos valid,
      invalidateEvidence_authorized known housed allowed, Option.some.injEq] at found
    rw [← found]
    exact doubted_invalidateQueue _ old

omit [IJournal J] in
theorem withdraw_withdraws (current : Epoch) (reason : Text) (queues : List QueueId)
    (service : Service J) : Withdraws service
      (queues.foldl (fun service queue => service.invalidate current reason queue) service) := by
  induction queues generalizing service with
  | nil => exact .refl service
  | cons queue rest ih => exact (invalidate_withdraws service current reason queue).trans (ih _)

omit [IJournal J] in
theorem Serves.suffix {before after : Service J} (serves : Serves before after) :
    before.coordinator.log <:+ after.coordinator.log := by
  obtain ⟨newer, same, _⟩ := serves.log
  exact ⟨newer, same.symm⟩

omit [IJournal J] in
/-- Every listed queue that the connection published is doubted afterwards. -/
theorem withdraw_doubts (current : Epoch) (reason : Text) (queues : List QueueId)
    (service : Service J) (here : service.coordinator.fabric.epoch = current)
    (orderly : Orderly (queues.foldl (fun service queue => service.invalidate current reason queue)
      service).coordinator.log) :
    ∀ id ∈ queues, lastAccepted id service.coordinator.log = some service.connection.id →
      ∀ updated, (queues.foldl (fun service queue => service.invalidate current reason queue)
        service).coordinator.fabric.findQueue id = some updated →
      Doubted service.coordinator.fabric.config updated := by
  induction queues generalizing service with
  | nil =>
      intro id listed
      cases listed
  | cons queue rest ih =>
      intro id listed accepted updated found
      have first := invalidate_withdraws service current reason queue
      rcases List.mem_cons.mp listed with rfl | later
      · obtain ⟨middle, known, keeps⟩ :=
          (withdraw_withdraws current reason rest _).kept id updated found
        have earlier := orderly.of_suffix (serves_withdraw current reason rest _).suffix
        rw [(invalidate_spec service current reason id).1] at earlier
        subst here
        rw [first.config] at keeps
        exact keeps (invalidate_doubts earlier.1 accepted known)
      · rw [← first.config]
        refine ih _ (first.epoch.trans here) orderly id later ?_ updated found
        rw [first.accepted, invalidate_connection]
        exact accepted

omit [IJournal J] in
theorem lost_meets {service : Service J} (opened : service.connection.closing = false)
    {reason : String} {room : Nat}
    (orderly : Orderly (service.handleDisconnect reason room).coordinator.log) :
    (Activity.lost service.coordinator.fabric service.connection room).Meets
      service.coordinator.log := by
  rw [handleDisconnect_eq opened] at orderly
  exact (orderly.of_suffix (serves_withdraw _ _ service.connection.queues _).suffix).1

omit [IJournal J] in
theorem Watched.disconnected {service : Service J} (watched : service.Watched) (reason : String)
    (room : Nat) (orderly : Orderly (service.handleDisconnect reason room).coordinator.log) :
    (service.handleDisconnect reason room).Watched := by
  cases opened : service.connection.closing with
  | true =>
      rw [handleDisconnect, opened]
      exact watched
  | false =>
      have lists := (lost_meets opened orderly).2
      rw [handleDisconnect_eq opened] at orderly ⊢
      have serves := serves_withdraw service.coordinator.fabric.epoch (text reason)
        service.connection.queues (service.losing room)
      have withdraws := withdraw_withdraws service.coordinator.fabric.epoch (text reason)
        service.connection.queues (service.losing room)
      have distrusts := withdraw_doubts service.coordinator.fabric.epoch (text reason)
        service.connection.queues (service.losing room) rfl orderly
      change Withdraws _ (service.withdrawn reason room) at withdraws
      change Serves _ (service.withdrawn reason room) at serves
      change ∀ id ∈ _, _ → ∀ updated,
        (service.withdrawn reason room).coordinator.fabric.findQueue id = _ → _ at distrusts
      generalize service.withdrawn reason room = after at serves withdraws distrusts
      have next : after.coordinator.nextConnectionId = service.coordinator.nextConnectionId :=
        serves.nextConnectionId
      have ever (id : Nat) : EverLost id after.coordinator.log ↔
          service.connection.id = id ∨ EverLost id service.coordinator.log := withdraws.everLost id
      have members {holds : Connection → Prop}
          (own : holds { service.connection with
            closing := true, transport := service.connection.transport.close })
          (others : ∀ other ∈ service.coordinator.connections, holds other) :
          ∀ other ∈ (({ service.connection with
            closing := true, transport := service.connection.transport.close } : Connection) ::
              service.coordinator.connections), holds other := by
        intro other listed
        rcases List.mem_cons.mp listed with rfl | later
        · exact own
        · exact others other later
      rw [Watched, sessions, serves.connections]
      refine ⟨withdraws.keyed watched.keyed, withdraws.bounded watched.bounded, watched.unique,
        members ?_ fun other later => ?_, fun id publisher accepted => ?_,
        fun publisher lost => ?_, members rfl fun other later => ?_,
        members (fun _ => rfl) fun other later lost => ?_,
        members (fun id accepted => ?_) fun other later id accepted => ?_,
        fun id queue publisher found accepted lost => ?_, withdraws.silent.mpr watched.silent⟩
      · rw [next]
        exact watched.below service.connection List.mem_cons_self
      · rw [next]
        exact watched.below other (List.mem_cons_of_mem _ later)
      · rw [next]
        exact watched.published id publisher ((withdraws.accepted id).symm.trans accepted)
      · rw [next]
        rcases (ever publisher).mp lost with rfl | earlier
        · exact watched.below service.connection List.mem_cons_self
        · exact watched.lost publisher earlier
      · exact watched.paired other (List.mem_cons_of_mem _ later)
      · rcases (ever other.id).mp lost with same | earlier
        · have unique := watched.unique
          rw [sessions, List.map_cons, List.nodup_cons, same] at unique
          exact absurd (List.mem_map_of_mem later) unique.1
        · exact watched.closed other (List.mem_cons_of_mem _ later) earlier
      · exact watched.listed service.connection List.mem_cons_self id
          ((withdraws.accepted id).symm.trans accepted)
      · exact watched.listed other (List.mem_cons_of_mem _ later) id
          ((withdraws.accepted id).symm.trans accepted)
      · have before : lastAccepted id service.coordinator.log = some publisher :=
          (withdraws.accepted id).symm.trans accepted
        have config : after.coordinator.fabric.config = service.coordinator.fabric.config :=
          withdraws.config
        obtain ⟨old, known, keeps⟩ := withdraws.kept id queue found
        change Doubted after.coordinator.fabric.config queue
        rw [config]
        rcases (withdraws.lostInCycle publisher).mp lost with rfl | earlier
        · rcases lists id old known before with doubted | listed | few
          · exact keeps doubted
          · exact distrusts id listed before queue found
          · rcases watched.listed service.connection List.mem_cons_self id before with listed | full
            · exact distrusts id listed before queue found
            · omega
        · exact keeps (watched.doubted id old publisher known before earlier)

/-! The frames of one cycle. -/

omit [IJournal J] in
theorem Watched.took {service : Service J} (watched : service.Watched)
    (opened : service.connection.closing = false) (decoder : FrameDecoder) :
    Watched ({ service with connection := { service.connection with decoder } }.note
      (.took service.connection)) := by
  have alive : ¬ EverLost service.connection.id service.coordinator.log := fun ever =>
    absurd (opened.symm.trans (watched.closed _ List.mem_cons_self ever)) Bool.false_ne_true
  have replaced := Coordinator.Guarded.replace watched
    (show service.connection.Follows { service.connection with decoder } from
      ⟨rfl, rfl, rfl, [], (List.append_nil _).symm⟩)
  exact ⟨replaced.keyed, replaced.bounded, replaced.unique, replaced.below, replaced.published,
    replaced.lost, replaced.paired, replaced.closed, replaced.listed, replaced.doubted,
    alive, replaced.silent⟩

theorem decodeFrames_suffix (room : Nat) (service : Service J) :
    service.coordinator.log <:+ (decodeFrames room service).2.coordinator.log := by
  induction room generalizing service with
  | zero => exact List.suffix_rfl
  | succ room ih =>
      simp only [decodeFrames]
      split
      · refine List.IsSuffix.trans ?_ (ih _)
        refine List.IsSuffix.trans ?_ (serves_handleFrame _ _ room).suffix
        exact List.suffix_cons (Activity.took service.connection) service.coordinator.log
      split
      · exact List.suffix_rfl
      · have counted := ((books_rejectFrame ({ service with
          connection := { service.connection with
            decoder := service.connection.decoder.next.2 } } : Service J)).trans
          (books_countStats _ countFrameRejected)).serves
        exact (counted.trans (serves_handleDisconnect _ "frame-decoder-failed" 0)).suffix

/-- A lost connection is left with a decode loop that takes nothing more. -/
theorem handleFrame_watched {service : Service J} (watched : service.Watched)
    (opened : service.connection.closing = false) {frame : Frame} {room : Nat}
    (orderly : Orderly (service.handleFrame frame room).coordinator.log) :
    (service.handleFrame frame room).Watched ∧
      ((service.handleFrame frame room).connection.closing = false ∨ room = 0 ∨
        (service.handleFrame frame room).connection.decoder.holdsFrame = false) := by
  have ended := handleFrame_cases service frame room
  generalize service.handleFrame frame room = after at ended orderly
  cases ended with
  | handled acts =>
      obtain ⟨kept, still⟩ := watched_of_acts acts opened orderly watched
      exact ⟨kept, .inl still⟩
  | @dropped middle acts reason =>
      have serves := serves_handleDisconnect middle reason room
      obtain ⟨kept, still⟩ := watched_of_acts acts opened (orderly.of_suffix serves.suffix) watched
      refine ⟨kept.disconnected reason room orderly, .inr ?_⟩
      rw [serves.decoder]
      exact (lost_meets still orderly).1

theorem decodeFrames_watched (room : Nat) (service : Service J) (watched : service.Watched)
    (attentive : service.connection.closing = false ∨ room = 0 ∨
      service.connection.decoder.holdsFrame = false)
    (orderly : Orderly (decodeFrames room service).2.coordinator.log) :
    (decodeFrames room service).2.Watched := by
  induction room generalizing service with
  | zero => exact watched
  | succ room ih =>
      simp only [decodeFrames] at orderly ⊢
      cases outcome : service.connection.decoder.next.1 with
      | ok frame =>
          simp only [outcome] at orderly ⊢
          have opened : service.connection.closing = false := by
            rcases attentive with opened | none | empty
            · exact opened
            · omega
            · simp [FrameDecoder.holdsFrame, outcome] at empty
          have taken := watched.took opened service.connection.decoder.next.2
          obtain ⟨kept, attentive⟩ := handleFrame_watched taken opened
            (orderly.of_suffix (decodeFrames_suffix room _))
          exact ih _ kept attentive orderly
      | error status =>
          simp only [outcome] at orderly ⊢
          have advanced : Watched { service with connection := { service.connection with
              decoder := service.connection.decoder.next.2 } } :=
            Coordinator.Guarded.replace watched ⟨rfl, rfl, rfl, [], (List.append_nil _).symm⟩
          split
          · exact advanced
          · rename_i failed
            rw [if_neg failed] at orderly
            have counted := ((books_rejectFrame _).trans
              (books_countStats _ countFrameRejected)).watched advanced
            exact counted.disconnected _ _ orderly

omit [IJournal J] in
theorem connected_of_receive {transport : TcpTransport} {capacity : Nat} {chunk : Bytes}
    (ok : (transport.receive capacity).1 = .ok chunk) : transport.connected = true := by
  by_contra shut
  rw [Bool.not_eq_true] at shut
  simp [TcpTransport.receive, shut] at ok

theorem receiveChunks_suffix (fuel room : Nat) (service : Service J) :
    service.coordinator.log <:+ (receiveChunks fuel room service).2.coordinator.log := by
  induction fuel generalizing room service with
  | zero => exact List.suffix_rfl
  | succ fuel ih =>
      have lose (service' : Service J) (reason : String)
          (same : service'.coordinator.log = service.coordinator.log) :
          service.coordinator.log <:+ (service'.handleDisconnect reason 0).coordinator.log :=
        same ▸ (serves_handleDisconnect service' reason 0).suffix
      simp only [receiveChunks]
      split
      · exact List.suffix_rfl
      split
      · exact List.suffix_rfl
      split
      · exact lose _ _ rfl
      split
      · exact lose _ _ rfl
      split
      · exact lose _ _ rfl
      · have decoded := decodeFrames_suffix room (service.fed
          (service.connection.transport.readable.2.receive
            service.coordinator.config.receiveBufferBytes).2
          (service.connection.decoder.push ‹Bytes›).2)
        exact decoded.trans (ih _ _)

theorem receiveChunks_watched (fuel room : Nat) (service : Service J) (watched : service.Watched)
    (orderly : Orderly (receiveChunks fuel room service).2.coordinator.log) :
    (receiveChunks fuel room service).2.Watched := by
  induction fuel generalizing room service with
  | zero => exact watched
  | succ fuel ih =>
      simp only [receiveChunks] at orderly ⊢
      have fed {transport : TcpTransport} {decoder : FrameDecoder}
          (same : transport.connected = service.connection.transport.connected) :
          (service.fed transport decoder).Watched :=
        Coordinator.Guarded.replace watched ⟨rfl, rfl, same, [], (List.append_nil _).symm⟩
      by_cases spent : room = 0
      · simp only [if_pos spent]
        exact watched
      simp only [if_neg spent] at orderly ⊢
      have waited := readable_connected service.connection.transport
      cases ready : service.connection.transport.readable.1 with
      | false => exact fed waited
      | true =>
          simp only [ready, Bool.not_true, Bool.false_eq_true, ↓reduceIte] at orderly ⊢
          generalize service.connection.transport.readable.2 = transport at waited orderly ⊢
          generalize service.coordinator.config.receiveBufferBytes = capacity at orderly ⊢
          have kept := (transport.receive_connected capacity).trans waited
          cases outcome : (transport.receive capacity).1 with
          | error status =>
              simp only [outcome] at orderly ⊢
              exact (fed kept).disconnected _ _ orderly
          | ok chunk =>
              simp only [outcome] at orderly ⊢
              cases empty : chunk.isEmpty with
              | true =>
                  simp only [empty, ↓reduceIte] at orderly ⊢
                  exact (fed kept).disconnected _ _ orderly
              | false =>
                  simp only [empty, Bool.false_eq_true, ↓reduceIte] at orderly ⊢
                  generalize service.connection.decoder.push chunk = pushed at orderly ⊢
                  cases failed : pushed.1.isOk with
                  | false =>
                      simp only [failed, Bool.not_false, ↓reduceIte] at orderly ⊢
                      have counted := ((books_rejectFrame
                        (service.fed (transport.receive capacity).2 pushed.2)).trans
                        (books_countStats _ countFrameRejected)).watched (fed kept)
                      exact counted.disconnected _ _ orderly
                  | true =>
                      simp only [failed, Bool.not_true, Bool.false_eq_true, ↓reduceIte] at orderly ⊢
                      have opened : service.connection.closing = false := by
                        have paired := watched.paired service.connection List.mem_cons_self
                        rw [Connection.Paired, ← waited, connected_of_receive outcome] at paired
                        exact paired
                      refine ih _ _ ?_ orderly
                      exact decodeFrames_watched room _ (fed kept) (.inl opened)
                        (orderly.of_suffix (receiveChunks_suffix fuel _ _))

theorem serve_suffix (service : Service J) :
    service.coordinator.log <:+ service.serve.coordinator.log := by
  rw [serve]
  split
  · exact List.suffix_rfl
  · exact receiveChunks_suffix _ _ service

theorem serve_watched {service : Service J} (watched : service.Watched)
    (orderly : Orderly service.serve.coordinator.log) : service.serve.Watched := by
  rw [serve] at orderly ⊢
  split
  · exact watched
  · rename_i opened
    rw [if_neg opened] at orderly
    exact receiveChunks_watched _ _ service watched orderly

theorem serve_connections {service : Service J} (paired : service.connection.Paired) :
    service.serve.coordinator.connections = service.coordinator.connections := by
  rw [serve]
  split
  · rfl
  · exact (receiveChunks_received _ _ service (Nat.lt_succ_self _) paired).connections

omit [IJournal J] in
theorem expire_watched (now : Nanos) {service : Service J} (watched : service.Watched)
    (orderly : Orderly (service.expire now).coordinator.log) : (service.expire now).Watched := by
  simp only [expire] at orderly ⊢
  split
  · exact watched
  rename_i live
  rw [if_neg live] at orderly
  split
  · rename_i late
    rw [if_pos late] at orderly
    exact ((books_countStats service _).watched watched).disconnected _ _ orderly
  · exact watched

end Service

/-! Cycles. -/

namespace Coordinator

theorem Guarded.began {coordinator : Coordinator J} {connections : List Connection}
    (guarded : Guarded coordinator connections) :
    Guarded (coordinator.note .began) connections :=
  ⟨guarded.keyed, guarded.bounded, guarded.unique, guarded.below, guarded.published, guarded.lost,
    guarded.paired, guarded.closed, guarded.listed, fun _ _ _ _ _ lost => lost.elim,
    guarded.silent⟩

theorem Guarded.accept {coordinator : Coordinator J}
    (guarded : Guarded coordinator coordinator.connections) (incoming : Option TcpTransport) :
    Guarded (coordinator.accept incoming) (coordinator.accept incoming).connections := by
  unfold Coordinator.accept
  split
  · cases incoming with
    | none => exact guarded
    | some transport =>
        have fresh : ∀ id, coordinator.nextConnectionId = id →
            ¬ EverLost id coordinator.log ∧
              ∀ queue, lastAccepted queue coordinator.log ≠ some id := by
          rintro id rfl
          exact ⟨fun ever => Nat.lt_irrefl _ (guarded.lost _ ever),
            fun queue accepted => Nat.lt_irrefl _ (guarded.published queue _ accepted)⟩
        have append {holds : Connection → Prop}
            (earlier : ∀ other ∈ coordinator.connections, holds other) {connection : Connection}
            (last : holds connection) :
            ∀ other ∈ coordinator.connections ++ [connection], holds other := by
          intro other listed
          rcases List.mem_append.mp listed with old | new
          · exact earlier other old
          · exact List.mem_singleton.mp new ▸ last
        refine ⟨guarded.keyed, guarded.bounded, ?_, append (fun other old => ?_) ?_,
          fun id publisher accepted => ?_, fun publisher lost => ?_,
          append guarded.paired Bool.not_true.symm,
          append guarded.closed fun ever => absurd ever (fresh _ rfl).1,
          append guarded.listed fun id accepted => absurd accepted ((fresh _ rfl).2 id),
          guarded.doubted, guarded.silent⟩
        · rw [List.map_append, List.nodup_append]
          refine ⟨guarded.unique, by simp, fun id old other new => ?_⟩
          obtain ⟨connection, listed, rfl⟩ := List.mem_map.mp old
          rw [List.map_singleton, List.mem_singleton] at new
          rw [new]
          exact Nat.ne_of_lt (guarded.below connection listed)
        · exact Nat.lt_succ_of_lt (guarded.below other old)
        · exact Nat.lt_succ_self _
        · exact Nat.lt_succ_of_lt (guarded.published id publisher accepted)
        · exact Nat.lt_succ_of_lt (guarded.lost publisher lost)
  · exact guarded

theorem accept_log (coordinator : Coordinator J) (incoming : Option TcpTransport) :
    (coordinator.accept incoming).log = coordinator.log := by
  unfold Coordinator.accept
  split
  · cases incoming <;> rfl
  · rfl

variable [IJournal J]

/-- The invariant holds between cycles, if every activity met its condition so far. -/
def Tended (coordinator : Coordinator J) : Prop :=
  Orderly coordinator.log → Guarded coordinator coordinator.connections

omit [IJournal J] in
/-- What each service keeps is kept by serving all connections in order. -/
theorem eachConnection_tended {serve : Service J → Service J}
    (suffix : ∀ service, service.coordinator.log <:+ (serve service).coordinator.log)
    (connections : ∀ service, service.Watched →
      (serve service).coordinator.connections = service.coordinator.connections)
    (watched : ∀ service, service.Watched → Orderly (serve service).coordinator.log →
      (serve service).Watched)
    {coordinator : Coordinator J} (tended : coordinator.Tended) :
    (eachConnection serve [] coordinator.connections coordinator).Tended := by
  have kept := @eachConnection_holds J serve
    (fun served rest middle => Orderly middle.log → Guarded middle (served ++ rest)) ?_ []
    coordinator.connections coordinator tended
  · obtain ⟨all, last, ended, same⟩ := kept
    rw [List.append_nil] at ended
    rw [same]
    exact fun orderly => (ended orderly).state rfl rfl rfl rfl
  · intro served connection rest middle ended orderly
    have growing := suffix ⟨{ middle with connections := served ++ rest }, connection⟩
    have before : Service.Watched ⟨{ middle with connections := served ++ rest }, connection⟩ :=
      ((ended (orderly.of_suffix growing)).perm List.perm_middle).state rfl rfl rfl rfl
    have after := watched _ before orderly
    rw [Service.Watched, Service.sessions, connections _ before] at after
    refine after.perm ?_
    rw [List.append_assoc]
    exact List.perm_middle.symm

theorem serveAll_tended {coordinator : Coordinator J} (tended : coordinator.Tended) :
    (eachConnection Service.serve [] coordinator.connections coordinator).Tended := by
  refine eachConnection_tended Service.serve_suffix (fun service watched => ?_)
    (fun service watched orderly => Service.serve_watched watched orderly) tended
  exact Service.serve_connections (watched.paired service.connection List.mem_cons_self)

omit [IJournal J] in
theorem expireAll_tended {coordinator : Coordinator J} (now : Nanos)
    (tended : coordinator.Tended) :
    (eachConnection (Service.expire now) [] coordinator.connections coordinator).Tended :=
  eachConnection_tended (fun service => (Service.expire_serves now service).suffix)
    (fun service _ => (Service.expire_serves now service).connections)
    (fun _ watched orderly => Service.expire_watched now watched orderly) tended

omit [IJournal J] in
theorem Tended.reap {coordinator : Coordinator J} (tended : coordinator.Tended) :
    coordinator.reap.Tended := by
  intro orderly
  have guarded := tended orderly
  have some : (coordinator.connections.filter fun connection =>
    connection.transport.connected).Sublist coordinator.connections := List.filter_sublist
  refine (guarded.among some.subset ?_).state rfl rfl rfl rfl
  exact guarded.unique.sublist (some.map Connection.id)

/-- Every cycle keeps the invariant, as long as every activity meets its condition. -/
theorem runOnce_tended {coordinator : Coordinator J} (tended : coordinator.Tended)
    (incoming : Option TcpTransport) : (coordinator.runOnce incoming).2.Tended := by
  rw [runOnce]
  split
  · exact tended
  · have accepted : ((coordinator.note .began).accept incoming).Tended := by
      intro orderly
      rw [accept_log] at orderly
      exact (tended orderly.2).began.accept incoming
    have served := serveAll_tended accepted
    have read : (eachConnection Service.serve []
        ((coordinator.note .began).accept incoming).connections
        ((coordinator.note .began).accept incoming)).nowNanos.2.Tended :=
      fun orderly => (served orderly).state rfl rfl rfl rfl
    exact (expireAll_tended _ read).reap

end Coordinator

/-! The conditions on a log can be checked. -/

instance decidableLostInCycle (id : Nat) : (log : List (Activity J)) → Decidable (LostInCycle id log)
  | [] => .isFalse fun lost => lost
  | .began :: _ => .isFalse fun lost => lost
  | .lost _ connection _ :: older =>
      have := decidableLostInCycle id older
      inferInstanceAs (Decidable (connection.id = id ∨ LostInCycle id older))
  | .took _ :: older => decidableLostInCycle id older
  | .applied _ _ _ :: older => decidableLostInCycle id older
  | .invalidating _ _ _ _ :: older => decidableLostInCycle id older

instance (config : FabricConfig) (queue : QueueRecord) : Decidable (Doubted config queue) :=
  inferInstanceAs (Decidable (_ ∨ _ ∨ _ ∧ _))

instance (queue : QueueRecord) (request : MutationRequest) : Decidable (Alters queue request) := by
  unfold Alters
  split <;> infer_instance

instance decidableMeets (older : List (Activity J)) :
    (activity : Activity J) → Decidable (activity.Meets older)
  | .began => .isTrue trivial
  | .took _ => .isTrue trivial
  | .applied fabric _ request => decidable_of_iff
      (∀ queue ∈ fabric.findQueue request.queue, Alters queue request →
        ∀ connection ∈ lastAccepted request.queue older, LostInCycle connection older →
          fabric.config.occupancy.requireGenerationMatch = true)
      ⟨fun meets queue connection found redefines accepted lost =>
        meets queue found redefines connection accepted lost,
      fun meets queue found redefines connection accepted lost =>
        meets queue connection found redefines accepted lost⟩
  | .lost fabric connection room => decidable_of_iff
      ((room = 0 ∨ connection.decoder.holdsFrame = false) ∧ ∀ entry ∈ fabric.queues.entries,
        lastAccepted entry.1 older = some connection.id → Doubted fabric.config entry.2 ∨
          entry.1 ∈ connection.queues ∨ connection.queues.length < Limits.maxSubscribeQueues)
      (and_congr_right fun _ =>
        ⟨fun meets id queue found => meets (id, queue) ((Table.mem_entries_iff _ _ _).mpr found),
        fun meets entry listed => meets entry.1 entry.2 ((Table.mem_entries_iff _ _ _).mp listed)⟩)
  | .invalidating fabric connection id principal =>
      inferInstanceAs (Decidable (∀ queue ∈ fabric.findQueue id,
        lastAccepted id older = some connection.id → Doubted fabric.config queue ∨
          principal.valid = true ∧ ∃ resource ∈ fabric.findResource queue.definition.resource,
            authorize resource.authority principal .admin fabric.epoch queue.applicability
              queue.lifecycle = none))

instance decidableOrderly : (log : List (Activity J)) → Decidable (Orderly log)
  | [] => .isTrue trivial
  | activity :: older =>
      have := decidableOrderly older
      inferInstanceAs (Decidable (activity.Meets older ∧ Orderly older))

/-! Reachable fabrics. -/

namespace Fabric

theorem serve_keyed [IJournal J] {fabric : Fabric J} (keyed : Keyed fabric) {call : Call}
    (living : call ≠ .recover) : Keyed (fabric.serve call).fabric := by
  intro id queue found
  have moved := serve_queueStep fabric living id
  rw [found] at moved
  generalize known : fabric.findQueue id = before at moved
  cases moved with
  | tended still tended quiet =>
      rw [still.definition]
      exact keyed id _ known
  | unbound unbinds =>
      rw [(same_supersedeBinding _).definition]
      exact keyed id _ known
  | mutated start request now presented named executed touch mutated =>
      obtain ⟨middle, applied, _, ended, unmoved⟩ := mutated.kindCase
      rw [unmoved.definition, ended.identical.1.id]
      exact keyed id _ known
  | declared start request now presented executed touch declared =>
      cases declared with
      | intro after payload resource durable config numbered next kind carried declarable =>
          rw [next, ← numbered]
          rfl

theorem recover_keyed {fabric : Fabric StableStore} (keyed : Keyed fabric) :
    Keyed fabric.recover.fabric := by
  have carries := @RecoverCase.carries (fun _ id queue => queue.definition.id = id) fabric keyed
    (fun payload queue listed decoded => congrArg QueueDefinition.id
      (same_restoreQueue queue).definition)
    (fun base early request late order now id after moves earlier => moves.keyed earlier) _
    (recover_cases fabric) (fun done id before after still held => by rwa [still.definition])
  exact carries

end Fabric

namespace System

theorem keyed_step {system : System} (keyed : Keyed system.fabric) (input : Step) :
    Keyed (system.step input).fabric := by
  cases input with
  | restart survivors clock seed script =>
      refine recover_keyed ?_
      intro id queue found
      cases found
  | call call script =>
      by_cases living : call = .recover
      · subst living
        exact @recover_keyed (withScript system.fabric script) keyed
      · exact serve_keyed (show Keyed (withScript system.fabric script) from keyed) living

theorem keyed_run (config : FabricConfig) (journaled : Bool) (clock : Clock) (seed : UInt64)
    (script : List Bool) (steps : List Step) :
    Keyed ((boot config (if journaled then some {} else none) clock seed script).run
      steps).fabric := by
  refine @Runs.invariant _ _ System.step (fun _ _ => True) (fun system => Keyed system.fabric)
    (fun system input keyed _ => keyed_step keyed input) _ ?_ steps
    (Runs.along_of_all (fun _ _ => trivial) _ steps)
  refine recover_keyed ?_
  intro id queue found
  cases found

end System

namespace Coordinator

/-- Lost publishers leave no trusted evidence, and none of their frames is handled. -/
theorem lost_publishers (config : FabricConfig) (journaled : Bool) (clock : Clock) (seed : UInt64)
    (script : List Bool) (steps : List Step) (settings : CoordinatorConfig)
    (cycles : List (Option TcpTransport))
    (orderly : Orderly ((serving settings ((System.boot config
      (if journaled then some {} else none) clock seed script).run steps).fabric).run cycles).log) :
    let fabric := ((System.boot config (if journaled then some {} else none) clock seed script).run
      steps).fabric
    let final := (serving settings fabric).run cycles
    (∀ connection, LostInCycle connection final.log → ∀ id queue,
        final.fabric.findQueue id = some queue → lastAccepted id final.log = some connection →
        ∀ now, refreshedFreshness final.fabric.config queue now ≠ .fresh) ∧
      Silent final.log := by
  intro fabric final
  have start : (serving settings fabric).Tended := fun _ =>
    ⟨System.keyed_run config journaled clock seed script steps,
      (System.bounded_invariant.run config journaled clock seed script
        (Runs.along_of_all System.respects_all _ steps)).queues,
      List.nodup_nil, by simp [serving], by simp [serving, lastAccepted],
      by simp [serving, EverLost], by simp [serving], by simp [serving], by simp [serving],
      by simp [serving, lastAccepted], trivial⟩
  have guarded := @Runs.invariant _ _ (fun coordinator incoming => (runOnce coordinator incoming).2)
    (fun _ _ => True) Tended (fun coordinator incoming tended _ => runOnce_tended tended incoming)
    _ start cycles (Runs.along_of_all (fun _ _ => trivial) _ cycles) orderly
  refine ⟨fun connection lost id queue found accepted now => ?_, guarded.silent⟩
  exact (guarded.doubted id queue connection found accepted lost).not_fresh now

/-! One peer publishes and closes; another keeps the decode loop busy after it was lost. -/

def sampleOccupancy : Message :=
  { type := .occupancyBatch
    sequence := 3
    occupancy := [{ queue := ⟨1⟩, queueGeneration := ⟨1⟩, bytes := 10, packets := 1,
                    epoch := ⟨1⟩, sequence := ⟨2⟩, observedAt := 1000,
                    provenance := System.sampleProvenance 2 }] }

def staleHeartbeat : Message := { sampleHeartbeat with heartbeat := { epoch := ⟨7⟩ } }

def closingPeer : TcpTransport :=
  { arrivals := [{ bytes := sampleFrame sampleHello ++ sampleFrame sampleOccupancy },
                 { closes := true }] }

def failingPeer : TcpTransport :=
  { arrivals := [{ bytes := sampleFrame sampleHello ++ sampleFrame staleHeartbeat ++
                     sampleFrame sampleOccupancy }]
    sends := [true, false] }

/-- One cycle that accepts the peer, over the sample system. -/
def sampleCycle (peer : TcpTransport) : Coordinator StableStore :=
  (serving {} System.sampleSystem.fabric).run [some peer]

theorem sampleCycle_eq (peer : TcpTransport) : (serving {} ((System.boot {}
    (if true then some {} else none) ⟨fun _ => 1000, 0⟩ 7 []).run System.sampleSteps).fabric).run
      [some peer] = sampleCycle peer := rfl

theorem lost_publishers_sample :
    (∀ connection, LostInCycle connection (sampleCycle closingPeer).log → ∀ id queue,
        (sampleCycle closingPeer).fabric.findQueue id = some queue →
        lastAccepted id (sampleCycle closingPeer).log = some connection → ∀ now,
        refreshedFreshness (sampleCycle closingPeer).fabric.config queue now ≠ .fresh) ∧
      Silent (sampleCycle closingPeer).log := by
  have held := lost_publishers {} true ⟨fun _ => 1000, 0⟩ 7 [] System.sampleSteps {}
    [some closingPeer] (by decide +kernel)
  dsimp only at held
  rw [sampleCycle_eq] at held
  exact held

example : LostInCycle 1 (sampleCycle closingPeer).log ∧
    lastAccepted ⟨1⟩ (sampleCycle closingPeer).log = some 1 := by decide +kernel

/-- The reply to the second frame fails, the connection is lost, and the third frame is still
taken: its observation is fresh at the end of the cycle. -/
theorem frame_after_loss :
    ¬ ∀ (config : FabricConfig) (journaled : Bool) (clock : Clock) (seed : UInt64)
      (script : List Bool) (steps : List Step) (settings : CoordinatorConfig)
      (cycles : List (Option TcpTransport)),
      let fabric := ((System.boot config (if journaled then some {} else none) clock seed
        script).run steps).fabric
      let final := (serving settings fabric).run cycles
      (∀ connection, LostInCycle connection final.log → ∀ id queue,
          final.fabric.findQueue id = some queue → lastAccepted id final.log = some connection →
          ∀ now, refreshedFreshness final.fabric.config queue now ≠ .fresh) ∧
        Silent final.log := by
  intro all
  have held := all {} true ⟨fun _ => 1000, 0⟩ 7 [] System.sampleSteps {} [some failingPeer]
  dsimp only at held
  rw [sampleCycle_eq] at held
  have doubted : ∀ queue ∈ (sampleCycle failingPeer).fabric.findQueue ⟨1⟩,
      refreshedFreshness (sampleCycle failingPeer).fabric.config queue 1000 ≠ .fresh :=
    fun queue found => held.1 1 (by decide +kernel) ⟨1⟩ queue found (by decide +kernel) 1000
  revert doubted
  decide +kernel

end Coordinator

end QueueFabric
