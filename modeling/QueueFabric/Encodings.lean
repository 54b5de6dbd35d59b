import QueueFabric.SerializeRoundTrip

/-!
When a record has an encoding at all. The writer gives up on a string over its
bound and on a record over its limit; both are counted here field by field.
-/

namespace Wire.Puts

open QueueFabric

variable {fits : Prop} {size : Nat} {put : Wire.Writer → Wire.Writer}

theorem u8 (puts : Puts fits size put) (value : UInt8) :
    Puts fits (size + 1) (fun writer => ByteWriter.putU8 (put writer) value) :=
  puts.field (puts_uint 1 value.toNat)

theorem bool (puts : Puts fits size put) (value : Bool) :
    Puts fits (size + 1) (fun writer => ByteWriter.putBool (put writer) value) :=
  puts.u8 _

theorem u16 (puts : Puts fits size put) (value : UInt16) :
    Puts fits (size + 2) (fun writer => ByteWriter.putU16 (put writer) value) :=
  puts.field (puts_uint 2 value.toNat)

theorem u32 (puts : Puts fits size put) (value : UInt32) :
    Puts fits (size + 4) (fun writer => ByteWriter.putU32 (put writer) value) :=
  puts.field (puts_uint 4 value.toNat)

theorem u64 (puts : Puts fits size put) (value : UInt64) :
    Puts fits (size + 8) (fun writer => ByteWriter.putU64 (put writer) value) :=
  puts.field (puts_uint 8 value.toNat)

theorem i64 (puts : Puts fits size put) (value : Int64) :
    Puts fits (size + 8) (fun writer => ByteWriter.putI64 (put writer) value) :=
  puts.u64 _

theorem puts_string (value : Text) :
    Puts (value.length ≤ Limits.maxNameChars) (2 + value.length)
      (fun writer => ByteWriter.putString writer value) := by
  by_cases long : value.length > Limits.maxNameChars
  · have failing : ∀ writer : Wire.Writer, ByteWriter.putString writer value =
        { writer with failed := true } := fun writer => if_pos long
    refine ⟨fun writer => ?_, fun writer short => ?_, fun writer short => ?_,
      fun writer short alive => ?_⟩
    · simp only [failing]
    · simp only [failing]
      exact short
    · simp only [failing]
      constructor
      · intro impossible
        cases impossible
      · rintro ⟨_, short, _⟩
        omega
    · simp only [failing] at alive
      cases alive
  · have writing : (fun writer : Wire.Writer => ByteWriter.putString writer value) =
        fun writer => (ByteWriter.putU16 writer (UInt16.ofNat value.length)).putRaw value :=
      funext fun writer => if_neg long
    rw [writing]
    have length := puts_start.u16 (UInt16.ofNat value.length)
    refine (length.field (puts_raw value)).cast ?_ (by omega)
    simp only [true_iff]
    omega

theorem string (puts : Puts fits size put) (value : Text) :
    Puts (fits ∧ value.length ≤ Limits.maxNameChars) (size + (2 + value.length))
      (fun writer => ByteWriter.putString (put writer) value) :=
  puts.comp (puts_string value)

theorem provenance (puts : Puts fits size put) (value : Provenance) :
    Puts fits (size + 56) (fun writer => putProvenance (put writer) value) :=
  ((((((puts.u64 value.publisher.value).u64 value.node.value).u64 value.incarnation.value).u64
    value.epoch.value).u64 value.sequence.value).u64 value.boot.hi).u64 value.boot.lo

theorem attempt (puts : Puts fits size put) (value : AttemptId) :
    Puts fits (size + 16) (fun writer => putAttempt (put writer) value) :=
  (puts.u64 value.publisher.value).u64 value.counter

theorem thresholds (puts : Puts fits size put) (value : Thresholds) :
    Puts fits (size + 40) (fun writer => putThresholds (put writer) value) :=
  ((((puts.u64 value.lowWatermarkBytes).u64 value.highWatermarkBytes).u64
    value.maxOccupancyBytes).u64 value.maxPackets).i64 value.occupancyStaleAfter

theorem classBinding (puts : Puts fits size put) (value : ClassBinding) :
    Puts fits (size + 16) (fun writer => putClassBinding (put writer) value) :=
  (puts.u64 value.id.value).u64 value.generation.value

theorem poolRef (puts : Puts fits size put) (value : PoolRef) :
    Puts fits (size + 24) (fun writer => putPoolRef (put writer) value) :=
  ((puts.u64 value.id.value).u64 value.generation.value).u64 value.capacityBytes

theorem occupancySample (puts : Puts fits size put) (value : OccupancySample) :
    Puts fits (size + 112) (fun writer => putOccupancySample (put writer) value) :=
  (((((((puts.u64 value.queue.value).u64 value.queueGeneration.value).u64 value.bytes).u64
    value.packets).u64 value.epoch.value).u64 value.sequence.value).i64
    value.observedAt).provenance value.provenance

theorem drainEvidence (puts : Puts fits size put) (value : DrainEvidence) :
    Puts fits (size + 64) (fun writer => putDrainEvidence (put writer) value) := by
  have backend := ((((((((puts.u32 value.records).bool value.backend.requestAccepted).bool
    value.backend.reportedDrained).u64 value.backend.backend.value).u64
    value.backend.backendIncarnation.value).u64 value.backend.epoch.value).u64
    value.backend.sequence.value).i64 value.backend.observedAt)
  exact (((backend.bool value.occupancyZeroObserved).i64 value.zeroObservedAt).u64
    value.zeroSequence.value).bool value.revalidated

theorem backendApplied (puts : Puts fits size put) (value : BackendApplied) :
    Puts fits (size + 81) (fun writer => putBackendApplied (put writer) value) := by
  have head := (((((puts.bool value.known).u64 value.backend.value).u64
    value.backendIncarnation.value).u64 value.epoch.value).u64 value.sequence.value).i64
    value.appliedAt
  exact (((head.classBinding value.appliedClass).u64 value.queueGeneration.value).u64
    value.appliedHighWatermarkBytes).u64 value.appliedMaxOccupancyBytes

theorem occupancyState (puts : Puts fits size put) (value : OccupancyState) :
    Puts fits (size + 114) (fun writer => putOccupancyState (put writer) value) := by
  have observed := (((((puts.bool value.present).u64 value.bytes).u64 value.packets).i64
    value.observedAt).u64 value.sequence.value).u64 value.epoch.value
  exact (((observed.provenance value.provenance).u64 value.queueGeneration.value).u8
    value.freshness.toRaw).i64 value.age

theorem fenceState (puts : Puts fits size put) (value : FenceState) :
    Puts (fits ∧ value.reason.length ≤ Limits.maxNameChars) (size + (35 + value.reason.length))
      (fun writer => putFenceState (put writer) value) := by
  have head := (((puts.bool value.fenced).u64 value.token).u64 value.epoch.value).u64
    value.fencedBy.value
  exact ((head.string value.reason).i64 value.fencedAt).cast .rfl (by omega)

theorem drainState (puts : Puts fits size put) (value : DrainState) :
    Puts fits (size + 145) (fun writer => putDrainState (put writer) value) :=
  ((((puts.u8 value.phase.toRaw).attempt value.attempt).i64 value.requestedAt).provenance
    value.requestedBy).drainEvidence value.evidence

theorem definition (puts : Puts fits size put) (value : QueueDefinition) :
    Puts (fits ∧ value.name.length ≤ Limits.maxNameChars) (size + (182 + value.name.length))
      (fun writer => putDefinition (put writer) value) := by
  have named := (((puts.u64 value.id.value).u64 value.resource.value).string value.name).u32
    value.depth
  have bound := ((named.classBinding value.cls).poolRef value.pool).thresholds value.thresholds
  exact ((((bound.u64 value.owner.value).u64 value.generation.value).provenance
    value.declaredBy).i64 value.declaredAt).cast .rfl (by omega)

theorem counted {β : Type} {putItem : Wire.Writer → β → Wire.Writer} {itemFits : β → Prop}
    {itemSize : β → Nat} (puts : Puts fits size put) (items : List β)
    (each : ∀ item, Puts (itemFits item) (itemSize item) fun writer => putItem writer item) :
    Puts (fits ∧ ∀ item ∈ items, itemFits item) (size + 4 + (items.map itemSize).sum)
      (fun writer => putSection putItem (put writer) items) :=
  (puts.u32 (UInt32.ofNat items.length)).comp (puts_many each items)

end Wire.Puts

namespace QueueFabric

open Wire

/-! What a reader guarantees of any value. -/

theorem gives_getString (limit : Nat) : Gives (fun value => value.length ≤ limit)
    (getString limit) := by
  refine Gives.after fun length => Gives.after fun failed => ?_
  split
  · exact Gives.after fun _ => gives_pure (Nat.zero_le _)
  · rename_i short
    simp only [Bool.or_eq_true, decide_eq_true_eq, not_or, not_lt] at short
    intro reader
    rw [getRaw]
    split
    · exact Nat.zero_le _
    · rw [List.length_take]
      omega

theorem decodeWhole_yields {α : Type} {property : α → Prop} {get : Get (Except Status α)}
    (yields : Yields property get) {data : Bytes} {malformed : String} {value : α}
    (decoded : decodeWhole get data malformed = .ok value) : property value := by
  rw [decodeWhole] at decoded
  split at decoded
  · cases decoded
  · rename_i read reader accepted
    split at decoded
    · cases decoded
    · cases decoded
      exact yields _ _ _ accepted

theorem yields_getSection {α β : Type} {given : α → Prop} {property : β → Prop} {item : Get α}
    {limit : Nat} {outOfRange : String} {next : List α → Get (Except Status β)}
    (each : Gives given item)
    (after : ∀ items, items.length ≤ limit → (∀ value ∈ items, given value) →
      Yields property (next items)) : Yields property (getSection item limit outOfRange next) := by
  refine Yields.bind fun count => Yields.bind fun failed => ?_
  split
  · exact yields_error _
  · rename_i few
    simp only [Bool.or_eq_true, decide_eq_true_eq, not_or, not_lt] at few
    exact Yields.given (each.many _) fun items read =>
      after items (by rw [read.1]; exact few.2) read.2

/-! Resources. -/

/-- The names a class carries are within the writer's bound. -/
def SchedulingClassDef.Short (entry : SchedulingClassDef) : Prop :=
  entry.name.length ≤ Limits.maxNameChars ∧ entry.qos.group.length ≤ Limits.maxNameChars

instance (entry : SchedulingClassDef) : Decidable entry.Short := inferInstanceAs (Decidable (_ ∧ _))

def SchedulingClassDef.encodedSize (entry : SchedulingClassDef) : Nat :=
  96 + entry.name.length + entry.qos.group.length

def BufferPoolDef.encodedSize (pool : BufferPoolDef) : Nat := 90 + pool.name.length

def ResourceRecord.encodedSize (resource : ResourceRecord) : Nat :=
  139 + resource.name.length + 12 * resource.authority.grants.length +
    (resource.classes.map SchedulingClassDef.encodedSize).sum +
    (resource.pools.map BufferPoolDef.encodedSize).sum + 41 * resource.backends.length

/-- Every string and the whole record are within the writer's bounds. -/
structure ResourceRecord.Encodable (resource : ResourceRecord) : Prop where
  name : resource.name.length ≤ Limits.maxNameChars
  classes : ∀ entry ∈ resource.classes, entry.Short
  pools : ∀ pool ∈ resource.pools, pool.name.length ≤ Limits.maxNameChars
  size : resource.encodedSize ≤ Limits.maxJournalRecordBytes

instance (resource : ResourceRecord) : Decidable resource.Encodable :=
  decidable_of_iff (resource.name.length ≤ Limits.maxNameChars ∧
      (∀ entry ∈ resource.classes, entry.Short) ∧
      (∀ pool ∈ resource.pools, pool.name.length ≤ Limits.maxNameChars) ∧
      resource.encodedSize ≤ Limits.maxJournalRecordBytes)
    ⟨fun fits => ⟨fits.1, fits.2.1, fits.2.2.1, fits.2.2.2⟩,
      fun fits => ⟨fits.name, fits.classes, fits.pools, fits.size⟩⟩

instance (resource : ResourceRecord) : Decidable resource.Readable :=
  inferInstanceAs (Decidable (_ ∧ _))

theorem puts_grant (grant : AuthorityGrant) : Puts True 12 fun writer => putGrant writer grant :=
  (puts_start.u64 grant.owner.value).u32 grant.capabilities

theorem puts_classDef (entry : SchedulingClassDef) :
    Puts entry.Short entry.encodedSize fun writer => putClassDef writer entry := by
  have head := ((puts_start.u64 entry.id.value).u64 entry.resource.value).string entry.name
  have qos := (((head.u32 entry.priority).u32 entry.qos.priorityCode).u32
    entry.qos.trafficClass).string entry.qos.group
  refine ((qos.u64 entry.generation.value).provenance entry.declaredBy).cast ?_ ?_
  · rw [SchedulingClassDef.Short, true_and]
  · rw [SchedulingClassDef.encodedSize]
    omega

theorem puts_poolDef (pool : BufferPoolDef) :
    Puts (pool.name.length ≤ Limits.maxNameChars) pool.encodedSize
      fun writer => putPoolDef writer pool := by
  have head := ((puts_start.u64 pool.id.value).u64 pool.resource.value).string pool.name
  refine (((head.u64 pool.capacityBytes).u64 pool.generation.value).provenance
    pool.declaredBy).cast (by rw [true_and]) ?_
  rw [BufferPoolDef.encodedSize]
  omega

theorem puts_backend (backend : BackendIncarnation) :
    Puts True 41 fun writer => putBackend writer backend :=
  (((((puts_start.u64 backend.backend.value).u64 backend.resource.value).u64
    backend.incarnation.value).u64 backend.epoch.value).i64 backend.registeredAt).bool
    backend.alive

theorem puts_resourceState (resource : ResourceRecord) :
    Puts (resource.name.length ≤ Limits.maxNameChars ∧ (∀ entry ∈ resource.classes, entry.Short) ∧
        ∀ pool ∈ resource.pools, pool.name.length ≤ Limits.maxNameChars) resource.encodedSize
      fun writer => putResourceState writer resource := by
  have head := ((((((puts_start.u64 resource.id.value).string resource.name).u64
    resource.owner.value).u64 resource.generation.value).u64 resource.epoch.value).u64
    resource.authority.owner.value).u64 resource.authority.epoch.value
  have sections := (((head.counted resource.authority.grants puts_grant).counted resource.classes
    puts_classDef).counted resource.pools puts_poolDef).counted resource.backends puts_backend
  have tail := (((sections.u8 resource.applicability.bits).provenance resource.declaredBy).i64
    resource.declaredAt).u64 resource.queueCount
  refine tail.cast ?_ ?_
  · simp [and_assoc]
  · simp only [ResourceRecord.encodedSize, List.map_const', List.sum_replicate, smul_eq_mul]
    omega

/-- A resource has an encoding exactly when it is within the writer's bounds. -/
theorem encodeResourceState_ne_nil_iff (resource : ResourceRecord) :
    encodeResourceState resource ≠ [] ↔ resource.Encodable := by
  have positive : 0 < resource.encodedSize := by
    rw [ResourceRecord.encodedSize]
    omega
  refine ((puts_resourceState resource).finish Limits.maxJournalRecordBytes positive).trans ?_
  constructor
  · rintro ⟨⟨name, classes, pools⟩, size⟩
    exact ⟨name, classes, pools, size⟩
  · rintro ⟨name, classes, pools, size⟩
    exact ⟨⟨name, classes, pools⟩, size⟩

/-! Queues. -/

def QueueRecord.encodedSize (queue : QueueRecord) : Nat :=
  621 + queue.definition.name.length + queue.failureReason.length + queue.fence.reason.length +
    37 * queue.memo.length

theorem puts_memo (entry : AttemptMemo) : Puts True 37 fun writer => putMemo writer entry :=
  (((((puts_start.attempt entry.attempt).u64 entry.fingerprint).u16 entry.kind.toRaw).u16
    entry.outcome.toRaw).u64 entry.generation.value).bool entry.durable

theorem puts_queueState (queue : QueueRecord) :
    Puts (queue.definition.name.length ≤ Limits.maxNameChars ∧
        queue.failureReason.length ≤ Limits.maxNameChars ∧
        queue.fence.reason.length ≤ Limits.maxNameChars) queue.encodedSize
      fun writer => putQueueState writer queue := by
  have head := (((puts_start.definition queue.definition).u8 queue.lifecycle.toRaw).u8
    queue.applicability.bits).string queue.failureReason
  have fenced := (head.occupancyState queue.occupancy).fenceState queue.fence
  have counters := (((((((fenced.drainState queue.drain).backendApplied queue.applied).u64
    queue.mutationCount).u64 queue.replayedCount).u64 queue.rejectedCount).u64
    queue.overflowEvents).u64 queue.stalenessEvents).attempt queue.lastAttempt
  refine (counters.counted queue.memo puts_memo).cast ?_ ?_
  · simp [and_assoc]
  · simp only [QueueRecord.encodedSize, List.map_const', List.sum_replicate, smul_eq_mul]
    omega

/-- A queue has an encoding exactly when its strings and the whole record are within the writer's
bounds. -/
theorem encodeQueueState_ne_nil_iff (queue : QueueRecord) :
    encodeQueueState queue ≠ [] ↔ (queue.definition.name.length ≤ Limits.maxNameChars ∧
      queue.failureReason.length ≤ Limits.maxNameChars ∧
      queue.fence.reason.length ≤ Limits.maxNameChars) ∧
      queue.encodedSize ≤ Limits.maxJournalRecordBytes := by
  have positive : 0 < queue.encodedSize := by
    rw [QueueRecord.encodedSize]
    omega
  exact (puts_queueState queue).finish Limits.maxJournalRecordBytes positive

/-! Mutations. -/

/-- The strings a request carries are within the writer's bound. -/
def MutationRequest.Short (request : MutationRequest) : Prop :=
  match request.payload with
  | .declareQueue declare => declare.name.length ≤ Limits.maxNameChars
  | .fence payload => payload.reason.length ≤ Limits.maxNameChars
  | _ => True

def MutationRequest.encodedSize (request : MutationRequest) : Nat :=
  107 + match request.payload with
    | .monostate => 0
    | .declareQueue declare => 94 + declare.name.length
    | .rebindClass _ => 16
    | .thresholds _ => 40
    | .ownership _ => 8
    | .occupancy _ => 112
    | .drainEvidence _ => 64
    | .fence payload => 3 + payload.reason.length
    | .backendAck _ => 81
    | .backendRegistration _ => 24

theorem puts_payload (request : MutationRequest) {put : Wire.Writer → Wire.Writer}
    (head : Puts True 107 put) :
    Puts request.Short request.encodedSize
      (fun writer => putPayload (put writer) request.payload) := by
  rw [MutationRequest.Short, MutationRequest.encodedSize]
  cases request.payload with
  | monostate => exact head
  | declareQueue declare =>
      have named := ((head.u64 declare.resource.value).string declare.name).u32 declare.depth
      refine (((named.classBinding declare.cls).poolRef declare.pool).thresholds
        declare.thresholds).cast (by rw [true_and]) ?_
      dsimp only
      omega
  | rebindClass cls => exact head.classBinding cls
  | thresholds thresholds => exact head.thresholds thresholds
  | ownership owner => exact head.u64 owner.value
  | occupancy sample => exact head.occupancySample sample
  | drainEvidence evidence => exact head.drainEvidence evidence
  | fence payload =>
      refine ((head.bool payload.fence).string payload.reason).cast (by rw [true_and]) ?_
      dsimp only
      omega
  | backendAck applied => exact head.backendApplied applied
  | backendRegistration payload =>
      exact ((head.u64 payload.backend.value).u64 payload.resource.value).u64
        payload.incarnation.value

theorem puts_mutation (request : MutationRequest) :
    Puts request.Short request.encodedSize fun writer => putMutation writer request := by
  have head := (((((puts_start.attempt request.attempt).u16 request.kind.toRaw).u64
    request.queue.value).u64 request.expectedGeneration.value).u64
    request.expectedEpoch.value).u64 request.principal.value
  exact puts_payload request ((head.provenance request.provenance).u8 (tagOf request.payload))

theorem MutationRequest.Short.small {request : MutationRequest} (short : request.Short) :
    request.encodedSize ≤ 329 := by
  rw [Short] at short
  rw [encodedSize]
  cases carried : request.payload <;> simp only [carried, Limits.maxNameChars] at short ⊢ <;> omega

/-- A request has an encoding exactly when its strings are within the writer's bound. -/
theorem encodeMutation_ne_nil_iff (request : MutationRequest) :
    encodeMutation request ≠ [] ↔ request.Short := by
  have positive : 0 < request.encodedSize := by
    rw [MutationRequest.encodedSize]
    omega
  refine ((puts_mutation request).finish Limits.maxJournalRecordBytes positive).trans ?_
  refine ⟨And.left, fun short => ⟨short, ?_⟩⟩
  have small := short.small
  rw [Limits.maxJournalRecordBytes]
  omega

end QueueFabric
