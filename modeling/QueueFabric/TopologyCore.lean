import QueueFabric.FabricCore

/-!
Topology, governance, plans and maintenance: the remaining public operations of
`fabric.cpp`, `fabric_governance.cpp`, `fabric_plans.cpp`, `fabric_explain.cpp`
and the maintenance half of `fabric_recovery.cpp`.
-/

namespace QueueFabric

namespace Fabric

variable {J : Type}

/-- An early return: nothing was pushed and nothing is emitted. -/
def refuse {α : Type} (fabric : Fabric J) (status : Status) : Reply J α := ⟨.error status, [], fabric⟩

def stopping : Status := ⟨.shuttingDown, "fabric is shutting down"⟩

def unhealthy : Status := ⟨.notDurable, "fabric is not healthy"⟩

def provenanceRequired : Status := ⟨.malformedInput, "complete provenance is required"⟩

def resourceMissing : Status := ⟨.notFound, "resource is not declared"⟩

/-! One synced record. -/

section Persist

variable [IJournal J]

/-- Writes one record; a failed sync leaves the fabric unhealthy. -/
def persistIn (fabric : Fabric J) (journal : J) (type : JournalRecordType) (payload : Bytes)
    (lost : String) : Status × Fabric J :=
  let (appended, journal) := IJournal.append journal type payload
  if !appended.isOk then (appended, { fabric with journal := some journal })
  else
    let (synced, journal) := IJournal.sync journal
    if !synced.isOk then
      (⟨.notDurable, lost⟩, { fabric with journal := some journal, healthy := false })
    else
      (.success, { fabric with journal := some journal, stats := countJournal fabric.stats 1 })

/-- As `persistIn`, where a fabric without a journal simply goes on. -/
def persistIfJournaled (fabric : Fabric J) (type : JournalRecordType) (payload : Bytes)
    (lost : String) : Status × Fabric J :=
  match fabric.journal with
  | some journal => fabric.persistIn journal type payload lost
  | none => (.success, fabric)

/-- As `persistIn`, where a durable fabric without a journal refuses. -/
def persist (fabric : Fabric J) (type : JournalRecordType) (payload : Bytes) (lost : String) :
    Status × Fabric J :=
  match fabric.journal with
  | some journal => fabric.persistIn journal type payload lost
  | none =>
      if fabric.config.durable then
        (⟨.notDurable, "durable fabric requires a journal"⟩, fabric)
      else (.success, fabric)

end Persist

/-- An early return on a status that is not ok; otherwise the call goes on. -/
def orRefuse {α : Type} (checked : Status × Fabric J) (next : Fabric J → Reply J α) : Reply J α :=
  if !checked.1.isOk then checked.2.refuse checked.1 else next checked.2

/-- Goes on with a clock reading. -/
def atNow {α : Type} (fabric : Fabric J) (next : Nanos → Fabric J → α) : α :=
  next fabric.monotonicNow.1 fabric.monotonicNow.2

/-- The notification of an administrative change, stamped with a fresh clock reading. -/
def announce {α : Type} (fabric : Fabric J) (value : α) (event : Nanos → Event) : Reply J α :=
  fabric.atNow fun now fabric => Reply.emit ⟨.ok value, [event now], fabric⟩

def topologyEvent (resource : ResourceId) (detail : String) (now : Nanos) : Event :=
  { kind := .topologyChanged, time := now, resource, detail := text detail }

variable [IJournal J]

/-! Resources. -/

def declaredResource (fabric : Fabric J) (name : Text) (owner : OwnerId) (provenance : Provenance)
    (now : Nanos) : ResourceRecord where
  id := ⟨fabric.nextResourceId⟩
  name := name
  owner := owner
  generation := ⟨1⟩
  epoch := fabric.epoch
  authority := ⟨⟨fabric.nextResourceId⟩, owner, fabric.epoch, [⟨owner, Capability.all.toMask⟩]⟩
  declaredBy := provenance
  declaredAt := now

/-- Persists, publishes and announces a new resource. -/
def admitResource (fabric : Fabric J) (record : ResourceRecord) : Reply J ResourceId :=
  let encoded := encodeResourceState record
  if fabric.journal.isSome && encoded.isEmpty then
    fabric.refuse ⟨.internal, "resource state could not be encoded"⟩
  else
    orRefuse (fabric.persist .resourceState encoded "resource state is not durable") fun fabric =>
      { fabric with
        nextResourceId := fabric.nextResourceId + 1
        resources := fabric.resources.emplace record.id record }.announce record.id
          (topologyEvent record.id "resource declared")

def declareResource (fabric : Fabric J) (name : Text) (owner : OwnerId)
    (provenance : Provenance) : Reply J ResourceId :=
  if fabric.shuttingDown then fabric.refuse stopping
  else if !fabric.healthy then fabric.refuse unhealthy
  else if !owner.valid then fabric.refuse ⟨.invalidArgument, "owner identity is required"⟩
  else if !provenance.valid then fabric.refuse provenanceRequired
  else if name.isEmpty || name.length > Limits.maxNameChars then
    fabric.refuse ⟨.outOfRange, "resource name length is out of range"⟩
  else if fabric.resources.size ≥ fabric.config.limits.maxResources.toNat then
    fabric.refuse ⟨.capacityExceeded, "resource capacity is exhausted"⟩
  else if fabric.resources.values.any fun record => record.name = name then
    fabric.refuse ⟨.alreadyExists, "resource name is already declared"⟩
  else
    fabric.atNow fun now fabric =>
      fabric.admitResource (fabric.declaredResource name owner provenance now)

/-- The tail of every topology change: persist the updated record, publish it, announce it. -/
def publishResource {α : Type} (fabric : Fabric J) (updated : ResourceRecord) (id : ResourceId)
    (lost : String) (after : Fabric J → Reply J α) : Reply J α :=
  orRefuse (fabric.persist .resourceState (encodeResourceState updated) lost) fun fabric =>
    after { fabric with resources := fabric.resources.insert id updated }

/-- Replaces the first grant of `grantee`; `none` when the grantee holds none. -/
def replaceGrant (grantee : OwnerId) (capabilities : UInt32) :
    List AuthorityGrant → Option (List AuthorityGrant)
  | [] => none
  | grant :: rest =>
      if grant.owner = grantee then some ({ grant with capabilities } :: rest)
      else (replaceGrant grantee capabilities rest).map (grant :: ·)

def withGrants (record : ResourceRecord) (grants : List AuthorityGrant) : ResourceRecord :=
  { record with authority := { record.authority with grants } }

def grantCapabilities (fabric : Fabric J) (resource : ResourceId) (grantee : OwnerId)
    (capabilities : UInt32) (principal : OwnerId) (expectedEpoch : Epoch)
    (provenance : Provenance) : Reply J Unit :=
  if fabric.shuttingDown then fabric.refuse stopping
  else if !provenance.valid then fabric.refuse provenanceRequired
  else match fabric.findResource resource with
    | none => fabric.refuse resourceMissing
    | some record =>
        match authorize record.authority principal .admin expectedEpoch record.applicability
          .active with
        | some refusal => fabric.refuse refusal.status
        | none =>
            if !grantee.valid then
              fabric.refuse ⟨.invalidArgument, "grantee identity is required"⟩
            else
              let finish := fun grants =>
                fabric.publishResource (withGrants record grants) resource
                  "capability grant is not durable" fun fabric =>
                    fabric.announce () (topologyEvent resource "capabilities granted")
              match replaceGrant grantee capabilities record.authority.grants with
              | some grants => finish grants
              | none =>
                  if record.authority.grants.length ≥
                      fabric.config.limits.maxGrantsPerResource.toNat then
                    fabric.refuse ⟨.capacityExceeded, "capability grant capacity is exhausted"⟩
                  else finish (record.authority.grants ++ [⟨grantee, capabilities⟩])

/-! Classes and pools. -/

/-- Advances the first class of that name; `none` when no class carries it. -/
def redeclareClass (name : Text) (priority : UInt32) (qos : QosRef) :
    List SchedulingClassDef → Option (Except Status (ClassId × List SchedulingClassDef))
  | [] => none
  | entry :: rest =>
      if entry.name = name then
        some (entry.generation.next.map fun generation =>
          (entry.id, { entry with generation, priority, qos } :: rest))
      else (redeclareClass name priority qos rest).map fun result =>
        result.map fun updated => (updated.1, entry :: updated.2)

/-- The class list a declaration produces, the class it names, and the next class identity. -/
def declareClassIn (fabric : Fabric J) (record : ResourceRecord) (resource : ResourceId)
    (name : Text) (priority : UInt32) (qos : QosRef) (provenance : Provenance) :
    Except Status (ClassId × List SchedulingClassDef × UInt64) :=
  match redeclareClass name priority qos record.classes with
  | some (.error status) => .error status
  | some (.ok (id, classes)) => .ok (id, classes, fabric.nextClassId)
  | none =>
      if record.classes.length ≥ fabric.config.limits.maxClassesPerResource.toNat then
        .error ⟨.capacityExceeded, "class capacity is exhausted"⟩
      else
        let id : ClassId := ⟨fabric.nextClassId⟩
        let entry : SchedulingClassDef := ⟨id, resource, name, priority, qos, ⟨1⟩, provenance⟩
        .ok (id, record.classes ++ [entry], fabric.nextClassId + 1)

/-- Whether a declaration of `cls` leaves the queue bound to a superseded class generation. -/
def losesBinding (record : ResourceRecord) (resource : ResourceId) (cls : ClassId)
    (queue : QueueRecord) : Bool :=
  queue.definition.resource = resource && queue.definition.cls.id = cls &&
    match record.findClass cls with
    | some current => queue.definition.cls.generation ≠ current.generation
    | none => false

def supersedeBinding (queue : QueueRecord) : QueueRecord :=
  { queue with
    applicability := queue.applicability.union .stale
    occupancy := invalidateOccupancy queue.occupancy .staleGeneration
    stalenessEvents := queue.stalenessEvents + 1 }

def invalidateBound (record : ResourceRecord) (resource : ResourceId) (cls : ClassId)
    (queues : Table QueueId QueueRecord) : Table QueueId QueueRecord :=
  queues.mapValues fun _ queue =>
    if losesBinding record resource cls queue then supersedeBinding queue else queue

/-- Publication of a class comes only after the durable write succeeded. -/
def publishClass (fabric : Fabric J) (updated : ResourceRecord) (resource : ResourceId)
    (cls : ClassId) : Reply J ClassId :=
  fabric.publishResource updated resource "class state is not durable" fun fabric =>
    let lost := fabric.queues.values.any (losesBinding updated resource cls)
    let detail := if lost then "class declared; bound queues require rebinding"
      else "class declared"
    { fabric with queues := invalidateBound updated resource cls fabric.queues }.announce cls
      (topologyEvent resource detail)

def declareClass (fabric : Fabric J) (resource : ResourceId) (name : Text) (priority : UInt32)
    (qos : QosRef) (principal : OwnerId) (expectedEpoch : Epoch) (provenance : Provenance) :
    Reply J ClassId :=
  if fabric.shuttingDown then fabric.refuse stopping
  else if !provenance.valid then fabric.refuse provenanceRequired
  else if name.isEmpty || name.length > Limits.maxNameChars then
    fabric.refuse ⟨.outOfRange, "class name length is out of range"⟩
  else match fabric.findResource resource with
    | none => fabric.refuse resourceMissing
    | some record =>
        match authorize record.authority principal .declareTopology expectedEpoch
          record.applicability .active with
        | some refusal => fabric.refuse refusal.status
        | none =>
            match fabric.declareClassIn record resource name priority qos provenance with
            | .error status => fabric.refuse status
            | .ok (cls, classes, nextClassId) =>
                let fabric := { fabric with nextClassId }
                match record.generation.next with
                | .error status => fabric.refuse status
                | .ok generation =>
                    fabric.publishClass { record with classes, generation } resource cls

/-- Advances the first pool of that name; `none` when no pool carries it. -/
def redeclarePool (name : Text) (capacityBytes : UInt64) :
    List BufferPoolDef → Option (Except Status (PoolId × List BufferPoolDef))
  | [] => none
  | entry :: rest =>
      if entry.name = name then
        some (entry.generation.next.map fun generation =>
          (entry.id, { entry with generation, capacityBytes } :: rest))
      else (redeclarePool name capacityBytes rest).map fun result =>
        result.map fun updated => (updated.1, entry :: updated.2)

/-- The pool list a declaration produces, the pool it names, and the next pool identity. -/
def declarePoolIn (fabric : Fabric J) (record : ResourceRecord) (resource : ResourceId)
    (name : Text) (capacityBytes : UInt64) (provenance : Provenance) :
    Except Status (PoolId × List BufferPoolDef × UInt64) :=
  match redeclarePool name capacityBytes record.pools with
  | some (.error status) => .error status
  | some (.ok (id, pools)) => .ok (id, pools, fabric.nextPoolId)
  | none =>
      if record.pools.length ≥ fabric.config.limits.maxPoolsPerResource.toNat then
        .error ⟨.capacityExceeded, "pool capacity is exhausted"⟩
      else
        let id : PoolId := ⟨fabric.nextPoolId⟩
        let entry : BufferPoolDef := ⟨id, resource, name, capacityBytes, ⟨1⟩, provenance⟩
        .ok (id, record.pools ++ [entry], fabric.nextPoolId + 1)

def declarePool (fabric : Fabric J) (resource : ResourceId) (name : Text)
    (capacityBytes : UInt64) (principal : OwnerId) (expectedEpoch : Epoch)
    (provenance : Provenance) : Reply J PoolId :=
  if fabric.shuttingDown then fabric.refuse stopping
  else if !provenance.valid then fabric.refuse provenanceRequired
  else if name.isEmpty || name.length > Limits.maxNameChars then
    fabric.refuse ⟨.outOfRange, "pool name length is out of range"⟩
  else match fabric.findResource resource with
    | none => fabric.refuse resourceMissing
    | some record =>
        match authorize record.authority principal .declareTopology expectedEpoch
          record.applicability .active with
        | some refusal => fabric.refuse refusal.status
        | none =>
            match fabric.declarePoolIn record resource name capacityBytes provenance with
            | .error status => fabric.refuse status
            | .ok (pool, pools, nextPoolId) =>
                { fabric with nextPoolId }.publishResource { record with pools } resource
                  "pool state is not durable" fun fabric =>
                    fabric.announce pool (topologyEvent resource "pool declared")

/-! Backends. -/

def registrationEvent (resource : ResourceId) (now : Nanos) : Event :=
  { kind := .backendRegistered, time := now, resource,
    detail := text "backend incarnation registered" }

/-- Registration publishes before it writes: the entry stays when the write fails. -/
def admitBackend (fabric : Fabric J) (record : ResourceRecord) (resource : ResourceId)
    (entry : BackendIncarnation) (now : Nanos) : Reply J BackendId :=
  let updated := { record with backends := record.backends ++ [entry] }
  let fabric := { fabric with
    nextBackendId := fabric.nextBackendId + 1
    resources := fabric.resources.insert resource updated }
  orRefuse (fabric.persist .resourceState (encodeResourceState updated)
    "backend registration is not durable") fun fabric =>
      Reply.emit ⟨.ok entry.backend, [registrationEvent resource now], fabric⟩

def registerBackend (fabric : Fabric J) (resource : ResourceId) (incarnation : Incarnation)
    (principal : OwnerId) (expectedEpoch : Epoch) (provenance : Provenance) :
    Reply J BackendId :=
  if fabric.shuttingDown then fabric.refuse stopping
  else if !provenance.valid then fabric.refuse provenanceRequired
  else if !incarnation.valid then
    fabric.refuse ⟨.invalidArgument, "backend incarnation is required"⟩
  else match fabric.findResource resource with
    | none => fabric.refuse resourceMissing
    | some record =>
        match authorize record.authority principal .declareTopology expectedEpoch
          record.applicability .active with
        | some refusal => fabric.refuse refusal.status
        | none =>
            fabric.atNow fun now fabric =>
              if record.backends.length ≥ fabric.config.limits.maxResources.toNat then
                fabric.refuse ⟨.capacityExceeded, "backend capacity is exhausted"⟩
              else
                fabric.admitBackend record resource
                  ⟨⟨fabric.nextBackendId⟩, resource, incarnation, fabric.epoch, now, true⟩ now

/-- Clears the liveness of the first registration of a backend identity. -/
def killBackend (backend : BackendId) : List BackendIncarnation → List BackendIncarnation
  | [] => []
  | entry :: rest =>
      if entry.backend = backend then { entry with alive := false } :: rest
      else entry :: killBackend backend rest

def burialEvent (resource : ResourceId) (now : Nanos) : Event :=
  { kind := .backendDead, time := now, resource,
    detail := text "backend incarnation marked dead" }

/-- Persists, publishes and announces a backend death. -/
def buryBackend (fabric : Fabric J) (key : ResourceId) (updated : ResourceRecord) : Reply J Unit :=
  orRefuse (fabric.persistIfJournaled .resourceState (encodeResourceState updated)
    "backend death is not durable") fun fabric =>
    { fabric with resources := fabric.resources.insert key updated }.announce ()
      (burialEvent updated.id)

def markBackendDead (fabric : Fabric J) (backend : BackendId) (incarnation : Incarnation)
    (principal : OwnerId) (expectedEpoch : Epoch) : Reply J Unit :=
  if fabric.shuttingDown then fabric.refuse stopping
  else match fabric.resources.entries.find? fun entry =>
      entry.2.backends.any fun registered => registered.backend = backend with
    | none => fabric.refuse ⟨.notFound, "backend is not registered"⟩
    | some (key, record) =>
        match authorize record.authority principal .admin expectedEpoch record.applicability
          .active with
        | some refusal => fabric.refuse refusal.status
        | none =>
            let named := record.backends.find? fun registered => registered.backend = backend
            if named.map (·.incarnation) ≠ some incarnation then
              fabric.refuse ⟨.staleIncarnation,
                "backend incarnation does not match the live registration"⟩
            else
              fabric.buryBackend key
                { record with backends := killBackend backend record.backends }

/-! Governance. -/

def withEpoch (epoch : Epoch) (record : ResourceRecord) : ResourceRecord :=
  { record with epoch, authority := { record.authority with epoch } }

/-- The queue side of an epoch advance. -/
def supersedeEpoch (queue : QueueRecord) : QueueRecord :=
  let queue := if queue.occupancy.present then
    { queue with
      occupancy := invalidateOccupancy queue.occupancy .staleEpoch
      applicability := queue.applicability.union .stale
      stalenessEvents := queue.stalenessEvents + 1 }
    else queue
  if queue.applied.known then
    { queue with applicability := queue.applicability.union .stale } else queue

def countPresent (queues : Table QueueId QueueRecord) : Nat :=
  queues.values.countP fun queue => queue.occupancy.present

/-- The engine once a new epoch is durable. -/
def enterEpoch (fabric : Fabric J) (epoch : Epoch) : Fabric J :=
  let staled := UInt64.ofNat (countPresent fabric.queues)
  { fabric with
    epoch
    resources := fabric.resources.mapValues fun _ record => withEpoch epoch record
    queues := fabric.queues.mapValues fun _ queue => supersedeEpoch queue
    stats := { fabric.stats with stalenessEvents := fabric.stats.stalenessEvents + staled } }

def epochEvent (epoch : Epoch) (now : Nanos) : Event :=
  { kind := .topologyChanged, time := now, epoch, detail := text "coordinator epoch advanced" }

/-- The new epoch is durable before it becomes authoritative in memory. -/
def admitEpoch (fabric : Fabric J) (epoch : Epoch) : Reply J Epoch :=
  let encoded := encodeEpochState ⟨fabric.boot, epoch, fabric.coordinatorIncarnation⟩
  if fabric.journal.isSome && encoded.isEmpty then
    fabric.refuse ⟨.internal, "epoch state could not be encoded"⟩
  else
    orRefuse (fabric.persist .epochState encoded "epoch advance did not reach stable storage")
      fun fabric => (fabric.enterEpoch epoch).announce epoch (epochEvent epoch)

def advanceEpoch (fabric : Fabric J) (principal : OwnerId) (provenance : Provenance) :
    Reply J Epoch :=
  let authorized := fabric.resources.values.isEmpty || fabric.resources.values.any fun record =>
    hasCapability (record.authority.capabilitiesOf principal) .admin
  if fabric.shuttingDown then fabric.refuse stopping
  else if !fabric.healthy then fabric.refuse unhealthy
  else if !provenance.valid then fabric.refuse provenanceRequired
  else if !authorized then
    fabric.refuse ⟨.authorityDenied, "epoch-advance-requires-administrative-authority"⟩
  else match fabric.epoch.next with
    | .error status => fabric.refuse status
    | .ok epoch => fabric.admitEpoch epoch

/-- The queue side of `invalidate_evidence`. -/
def invalidateQueue (queue : QueueRecord) : QueueRecord :=
  { queue with
    occupancy := if queue.occupancy.present then
      invalidateOccupancy queue.occupancy .staleBackend else queue.occupancy
    applicability := queue.applicability.union .stale
    stalenessEvents := queue.stalenessEvents + 1 }

def evidenceEvent (queue : QueueId) (resource : ResourceId) (reason : Text) (now : Nanos) :
    Event :=
  { kind := .occupancyRejected, time := now, queue, resource, code := .staleOccupancy,
    detail := bounded reason Limits.maxReasonChars }

def invalidateEvidence (fabric : Fabric J) (id : QueueId) (principal : OwnerId)
    (expectedEpoch : Epoch) (reason : Text) : Reply J Unit :=
  match fabric.findQueue id with
  | none => fabric.refuse ⟨.notFound, "queue is not declared"⟩
  | some queue =>
      match fabric.findResource queue.definition.resource with
      | none => fabric.refuse ⟨.internal, "queue references an unknown resource"⟩
      | some resource =>
          match authorize resource.authority principal .admin expectedEpoch queue.applicability
            queue.lifecycle with
          | some refusal => fabric.refuse refusal.status
          | none =>
              { fabric with
                queues := fabric.queues.insert id (invalidateQueue queue)
                stats := { fabric.stats with
                  stalenessEvents := fabric.stats.stalenessEvents + 1 } }.announce ()
                (evidenceEvent id queue.definition.resource reason)

/-! Two-phase backend application. -/

/-- Structurally valid provenance for markers that carry no publisher of their own. -/
def markerProvenance (plan : BackendPlan) : Provenance where
  publisher := ⟨if plan.principal.valid then plan.principal.value else 1⟩
  node := ⟨plan.resource.value⟩
  incarnation := ⟨1⟩
  epoch := plan.epoch
  sequence := ⟨plan.attempt.counter⟩
  boot := ⟨1, 1⟩

def planMarker (plan : BackendPlan) (provenance : Provenance) (kind : MutationKind) :
    MutationRequest where
  kind := kind
  attempt := plan.attempt
  queue := plan.queue
  expectedGeneration := plan.expectedGeneration
  expectedEpoch := plan.epoch
  principal := plan.principal
  provenance := provenance
  payload := if kind = .noOp then .monostate else .backendAck {}

/-- The reservation list is bounded: the oldest entry makes room. -/
def reserve (fabric : Fabric J) (plan : BackendPlan) : Fabric J :=
  let pending := fabric.pending ++
    [⟨plan.attempt, plan.queue, .acknowledgeBackend, plan.plannedAt⟩]
  { fabric with
    plans := fabric.plans.emplace plan.attempt plan
    pending := if pending.length > fabric.config.limits.maxPendingAttempts.toNat then
      pending.tail else pending }

def reservedEvent (plan : BackendPlan) : Event :=
  { kind := .mutationApplied, time := plan.plannedAt, queue := plan.queue,
    resource := plan.resource, mutation := .acknowledgeBackend, attempt := plan.attempt,
    generation := plan.expectedGeneration, detail := text "backend apply reserved" }

/-- Phase 1 durability: the reservation is recorded before any external effect can happen. -/
def recordPlan (fabric : Fabric J) (plan : BackendPlan) (provenance : Provenance) :
    Reply J BackendPlan :=
  let encoded := encodeMutation (planMarker plan provenance .acknowledgeBackend)
  if fabric.journal.isSome && encoded.isEmpty then
    fabric.refuse ⟨.internal, "reservation could not be encoded"⟩
  else
    orRefuse (fabric.persist .beginAttempt encoded "reservation did not reach stable storage")
      fun fabric => Reply.emit ⟨.ok plan, [reservedEvent plan], fabric.reserve plan⟩

def reservePlan (fabric : Fabric J) (plan : BackendPlan) (provenance : Provenance) :
    Reply J BackendPlan :=
  let observed := fabric.provenance.observe provenance
  orRefuse (observed.1, { fabric with provenance := observed.2 }) fun fabric =>
    fabric.recordPlan plan provenance

def plannedApply (fabric : Fabric J) (queue : QueueRecord) (id : QueueId)
    (expected : Generation) (principal : OwnerId) (provenance : Provenance) (now : Nanos) :
    BackendPlan where
  attempt := ⟨provenance.publisher, provenance.sequence.value⟩
  queue := id
  resource := queue.definition.resource
  expectedGeneration := expected
  cls := queue.definition.cls
  thresholds := fabric.config.policy.resolve queue.definition.thresholds queue.definition.cls.id
  principal := principal
  epoch := fabric.epoch
  plannedAt := now

def admitPlan (fabric : Fabric J) (plan : BackendPlan) (provenance : Provenance) :
    Reply J BackendPlan :=
  if fabric.plans.contains plan.attempt then
    fabric.refuse ⟨.conflict, "attempt identity is already reserved"⟩
  else fabric.reservePlan plan provenance

def planBackendApply (fabric : Fabric J) (id : QueueId) (expected : Generation)
    (principal : OwnerId) (provenance : Provenance) : Reply J BackendPlan :=
  if fabric.shuttingDown then fabric.refuse stopping
  else if !fabric.healthy then fabric.refuse unhealthy
  else if !provenance.valid then fabric.refuse provenanceRequired
  else match fabric.findQueue id with
    | none => fabric.refuse ⟨.notFound, "queue is not declared"⟩
    | some queue =>
        match fabric.findResource queue.definition.resource with
        | none => fabric.refuse ⟨.internal, "queue references an unknown resource"⟩
        | some resource =>
            match authorize resource.authority principal .acknowledgeBackend fabric.epoch
              queue.applicability queue.lifecycle with
            | some refusal => fabric.refuse refusal.status
            | none =>
                let bound := (resource.findClass queue.definition.cls.id).map (·.generation)
                let classified := fabric.provenance.classify provenance
                if !expected.valid || expected ≠ queue.definition.generation then
                  fabric.refuse ⟨.staleGeneration, "expected-generation-mismatch"⟩
                else if bound ≠ some queue.definition.cls.generation then
                  fabric.refuse ⟨.staleGeneration, "class-binding-not-exact-generation"⟩
                else if fabric.plans.size ≥ fabric.config.limits.maxPendingAttempts.toNat then
                  fabric.refuse ⟨.capacityExceeded, "backend reservations are exhausted"⟩
                else if classified ≠ .accepted then
                  fabric.refuse ⟨if classified = .duplicate then .replayDetected
                    else .staleIncarnation, classified.name⟩
                else
                  fabric.atNow fun now fabric =>
                    fabric.admitPlan
                      (fabric.plannedApply queue id expected principal provenance now) provenance

/-- Drops the first pending entry of an attempt. -/
def erasePending (attempt : AttemptId) : List PendingAttempt → List PendingAttempt
  | [] => []
  | entry :: rest => if entry.attempt = attempt then rest else entry :: erasePending attempt rest

def release (fabric : Fabric J) (attempt : AttemptId) : Fabric J :=
  { fabric with
    plans := fabric.plans.erase attempt
    pending := erasePending attempt fabric.pending }

/-- The acknowledgement a reservation commits. -/
def planRequest (fabric : Fabric J) (plan : BackendPlan) (applied : BackendApplied)
    (provenance : Provenance) : MutationRequest where
  kind := .acknowledgeBackend
  queue := plan.queue
  expectedGeneration := plan.expectedGeneration
  expectedEpoch := fabric.epoch
  principal := plan.principal
  provenance := provenance
  attempt := plan.attempt
  payload := .backendAck applied

/-- The acknowledgement path after the commit marker is durable. -/
def acknowledgePlan (fabric : Fabric J) (plan : BackendPlan) (queue : QueueRecord)
    (request : MutationRequest) : Reply J MutationOutcome :=
  fabric.atNow fun now fabric =>
    let reply := fabric.applyExistingLocked plan.queue queue request now
    match reply.result with
    | .ok outcome => Reply.emit ⟨.ok outcome, reply.events, reply.fabric.release plan.attempt⟩
    | .error status => Reply.emit ⟨.error status, reply.events, reply.fabric⟩

/-- The commit marker is durable before the acknowledgement becomes authoritative. -/
def commitPlan (fabric : Fabric J) (plan : BackendPlan) (queue : QueueRecord)
    (request : MutationRequest) : Reply J MutationOutcome :=
  let encoded := encodeMutation request
  if fabric.journal.isSome && encoded.isEmpty then
    fabric.refuse ⟨.internal, "commit marker could not be encoded"⟩
  else
    orRefuse (fabric.persist .commitMutation encoded "commit marker did not reach stable storage")
      fun fabric => fabric.acknowledgePlan plan queue request

def commitBackendApply (fabric : Fabric J) (plan : BackendPlan) (applied : BackendApplied)
    (provenance : Provenance) : Reply J MutationOutcome :=
  if fabric.shuttingDown then fabric.refuse stopping
  else if !fabric.plans.contains plan.attempt then
    fabric.refuse ⟨.notFound, "no such backend reservation"⟩
  else match fabric.findQueue plan.queue with
    | none => fabric.refuse ⟨.notFound, "queue is not declared"⟩
    | some queue =>
        if queue.definition.generation ≠ plan.expectedGeneration then
          fabric.refuse ⟨.staleGeneration, "queue definition changed while the apply was planned"⟩
        else if !provenance.valid then fabric.refuse provenanceRequired
        else fabric.commitPlan plan queue (fabric.planRequest plan applied provenance)

def abortedEvent (plan : BackendPlan) (reason : Text) (now : Nanos) : Event :=
  { kind := .mutationRejected, time := now, queue := plan.queue, resource := plan.resource,
    mutation := .acknowledgeBackend, attempt := plan.attempt, code := .cancelled,
    detail := text "backend apply aborted: " ++ bounded reason Limits.maxReasonChars }

/-- Aborting is served even while shutting down. -/
def abortBackendApply (fabric : Fabric J) (plan : BackendPlan) (reason : Text) : Reply J Unit :=
  if !fabric.plans.contains plan.attempt then
    fabric.refuse ⟨.notFound, "no such backend reservation"⟩
  else
    let encoded := encodeMutation (planMarker plan (markerProvenance plan) .noOp)
    if fabric.journal.isSome && encoded.isEmpty then
      fabric.refuse ⟨.internal, "abort marker could not be encoded"⟩
    else
      orRefuse (fabric.persistIfJournaled .commitMutation encoded
        "abort marker did not reach stable storage") fun fabric =>
          (fabric.release plan.attempt).announce () (abortedEvent plan reason)

/-! Explanations. -/

/-- The explanation fields that rest on evidence; the copied identity fields are left out. -/
structure Explanation where
  queue : QueueId
  generation : Generation
  lifecycle : Lifecycle
  applicability : Applicability
  authorityEpoch : Epoch
  principalCapabilities : UInt32
  occupancy : OccupancyState
  thresholds : Thresholds
  thresholdEval : ThresholdEvaluation
  drainAssessment : DrainAssessment
  backendVerification : Option (Code × String)

def explainQueue (fabric : Fabric J) (queue : QueueRecord) (principal : OwnerId) (now : Nanos) :
    Explanation :=
  let definition := queue.definition
  let policy := occupancyPolicyFor fabric.config queue
  let authority := (fabric.findResource definition.resource).map (·.authority)
  let who := if principal.valid then principal else definition.owner
  let occupancy := { queue.occupancy with
    age := occupancyAge now queue.occupancy.observedAt
    freshness := classifyFreshness queue.occupancy now policy definition.generation }
  let thresholds := fabric.config.policy.resolve definition.thresholds definition.cls.id
  let evidence := queue.drain.evidence.backend.backend
  let appliedBackend := if queue.applied.backend.valid then queue.applied.backend else evidence
  { queue := definition.id
    generation := definition.generation
    lifecycle := queue.lifecycle
    applicability := queue.applicability
    authorityEpoch := (authority.map (·.epoch)).getD default
    principalCapabilities := (authority.map (·.capabilitiesOf who)).getD 0
    occupancy
    thresholds
    thresholdEval := evaluateThresholds thresholds occupancy.bytes occupancy.packets
      (occupancy.freshness = .fresh)
    drainAssessment := assessDrain queue.drain occupancy
      (fabric.findLiveBackend definition.resource evidence) fabric.epoch policy now
    backendVerification := match fabric.findLiveBackend definition.resource appliedBackend with
      | some live => verifyBackendApplied queue.applied live fabric.epoch definition.generation
          definition.cls
      | none => some (.staleIncarnation, "backend-incarnation-not-live") }

def explain (fabric : Fabric J) (id : QueueId) (principal : OwnerId) : Reply J Explanation :=
  match fabric.findQueue id with
  | none => fabric.refuse ⟨.notFound, "queue is not declared"⟩
  | some queue =>
      fabric.atNow fun now fabric =>
        ⟨.ok (fabric.explainQueue queue principal now), [], fabric⟩

/-! Maintenance. -/

def refreshedFreshness (config : FabricConfig) (queue : QueueRecord) (now : Nanos) : Freshness :=
  classifyFreshness queue.occupancy now (occupancyPolicyFor config queue)
    queue.definition.generation

/-- Whether a refresh counts as a staleness event. -/
def refreshStales (config : FabricConfig) (queue : QueueRecord) (now : Nanos) : Bool :=
  let freshness := refreshedFreshness config queue now
  freshness ≠ queue.occupancy.freshness && freshness ≠ .fresh && freshness ≠ .unknown

def refreshQueueLocked (config : FabricConfig) (queue : QueueRecord) (now : Nanos) :
    QueueRecord :=
  let occupancy := { queue.occupancy with
    age := occupancyAge now queue.occupancy.observedAt
    freshness := refreshedFreshness config queue now }
  let refreshed := { queue with occupancy := occupancy }
  if refreshStales config queue now then
    { refreshed with stalenessEvents := queue.stalenessEvents + 1 } else refreshed

def refreshFreshness (fabric : Fabric J) : Reply J Unit :=
  if fabric.shuttingDown then fabric.refuse stopping
  else
    fabric.atNow fun now fabric =>
      let staled := fabric.queues.values.countP fun queue => refreshStales fabric.config queue now
      ⟨.ok (), [], { fabric with
        queues := fabric.queues.mapValues fun _ queue =>
          refreshQueueLocked fabric.config queue now
        stats := { fabric.stats with
          stalenessEvents := fabric.stats.stalenessEvents + UInt64.ofNat staled } }⟩

/-- Entries of a table in ascending key order. -/
def sortedValues {tag : IdTag} {ν : Type} (table : Table (Ident tag) ν) : List ν :=
  (table.entries.mergeSort fun left right => left.1.value ≤ right.1.value).map Prod.snd

def buildSnapshotLocked (fabric : Fabric J) : List JournalRecord :=
  ⟨.epochState, encodeEpochState ⟨fabric.boot, fabric.epoch, fabric.coordinatorIncarnation⟩⟩ ::
    ((sortedValues fabric.resources).map fun resource =>
      ⟨.resourceState, encodeResourceState resource⟩) ++
    ((sortedValues fabric.queues).map fun queue => ⟨.queueState, encodeQueueState queue⟩)

def compact (fabric : Fabric J) : Reply J Unit :=
  match fabric.journal with
  | none => fabric.refuse ⟨.unsupported, "no journal configured"⟩
  | some journal =>
      if fabric.shuttingDown then fabric.refuse stopping
      else if fabric.plans.size ≠ 0 then
        fabric.refuse ⟨.busy, "compaction refused while backend attempts are reserved"⟩
      else
        let records := fabric.buildSnapshotLocked
        let rewritten := IJournal.rewrite journal records
        orRefuse (rewritten.1, { fabric with journal := some rewritten.2 }) fun fabric =>
          ⟨.ok (), [], { fabric with
            stats := { fabric.stats with
              journalRecords := fabric.stats.journalRecords + UInt64.ofNat records.length } }⟩

/-- The final sync is best effort: its status is ignored. -/
def shutdown (fabric : Fabric J) : Reply J Unit :=
  if fabric.shuttingDown then ⟨.ok (), [], fabric⟩
  else
    { fabric with
      shuttingDown := true
      pending := []
      journal := fabric.journal.map fun journal => (IJournal.sync journal).2 }.announce ()
      fun now => { kind := .shutdown, time := now,
                   detail := text "fabric stopped accepting work" }

end Fabric

end QueueFabric
