import QueueFabric.FabricCore

/-!
`fabric_invariants.cpp`: the audit a fabric runs over itself. It names every rule
it finds broken, with the queue that breaks it.
-/

namespace QueueFabric

/-! `lifecycle.hpp`, `queue.hpp`. -/

def Lifecycle.isTerminal (lifecycle : Lifecycle) : Bool := lifecycle = .retired

def Lifecycle.acceptsMutation (lifecycle : Lifecycle) (applicability : Applicability) : Bool :=
  if lifecycle = .retired || lifecycle = .failed then false
  else if applicability.hasFlag .fenced then false
  else true

def QueueRecord.acceptsFreshMutation (queue : QueueRecord) : Bool :=
  queue.lifecycle.acceptsMutation queue.applicability

/-! The rules. -/

/-- What `validate_invariants` looks for, in its order. -/
inductive InvariantRule
  | queueCapacity
  | resourceCapacity
  | pendingCapacity
  | queueKey
  | queueName
  | queueGeneration
  | classInvalid
  | resourceUnknown
  | classUnknown
  | classSuperseded
  | poolUnknown
  | poolSuperseded
  | ladder
  | nameTaken
  | nameIndex
  | memoBound
  | generationZero
  | overflowUnreported
  | quiescedOccupied
  | quiescedUndrained
  | retiredOccupied
  | drainedUnquiesced
  | drainedActive
  | fenceFlag
  | retiredAccepts
  | acknowledgedFuture
  | freshUnbound
  | resourceKey
  | grantBound
  | classBound
  | poolBound
  | queueCount
  | planUnknown
  | planSuperseded
  deriving DecidableEq

namespace InvariantRule

def text : InvariantRule → String
  | queueCapacity => "INV-CAPACITY: queue count exceeds the configured maximum"
  | resourceCapacity => "INV-CAPACITY: resource count exceeds the configured maximum"
  | pendingCapacity => "INV-CAPACITY: pending attempts exceed the configured maximum"
  | queueKey => "INV-IDENTITY: queue record key does not match the queue identity: "
  | queueName => "INV-IDENTITY: queue name is empty or over the configured bound: "
  | queueGeneration => "INV-IDENTITY: queue generation is not valid: "
  | classInvalid => "INV-BINDING: class binding is not valid: "
  | resourceUnknown => "INV-TOPOLOGY: queue references an unknown resource: "
  | classUnknown => "INV-BINDING: queue references an unknown scheduling class: "
  | classSuperseded => "INV-BINDING: class binding generation is not current: "
  | poolUnknown => "INV-BINDING: queue references an unknown buffer pool: "
  | poolSuperseded => "INV-BINDING: pool reference generation is not current: "
  | ladder => "INV-THRESHOLD: threshold ladder is inconsistent: "
  | nameTaken => "INV-IDENTITY: queue name is not unique within its resource: "
  | nameIndex => "INV-IDENTITY: name index does not resolve to this queue: "
  | memoBound => "INV-BOUND: attempt memo exceeds the configured bound: "
  | generationZero => "INV-GENERATION: queue generation is zero: "
  | overflowUnreported =>
      "INV-OVERFLOW: occupancy above the configured maximum was not reported: "
  | quiescedOccupied => "INV-DRAIN: quiesced queue holds non-zero occupancy: "
  | quiescedUndrained => "INV-DRAIN: quiesced queue has no completed drain phase: "
  | retiredOccupied => "INV-RETIRE: retired queue still carries occupancy state: "
  | drainedUnquiesced => "INV-DRAIN: completed drain without quiescence: "
  | drainedActive => "INV-DRAIN: active queue reports a completed drain: "
  | fenceFlag => "INV-FENCE: fence state and applicability flag disagree: "
  | retiredAccepts => "INV-LIFECYCLE: retired queue accepts fresh mutation: "
  | acknowledgedFuture => "INV-BACKEND: acknowledgement names a future queue generation: "
  | freshUnbound => "INV-STALE: occupancy from another generation is marked fresh: "
  | resourceKey => "INV-IDENTITY: resource key does not match the resource identity"
  | grantBound => "INV-BOUND: capability grants exceed the configured bound"
  | classBound => "INV-BOUND: class count exceeds the configured bound"
  | poolBound => "INV-BOUND: pool count exceeds the configured bound"
  | queueCount => "INV-TOPOLOGY: resource queue count does not match live queues"
  | planUnknown => "INV-PLAN: a backend reservation names an unknown queue"
  | planSuperseded => "INV-PLAN: a backend reservation is bound to a superseded generation"

def brokenIf (rule : InvariantRule) (broken : Bool) : List InvariantRule :=
  if broken then [rule] else []

end InvariantRule

structure Violation where
  rule : InvariantRule
  queue : Option QueueId := none

def Violation.text (violation : Violation) : Text :=
  QueueFabric.text violation.rule.text ++ match violation.queue with
    | none => []
    | some id => QueueFabric.text "queue " ++ id.toText

namespace Fabric

open InvariantRule

variable {J : Type} (fabric : Fabric J)

def capacityRules : List InvariantRule :=
  queueCapacity.brokenIf (fabric.queues.size > fabric.config.limits.maxQueuesTotal.toNat) ++
  resourceCapacity.brokenIf (fabric.resources.size > fabric.config.limits.maxResources.toNat) ++
  pendingCapacity.brokenIf
    (fabric.pending.length > fabric.config.limits.maxPendingAttempts.toNat)

def identityRules (key : QueueId) (queue : QueueRecord) : List InvariantRule :=
  queueKey.brokenIf (queue.definition.id ≠ key) ++
  queueName.brokenIf (queue.definition.name.isEmpty ||
    queue.definition.name.length > Limits.maxNameChars) ++
  queueGeneration.brokenIf (!queue.definition.generation.valid) ++
  classInvalid.brokenIf (!queue.definition.cls.valid)

def bindingRules (resource : ResourceRecord) (queue : QueueRecord) : List InvariantRule :=
  (match resource.findClass queue.definition.cls.id with
    | none => [classUnknown]
    | some cls => classSuperseded.brokenIf (cls.generation ≠ queue.definition.cls.generation)) ++
  (match resource.findPool queue.definition.pool.id with
    | none => [poolUnknown]
    | some pool => poolSuperseded.brokenIf (pool.generation ≠ queue.definition.pool.generation)) ++
  ladder.brokenIf (!queue.definition.thresholds.consistent)

def nameRules (seen : List Text) (queue : QueueRecord) : List InvariantRule :=
  let key := nameKey queue.definition.resource queue.definition.name
  nameTaken.brokenIf (key ∈ seen) ++
  nameIndex.brokenIf (fabric.queueNames.get? key ≠ some queue.definition.id)

/-- Bounds of a record and what its observation shows. -/
def evidenceRules (queue : QueueRecord) : List InvariantRule :=
  let maximum := queue.definition.thresholds.maxOccupancyBytes
  memoBound.brokenIf (queue.memo.length > fabric.config.limits.maxAttemptMemo.toNat) ++
  generationZero.brokenIf (queue.definition.id.valid && queue.definition.generation.valid &&
    queue.definition.generation.value = 0) ++
  overflowUnreported.brokenIf (queue.occupancy.present && queue.occupancy.freshness = .fresh &&
    queue.occupancy.queueGeneration = queue.definition.generation && maximum ≠ 0 &&
    queue.occupancy.bytes > maximum && queue.overflowEvents = 0)

def stateRules (queue : QueueRecord) : List InvariantRule :=
  quiescedOccupied.brokenIf (queue.lifecycle = .quiesced &&
    (queue.occupancy.bytes ≠ 0 || queue.occupancy.packets ≠ 0)) ++
  quiescedUndrained.brokenIf (queue.lifecycle = .quiesced && queue.drain.phase ≠ .completed) ++
  retiredOccupied.brokenIf (queue.lifecycle = .retired && queue.occupancy.present) ++
  drainedUnquiesced.brokenIf (queue.drain.phase = .completed && queue.lifecycle ≠ .quiesced) ++
  drainedActive.brokenIf (queue.lifecycle = .active && queue.drain.phase = .completed) ++
  fenceFlag.brokenIf (queue.fence.fenced ≠ queue.applicability.hasFlag .fenced) ++
  retiredAccepts.brokenIf (queue.lifecycle.isTerminal && queue.acceptsFreshMutation) ++
  acknowledgedFuture.brokenIf (queue.applied.known &&
    queue.applied.queueGeneration ≠ queue.definition.generation &&
    queue.applied.queueGeneration.value > queue.definition.generation.value) ++
  freshUnbound.brokenIf (queue.occupancy.queueGeneration.valid && queue.occupancy.present &&
    queue.occupancy.queueGeneration ≠ queue.definition.generation &&
    queue.occupancy.freshness = .fresh)

/-- A queue of an unknown resource is not looked at any further. -/
def queueRules (seen : List Text) (key : QueueId) (queue : QueueRecord) : List InvariantRule :=
  identityRules key queue ++ match fabric.findResource queue.definition.resource with
    | none => [resourceUnknown]
    | some resource => bindingRules resource queue ++ fabric.nameRules seen queue ++
        fabric.evidenceRules queue ++ stateRules queue

/-- The queues in turn; `seen` are the names of those before. -/
def checkQueues : List Text → List (QueueId × QueueRecord) → List Violation
  | _, [] => []
  | seen, (key, queue) :: rest =>
      let named := if (fabric.findResource queue.definition.resource).isSome then
        nameKey queue.definition.resource queue.definition.name :: seen else seen
      (fabric.queueRules seen key queue).map (fun rule => ⟨rule, some queue.definition.id⟩) ++
        checkQueues named rest

/-- The queues of a resource that were looked at. -/
def observedQueues (resource : ResourceId) : Nat :=
  fabric.queues.values.countP fun queue => queue.definition.resource = resource &&
    (fabric.findResource queue.definition.resource).isSome

def resourceRules (key : ResourceId) (resource : ResourceRecord) : List InvariantRule :=
  resourceKey.brokenIf (key ≠ resource.id) ++
  grantBound.brokenIf (resource.authority.grants.length >
    fabric.config.limits.maxGrantsPerResource.toNat) ++
  classBound.brokenIf (resource.classes.length >
    fabric.config.limits.maxClassesPerResource.toNat) ++
  poolBound.brokenIf (resource.pools.length > fabric.config.limits.maxPoolsPerResource.toNat) ++
  queueCount.brokenIf (resource.queueCount.toNat ≠ fabric.observedQueues resource.id)

def planRules (plan : BackendPlan) : List InvariantRule :=
  match fabric.findQueue plan.queue with
  | none => [planUnknown]
  | some queue => planSuperseded.brokenIf (queue.definition.generation ≠ plan.expectedGeneration)

/-- Every rule the fabric breaks; the source returns their number. -/
def validateInvariants : List Violation :=
  fabric.capacityRules.map (fun rule => ⟨rule, none⟩) ++
  fabric.checkQueues [] fabric.queues.entries ++
  (fabric.resources.entries.flatMap fun entry => fabric.resourceRules entry.1 entry.2).map
    (fun rule => ⟨rule, none⟩) ++
  (fabric.plans.values.flatMap fabric.planRules).map (fun rule => ⟨rule, none⟩)

end Fabric

end QueueFabric
