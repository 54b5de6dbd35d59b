import QueueFabric.RecoveryCore

/-!
The fabric as a system: every public operation as a call, the answers it gives,
one process life as a sequence of calls, and several lives over one store.
-/

namespace QueueFabric

inductive Call
  | recover
  | shutdown
  | declareResource (name : Text) (owner : OwnerId) (provenance : Provenance)
  | grantCapabilities (resource : ResourceId) (grantee : OwnerId) (capabilities : UInt32)
      (principal : OwnerId) (expectedEpoch : Epoch) (provenance : Provenance)
  | declareClass (resource : ResourceId) (name : Text) (priority : UInt32) (qos : QosRef)
      (principal : OwnerId) (expectedEpoch : Epoch) (provenance : Provenance)
  | declarePool (resource : ResourceId) (name : Text) (capacityBytes : UInt64)
      (principal : OwnerId) (expectedEpoch : Epoch) (provenance : Provenance)
  | registerBackend (resource : ResourceId) (incarnation : Incarnation) (principal : OwnerId)
      (expectedEpoch : Epoch) (provenance : Provenance)
  | markBackendDead (backend : BackendId) (incarnation : Incarnation) (principal : OwnerId)
      (expectedEpoch : Epoch)
  | advanceEpoch (principal : OwnerId) (provenance : Provenance)
  | invalidateEvidence (queue : QueueId) (principal : OwnerId) (expectedEpoch : Epoch)
      (reason : Text)
  | apply (request : MutationRequest)
  | planBackendApply (queue : QueueId) (expected : Generation) (principal : OwnerId)
      (provenance : Provenance)
  | commitBackendApply (plan : BackendPlan) (applied : BackendApplied) (provenance : Provenance)
  | abortBackendApply (plan : BackendPlan) (reason : Text)
  | explain (queue : QueueId) (principal : OwnerId)
  | refreshFreshness
  | compact

inductive Answer
  | done
  | identity (value : UInt64)
  | outcome (outcome : MutationOutcome)
  | plan (plan : BackendPlan)
  | explanation (explanation : Fabric.Explanation)

/-- A reply with its value rendered as an answer. -/
def Reply.answered {J α : Type} (reply : Reply J α) (render : α → Answer) : Reply J Answer :=
  ⟨reply.result.map render, reply.events, reply.fabric⟩

namespace Fabric

variable {J : Type} [IJournal J]

def serve (fabric : Fabric J) : Call → Reply J Answer
  | .recover => fabric.recover.answered fun _ => .done
  | .shutdown => fabric.shutdown.answered fun _ => .done
  | .declareResource name owner provenance =>
      (fabric.declareResource name owner provenance).answered fun id => .identity id.value
  | .grantCapabilities resource grantee capabilities principal epoch provenance =>
      (fabric.grantCapabilities resource grantee capabilities principal epoch
        provenance).answered fun _ => .done
  | .declareClass resource name priority qos principal epoch provenance =>
      (fabric.declareClass resource name priority qos principal epoch provenance).answered
        fun id => .identity id.value
  | .declarePool resource name capacityBytes principal epoch provenance =>
      (fabric.declarePool resource name capacityBytes principal epoch provenance).answered
        fun id => .identity id.value
  | .registerBackend resource incarnation principal epoch provenance =>
      (fabric.registerBackend resource incarnation principal epoch provenance).answered
        fun id => .identity id.value
  | .markBackendDead backend incarnation principal epoch =>
      (fabric.markBackendDead backend incarnation principal epoch).answered fun _ => .done
  | .advanceEpoch principal provenance =>
      (fabric.advanceEpoch principal provenance).answered fun epoch => .identity epoch.value
  | .invalidateEvidence queue principal epoch reason =>
      (fabric.invalidateEvidence queue principal epoch reason).answered fun _ => .done
  | .apply request => (fabric.apply request).answered .outcome
  | .planBackendApply queue expected principal provenance =>
      (fabric.planBackendApply queue expected principal provenance).answered .plan
  | .commitBackendApply plan applied provenance =>
      (fabric.commitBackendApply plan applied provenance).answered .outcome
  | .abortBackendApply plan reason =>
      (fabric.abortBackendApply plan reason).answered fun _ => .done
  | .explain queue principal => (fabric.explain queue principal).answered .explanation
  | .refreshFreshness => fabric.refreshFreshness.answered fun _ => .done
  | .compact => fabric.compact.answered fun _ => .done

/-- What a caller of one process life saw: the call and its result. -/
structure Served where
  call : Call
  result : Except Status Answer

/-- The fabric after a sequence of calls, in the order the lock admitted them. -/
def serveAll (fabric : Fabric J) (calls : List Call) : Fabric J :=
  calls.foldl (fun fabric call => (fabric.serve call).fabric) fabric

/-- The calls of one process life with their results, oldest first. -/
def history (fabric : Fabric J) : List Call → List Served
  | [] => []
  | call :: rest =>
      let reply := fabric.serve call
      ⟨call, reply.result⟩ :: reply.fabric.history rest

end Fabric

/-! Several process lives over one stable store. -/

/-- One step of the system: a call served under a script of store outcomes, or a crash followed
by a new fabric that recovers. A crash keeps `survivors` of the records never synced. -/
inductive Step
  | call (call : Call) (script : List Bool)
  | restart (survivors : Nat) (clock : Clock) (seed : UInt64) (script : List Bool)

structure System where
  fabric : Fabric StableStore
  result : Except Status Answer

namespace System

def store (system : System) : StableStore := system.fabric.journal.getD {}

def withScript (fabric : Fabric StableStore) (script : List Bool) : Fabric StableStore :=
  { fabric with journal := fabric.journal.map fun store => { store with script } }

/-- A new process on what a crash left of the journal, if there is one. -/
def boot (config : FabricConfig) (journal : Option StableStore) (clock : Clock) (seed : UInt64)
    (script : List Bool) : System :=
  let fabric := withScript (Fabric.create config clock journal seed) script
  let reply := fabric.serve .recover
  ⟨reply.fabric, reply.result⟩

def step (system : System) : Step → System
  | .call call script =>
      let reply := (withScript system.fabric script).serve call
      ⟨reply.fabric, reply.result⟩
  | .restart survivors clock seed script =>
      boot system.fabric.config (system.fabric.journal.map (·.crash survivors)) clock seed script

def run (system : System) (steps : List Step) : System := steps.foldl step system

end System

end QueueFabric
