import QueueFabric.CallCases

/-!
What one call to the fabric can do, as one list of cases over `Call`. Invariants
of whole runs split on it and keep the details of a call where they belong.
-/

namespace QueueFabric

namespace Fabric

variable {J : Type}

theorem Refused.answered {α : Type} {before : Fabric J} {reply : Reply J α}
    (refused : Refused before reply) (render : α → Answer) :
    Refused before (reply.answered render) := by
  obtain ⟨status, failed⟩ := refused.failed
  exact ⟨⟨status, by rw [Reply.answered, failed]; rfl⟩, refused.touch, refused.journal,
    refused.classId⟩

variable [IJournal J]

theorem Recorded.answered {α : Type} {before lost kept : Fabric J} {type : JournalRecordType}
    {payload : Bytes} {value : α} {reply : Reply J α}
    (recorded : Recorded before type payload lost kept value reply) (render : α → Answer) :
    Recorded before type payload lost kept (render value) (reply.answered render) := by
  cases recorded with
  | lost status events after touch written => exact .lost status events after touch written
  | kept events after touch written => exact .kept events after touch written

/-- A topology call that edits one resource and leaves the queues alone: the resources and the next
identities after a failed write, after a good one, and the record it writes. -/
inductive ResourceEdit (fabric : Fabric J) : Call → Table ResourceId ResourceRecord → Identities →
    Table ResourceId ResourceRecord → Identities → ResourceRecord → Prop
  | declared (name : Text) (owner : OwnerId) (provenance : Provenance) (now : Nanos)
      (short : name.length ≤ Limits.maxNameChars) (record : ResourceRecord)
      (made : record = fabric.declaredResource name owner provenance now)
      (room : fabric.resources.size < fabric.config.limits.maxResources.toNat) :
      ResourceEdit fabric (.declareResource name owner provenance) fabric.resources
        fabric.identities (fabric.resources.emplace record.id record)
        { fabric.identities with resource := fabric.nextResourceId + 1 } record
  | granted (resource : ResourceId) (grantee : OwnerId) (capabilities : UInt32)
      (principal : OwnerId) (epoch : Epoch) (provenance : Provenance) (record : ResourceRecord)
      (grants : List AuthorityGrant) (found : fabric.findResource resource = some record)
      (shape : replaceGrant grantee capabilities record.authority.grants = some grants ∨
        replaceGrant grantee capabilities record.authority.grants = none ∧
          grants = record.authority.grants ++ [⟨grantee, capabilities⟩]) :
      ResourceEdit fabric
        (.grantCapabilities resource grantee capabilities principal epoch provenance)
        fabric.resources fabric.identities
        (fabric.resources.insert resource (withGrants record grants)) fabric.identities
        (withGrants record grants)
  | pooled (resource : ResourceId) (name : Text) (capacityBytes : UInt64) (principal : OwnerId)
      (epoch : Epoch) (provenance : Provenance) (record : ResourceRecord) (pool : PoolId)
      (pools : List BufferPoolDef) (nextPoolId : UInt64)
      (found : fabric.findResource resource = some record)
      (declared : fabric.declarePoolIn record resource name capacityBytes provenance =
        .ok (pool, pools, nextPoolId)) :
      ResourceEdit fabric (.declarePool resource name capacityBytes principal epoch provenance)
        fabric.resources { fabric.identities with pool := nextPoolId }
        (fabric.resources.insert resource { record with pools })
        { fabric.identities with pool := nextPoolId } { record with pools }
  | registered (resource : ResourceId) (incarnation : Incarnation) (principal : OwnerId)
      (epoch : Epoch) (provenance : Provenance) (record : ResourceRecord)
      (backends : List BackendIncarnation)
      (found : fabric.findResource resource = some record)
      (added : backends = record.backends ++ [fabric.registration resource incarnation]) :
      ResourceEdit fabric (.registerBackend resource incarnation principal epoch provenance)
        (fabric.resources.insert resource { record with backends })
        { fabric.identities with backend := fabric.nextBackendId + 1 }
        (fabric.resources.insert resource { record with backends })
        { fabric.identities with backend := fabric.nextBackendId + 1 } { record with backends }
  | buried (backend : BackendId) (incarnation : Incarnation) (principal : OwnerId) (epoch : Epoch)
      (key : ResourceId) (record : ResourceRecord) (backends : List BackendIncarnation)
      (found : fabric.findResource key = some record)
      (killed : backends = killBackend backend record.backends) :
      ResourceEdit fabric (.markBackendDead backend incarnation principal epoch)
        fabric.resources fabric.identities
        (fabric.resources.insert key { record with backends }) fabric.identities
        { record with backends }

/-- Every way a call ends. -/
inductive ServeCase (fabric : Fabric J) : Call → Reply J Answer → Prop
  | refused {call : Call} {reply : Reply J Answer} (refused : Refused fabric reply) :
      ServeCase fabric call reply
  | recovered :
      ServeCase fabric .recover (fabric.recover.answered fun _ => .done)
  | stopped {reply : Reply J Answer} (touch : Touch fabric reply.fabric)
      (journal : reply.fabric.journal = fabric.journal ∨
        reply.fabric.journal = fabric.journal.map fun journal => (IJournal.sync journal).2) :
      ServeCase fabric .shutdown reply
  | edited {call : Call} {reply : Reply J Answer} (lost kept : Table ResourceId ResourceRecord)
      (updated : ResourceRecord) (value : Answer) (spent issued : Identities)
      (edit : ResourceEdit fabric call lost spent kept issued updated)
      (recorded : Recorded fabric .resourceState (encodeResourceState updated)
        ({ fabric with resources := lost }.numbered spent)
        ({ fabric with resources := kept }.numbered issued) value reply) :
      ServeCase fabric call reply
  | classed {reply : Reply J Answer} (resource : ResourceId) (name : Text) (priority : UInt32)
      (qos : QosRef) (principal : OwnerId) (epoch : Epoch) (provenance : Provenance)
      (record : ResourceRecord) (cls : ClassId) (classes : List SchedulingClassDef)
      (nextClassId : UInt64) (generation : Generation)
      (found : fabric.findResource resource = some record)
      (declared : fabric.declareClassIn record resource name priority qos provenance =
        .ok (cls, classes, nextClassId))
      (recorded : Recorded fabric .resourceState
        (encodeResourceState { record with classes, generation }) { fabric with nextClassId }
        { fabric with
          nextClassId
          resources := fabric.resources.insert resource { record with classes, generation }
          queues := invalidateBound { record with classes, generation } resource cls
            fabric.queues } (.identity cls.value) reply) :
      ServeCase fabric (.declareClass resource name priority qos principal epoch provenance) reply
  | advanced {reply : Reply J Answer} (principal : OwnerId) (provenance : Provenance)
      (epoch : Epoch) (payload : Bytes) (minted : fabric.epoch.next = .ok epoch)
      (recorded : Recorded fabric .epochState payload fabric (fabric.enterEpoch epoch)
        (.identity epoch.value) reply) (healthy : fabric.healthy = true)
      (named : payload = encodeEpochState ⟨fabric.boot, epoch, fabric.coordinatorIncarnation⟩) :
      ServeCase fabric (.advanceEpoch principal provenance) reply
  | invalidated (id : QueueId) (principal : OwnerId) (epoch : Epoch) (reason : Text)
      (queue : QueueRecord) (events : List Event) (after : Fabric J)
      (found : fabric.findQueue id = some queue)
      (touch : Touch { fabric with queues := fabric.queues.insert id (invalidateQueue queue) } after)
      (journal : after.journal = fabric.journal) :
      ServeCase fabric (.invalidateEvidence id principal epoch reason) ⟨.ok .done, events, after⟩
  | applied (request : MutationRequest) (now : Nanos) (reply : Reply J MutationOutcome)
      (events : List Event) (after : Fabric J)
      (ended : ApplyCase fabric.monotonicNow.2 request now reply)
      (touch : Touch reply.fabric after) (journal : after.journal = reply.fabric.journal)
      (read : now = fabric.monotonicNow.1) :
      ServeCase fabric (.apply request) ⟨reply.result.map .outcome, events, after⟩
  | gated {reply : Reply J Answer} (id : QueueId) (expected : Generation) (principal : OwnerId)
      (provenance : Provenance)
      (accepted : fabric.provenance.classify provenance = .accepted)
      (refused : Refused { fabric with provenance := (fabric.provenance.observe provenance).2 }
        reply) :
      ServeCase fabric (.planBackendApply id expected principal provenance) reply
  | planned {reply : Reply J Answer} (id : QueueId) (expected : Generation) (principal : OwnerId)
      (provenance : Provenance) (plan : BackendPlan)
      (accepted : fabric.provenance.classify provenance = .accepted)
      (recorded : Recorded
        { fabric with provenance := (fabric.provenance.observe provenance).2 } .beginAttempt
        (encodeMutation (planMarker plan provenance .acknowledgeBackend))
        { fabric with provenance := (fabric.provenance.observe provenance).2 }
        { fabric with provenance := (fabric.provenance.observe provenance).2 }
        (.plan plan) reply) :
      ServeCase fabric (.planBackendApply id expected principal provenance) reply
  | committed (plan : BackendPlan) (applied : BackendApplied) (provenance : Provenance)
      (queue : QueueRecord) (reply : Reply J MutationOutcome)
      (found : fabric.findQueue plan.queue = some queue)
      (ended : CommitCase fabric plan queue (fabric.planRequest plan applied provenance) reply) :
      ServeCase fabric (.commitBackendApply plan applied provenance) (reply.answered .outcome)
  | aborted {reply : Reply J Answer} (plan : BackendPlan) (reason : Text)
      (recorded : Recorded fabric .commitMutation
        (encodeMutation (planMarker plan (markerProvenance plan) .noOp)) fabric fabric .done
        reply) :
      ServeCase fabric (.abortBackendApply plan reason) reply
  | explained {reply : Reply J Answer} (id : QueueId) (principal : OwnerId)
      (touch : Touch fabric reply.fabric) (journal : reply.fabric.journal = fabric.journal) :
      ServeCase fabric (.explain id principal) reply
  | refreshed {reply : Reply J Answer} (now : Nanos)
      (touch : Touch { fabric with
        queues := fabric.queues.mapValues fun _ queue =>
          refreshQueueLocked fabric.config queue now } reply.fabric)
      (journal : reply.fabric.journal = fabric.journal) :
      ServeCase fabric .refreshFreshness reply
  | compacted {reply : Reply J Answer} (journal : J) (present : fabric.journal = some journal)
      (touch : Touch fabric reply.fabric)
      (rewritten : reply.fabric.journal =
        some (IJournal.rewrite journal fabric.buildSnapshotLocked).2) :
      ServeCase fabric .compact reply

theorem serve_cases (fabric : Fabric J) (call : Call) :
    ServeCase fabric call (fabric.serve call) := by
  cases call with
  | recover => exact .recovered
  | shutdown =>
      obtain ⟨touch, journal⟩ := shutdown_cases fabric
      exact .stopped touch journal
  | declareResource name owner provenance =>
      rcases declareResource_cases fabric name owner provenance with
        refused | ⟨now, _, short, room, _, recorded⟩
      · exact .refused (refused.answered _)
      · exact .edited _ _ _ _ _ _ (.declared name owner provenance now short _ rfl room)
          (recorded.answered _)
  | grantCapabilities resource grantee capabilities principal epoch provenance =>
      rcases grantCapabilities_cases fabric resource grantee capabilities principal epoch
        provenance with refused | ⟨record, grants, found, shape, recorded⟩
      · exact .refused (refused.answered _)
      · exact .edited _ _ _ _ _ _ (.granted resource grantee capabilities principal epoch provenance
          record grants found shape) (recorded.answered _)
  | declareClass resource name priority qos principal epoch provenance =>
      rcases declareClass_cases fabric resource name priority qos principal epoch provenance with
        refused | ⟨record, cls, classes, nextClassId, generation, found, declared, _, recorded⟩
      · exact .refused (refused.answered _)
      · exact .classed resource name priority qos principal epoch provenance record cls classes
          nextClassId generation found declared (recorded.answered fun id => .identity id.value)
  | declarePool resource name capacityBytes principal epoch provenance =>
      rcases declarePool_cases fabric resource name capacityBytes principal epoch provenance with
        refused | ⟨record, pool, pools, nextPoolId, found, declared, recorded⟩
      · exact .refused (refused.answered _)
      · exact .edited _ _ _ _ _ _ (.pooled resource name capacityBytes principal epoch provenance
          record pool pools nextPoolId found declared) (recorded.answered _)
  | registerBackend resource incarnation principal epoch provenance =>
      rcases registerBackend_cases fabric resource incarnation principal epoch provenance with
        refused | ⟨record, value, found, recorded⟩
      · exact .refused (refused.answered _)
      · exact .edited _ _ _ _ _ _ (.registered resource incarnation principal epoch provenance
          record _ found rfl) (recorded.answered _)
  | markBackendDead backend incarnation principal epoch =>
      rcases markBackendDead_cases fabric backend incarnation principal epoch with
        refused | ⟨key, record, found, _, recorded⟩
      · exact .refused (refused.answered _)
      · exact .edited _ _ _ _ _ _ (.buried backend incarnation principal epoch key record _ found
          rfl) (recorded.answered _)
  | advanceEpoch principal provenance =>
      rcases advanceEpoch_cases fabric principal provenance with
        refused | ⟨epoch, minted, healthy, recorded⟩
      · exact .refused (refused.answered _)
      · exact .advanced principal provenance epoch _ minted
          (recorded.answered fun epoch => .identity epoch.value) healthy rfl
  | invalidateEvidence queue principal epoch reason =>
      rcases invalidateEvidence_cases fabric queue principal epoch reason with
        refused | ⟨record, events, after, found, equation, touch, journal⟩
      · exact .refused (refused.answered _)
      · simp only [serve, equation]
        exact .invalidated queue principal epoch reason record events after found touch journal
  | apply request =>
      exact .applied request fabric.monotonicNow.1 (fabric.applyLocked request) _ _
        (applyAt_cases _ request _) (emitted_touch _ _) rfl rfl
  | planBackendApply queue expected principal provenance =>
      rcases planBackendApply_cases fabric queue expected principal provenance with
        refused | ⟨accepted, refused | ⟨plan, recorded⟩⟩
      · exact .refused (refused.answered _)
      · exact .gated queue expected principal provenance accepted (refused.answered _)
      · exact .planned queue expected principal provenance plan accepted (recorded.answered _)
  | commitBackendApply plan applied provenance =>
      rcases commitBackendApply_cases fabric plan applied provenance with
        refused | ⟨queue, found, ended⟩
      · exact .refused (refused.answered _)
      · exact .committed plan applied provenance queue _ found ended
  | abortBackendApply plan reason =>
      rcases abortBackendApply_cases fabric plan reason with refused | recorded
      · exact .refused (refused.answered _)
      · exact .aborted plan reason (recorded.answered fun _ => .done)
  | explain queue principal =>
      obtain ⟨touch, journal⟩ := explain_cases fabric queue principal
      exact .explained queue principal touch journal
  | refreshFreshness =>
      rcases refreshFreshness_cases fabric with refused | ⟨now, touch, journal⟩
      · exact .refused (refused.answered _)
      · exact .refreshed now touch journal
  | compact =>
      rcases compact_cases fabric with refused | ⟨journal, present, touch, rewritten⟩
      · exact .refused (refused.answered _)
      · exact .compacted journal present touch rewritten

end Fabric

end QueueFabric
