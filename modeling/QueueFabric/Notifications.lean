import QueueFabric.Atomicity
import QueueFabric.Authority

/-!
What the sink is told about an application. A kind pushes its event while it works on
a copy; the event says what the published record then shows, but it is handed over
even when the commit that follows the kind fails.
-/

namespace QueueFabric

/-- The kinds of event that report a change of a queue. -/
def EventKind.reports : EventKind → Bool
  | .mutationApplied => true
  | .lifecycleChanged => true
  | .occupancyIngested => true
  | .occupancyRejected => true
  | .drainProgress => true
  | .fenceChanged => true
  | .queueDeclared => true
  | .queueRetired => true
  | _ => false

namespace Fabric

variable {J : Type}

section Kinds

variable (request : MutationRequest) (now : Nanos)

/-- The step of a drain that a request reports. -/
def DrainMoved (after : QueueRecord) : Prop :=
  match request.kind, request.payload with
  | .requestDrain, _ => after.lifecycle = .draining ∧ after.drain.phase = .requested ∧
      after.drain.attempt = request.attempt
  | .cancelDrain, _ => after.lifecycle = .active ∧ after.drain = {}
  | .submitDrainEvidence, .drainEvidence evidence => after.drain.phase = .evidencePending ∧
      after.drain.evidence = { evidence with revalidated := true }
  | _, _ => False

/-- What an event of a kind says about a record, and about the record it replaced if there was
one. -/
def Tells : Option QueueRecord → QueueRecord → EventKind → Prop
  | none, after, .queueDeclared => after.lifecycle = .declared ∧ after.mutationCount = 1
  | some before, after, .lifecycleChanged => after.lifecycle ≠ before.lifecycle
  | some before, after, .queueRetired => before.lifecycle ≠ .retired ∧ after.lifecycle = .retired
  | some before, after, .fenceChanged => after.fence.fenced ≠ before.fence.fenced
  | some _, after, .drainProgress => DrainMoved request after
  | some _, after, .occupancyIngested => ∃ sample, request.payload = .occupancy sample ∧
      after.occupancy = observed now sample
  | some _, _, .occupancyOverflow => request.kind = .ingestOccupancy
  | some before, after, .occupancyRejected =>
      before.definition.generation.next = .ok after.definition.generation ∧
        after.occupancy = invalidateOccupancy before.occupancy .staleGeneration
  | some _, after, .mutationApplied => ∀ acknowledged, request.kind = .acknowledgeBackend →
      request.payload = .backendAck acknowledged → after.applied = acknowledged
  | _, _, _ => False

variable {request now}

/-- A kind pushed nothing, or one event over the target it leaves. -/
def Pushed (request : MutationRequest) (now : Nanos) (before : QueueRecord)
    (applied : KindApplied) : Prop :=
  applied.events = [] ∨ ∃ kind code detail,
    applied.events = [kindEvent applied.target request now kind code detail] ∧
      Tells request now (some before) applied.target kind

/-- What a stage accepts, it pushes. -/
def Pushes (request : MutationRequest) (now : Nanos) (before : QueueRecord)
    (stage : Except Refusal KindApplied) : Prop :=
  ∀ applied, stage = .ok applied → Pushed request now before applied

variable {fabric : Fabric J} {target : QueueRecord}

theorem pushes_error (refusal : Refusal) : Pushes request now target (.error refusal) := by
  intro applied ok
  cases ok

theorem pushes_unchanged (rule : String) :
    Pushes request now target (unchanged fabric target rule) := by
  intro applied ok
  cases ok
  exact .inl rfl

theorem pushes_accept {updated : QueueRecord} {rule : String} {kind : EventKind} {code : Code}
    {detail : Text} (told : Tells request now (some target) updated kind) :
    Pushes request now target
      (accept fabric updated rule [kindEvent updated request now kind code detail]) := by
  intro applied ok
  cases ok
  exact .inr ⟨kind, code, detail, rfl, told⟩

theorem Pushes.bind {α : Type} {first : Except Refusal α} {next : α → Except Refusal KindApplied}
    (later : ∀ middle, first = .ok middle → Pushes request now target (next middle)) :
    Pushes request now target (first >>= next) := by
  intro applied ok
  obtain ⟨middle, passed, accepted⟩ := bind_ok ok
  exact later middle passed applied accepted

theorem Pushes.ite {condition : Prop} [Decidable condition]
    {yes no : Except Refusal KindApplied}
    (whenTrue : condition → Pushes request now target yes)
    (whenFalse : ¬ condition → Pushes request now target no) :
    Pushes request now target (if condition then yes else no) := by
  by_cases holds : condition
  · rw [if_pos holds]
    exact whenTrue holds
  · rw [if_neg holds]
    exact whenFalse holds

theorem applyValidate_pushes : Pushes request now target (applyValidate fabric target request now) :=
  .ite (fun _ => pushes_unchanged _) fun moves =>
    .bind fun _ _ => .bind fun _ _ => pushes_accept fun same => moves same.symm

theorem applyActivate_pushes : Pushes request now target (applyActivate fabric target request now) :=
  .ite (fun _ => pushes_unchanged _) fun moves =>
    .bind fun _ _ => .bind fun _ _ => .ite (fun _ => pushes_error _) fun _ =>
      pushes_accept fun same => moves same.symm

theorem acceptRedefined_pushes {definition : QueueDefinition} {rule detail : String}
    (minted : target.definition.generation.next = .ok definition.generation) :
    Pushes request now target
      (acceptRedefined fabric target request now definition rule detail) :=
  pushes_accept ⟨minted, rfl⟩

theorem applyRebind_pushes {cls : ClassBinding} :
    Pushes request now target (applyRebind fabric target request now cls) :=
  .bind fun _ _ => .ite (fun _ => pushes_unchanged _) fun _ => .bind fun _ minted =>
    acceptRedefined_pushes (nextGeneration_ok minted)

theorem applySetThresholds_pushes {thresholds : Thresholds} :
    Pushes request now target (applySetThresholds fabric target request now thresholds) :=
  .ite (fun _ => pushes_error _) fun _ => .ite (fun _ => pushes_unchanged _) fun _ =>
    .bind fun _ minted => acceptRedefined_pushes (nextGeneration_ok minted)

theorem applyTransfer_pushes {owner : OwnerId} :
    Pushes request now target (applyTransfer fabric target request now owner) :=
  .ite (fun _ => pushes_unchanged _) fun _ => .bind fun _ minted =>
    acceptRedefined_pushes (nextGeneration_ok minted)

theorem applyIngest_pushes {sample : OccupancySample} (kind : request.kind = .ingestOccupancy)
    (carried : request.payload = .occupancy sample) :
    Pushes request now target (applyIngest fabric target request now sample) := by
  refine .ite (fun _ => pushes_error _) fun _ => .ite (fun _ => pushes_error _) fun _ =>
    .ite (fun _ => pushes_error _) fun _ => .ite (fun _ => pushes_error _) fun _ =>
    .ite (fun _ => pushes_error _) fun _ => .ite (fun _ => ?_) fun _ => ?_
  · intro applied ok
    cases ok
    exact .inr ⟨.occupancyOverflow, _, _, rfl, kind⟩
  · intro applied ok
    cases ok
    exact .inr ⟨.occupancyIngested, _, _, rfl, sample, carried, rfl⟩

theorem applyRequestDrain_pushes (kind : request.kind = .requestDrain) :
    Pushes request now target (applyRequestDrain fabric target request now) := by
  refine .ite (fun _ => pushes_unchanged _) fun _ => .bind fun _ _ => pushes_accept ?_
  rw [Tells, DrainMoved, kind]
  exact ⟨rfl, rfl, rfl⟩

theorem applyCancelDrain_pushes (kind : request.kind = .cancelDrain) :
    Pushes request now target (applyCancelDrain fabric target request now) := by
  refine .ite (fun _ => pushes_error _) fun _ => .bind fun _ _ => pushes_accept ?_
  rw [Tells, DrainMoved, kind]
  exact ⟨rfl, rfl⟩

theorem applyEvidence_pushes {evidence : DrainEvidence}
    (kind : request.kind = .submitDrainEvidence)
    (carried : request.payload = .drainEvidence evidence) :
    Pushes request now target (applyEvidence fabric target request now evidence) := by
  refine .ite (fun _ => pushes_error _) fun _ => .ite (fun _ => pushes_error _) fun _ =>
    .ite (fun _ => pushes_error _) fun _ => .bind fun _ _ => .ite (fun _ => pushes_error _) fun _ =>
    pushes_accept ?_
  rw [Tells, DrainMoved, kind, carried]
  exact ⟨rfl, rfl⟩

theorem applyQuiesce_pushes : Pushes request now target (applyQuiesce fabric target request now) :=
  .ite (fun _ => pushes_unchanged _) fun moves => .bind fun _ _ =>
    .ite (fun _ => pushes_error _) fun _ => .bind fun _ _ =>
      pushes_accept fun same => moves same.symm

theorem applyFence_pushes {payload : FencePayload} :
    Pushes request now target (applyFence fabric target request now payload) := by
  refine .ite (fun _ => pushes_unchanged _) fun lowered => ?_
  intro applied ok
  cases ok
  exact .inr ⟨.fenceChanged, _, _, rfl, fun same => lowered same.symm⟩

theorem applyUnfence_pushes : Pushes request now target (applyUnfence fabric target request now) := by
  refine .ite (fun _ => pushes_unchanged _) fun raised => pushes_accept fun same => ?_
  rw [← same] at raised
  exact raised rfl

theorem applyFail_pushes {payload : FencePayload} :
    Pushes request now target (applyFail fabric target request now payload) :=
  .ite (fun _ => pushes_unchanged _) fun moves => .bind fun _ _ =>
    pushes_accept fun same => moves same.symm

theorem applyRetire_pushes : Pushes request now target (applyRetire fabric target request now) :=
  .ite (fun _ => pushes_unchanged _) fun moves => .ite (fun _ => pushes_error _) fun _ =>
    .bind fun _ _ => pushes_accept ⟨moves, rfl⟩

theorem applyAcknowledge_pushes {acknowledged : BackendApplied}
    (carried : request.payload = .backendAck acknowledged) :
    Pushes request now target (applyAcknowledge fabric target request now acknowledged) := by
  refine .ite (fun _ => pushes_error _) fun _ => ?_
  split
  · exact pushes_error _
  split
  · exact pushes_error _
  refine pushes_accept fun other _ same => ?_
  rw [carried] at same
  cases same
  rfl

/-- Every accepted kind pushes at most one event, and that event is true of its target. -/
theorem applyKindLocked_pushes :
    Pushes request now target (applyKindLocked fabric target request now) := by
  rw [applyKindLocked]
  split
  · exact applyValidate_pushes
  · exact applyActivate_pushes
  · exact applyRebind_pushes
  · exact applySetThresholds_pushes
  · exact applyTransfer_pushes
  · rename_i kind carried
    exact applyIngest_pushes kind carried
  · rename_i kind
    exact applyRequestDrain_pushes kind
  · rename_i kind
    exact applyCancelDrain_pushes kind
  · rename_i kind carried
    exact applyEvidence_pushes kind carried
  · exact applyQuiesce_pushes
  · exact applyFence_pushes
  · exact applyUnfence_pushes
  · exact applyFail_pushes
  · exact applyRetire_pushes
  · rename_i carried
    exact applyAcknowledge_pushes carried
  · exact pushes_unchanged _
  · exact pushes_error _

/-- The event of a call over the record that is published under the identity it names. -/
structure Describes (request : MutationRequest) (now : Nanos) (before : Option QueueRecord)
    (published : QueueRecord) (event : Event) : Prop where
  queue : event.queue = published.definition.id
  resource : event.resource = published.definition.resource
  generation : event.generation = published.definition.generation
  lifecycle : event.lifecycle = published.lifecycle
  attempt : event.attempt = published.lastAttempt
  accepted : published.lastStatus = .success
  told : Tells request now before published event.kind

/-- What is true of the target is true of the record that is published. -/
theorem describes_kindEvent {queue : QueueRecord} {applied : KindApplied} {durable : Bool}
    {kind : EventKind} {code : Code} {detail : Text}
    (told : Tells request now (some queue) applied.target kind) :
    Describes request now (some queue) (publishQueue fabric queue request applied durable)
      (kindEvent applied.target request now kind code detail) := by
  have kept : ∀ published : QueueRecord, published.definition = applied.target.definition →
      published.lifecycle = applied.target.lifecycle → published.fence = applied.target.fence →
      published.drain = applied.target.drain → published.occupancy = applied.target.occupancy →
      published.applied = applied.target.applied →
      Tells request now (some queue) published kind := by
    intro published definition lifecycle fence drain occupancy acknowledged
    cases kind
    all_goals first
      | exact (told : False).elim
      | simpa only [Tells, DrainMoved, definition, lifecycle, fence, drain, occupancy,
          acknowledged] using told
  rw [publishQueue]
  split
  · exact ⟨rfl, rfl, rfl, rfl, rfl, rfl, kept _ rfl rfl rfl rfl rfl rfl⟩
  · exact ⟨rfl, rfl, rfl, rfl, rfl, rfl, kept _ rfl rfl rfl rfl rfl rfl⟩

/-- The announcement of an accepted mutation is true of the acknowledgement it carries. -/
theorem applyKindLocked_announced {applied : KindApplied}
    (ok : applyKindLocked fabric target request now = .ok applied) :
    Tells request now (some target) applied.target .mutationApplied := by
  intro acknowledged kind carried
  simp only [applyKindLocked, kind, carried, applyAcknowledge] at ok
  split at ok
  · cases ok
  split at ok
  · cases ok
  split at ok
  · cases ok
  · cases ok
    rfl

/-- A durable kind that pushed an event pushed one that reports a change. -/
theorem Pushed.reports {applied : KindApplied} (pushed : Pushed request now target applied)
    (durable : isDurable request.kind = true) (some : applied.events ≠ []) :
    ∃ event ∈ applied.events, event.kind.reports = true := by
  rcases pushed with none | ⟨kind, code, detail, pushed, told⟩
  · exact absurd none some
  refine ⟨kindEvent applied.target request now kind code detail, ?_, ?_⟩
  · rw [pushed]
    exact List.mem_singleton_self _
  · change kind.reports = true
    cases kind with
    | occupancyOverflow =>
        have ingests : request.kind = .ingestOccupancy := told
        rw [ingests] at durable
        cases durable
    | mutationReplayed => exact told.elim
    | mutationRejected => exact told.elim
    | topologyChanged => exact told.elim
    | backendRegistered => exact told.elim
    | backendDead => exact told.elim
    | recovery => exact told.elim
    | shutdown => exact told.elim
    | _ => rfl

end Kinds

variable [IJournal J]

/-- An admitted mutation whose commit fails is refused, and its events are handed over. -/
theorem Admitted.undurable {fabric after : Fabric J} {key : QueueId} {queue : QueueRecord}
    {request : MutationRequest} {now : Nanos} {tracker : ProvenanceTracker}
    {applied : KindApplied} (admitted : Admitted fabric queue request now tracker applied)
    (durable : isDurable request.kind = true) {refusal : Refusal}
    (failed : (fabric.accepted tracker applied).commitDurably request = (some refusal, after)) :
    fabric.applyExistingLocked key queue request now =
      after.reject key queue request refusal applied.events := by
  obtain ⟨unseen, ⟨resource, home, allowed⟩, gate, expected, kind⟩ := admitted
  have same : { fabric with provenance := tracker }.checkExpected queue request = none := expected
  simp only [accepted] at failed
  simp only [applyExistingLocked, unseen, applyFresh, home, allowed, gate, same, applyAdmitted,
    applyKindLocked_provenance, kind, durable, ↓reduceIte, failed]

/-- The record an application publishes: the one it names, or the next one to be declared. -/
def subject (fabric : Fabric J) (request : MutationRequest) : QueueId :=
  if request.kind = .declareQueue then ⟨fabric.nextQueueId⟩ else request.queue

/-- A failed application reports no change, and what a successful one reports is in the published
record. -/
def Truthful (fabric : Fabric J) (request : MutationRequest)
    (reply : Reply J MutationOutcome) : Prop :=
  match reply.result with
  | .error _ => ∀ event ∈ reply.events, event.kind.reports = false
  | .ok _ => ∀ event ∈ reply.events, event.kind.reports = true →
      ∃ published, reply.fabric.findQueue (fabric.subject request) = some published ∧
        Describes request fabric.monotonicNow.1 (fabric.findQueue (fabric.subject request))
          published event

/-- An application whose events are not true: its kind pushed one and the commit then fails, or it
is a declaration that goes through under a number that is taken. -/
inductive Misreports (fabric : Fabric J) (request : MutationRequest) : Prop
  | undurable (queue : QueueRecord) (tracker : ProvenanceTracker) (applied : KindApplied)
      (running : fabric.shuttingDown = false) (valid : request.validate.isOk = true)
      (kind : request.kind ≠ .declareQueue) (found : fabric.findQueue request.queue = some queue)
      (admitted : Admitted fabric queue request fabric.monotonicNow.1 tracker applied)
      (pushed : applied.events ≠ []) (durable : isDurable request.kind = true)
      (failed : ((fabric.monotonicNow.2.accepted tracker applied).commitDurably request).1 ≠ none)
  | clashing (payload : DeclareQueuePayload) (resource : ResourceRecord)
      (running : fabric.shuttingDown = false) (valid : request.validate.isOk = true)
      (kind : request.kind = .declareQueue) (carried : request.payload = .declareQueue payload)
      (declarable : Declarable fabric request payload resource)
      (durable : (fabric.monotonicNow.2.commitDurably request).1 = none)
      (taken : fabric.findQueue ⟨fabric.nextQueueId⟩ ≠ none)

omit [IJournal J] in
/-- The events of a published mutation are true of the record it publishes. -/
theorem publish_truthful {fabric middle after : Fabric J} {queue : QueueRecord}
    {request : MutationRequest} {tracker : ProvenanceTracker} {applied : KindApplied}
    (kind : request.kind ≠ .declareQueue) (found : fabric.findQueue request.queue = some queue)
    (admitted : Admitted middle queue request fabric.monotonicNow.1 tracker applied) :
    Truthful fabric request
      (after.publish request.queue queue request fabric.monotonicNow.1 applied) := by
  have target : fabric.subject request = request.queue := if_neg kind
  intro event pushed _
  rw [target, found]
  refine ⟨_, Table.get?_insert_self _ _ _, ?_⟩
  rcases List.mem_append.mp pushed with early | late
  · rcases applyKindLocked_pushes applied admitted.kind with none | ⟨_, _, _, single, told⟩
    · rw [none] at early
      cases early
    · rw [single, List.mem_singleton] at early
      subst early
      exact describes_kindEvent told
  · split at late
    · cases late
    · rw [List.mem_singleton] at late
      subst late
      exact describes_kindEvent (applyKindLocked_announced admitted.kind)

omit [IJournal J] in
/-- A declaration published under a free number is there as its event says. -/
theorem publishDeclared_truthful (fabric : Fabric J) {after : Fabric J} {request : MutationRequest}
    {payload : DeclareQueuePayload} (resource : ResourceRecord)
    (kind : request.kind = .declareQueue) (queues : after.queues = fabric.queues)
    (next : after.nextQueueId = fabric.nextQueueId) :
    Truthful fabric request
        (after.publishDeclared request payload fabric.monotonicNow.1 resource) ↔
      fabric.findQueue ⟨fabric.nextQueueId⟩ = none := by
  have target : fabric.subject request = ⟨fabric.nextQueueId⟩ := if_pos kind
  constructor
  · intro truthful
    obtain ⟨published, found, described⟩ := truthful _ (List.mem_singleton_self _) rfl
    have told := described.told
    rw [target] at told
    cases before : fabric.findQueue ⟨fabric.nextQueueId⟩ with
    | none => rfl
    | some taken =>
        rw [before] at told
        exact told.elim
  · intro free event pushed _
    obtain rfl := List.mem_singleton.mp pushed
    have absent : after.queues.get? ⟨after.nextQueueId⟩ = none := by
      rw [queues, next]
      exact free
    refine ⟨declaredRecord after request payload fabric.monotonicNow.1 after.journal.isSome, ?_, ?_⟩
    · rw [target, ← next]
      change (after.queues.emplace ⟨after.nextQueueId⟩ _).get? ⟨after.nextQueueId⟩ = _
      rw [Table.get?_emplace, absent, if_pos rfl]
      rfl
    · rw [target, free]
      exact ⟨rfl, rfl, rfl, rfl, rfl, rfl, rfl, rfl⟩

omit [IJournal J] in
theorem truthful_silent {fabric : Fabric J} {request : MutationRequest}
    {reply : Reply J MutationOutcome} (silent : reply.events = []) :
    Truthful fabric request reply := by
  rw [Truthful]
  split
  · intro event pushed
    rw [silent] at pushed
    cases pushed
  · intro event pushed
    rw [silent] at pushed
    cases pushed

theorem Misreports.not_truthful {fabric : Fabric J} {request : MutationRequest}
    (misreports : Misreports fabric request) :
    ¬ Truthful fabric request
      (fabric.monotonicNow.2.applyAt request fabric.monotonicNow.1) := by
  intro truthful
  cases misreports with
  | undurable queue tracker applied running valid kind found admitted pushed durable failed =>
      have start : fabric.monotonicNow.2.findQueue request.queue = some queue := found
      have live : fabric.monotonicNow.2.shuttingDown = false := running
      rw [applyAt_existing live valid kind start] at truthful
      cases commit : (fabric.monotonicNow.2.accepted tracker applied).commitDurably request with
      | mk failure after =>
          cases failure with
          | none =>
              rw [commit] at failed
              exact failed rfl
          | some refusal =>
              rw [(admitted_of_now.mpr admitted).undurable durable commit] at truthful
              obtain ⟨event, listed, reports⟩ :=
                (applyKindLocked_pushes applied admitted.kind).reports durable pushed
              rw [truthful event listed] at reports
              cases reports
  | clashing payload resource running valid kind carried declarable durable taken =>
      obtain ⟨after, queues, next, published⟩ :=
        (declarable_of_touch (monotonicNow_touch fabric) declarable).published durable
          fabric.monotonicNow.1
      have live : fabric.monotonicNow.2.shuttingDown = false := running
      rw [applyAt_declare live valid kind carried, published] at truthful
      exact taken ((publishDeclared_truthful fabric resource kind queues next).mp truthful)

theorem ExistingCase.truthful {fabric : Fabric J} {queue : QueueRecord} {request : MutationRequest}
    {reply : Reply J MutationOutcome} (running : fabric.shuttingDown = false)
    (valid : request.validate.isOk = true) (kind : request.kind ≠ .declareQueue)
    (found : fabric.findQueue request.queue = some queue)
    (honest : ¬ Misreports fabric request)
    (ended : ExistingCase fabric.monotonicNow.2 request.queue queue request fabric.monotonicNow.1
      reply) : Truthful fabric request reply := by
  cases ended with
  | answered memo recorded =>
      rw [answerFromMemo]
      split
      · exact truthful_silent rfl
      simp only []
      split
      · exact truthful_silent rfl
      · intro event pushed reports
        rw [List.mem_singleton] at pushed
        subst pushed
        cases reports
  | refused tracker refusal unseen gate real => exact truthful_silent rfl
  | undurable tracker applied refusal after admitted durable failed real =>
      by_cases none : applied.events = []
      · exact truthful_silent none
      · refine absurd (.undurable queue tracker applied running valid kind found
          (admitted_of_now.mp admitted) none durable ?_) honest
        rw [failed]
        exact Option.some_ne_none refusal
  | published tracker applied after admitted committed =>
      exact publish_truthful kind found admitted

theorem DeclareCase.truthful {fabric : Fabric J} {payload : DeclareQueuePayload}
    {request : MutationRequest} {reply : Reply J MutationOutcome}
    (running : fabric.shuttingDown = false) (valid : request.validate.isOk = true)
    (kind : request.kind = .declareQueue) (carried : request.payload = .declareQueue payload)
    (honest : ¬ Misreports fabric request)
    (ended : DeclareCase fabric.monotonicNow.2 request payload fabric.monotonicNow.1 reply) :
    Truthful fabric request reply := by
  cases ended with
  | refused refusal => exact truthful_silent rfl
  | answered id taken =>
      rw [answerDeclared]
      split
      · exact truthful_silent rfl
      split
      · intro event pushed reports
        rw [List.mem_singleton] at pushed
        subst pushed
        cases reports
      · exact truthful_silent rfl
  | undurable resource refusal after declarable failed => exact truthful_silent rfl
  | committed resource after declarable written =>
      have free : fabric.findQueue ⟨fabric.nextQueueId⟩ = none := by
        by_contra taken
        refine honest (.clashing payload resource running valid kind carried
          ⟨declarable.found, declarable.authorized, declarable.free, declarable.checked,
            declarable.gate⟩ ?_ taken)
        rw [written]
      have touch := commitDurably_touch written
      rw [admitDeclared]
      split
      · exact (publishDeclared_truthful fabric resource kind touch.queues touch.nextQueueId).mpr free
      simp only []
      split
      · exact truthful_silent rfl
      · exact (publishDeclared_truthful fabric resource kind touch.queues touch.nextQueueId).mpr free

/-- The events of an application are true exactly when it is none that misreports. -/
theorem apply_truthful_iff (fabric : Fabric J) (request : MutationRequest) :
    Truthful fabric request (fabric.apply request) ↔ ¬ Misreports fabric request := by
  have emitted : Truthful fabric request (fabric.apply request) ↔ Truthful fabric request
      (fabric.monotonicNow.2.applyAt request fabric.monotonicNow.1) := Iff.rfl
  rw [emitted]
  constructor
  · exact fun truthful misreports => misreports.not_truthful truthful
  · intro honest
    have ended := applyAt_cases fabric.monotonicNow.2 request fabric.monotonicNow.1
    by_cases running : fabric.shuttingDown = true
    · have stopped : fabric.monotonicNow.2.applyAt request fabric.monotonicNow.1 =
          ⟨.error ⟨.shuttingDown, "fabric is shutting down"⟩, [], fabric.monotonicNow.2⟩ :=
        if_pos running
      rw [stopped]
      exact truthful_silent rfl
    rw [Bool.not_eq_true] at running
    generalize fabric.monotonicNow.2.applyAt request fabric.monotonicNow.1 = reply at ended ⊢
    cases ended with
    | stopped stopping => exact truthful_silent rfl
    | unbound refusal => exact truthful_silent rfl
    | declare payload reply valid kind carried ended =>
        exact ended.truthful running valid kind carried honest
    | existing queue reply valid kind found ended =>
        exact ended.truthful running valid kind found honest

/-- A validation whose commit cannot be synced is refused and reported as a lifecycle change. -/
theorem apply_not_truthful :
    ¬ Truthful System.failingSync (System.sampleRequest 2 .validateQueue .monostate)
      (System.failingSync.apply (System.sampleRequest 2 .validateQueue .monostate)) := by
  intro truthful
  have reported : (System.failingSync.apply
      (System.sampleRequest 2 .validateQueue .monostate)).events.any
        (fun event => event.kind.reports) = true := by decide +kernel
  have refused : (System.failingSync.apply
      (System.sampleRequest 2 .validateQueue .monostate)).result.isOk = false := by decide +kernel
  obtain ⟨status, failed⟩ := System.error_of_not_ok refused
  obtain ⟨event, pushed, reports⟩ := List.any_eq_true.mp reported
  rw [Truthful, failed] at truthful
  rw [truthful event pushed] at reports
  cases reports

end Fabric

end QueueFabric
