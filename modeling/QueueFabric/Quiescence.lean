import QueueFabric.Draining

/-!
Quiescence rests on live evidence. Evidence that names a backend is accepted only
while that backend is alive, and no backend is alive during a replay; so the
evidence a draining queue is quiesced on was submitted to this process, after the
request that started the drain.
-/

namespace QueueFabric

open QueueRecord

namespace QueueRecord

/-- Drain evidence of this process that names a backend. -/
structure Standing (queue : QueueRecord) : Prop where
  progress : queue.drain.inProgress = true
  revalidated : queue.drain.evidence.revalidated = true
  backed : queue.drain.evidence.backend.backend.valid = true

theorem Standing.of_drain {before after : QueueRecord} (standing : after.Standing)
    (same : after.drain = before.drain) : before.Standing :=
  ⟨same ▸ standing.progress, same ▸ standing.revalidated, same ▸ standing.backed⟩

/-- The request neither submits evidence nor starts a drain. -/
def LeavesEvidence (queue : QueueRecord) (request : MutationRequest) : Prop :=
  request.kind ≠ .submitDrainEvidence ∧ (request.kind = .requestDrain → queue.lifecycle = .draining)

end QueueRecord

namespace Fabric

variable {J : Type}

theorem noteZero_evidence (drain : DrainState) (sample : OccupancySample) :
    (noteZero drain sample).evidence.revalidated = drain.evidence.revalidated ∧
      (noteZero drain sample).evidence.backend = drain.evidence.backend := by
  rw [noteZero]
  split
  · exact ⟨rfl, rfl⟩
  split
  · exact ⟨rfl, rfl⟩
  split <;> exact ⟨rfl, rfl⟩

/-- Standing evidence was there before, or the request brings it and names a live backend. -/
theorem KindCase.standing {fabric : Fabric J} {target : QueueRecord} {request : MutationRequest}
    {now : Nanos} {applied : KindApplied} (ended : KindCase fabric target request now applied)
    (standing : applied.target.Standing) :
    (target.Standing ∧ applied.target.drain.evidence.backend = target.drain.evidence.backend ∧
      target.LeavesEvidence request) ∨
    ∃ evidence, request.kind = .submitDrainEvidence ∧
      request.payload = .drainEvidence evidence ∧
      applied.target.drain.evidence.backend = evidence.backend ∧
      (fabric.findLiveBackend target.definition.resource evidence.backend.backend).isSome := by
  have other : ∀ kind, request.kind = kind → kind ≠ .submitDrainEvidence → kind ≠ .requestDrain →
      target.LeavesEvidence request := by
    rintro kind rfl submits starts
    exact ⟨submits, fun kind => absurd kind starts⟩
  cases ended with
  | unchanged rule repeats =>
      refine .inl ⟨standing, rfl, fun kind => ?_, fun kind => ?_⟩
      · rw [Repeats, kind] at repeats
        exact repeats
      · rw [Repeats, kind] at repeats
        exact repeats
  | moved goal rule events kind moves allowed =>
      refine .inl ⟨standing.of_drain rfl, rfl, ?_⟩
      rcases kind with ⟨kind, _⟩ | ⟨kind, _⟩
      · exact other _ kind (by simp) (by simp)
      · exact other _ kind (by simp) (by simp)
  | redefined cls thresholds owner generation rule events minted kind changed bound ladder =>
      refine .inl ⟨standing.of_drain rfl, rfl, ?_⟩
      rcases kind with kind | kind | kind
      all_goals exact other _ kind (by simp) (by simp)
  | ingested sample overflows rule events stats kind payload generation epoch =>
      obtain ⟨revalidated, backend⟩ := noteZero_evidence target.drain sample
      obtain ⟨progress, fresh, backed⟩ := standing
      simp only [ingestTarget, DrainState.inProgress, noteZero_phase] at progress
      simp only [ingestTarget, revalidated] at fresh
      simp only [ingestTarget, backend] at backed
      exact .inl ⟨⟨progress, fresh, backed⟩, backend, other _ kind (by simp) (by simp)⟩
  | drainRequested rule events kind moves allowed =>
      obtain ⟨_, _, backed⟩ := standing
      cases backed
  | drainCancelled rule events kind draining =>
      obtain ⟨progress, _, _⟩ := standing
      cases progress
  | evidenceRecorded evidence rule events kind payload progress some few backed =>
      refine .inr ⟨evidence, kind, payload, rfl, ?_⟩
      have valid : evidence.backend.backend.valid = true := standing.backed
      simp only [checkEvidenceBackend, valid, ↓reduceIte] at backed
      split at backed
      · cases backed
      · rename_i live alive
        rw [alive]
        rfl
  | quiesced rule events kind draining complete acknowledged =>
      obtain ⟨progress, _, _⟩ := standing
      cases progress
  | fenced fence rule events kind raised =>
      exact .inl ⟨standing.of_drain rfl, rfl, other _ kind (by simp) (by simp)⟩
  | unfenced rule events kind =>
      exact .inl ⟨standing.of_drain rfl, rfl, other _ kind (by simp) (by simp)⟩
  | failed reason rule events kind moves allowed =>
      exact .inl ⟨standing.of_drain rfl, rfl, other _ kind (by simp) (by simp)⟩
  | retired rule events kind moves allowed =>
      obtain ⟨progress, _, _⟩ := standing
      cases progress
  | acknowledged acknowledged rule events kind generation =>
      exact .inl ⟨standing.of_drain rfl, rfl, other _ kind (by simp) (by simp)⟩

/-- The report a queue is quiesced on: what the backend said, that the backend is alive, and the
acknowledgement the policy asks for. -/
structure Grounded (fabric : Fabric J) (queue : QueueRecord) (backend : BackendObservation) :
    Prop where
  accepted : backend.requestAccepted = true
  drained : backend.reportedDrained = true
  epoch : backend.epoch = fabric.epoch
  alive : ∃ live, fabric.findLiveBackend queue.definition.resource backend.backend = some live ∧
    live.alive = true ∧ live.backend = backend.backend ∧
    live.incarnation = backend.backendIncarnation ∧
    (fabric.config.policy.requireBackendAckForDrain = true →
      Verified queue.applied live fabric.epoch queue.definition.generation queue.definition.cls)

theorem Touch.findLiveBackend {before after : Fabric J} (touch : Touch before after)
    (resource : ResourceId) (backend : BackendId) :
    after.findLiveBackend resource backend = before.findLiveBackend resource backend := by
  simp only [Fabric.findLiveBackend, findResource, touch.resources]

theorem Grounded.of_touch {before after : Fabric J} {queue : QueueRecord}
    {backend : BackendObservation} (grounded : after.Grounded queue backend)
    (touch : Touch before after) : before.Grounded queue backend := by
  refine ⟨grounded.accepted, grounded.drained, touch.epoch ▸ grounded.epoch, ?_⟩
  rw [← touch.config, ← touch.epoch, ← touch.findLiveBackend]
  exact grounded.alive

theorem verified_of_checkQuiesceAck {fabric : Fabric J} {target : QueueRecord}
    {live : BackendIncarnation}
    (acknowledged : checkQuiesceAck fabric target (some live) = .ok ())
    (required : fabric.config.policy.requireBackendAckForDrain = true) :
    Verified target.applied live fabric.epoch target.definition.generation
      target.definition.cls := by
  simp only [checkQuiesceAck, required, ↓reduceIte] at acknowledged
  split at acknowledged
  · cases acknowledged
  · rename_i verified
    exact verified_of_none verified

/-- A quiesce that moves a draining queue passed every gate of the assessment. -/
theorem KindCase.proven {fabric : Fabric J} {target : QueueRecord} {request : MutationRequest}
    {now : Nanos} {applied : KindApplied} (ended : KindCase fabric target request now applied)
    (kind : request.kind = .quiesceQueue) (draining : target.lifecycle = .draining)
    (progress : target.drain.inProgress = true) :
    Proven target.drain target.occupancy (fabric.findLiveBackend target.definition.resource
        target.drain.evidence.backend.backend) fabric.epoch ∧
      checkQuiesceAck fabric target (fabric.findLiveBackend target.definition.resource
        target.drain.evidence.backend.backend) = .ok () := by
  cases ended with
  | quiesced rule events _ _ complete acknowledged =>
      exact ⟨proven_of_completable complete (not_completed_of_inProgress progress), acknowledged⟩
  | unchanged rule repeats =>
      rw [Repeats, kind] at repeats
      simp [draining] at repeats
  | moved goal rule events other => simp [kind] at other
  | redefined cls thresholds owner generation rule events minted other => simp [kind] at other
  | ingested sample overflows rule events stats other => simp [kind] at other
  | drainRequested rule events other => simp [kind] at other
  | drainCancelled rule events other => simp [kind] at other
  | evidenceRecorded evidence rule events other => simp [kind] at other
  | fenced fence rule events other => simp [kind] at other
  | unfenced rule events other => simp [kind] at other
  | failed reason rule events other => simp [kind] at other
  | retired rule events other => simp [kind] at other
  | acknowledged acknowledged rule events other => simp [kind] at other

theorem KindCase.grounded {fabric : Fabric J} {target : QueueRecord} {request : MutationRequest}
    {now : Nanos} {applied : KindApplied} (ended : KindCase fabric target request now applied)
    (kind : request.kind = .quiesceQueue) (draining : target.lifecycle = .draining)
    (progress : target.drain.inProgress = true) :
    target.Standing ∧ fabric.Grounded target target.drain.evidence.backend := by
  obtain ⟨proven, acknowledged⟩ := ended.proven kind draining progress
  obtain ⟨live, found, alive, backend, incarnation⟩ := proven.backend
  have valid : target.drain.evidence.backend.backend.valid = true := by
    by_contra invalid
    rw [findLiveBackend] at found
    split at found
    · cases found
    · simp [invalid] at found
  refine ⟨⟨progress, proven.revalidated, valid⟩, proven.accepted, proven.drained, proven.epoch,
    live, found, alive, backend.symm, incarnation.symm, fun required => ?_⟩
  rw [found] at acknowledged
  exact verified_of_checkQuiesceAck acknowledged required

/-! Replays. -/

/-- No registered backend is alive. -/
def Lifeless (fabric : Fabric J) : Prop :=
  ∀ id record, fabric.findResource id = some record → ∀ entry ∈ record.backends,
    entry.alive = false

theorem Lifeless.findLiveBackend {fabric : Fabric J} (lifeless : fabric.Lifeless)
    (resource : ResourceId) (backend : BackendId) :
    fabric.findLiveBackend resource backend = none := by
  rw [Fabric.findLiveBackend]
  cases found : fabric.findResource resource with
  | none => rfl
  | some record =>
      simp only []
      split
      · rfl
      · rw [ResourceRecord.findLive, List.find?_eq_none]
        intro entry listed
        simp [lifeless resource record found entry listed]

theorem lifeless_installScan (fabric : Fabric J) (scan : Scan) (epoch : Epoch) :
    (fabric.installScan scan epoch).Lifeless := by
  intro id record found entry listed
  simp only [installScan, rebuildIndexesLocked, findResource, Table.get?_mapValues,
    Option.map_map, Option.map_eq_some_iff, Function.comp] at found
  obtain ⟨stored, _, rfl⟩ := found
  simp only [withEpoch, killBackends, List.mem_map] at listed
  obtain ⟨backend, _, rfl⟩ := listed
  rfl

variable [IJournal J]

/-- An application leaves the resources alone, but for the number of queues of one. -/
theorem ApplyCase.resources {fabric : Fabric J} {request : MutationRequest} {now : Nanos}
    {reply : Reply J MutationOutcome} (ended : ApplyCase fabric request now reply) :
    reply.fabric.resources = fabric.resources ∨ ∃ id record,
      fabric.findResource id = some record ∧
      reply.fabric.resources =
        fabric.resources.insert id { record with queueCount := record.queueCount + 1 } := by
  cases ended with
  | stopped stopping => exact .inl rfl
  | unbound refusal => exact .inl rfl
  | declare payload reply valid kind carried ended =>
      cases ended with
      | refused refusal => exact .inl rfl
      | answered id taken =>
          left
          rw [answerDeclared]
          split
          · rfl
          · split <;> rfl
      | undurable resource refusal after declarable failed =>
          exact .inl (commitDurably_touch failed).resources
      | committed resource after declarable written =>
          have touch := commitDurably_touch written
          have counted : after.resources.insert payload.resource
              { resource with queueCount := resource.queueCount + 1 } =
              fabric.resources.insert payload.resource
                { resource with queueCount := resource.queueCount + 1 } := by rw [touch.resources]
          rw [admitDeclared]
          split
          · exact .inr ⟨payload.resource, resource, declarable.found, counted⟩
          · simp only []
            split
            · exact .inl touch.resources
            · exact .inr ⟨payload.resource, resource, declarable.found, counted⟩
  | existing queue reply valid kind found ended =>
      left
      cases ended with
      | answered memo recorded =>
          rw [answerFromMemo]
          split
          · rfl
          · split <;> rfl
      | refused tracker refusal unseen gate real => rfl
      | undurable tracker applied refusal after admitted durable failed real =>
          exact (commitDurably_touch failed).resources
      | published tracker applied after admitted committed =>
          exact (published_touch committed).resources

theorem Lifeless.replayOne {fabric : Fabric J} (lifeless : fabric.Lifeless)
    (request : MutationRequest) : (fabric.replayOne request).Lifeless := by
  obtain ⟨now, reply, ended, _, touch, _⟩ := replayOne_reply fabric request
  intro id record found entry listed
  rw [findResource, touch.resources] at found
  rcases ended.resources with same | ⟨home, counted, known, same⟩
  · rw [same] at found
    exact lifeless id record found entry listed
  · simp only [same, Table.get?_insert] at found
    split at found
    · rw [Option.some.injEq] at found
      subst found
      exact lifeless home counted known entry listed
    · exact lifeless id record found entry listed

theorem Lifeless.replayAll {fabric : Fabric J} (lifeless : fabric.Lifeless)
    (requests : List MutationRequest) : (fabric.replayAll requests).Lifeless := by
  induction requests using List.reverseRecOn with
  | nil => exact lifeless
  | append_singleton early request ih =>
      rw [replayAll_concat]
      exact ih.replayOne request

theorem replayStart_lifeless {fabric base : Fabric StableStore} {order : List MutationRequest}
    (started : fabric.replayStart = some (base, order)) : base.Lifeless := by
  obtain ⟨store, scan, epoch, _, _, _, rfl, _⟩ := replayStart_cases started
  exact lifeless_installScan _ _ _

omit [IJournal J] in
theorem not_standing_restoreQueue (queue : QueueRecord) : ¬ (Scan.restoreQueue queue).Standing := by
  rintro ⟨progress, revalidated, _⟩
  rw [restoreQueue_drain] at progress revalidated
  split at revalidated
  · cases revalidated
  · rename_i idle
    rw [if_neg idle] at progress
    simp [progress] at idle

/-- The replayed commit leaves the evidence of the queue stored under `id` alone. -/
def ReplayLeaves (base : Fabric StableStore) (id : QueueId) (early : List MutationRequest)
    (request : MutationRequest) : Prop :=
  request.queue = id → ∀ held, (base.replayAll early).findQueue id = some held →
    Executed ((base.replayAll early).applyReplayLocked request).result →
    held.LeavesEvidence request

/-- Evidence that stands after a recovery stood before it, untouched by the replay. -/
structure Outlasts (fabric : Fabric StableStore) (done : List MutationRequest) (id : QueueId)
    (queue old : QueueRecord) : Prop where
  found : fabric.findQueue id = some old
  standing : old.Standing
  backend : queue.drain.evidence.backend = old.drain.evidence.backend
  leaves : ∀ base order, fabric.replayStart = some (base, order) →
    Runs.Throughout (ReplayLeaves base id) done

/-- Standing evidence is old evidence. -/
def NothingNew (fabric : Fabric StableStore) (done : List MutationRequest) (id : QueueId)
    (queue : QueueRecord) : Prop :=
  queue.Standing → ∃ old, fabric.Outlasts done id queue old

theorem nothingNew_replayed {fabric base : Fabric StableStore} {early late : List MutationRequest}
    {request : MutationRequest}
    (started : fabric.replayStart = some (base, early ++ request :: late)) {now : Nanos}
    {id : QueueId} {after : QueueRecord}
    (moves : Moves { (base.replayAll early).monotonicNow.2 with replaying := true } request
      now ((base.replayAll early).applyReplayLocked request).result id
      ((base.replayAll early).findQueue id) (some after))
    (earlier : ∀ before, (base.replayAll early).findQueue id = some before →
      fabric.NothingNew early id before) : fabric.NothingNew (early ++ [request]) id after := by
  intro standing
  have lifeless := (replayStart_lifeless started).replayAll early
  -- the commits before it left the evidence alone, so it is enough that this one does
  have extend : ∀ before old, (base.replayAll early).findQueue id = some before →
      fabric.Outlasts early id before old → ReplayLeaves base id early request →
      after.drain.evidence.backend = before.drain.evidence.backend →
      ∃ old, fabric.Outlasts (early ++ [request]) id after old := by
    intro before old found outlasts leaves same
    refine ⟨old, outlasts.found, outlasts.standing, same.trans outlasts.backend, ?_⟩
    intro other order again
    rw [started, Option.some.injEq, Prod.mk.injEq] at again
    obtain ⟨rfl, rfl⟩ := again
    exact Runs.throughout_concat.mpr ⟨outlasts.leaves base _ started, leaves⟩
  generalize found : (base.replayAll early).findQueue id = stored at moves earlier
  cases moves with
  | unmoved unmoved idle =>
      obtain ⟨old, outlasts⟩ := earlier _ rfl (standing.of_drain unmoved.drain)
      refine extend _ old found outlasts (fun named held _ executed => ?_) (by rw [unmoved.drain])
      have kind := idle executed named
      exact ⟨by simp [kind], by simp [kind]⟩
  | @mutated before _ named kind executed mutated =>
      obtain ⟨middle, applied, touch, ended, unmoved⟩ := mutated.kindCase
      rcases ended.standing (standing.of_drain unmoved.drain) with
        ⟨stood, same, leaves⟩ | ⟨evidence, _, _, _, live⟩
      · obtain ⟨old, outlasts⟩ := earlier before rfl stood
        refine extend before old found outlasts (fun _ held again _ => ?_) ?_
        · rw [found, Option.some.injEq] at again
          exact again ▸ leaves
        · rw [unmoved.drain, same]
      · have dead := lifeless.findLiveBackend before.definition.resource evidence.backend.backend
        have same : middle.findLiveBackend before.definition.resource evidence.backend.backend =
            (base.replayAll early).findLiveBackend before.definition.resource
              evidence.backend.backend := by
          simp only [Fabric.findLiveBackend, findResource, touch.resources]
          rfl
        rw [same, dead] at live
        cases live
  | declared executed declared =>
      obtain ⟨_, _, _, _, drain, _⟩ := declared.blank
      have progress := standing.progress
      rw [drain] at progress
      cases progress

theorem standing_recover {fabric : Fabric StableStore} {id : QueueId} {queue : QueueRecord}
    (found : fabric.recover.fabric.findQueue id = some queue) (standing : queue.Standing) :
    ∃ old, fabric.Outlasts fabric.replayOrder id queue old := by
  have carried : fabric.NothingNew fabric.replayOrder id queue := by
    refine (recover_cases fabric).carries ?_ ?_ ?_ ?_ id queue found
    · exact fun id queue found standing => ⟨queue, found, standing, rfl,
        fun base order _ => Runs.throughout_nil _⟩
    · exact fun payload queue _ _ standing => absurd standing (not_standing_restoreQueue queue)
    · exact fun base early request late started now id after moves earlier =>
        nothingNew_replayed started moves earlier
    · intro done id before after still earlier standing
      obtain ⟨old, outlasts⟩ := earlier (standing.of_drain still.drain)
      exact ⟨old, outlasts.found, outlasts.standing, by rw [still.drain, outlasts.backend],
        outlasts.leaves⟩
  exact carried standing

end Fabric

namespace System

/-- A caller submits drain evidence for the queue stored under `id` and it is accepted. -/
def Submits (id : QueueId) (evidence : DrainEvidence) (system : System) (input : Step) : Prop :=
  ∃ request script queue, input = .call (.apply request) script ∧
    CarriesOut id queue request system input ∧ request.kind = .submitDrainEvidence ∧
    request.payload = .drainEvidence evidence

/-- The step stays in the process and carries out neither a submission of evidence nor the start
of a drain on the queue stored under `id`. -/
def Undisturbed (id : QueueId) (system : System) (input : Step) : Prop :=
  (∃ call script, input = .call call script) ∧
    ∀ queue request, CarriesOut id queue request system input → queue.LeavesEvidence request

/-- Standing evidence is the last one submitted, in this process and for this drain. -/
def EvidenceStands (start : System) (done : List Step) (system : System) : Prop :=
  ∀ id queue, system.fabric.findQueue id = some queue → queue.Standing →
    ∃ evidence, Runs.Since step (Submits id evidence) (Undisturbed id) start done ∧
      queue.drain.evidence.backend = evidence.backend

/-- A call that is no recovery leaves the evidence alone if the request it presents does. -/
theorem undisturbed_call {system : System} {id : QueueId} {call : Call} {script : List Bool}
    (living : call ≠ .recover)
    (leaves : ∀ queue request, system.fabric.findQueue id = some queue →
      Fabric.Presenting (withScript system.fabric script) request call → request.queue = id →
      Fabric.Executes (system.step (.call call script)).result → queue.LeavesEvidence request) :
    Undisturbed id system (.call call script) := by
  refine ⟨⟨call, script, rfl⟩, fun queue request carried => ?_⟩
  cases carried with
  | served _ _ presented named found executes =>
      exact leaves queue request found presented named executes
  | replayed _ fabric base early late started order named found executed =>
      exact absurd started (not_recovering living)

theorem EvidenceStands.call {start : System} {done : List Step}
    (stands : EvidenceStands start done (start.run done)) {call : Call} (script : List Bool)
    (living : call ≠ .recover) :
    EvidenceStands start (done ++ [.call call script])
      ((start.run done).step (.call call script)) := by
  intro id queue found standing
  have moved := Fabric.serve_queueStep (withScript (start.run done).fabric script) living id
  change ((withScript (start.run done).fabric script).serve call).fabric.findQueue id = some queue
    at found
  rw [found] at moved
  generalize before : (withScript (start.run done).fabric script).findQueue id = earlier at moved
  -- evidence that stood before the call and is not touched by it
  have keep : ∀ old, (withScript (start.run done).fabric script).findQueue id = some old →
      old.Standing → queue.drain.evidence.backend = old.drain.evidence.backend →
      Undisturbed id (start.run done) (.call call script) →
      ∃ evidence, Runs.Since step (Submits id evidence) (Undisturbed id) start
          (done ++ [.call call script]) ∧ queue.drain.evidence.backend = evidence.backend := by
    intro old known stood same calm
    obtain ⟨evidence, since, backend⟩ := stands id old known stood
    exact ⟨evidence, since.later calm, same.trans backend⟩
  cases moved with
  | tended still tended quiet =>
      refine keep _ before (standing.of_drain still.drain) (by rw [still.drain]) ?_
      refine undisturbed_call living fun _ request _ presented named executes => ?_
      have kind := quiet request presented named executes
      exact ⟨by simp [kind], by simp [kind]⟩
  | unbound unbinds =>
      refine keep _ before (standing.of_drain rfl) rfl ?_
      refine undisturbed_call living fun _ request _ presented _ _ => ?_
      cases unbinds
      cases presented
  | @mutated old _ origin request now presented named executed touch mutated =>
      obtain ⟨middle, applied, _, ended, unmoved⟩ := mutated.kindCase
      rcases ended.standing (standing.of_drain unmoved.drain) with
        ⟨stood, same, leaves⟩ | ⟨evidence, kind, payload, same, _⟩
      · refine keep old before stood (by rw [unmoved.drain, same]) ?_
        refine undisturbed_call living fun held other known shown _ _ => ?_
        rw [shown.unique presented]
        rw [show (start.run done).fabric.findQueue id = some old from before,
          Option.some.injEq] at known
        exact known ▸ leaves
      · refine ⟨evidence, .now ⟨request, script, old, ?_, ?_, kind, payload⟩, ?_⟩
        · cases presented with
          | applied => rfl
          | committed plan applied provenance same =>
              rw [same] at kind
              simp [Fabric.planRequest] at kind
        · exact .served call script presented named before executed
        · rw [unmoved.drain, same]
  | declared origin request now presented executed touch declared =>
      obtain ⟨_, _, _, _, drain, _⟩ := declared.blank
      have progress := standing.progress
      rw [drain] at progress
      cases progress

theorem EvidenceStands.recover {start : System} {done : List Step}
    (stands : EvidenceStands start done (start.run done)) (script : List Bool) :
    EvidenceStands start (done ++ [.call .recover script])
      ((start.run done).step (.call .recover script)) := by
  intro id queue found standing
  obtain ⟨old, outlasts⟩ := Fabric.standing_recover found standing
  obtain ⟨evidence, since, backend⟩ := stands id old outlasts.found outlasts.standing
  refine ⟨evidence, since.later ⟨⟨.recover, script, rfl⟩, fun held request carried => ?_⟩,
    outlasts.backend.trans backend⟩
  cases carried with
  | served _ _ presented named found executes => cases presented
  | replayed _ fabric base early late started order named found executed =>
      cases started
      have replayed : (withScript (start.run done).fabric script).replayOrder =
          early ++ request :: late := by
        change (Option.map _ _).getD [] = _
        rw [show (withScript (start.run done).fabric script).replayStart = _ from order]
        rfl
      exact outlasts.leaves base _ order early request late replayed named held found executed

theorem evidenceStands_boot (config : FabricConfig) (journal : Option StableStore) (clock : Clock)
    (seed : UInt64) (script : List Bool) (start : System) (done : List Step) :
    EvidenceStands start done (boot config journal clock seed script) := by
  intro id queue found standing
  obtain ⟨old, outlasts⟩ := Fabric.standing_recover found standing
  cases outlasts.found

theorem EvidenceStands.step {start : System} {done : List Step} (input : Step)
    (stands : EvidenceStands start done (start.run done)) :
    EvidenceStands start (done ++ [input]) ((start.run done).step input) := by
  cases input with
  | restart survivors clock seed script => exact evidenceStands_boot _ _ _ _ _ _ _
  | call call script =>
      by_cases living : call = .recover
      · exact living ▸ stands.recover script
      · exact stands.call script living

/-! The step into quiescence. -/

theorem draining_invariant : Invariant (fun _ _ => True) (fun _ => True)
    (fun queue => queue.lifecycle = .draining → queue.drain.inProgress = true) where
  still still held draining := by
    rw [still.drain]
    exact held (still.lifecycle ▸ draining)
  mutated {fabric request now before after} mutated _ held draining := by
    obtain ⟨middle, applied, _, ended, unmoved⟩ := mutated.kindCase
    rw [unmoved.lifecycle] at draining
    rw [unmoved.drain]
    cases ended with
    | unchanged rule repeats => exact held draining
    | moved goal rule events kind moves allowed =>
        rcases kind with ⟨_, rfl⟩ | ⟨_, rfl⟩
        · cases draining
        · cases draining
    | redefined cls thresholds owner generation rule events minted kind changed bound ladder =>
        exact held draining
    | ingested sample overflows rule events stats kind payload generation epoch =>
        simp only [Fabric.ingestTarget, DrainState.inProgress, Fabric.noteZero_phase]
        exact held draining
    | drainRequested rule events kind moves allowed => rfl
    | drainCancelled rule events kind draining' => cases draining
    | evidenceRecorded evidence rule events kind payload progress some few backed => rfl
    | quiesced rule events kind draining' complete acknowledged => cases draining
    | fenced fence rule events kind raised => exact held draining
    | unfenced rule events kind => exact held draining
    | failed reason rule events kind moves allowed => cases draining
    | retired rule events kind moves allowed => cases draining
    | acknowledged acknowledged rule events kind generation => exact held draining
  declared declared draining := by
    rw [declared.blank.1] at draining
    cases draining
  restored {queue result} read _ held draining := by
    rw [(Fabric.same_restoreQueue result).lifecycle, read.lifecycle] at draining
    have progress := held draining
    rw [DrainState.inProgress, ← read.phase] at progress
    rw [Fabric.restoreQueue_drain]
    split
    · rename_i restored
      have phase : result.drain.phase ≠ .completed := by
        intro phase
        simp [phase] at progress
      simpa [Scan.restoreDrain, DrainState.inProgress, phase] using progress
    · exact progress

/-- A quiesce of a draining queue is presented by a caller; no replay carries one out. -/
theorem quiesce_cases {system : System} {input : Step} {id : QueueId} {queue : QueueRecord}
    {request : MutationRequest} (carried : CarriesOut id queue request system input)
    (kind : request.kind = .quiesceQueue) (draining : queue.lifecycle = .draining)
    (progress : queue.drain.inProgress = true) :
    system.fabric.findQueue id = some queue ∧ ∃ script middle now applied,
      Fabric.Touch (withScript system.fabric script) middle ∧
      Fabric.KindCase middle queue request now applied := by
  cases carried with
  | served call script presented named found executes =>
      have living : call ≠ .recover := by
        rintro rfl
        cases presented
      have moved := Fabric.serve_queueStep (withScript system.fabric script) living id
      rw [show (withScript system.fabric script).findQueue id = some queue from found] at moved
      generalize ((withScript system.fabric script).serve call).fabric.findQueue id = after
        at moved
      cases moved with
      | tended still tended quiet =>
          have declares := quiet request presented named executes
          rw [kind] at declares
          cases declares
      | unbound unbinds =>
          cases unbinds
          cases presented
      | mutated origin other now shown _ _ touch mutated =>
          obtain ⟨middle, applied, later, ended, unmoved⟩ := mutated.kindCase
          rw [shown.unique presented] at ended
          exact ⟨found, script, middle, now, applied, touch.trans later, ended⟩
  | replayed _ fabric base early late started order named found executed =>
      exfalso
      obtain ⟨now, moves⟩ := Fabric.replayOne_moves (base.replayAll early) request id
      rw [found] at moves
      generalize ((base.replayAll early).replayOne request).findQueue id = after at moves
      cases moves with
      | unmoved unmoved idle =>
          have declares := idle executed named
          rw [kind] at declares
          cases declares
      | mutated _ _ _ mutated =>
          obtain ⟨middle, applied, touch, ended, unmoved⟩ := mutated.kindCase
          obtain ⟨_, grounded⟩ := ended.grounded kind draining progress
          obtain ⟨live, alive, _⟩ := (grounded.of_touch touch).alive
          have dead := ((Fabric.replayStart_lifeless order).replayAll early).findLiveBackend
            queue.definition.resource queue.drain.evidence.backend.backend
          cases dead.symm.trans alive

/-- In every run, a draining queue on which a request is carried out has a drain in progress. -/
theorem inProgress_of_carriedOut (config : FabricConfig) (journaled : Bool) (clock : Clock)
    (seed : UInt64) (script : List Bool) {steps : List Step} {input : Step} {id : QueueId}
    {queue : QueueRecord} {request : MutationRequest}
    (carried : CarriesOut id queue request
      ((boot config (if journaled then some {} else none) clock seed script).run steps) input)
    (draining : queue.lifecycle = .draining) : queue.drain.inProgress = true := by
  have held := draining_invariant.run config journaled clock seed script
    (Runs.along_of_all respects_all _ steps)
  exact draining_invariant.carriedOut held (respects_all _ input) carried draining

def sampleZero (sequence : UInt64) (observedAt : Nanos) : OccupancySample :=
  { queue := ⟨1⟩, queueGeneration := ⟨1⟩, epoch := ⟨1⟩, sequence := ⟨sequence⟩, observedAt,
    provenance := sampleProvenance sequence }

def sampleEvidence : DrainEvidence :=
  { records := 1
    backend := { requestAccepted := true, reportedDrained := true, backend := ⟨1⟩,
                 backendIncarnation := ⟨1⟩, epoch := ⟨1⟩ }
    occupancyZeroObserved := true }

def sampleAck : BackendApplied :=
  { known := true, backend := ⟨1⟩, backendIncarnation := ⟨1⟩, epoch := ⟨1⟩, sequence := ⟨1⟩,
    appliedClass := ⟨⟨1⟩, ⟨1⟩⟩, queueGeneration := ⟨1⟩ }

def registration : Step := .call (.registerBackend ⟨1⟩ ⟨1⟩ ⟨5⟩ ⟨1⟩ (sampleProvenance 1)) []

/-- A drain with everything a quiesce asks for. -/
def provenSteps : List Step := sampleSteps ++ drainingSteps ++ [
  registration,
  .call (.apply (sampleRequest 5 .acknowledgeBackend (.backendAck sampleAck))) [],
  .call (.apply (sampleRequest 6 .submitDrainEvidence (.drainEvidence sampleEvidence))) [],
  .call (.apply (sampleRequest 7 .ingestOccupancy (.occupancy (sampleZero 7 1000)))) []]

def quiescing : MutationRequest := sampleRequest 8 .quiesceQueue .monostate

end System

end QueueFabric
