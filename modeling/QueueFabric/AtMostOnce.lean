import QueueFabric.ServeCases

/-!
The provenance gate over one process life. Every call either leaves the tracker
alone or feeds it one accepted record, so the records that calls pass with are
strictly increasing for each publisher and no request passes twice.
-/

namespace QueueFabric

/-- `later` comes after `earlier` in the sequence space of their publisher. -/
def Provenance.Precedes (earlier later : Provenance) : Prop :=
  earlier.publisher = later.publisher →
    earlier.incarnation.value < later.incarnation.value ∨
      earlier.incarnation = later.incarnation ∧ earlier.boot = later.boot ∧
        earlier.sequence.value < later.sequence.value

instance (earlier later : Provenance) : Decidable (earlier.Precedes later) :=
  inferInstanceAs (Decidable (_ → _))

namespace ProvenanceTracker

/-- The tracker has moved at least as far as `provenance`. -/
def Covers (tracker : ProvenanceTracker) (provenance : Provenance) : Prop :=
  ∃ state, tracker.states.get? provenance.publisher = some state ∧
    (provenance.incarnation.value < state.incarnation.value ∨
      provenance.incarnation = state.incarnation ∧ provenance.boot = state.boot ∧
        provenance.sequence.value ≤ state.lastSequence.value)

theorem observe_of_accepted (tracker : ProvenanceTracker) (provenance : Provenance)
    (accepted : tracker.classify provenance = .accepted) :
    tracker.observe provenance = (Status.success, ⟨tracker.states.insert provenance.publisher
      (PublisherState.accept ((tracker.states.get? provenance.publisher).getD {}) provenance),
      tracker.maxPublishers⟩) := by
  simp only [observe, accepted]

/-- An accepted record is ahead of everything its publisher passed with. -/
theorem precedes_of_accepted {tracker : ProvenanceTracker} {earlier later : Provenance}
    (covered : tracker.Covers earlier) (accepted : tracker.classify later = .accepted) :
    earlier.Precedes later := by
  intro same
  obtain ⟨state, found, bound⟩ := covered
  rw [same] at found
  simp only [classify, found] at accepted
  split at accepted
  · simp at accepted
  split at accepted
  · simp at accepted
  rename_i notOlder
  rw [UInt64.not_lt] at notOlder
  split at accepted
  · rename_i sameIncarnation
    split at accepted
    · simp at accepted
    rename_i sameBoot
    split at accepted
    · simp at accepted
    split at accepted
    · simp at accepted
    rename_i newer
    rw [UInt64.not_le] at newer
    rw [not_not] at sameBoot
    rcases bound with older | ⟨equal, boot, sequence⟩
    · exact .inl (sameIncarnation ▸ older)
    · exact .inr ⟨equal.trans sameIncarnation.symm, boot.trans sameBoot.symm,
        UInt64.lt_of_le_of_lt sequence newer⟩
  · rename_i different
    have ahead : state.incarnation.value < later.incarnation.value := by
      refine UInt64.lt_of_le_of_ne notOlder fun equal => different ?_
      exact Counter.ext equal.symm
    rcases bound with older | ⟨equal, _, _⟩
    · exact .inl (UInt64.lt_trans older ahead)
    · exact .inl (equal ▸ ahead)

theorem covers_observed (tracker : ProvenanceTracker) (provenance : Provenance)
    (accepted : tracker.classify provenance = .accepted) :
    (tracker.observe provenance).2.Covers provenance := by
  rw [observe_of_accepted tracker provenance accepted]
  exact ⟨_, Table.get?_insert_self _ _ _, .inr ⟨rfl, rfl, UInt64.le_refl _⟩⟩

theorem Covers.observe {tracker : ProvenanceTracker} {earlier later : Provenance}
    (covered : tracker.Covers earlier) (accepted : tracker.classify later = .accepted) :
    (tracker.observe later).2.Covers earlier := by
  rw [observe_of_accepted tracker later accepted]
  by_cases same : later.publisher = earlier.publisher
  · have ahead := precedes_of_accepted covered accepted same.symm
    refine ⟨_, by rw [← same]; exact Table.get?_insert_self _ _ _, ?_⟩
    rcases ahead with older | ⟨equal, boot, sequence⟩
    · exact .inl older
    · exact .inr ⟨equal, boot, UInt64.le_of_lt sequence⟩
  · obtain ⟨state, found, bound⟩ := covered
    exact ⟨state, by rw [Table.get?_insert_ne _ _ same]; exact found, bound⟩

/-- One call at the gate: `seen` is the record it passed with, if it passed. -/
def Gated (before after : ProvenanceTracker) (seen : Option Provenance) : Prop :=
  after = before ∧ seen = none ∨
    ∃ provenance, before.classify provenance = .accepted ∧
      after = (before.observe provenance).2 ∧ (seen = none ∨ seen = some provenance)

theorem gated_same {before after : ProvenanceTracker} (same : after = before) :
    Gated before after none := .inl ⟨same, rfl⟩

/-- Whatever the tracker covered it still covers after a call, and the call's record too. -/
theorem Gated.covers {before after : ProvenanceTracker} {seen : Option Provenance}
    (gated : Gated before after seen) :
    (∀ earlier, before.Covers earlier → after.Covers earlier) ∧
      ∀ provenance, seen = some provenance → after.Covers provenance := by
  rcases gated with ⟨same, nothing⟩ | ⟨provenance, accepted, observed, shown⟩
  · subst same nothing
    exact ⟨fun _ covered => covered, fun _ impossible => by simp at impossible⟩
  · subst observed
    refine ⟨fun _ covered => covered.observe accepted, fun later equal => ?_⟩
    rcases shown with nothing | shown
    · simp [nothing] at equal
    · rw [shown, Option.some.injEq] at equal
      exact equal ▸ covers_observed before provenance accepted

/-- A call passes only with a record ahead of everything the tracker covers. -/
theorem Gated.ahead {before after : ProvenanceTracker} {seen : Option Provenance}
    (gated : Gated before after seen) {earlier later : Provenance}
    (covered : before.Covers earlier) (shown : seen = some later) : earlier.Precedes later := by
  rcases gated with ⟨_, nothing⟩ | ⟨provenance, accepted, _, nothing | equal⟩
  · simp [nothing] at shown
  · simp [nothing] at shown
  · rw [equal, Option.some.injEq] at shown
    exact shown ▸ precedes_of_accepted covered accepted

end ProvenanceTracker

open ProvenanceTracker

namespace Fabric

variable {J : Type}

theorem admitProvenance_gated {fabric : Fabric J} {provenance : Provenance}
    {tracker : ProvenanceTracker} (live : fabric.replaying = false)
    (admitted : fabric.admitProvenance provenance = .ok tracker) :
    fabric.provenance.classify provenance = .accepted ∧
      tracker = (fabric.provenance.observe provenance).2 := by
  simp only [admitProvenance, live, Bool.false_eq_true, ↓reduceIte] at admitted
  split at admitted
  · rename_i accepted
    split at admitted
    · simp at admitted
    · exact ⟨accepted, (Except.ok.inj admitted).symm⟩
  · simp at admitted

/-- The record an outcome passed the gate with: replayed outcomes passed nothing. -/
def outcomeSeen (result : Except Status MutationOutcome) (provenance : Provenance) :
    Option Provenance :=
  match result with
  | .ok outcome => if outcome.replayed then none else some provenance
  | .error _ => none

variable [IJournal J]

theorem ExistingCase.gated {fabric : Fabric J} {key : QueueId} {queue : QueueRecord}
    {request : MutationRequest} {now : Nanos} {reply : Reply J MutationOutcome}
    (ended : ExistingCase fabric key queue request now reply) (live : fabric.replaying = false) :
    Gated fabric.provenance reply.fabric.provenance
        (outcomeSeen reply.result request.provenance) ∧
      reply.fabric.replaying = false := by
  cases ended with
  | answered memo recorded =>
      rw [answerFromMemo]
      split
      · exact ⟨gated_same rfl, live⟩
      split
      · exact ⟨gated_same rfl, live⟩
      · exact ⟨gated_same rfl, live⟩
  | refused tracker refusal unseen gate real =>
      refine ⟨?_, live⟩
      rcases gate with same | admitted
      · exact .inl ⟨same, rfl⟩
      · obtain ⟨accepted, observed⟩ := admitProvenance_gated live admitted
        exact .inr ⟨_, accepted, observed, .inl rfl⟩
  | undurable tracker applied refusal after admitted durable failed real =>
      obtain ⟨accepted, observed⟩ := admitProvenance_gated live admitted.gate
      have touch := commitDurably_touch failed
      exact ⟨.inr ⟨_, accepted, touch.provenance.trans observed, .inl rfl⟩,
        touch.replaying.trans live⟩
  | published tracker applied after admitted committed =>
      obtain ⟨accepted, observed⟩ := admitProvenance_gated live admitted.gate
      have touch := published_touch committed
      exact ⟨.inr ⟨_, accepted, touch.provenance.trans observed, .inr rfl⟩,
        touch.replaying.trans live⟩

theorem DeclareCase.gated {fabric : Fabric J} {request : MutationRequest}
    {payload : DeclareQueuePayload} {now : Nanos} {reply : Reply J MutationOutcome}
    (ended : DeclareCase fabric request payload now reply) (live : fabric.replaying = false) :
    Gated fabric.provenance reply.fabric.provenance
        (outcomeSeen reply.result request.provenance) ∧
      reply.fabric.replaying = false := by
  cases ended with
  | refused refusal => exact ⟨gated_same rfl, live⟩
  | answered id taken =>
      rw [answerDeclared]
      split
      · exact ⟨gated_same rfl, live⟩
      split
      · exact ⟨gated_same rfl, live⟩
      · exact ⟨gated_same rfl, live⟩
  | undurable resource refusal after declarable failed =>
      have touch := commitDurably_touch failed
      exact ⟨gated_same touch.provenance, touch.replaying.trans live⟩
  | committed resource after declarable written =>
      have touch := commitDurably_touch written
      have accepted : fabric.provenance.classify request.provenance = .accepted := by
        have gate := declarable.gate
        simp only [checkDeclareProvenance, live, Bool.false_eq_true, ↓reduceIte] at gate
        split at gate <;> first | assumption | simp at gate
      have replaying : after.replaying = false := touch.replaying.trans live
      rw [admitDeclared, if_neg (by simp [replaying])]
      simp only []
      have observed : (after.provenance.observe request.provenance).2 =
          (fabric.provenance.observe request.provenance).2 := by rw [touch.provenance]
      split
      · exact ⟨.inr ⟨_, accepted, observed, .inl rfl⟩, replaying⟩
      · exact ⟨.inr ⟨_, accepted, observed, .inr rfl⟩, replaying⟩

theorem ApplyCase.gated {fabric : Fabric J} {request : MutationRequest} {now : Nanos}
    {reply : Reply J MutationOutcome} (ended : ApplyCase fabric request now reply)
    (live : fabric.replaying = false) :
    Gated fabric.provenance reply.fabric.provenance
        (outcomeSeen reply.result request.provenance) ∧ reply.fabric.replaying = false := by
  cases ended with
  | stopped stopping => exact ⟨gated_same rfl, live⟩
  | unbound refusal => exact ⟨gated_same rfl, live⟩
  | declare payload _ valid kind carried ended => exact ended.gated live
  | existing queue _ valid kind found ended => exact ended.gated live

/-! Replay does not touch the gate. -/

omit [IJournal J] in
theorem admitProvenance_replaying {fabric : Fabric J} {provenance : Provenance}
    {tracker : ProvenanceTracker} (replaying : fabric.replaying = true)
    (admitted : fabric.admitProvenance provenance = .ok tracker) :
    tracker = fabric.provenance := by
  simp only [admitProvenance, replaying, ↓reduceIte] at admitted
  exact (Except.ok.inj admitted).symm

theorem ExistingCase.replayed {fabric : Fabric J} {key : QueueId} {queue : QueueRecord}
    {request : MutationRequest} {now : Nanos} {reply : Reply J MutationOutcome}
    (ended : ExistingCase fabric key queue request now reply)
    (replaying : fabric.replaying = true) :
    reply.fabric.provenance = fabric.provenance := by
  cases ended with
  | answered memo recorded =>
      rw [answerFromMemo]
      split
      · rfl
      split <;> rfl
  | refused tracker refusal unseen gate real =>
      rcases gate with same | admitted
      · exact same
      · exact admitProvenance_replaying replaying admitted
  | undurable tracker applied refusal after admitted durable failed real =>
      have touch := commitDurably_touch failed
      exact touch.provenance.trans (admitProvenance_replaying replaying admitted.gate)
  | published tracker applied after admitted committed =>
      have same := admitProvenance_replaying replaying admitted.gate
      exact (published_touch committed).provenance.trans same

theorem DeclareCase.replayed {fabric : Fabric J} {request : MutationRequest}
    {payload : DeclareQueuePayload} {now : Nanos} {reply : Reply J MutationOutcome}
    (ended : DeclareCase fabric request payload now reply)
    (replaying : fabric.replaying = true) :
    reply.fabric.provenance = fabric.provenance := by
  cases ended with
  | refused refusal => rfl
  | answered id taken =>
      rw [answerDeclared]
      split
      · rfl
      split <;> rfl
  | undurable resource refusal after declarable failed =>
      have touch := commitDurably_touch failed
      exact touch.provenance
  | committed resource after declarable written =>
      have touch := commitDurably_touch written
      rw [admitDeclared, if_pos (touch.replaying.trans replaying)]
      exact touch.provenance

theorem replayOne_provenance (fabric : Fabric J) (request : MutationRequest) :
    (fabric.replayOne request).provenance = fabric.provenance ∧
      (fabric.replayOne request).replaying = false := by
  have kept : ({ fabric with replaying := true }.applyLocked request).fabric.provenance =
      fabric.provenance := by
    have ended := applyAt_cases ({ fabric with replaying := true }.monotonicNow.2) request
      ({ fabric with replaying := true }.monotonicNow.1)
    rw [applyLocked]
    generalize ({ fabric with replaying := true }.monotonicNow.2).applyAt request _ = reply at ended
    cases ended with
    | stopped stopping => rfl
    | unbound refusal => rfl
    | declare payload _ valid kind carried ended => exact ended.replayed rfl
    | existing queue _ valid kind found ended => exact ended.replayed rfl
  rw [replayOne]
  simp only []
  split <;> exact ⟨kept, rfl⟩

theorem replayAll_provenance (fabric : Fabric J) (requests : List MutationRequest)
    (live : fabric.replaying = false) :
    (fabric.replayAll requests).provenance = fabric.provenance ∧
      (fabric.replayAll requests).replaying = false := by
  induction requests generalizing fabric with
  | nil => exact ⟨rfl, live⟩
  | cons request rest ih =>
      obtain ⟨same, still⟩ := replayOne_provenance fabric request
      obtain ⟨later, final⟩ := ih (fabric.replayOne request) still
      exact ⟨later.trans same, final⟩

omit [IJournal J] in
theorem noteUnfinished_gate (fabric : Fabric J) (outstanding : List MutationRequest) :
    (outstanding.foldl noteUnfinished fabric).provenance = fabric.provenance ∧
      (outstanding.foldl noteUnfinished fabric).replaying = fabric.replaying := by
  induction outstanding generalizing fabric with
  | nil => exact ⟨rfl, rfl⟩
  | cons request rest ih => exact ih (fabric.noteUnfinished request)

theorem replayScan_gate (fabric : Fabric J) (scan : Scan) (epoch : Epoch)
    (live : fabric.replaying = false) :
    (fabric.replayScan scan epoch).provenance = fabric.provenance ∧
      (fabric.replayScan scan epoch).replaying = false := by
  obtain ⟨same, still⟩ := replayAll_provenance (fabric.installScan scan epoch) scan.replayOrder live
  rw [replayScan, revalidateAll]
  generalize (fabric.installScan scan epoch).replayAll scan.replayOrder = replayed at same still
  obtain ⟨first, second⟩ := noteUnfinished_gate
    { replayed with
      queues := replayed.queues.mapValues fun _ queue => revalidateQueue queue
      recovery := { replayed.recovery with
        queuesRevalidated := replayed.recovery.queuesRevalidated + replayed.queues.size } }
    scan.outstanding.values
  exact ⟨first.trans same, second.trans still⟩

theorem recoverOpened_gate (fabric : Fabric J) (journal : J) (live : fabric.replaying = false) :
    (fabric.recoverOpened journal).fabric.provenance = fabric.provenance ∧
      (fabric.recoverOpened journal).fabric.replaying = false := by
  simp only [recoverOpened]
  split
  · exact ⟨rfl, live⟩
  · rename_i epoch minted
    obtain ⟨same, still⟩ := replayScan_gate (fabric.adoptScan journal (fabric.scanJournal journal))
      (fabric.scanJournal journal) epoch live
    have touch := closeRecovery_touch ((fabric.adoptScan journal
      (fabric.scanJournal journal)).replayScan (fabric.scanJournal journal) epoch)
    exact ⟨touch.provenance.trans same, touch.replaying.trans still⟩

theorem recover_gate (fabric : Fabric J) (live : fabric.replaying = false) :
    fabric.recover.fabric.provenance = fabric.provenance ∧
      fabric.recover.fabric.replaying = false := by
  simp only [recover, recoverLocked, Reply.emit]
  split
  · exact ⟨rfl, live⟩
  · split
    · exact ⟨rfl, live⟩
    · exact recoverOpened_gate fabric.beginRecovery _ live

/-! The gate over every call. -/

/-- The record a served call passed the gate with. -/
def passed : Served → Option Provenance
  | ⟨.apply request, .ok (.outcome outcome)⟩ => outcomeSeen (.ok outcome) request.provenance
  | ⟨.planBackendApply _ _ _ provenance, .ok _⟩ => some provenance
  | ⟨.commitBackendApply _ _ provenance, .ok (.outcome outcome)⟩ =>
      outcomeSeen (.ok outcome) provenance
  | _ => none

omit [IJournal J] in
theorem Touch.gated {before after : Fabric J} (touch : Touch before after)
    (live : before.replaying = false) :
    Gated before.provenance after.provenance none ∧ after.replaying = false :=
  ⟨gated_same touch.provenance, touch.replaying.trans live⟩

omit [IJournal J] in
theorem Refused.gated {α : Type} {before : Fabric J} {reply : Reply J α}
    (refused : Refused before reply) (live : before.replaying = false) :
    Gated before.provenance reply.fabric.provenance none ∧ reply.fabric.replaying = false :=
  refused.touch.gated live

theorem Recorded.gated {α : Type} {before lost kept : Fabric J} {type : JournalRecordType}
    {payload : Bytes} {value : α} {reply : Reply J α}
    (recorded : Recorded before type payload lost kept value reply)
    (onLost : lost.provenance = before.provenance ∧ lost.replaying = before.replaying)
    (onKept : kept.provenance = before.provenance ∧ kept.replaying = before.replaying)
    (live : before.replaying = false) :
    Gated before.provenance reply.fabric.provenance none ∧ reply.fabric.replaying = false := by
  cases recorded with
  | lost status events after touch written =>
      exact ⟨gated_same (touch.provenance.trans onLost.1),
        touch.replaying.trans (onLost.2.trans live)⟩
  | kept events after touch written =>
      exact ⟨gated_same (touch.provenance.trans onKept.1),
        touch.replaying.trans (onKept.2.trans live)⟩

theorem CommitCase.gated {fabric : Fabric J} {plan : BackendPlan} {queue : QueueRecord}
    {request : MutationRequest} {reply : Reply J MutationOutcome}
    (ended : CommitCase fabric plan queue request reply) (live : fabric.replaying = false) :
    Gated fabric.provenance reply.fabric.provenance
        (outcomeSeen reply.result request.provenance) ∧
      reply.fabric.replaying = false := by
  cases ended with
  | refused refused =>
      obtain ⟨status, failed⟩ := refused.failed
      rw [failed]
      exact refused.gated live
  | lost status events after touch written => exact touch.gated live
  | served middle now inner events after touch written ended final journal =>
      obtain ⟨gated, still⟩ := ended.gated (touch.replaying.trans live)
      rw [touch.provenance] at gated
      exact ⟨final.provenance ▸ gated, final.replaying.trans still⟩

omit [IJournal J] in
theorem passed_of_failed (call : Call) {result : Except Status Answer}
    (failed : ∃ status, result = .error status) : passed ⟨call, result⟩ = none := by
  obtain ⟨status, rfl⟩ := failed
  cases call <;> rfl

omit [IJournal J] in
/-- A call that answers with an outcome passes exactly when the outcome does. -/
theorem passed_outcome {call : Call} {provenance : Provenance}
    (shows : ∀ outcome, passed ⟨call, .ok (.outcome outcome)⟩ =
      outcomeSeen (.ok outcome) provenance) (result : Except Status MutationOutcome) :
    passed ⟨call, result.map .outcome⟩ = outcomeSeen result provenance := by
  cases result with
  | error status => exact passed_of_failed call ⟨status, rfl⟩
  | ok outcome => exact shows outcome

theorem ServeCase.tracked {fabric : Fabric J} {call : Call} {reply : Reply J Answer}
    (ended : ServeCase fabric call reply) (live : fabric.replaying = false) :
    Gated fabric.provenance reply.fabric.provenance (passed ⟨call, reply.result⟩) ∧
      reply.fabric.replaying = false := by
  cases ended with
  | refused refused =>
      rw [passed_of_failed call refused.failed]
      exact refused.gated live
  | recovered =>
      obtain ⟨same, still⟩ := recover_gate fabric live
      exact ⟨gated_same same, still⟩
  | stopped touch journal => exact touch.gated live
  | edited lost kept updated value spent issued edit recorded =>
      have gated := recorded.gated ⟨rfl, rfl⟩ ⟨rfl, rfl⟩ live
      cases edit <;> exact gated
  | classed resource name priority qos principal epoch provenance record cls classes nextClassId
      generation found declared recorded => exact recorded.gated ⟨rfl, rfl⟩ ⟨rfl, rfl⟩ live
  | advanced principal provenance epoch payload minted recorded =>
      exact recorded.gated ⟨rfl, rfl⟩ ⟨rfl, rfl⟩ live
  | invalidated id principal epoch reason queue events after found touch journal =>
      exact ⟨gated_same touch.provenance, touch.replaying.trans live⟩
  | applied request now inner events after ended touch journal read =>
      obtain ⟨gated, still⟩ := ended.gated live
      rw [passed_outcome fun _ => rfl]
      exact ⟨touch.provenance ▸ gated, touch.replaying.trans still⟩
  | gated id expected principal provenance accepted refused =>
      rw [passed_of_failed _ refused.failed]
      exact ⟨.inr ⟨provenance, accepted, refused.touch.provenance, .inl rfl⟩,
        refused.touch.replaying.trans live⟩
  | planned id expected principal provenance plan accepted recorded =>
      cases recorded with
      | lost status events after touch written =>
          exact ⟨.inr ⟨provenance, accepted, touch.provenance, .inl rfl⟩,
            touch.replaying.trans live⟩
      | kept events after touch written =>
          exact ⟨.inr ⟨provenance, accepted, touch.provenance, .inr rfl⟩,
            touch.replaying.trans live⟩
  | committed plan applied provenance queue inner found ended =>
      obtain ⟨gated, still⟩ := ended.gated live
      refine ⟨?_, still⟩
      rw [Reply.answered, passed_outcome fun _ => rfl]
      exact gated
  | aborted plan reason recorded => exact recorded.gated ⟨rfl, rfl⟩ ⟨rfl, rfl⟩ live
  | explained id principal touch journal => exact touch.gated live
  | refreshed now touch journal =>
      exact ⟨gated_same touch.provenance, touch.replaying.trans live⟩
  | compacted journal present touch rewritten => exact touch.gated live

/-- A call that feeds the tracker feeds it one accepted record, and passes with that one. -/
theorem serve_gated (fabric : Fabric J) (call : Call) (live : fabric.replaying = false) :
    Gated fabric.provenance (fabric.serve call).fabric.provenance
        (passed ⟨call, (fabric.serve call).result⟩) ∧
      (fabric.serve call).fabric.replaying = false := (serve_cases fabric call).tracked live

/-! One process life. -/

theorem history_passed (fabric : Fabric J) (calls : List Call) (live : fabric.replaying = false) :
    ((fabric.history calls).filterMap passed).Pairwise Provenance.Precedes ∧
      ∀ earlier, fabric.provenance.Covers earlier →
        ∀ later ∈ (fabric.history calls).filterMap passed, earlier.Precedes later := by
  induction calls generalizing fabric with
  | nil => exact ⟨.nil, fun _ _ _ member => by simp [history] at member⟩
  | cons call rest ih =>
      obtain ⟨gated, still⟩ := serve_gated fabric call live
      obtain ⟨ordered, ahead⟩ := ih (fabric.serve call).fabric still
      simp only [history]
      cases shown : passed ⟨call, (fabric.serve call).result⟩ with
      | none =>
          rw [List.filterMap_cons_none shown]
          exact ⟨ordered, fun earlier covered => ahead earlier (gated.covers.1 earlier covered)⟩
      | some provenance =>
          rw [List.filterMap_cons_some shown]
          refine ⟨.cons (ahead provenance (gated.covers.2 provenance shown)) ordered, ?_⟩
          intro earlier covered later member
          rcases List.mem_cons.mp member with first | member
          · exact first ▸ gated.ahead covered shown
          · exact ahead earlier (gated.covers.1 earlier covered) later member

/-- In one process life the calls that pass the gate carry, for each publisher, strictly
increasing records; no record passes twice. -/
theorem passed_strictly_increasing (config : FabricConfig) (clock : Clock) (journal : Option J)
    (seed : UInt64) (calls : List Call) :
    let served := (create config clock journal seed).history calls
    (served.filterMap passed).Pairwise Provenance.Precedes ∧
      served.Pairwise fun earlier later =>
        ∀ provenance, passed earlier = some provenance → passed later ≠ some provenance := by
  intro served
  have ordered := (history_passed (create config clock journal seed) calls rfl).1
  refine ⟨ordered, (List.pairwise_filterMap.mp ordered).imp ?_⟩
  intro earlier later precedes provenance first again
  rcases precedes provenance first provenance again rfl with behind | ⟨_, _, behind⟩
  · exact UInt64.lt_irrefl _ behind
  · exact UInt64.lt_irrefl _ behind

/-! A replayed commit answers ok without passing the gate. -/

/-- As `passed`, but counting every commit of a plan that answers ok. -/
def answeredOk : Served → Option Provenance
  | ⟨.commitBackendApply _ _ provenance, .ok _⟩ => some provenance
  | served => passed served

def gateProvenance (sequence : UInt64) : Provenance :=
  { publisher := ⟨9⟩, node := ⟨1⟩, incarnation := ⟨1⟩, epoch := ⟨1⟩, sequence := ⟨sequence⟩,
    boot := ⟨1, 1⟩ }

def gateApplied : BackendApplied :=
  { known := true, backend := ⟨1⟩, backendIncarnation := ⟨1⟩, epoch := ⟨1⟩, sequence := ⟨1⟩,
    appliedClass := ⟨⟨1⟩, ⟨1⟩⟩, queueGeneration := ⟨1⟩ }

def gatePlan : BackendPlan :=
  { attempt := ⟨⟨9⟩, 2⟩, queue := ⟨1⟩, resource := ⟨1⟩, expectedGeneration := ⟨1⟩,
    cls := ⟨⟨1⟩, ⟨1⟩⟩, thresholds := {}, principal := ⟨5⟩, epoch := ⟨1⟩, plannedAt := 1000 }

/-- A reservation whose acknowledgement also arrives as a plain request with the plan's attempt. -/
def gateCalls : List Call := [
  .recover,
  .declareResource (text "r") ⟨5⟩ (gateProvenance 1),
  .declareClass ⟨1⟩ (text "c") 0 {} ⟨5⟩ ⟨1⟩ (gateProvenance 1),
  .declarePool ⟨1⟩ (text "p") 0 ⟨5⟩ ⟨1⟩ (gateProvenance 1),
  .registerBackend ⟨1⟩ ⟨1⟩ ⟨5⟩ ⟨1⟩ (gateProvenance 1),
  .apply { attempt := ⟨⟨9⟩, 1⟩, kind := .declareQueue, expectedEpoch := ⟨1⟩, principal := ⟨5⟩,
           provenance := gateProvenance 1,
           payload := .declareQueue { resource := ⟨1⟩, name := text "q", cls := ⟨⟨1⟩, ⟨1⟩⟩,
                                      pool := ⟨⟨1⟩, ⟨1⟩, 0⟩ } },
  .planBackendApply ⟨1⟩ ⟨1⟩ ⟨5⟩ (gateProvenance 2),
  .apply { attempt := ⟨⟨9⟩, 2⟩, kind := .acknowledgeBackend, queue := ⟨1⟩,
           expectedGeneration := ⟨1⟩, expectedEpoch := ⟨1⟩, principal := ⟨5⟩,
           provenance := gateProvenance 3, payload := .backendAck gateApplied },
  .commitBackendApply gatePlan gateApplied (gateProvenance 3)]

theorem answeredOk_not_increasing :
    ¬ (((create {} ⟨fun _ => 1000, 0⟩ (none : Option StableStore) 7).history
      gateCalls).filterMap answeredOk).Pairwise Provenance.Precedes := by
  decide +kernel

end Fabric

end QueueFabric
