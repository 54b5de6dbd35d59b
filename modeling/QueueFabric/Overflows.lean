import QueueFabric.Observations

/-!
Overflows are counted. No call lowers the overflow counter of a queue, and an
observation in force that exceeds the queue's own maximum has raised it.
-/

namespace QueueFabric

open QueueRecord

namespace Fabric

variable {J : Type}

/-! The counter. -/

/-- The counter stands or takes one step. -/
def Tallied (before after : QueueRecord) : Prop :=
  after.overflowEvents = before.overflowEvents ∨
    after.overflowEvents = before.overflowEvents + 1

theorem Tallied.refl (queue : QueueRecord) : Tallied queue queue := .inl rfl

theorem tallied_supersedeEpoch (queue : QueueRecord) : Tallied queue (supersedeEpoch queue) := by
  left
  simp only [supersedeEpoch]
  split <;> split <;> rfl

theorem tallied_invalidateQueue (queue : QueueRecord) : Tallied queue (invalidateQueue queue) :=
  .inl rfl

theorem tallied_refreshQueueLocked (config : FabricConfig) (queue : QueueRecord) (now : Nanos) :
    Tallied queue (refreshQueueLocked config queue now) := by
  left
  simp only [refreshQueueLocked]
  split <;> rfl

theorem overflowEvents_publishQueue (fabric : Fabric J) (queue : QueueRecord)
    (request : MutationRequest) (applied : KindApplied) (durable : Bool) :
    (fabric.publishQueue queue request applied durable).overflowEvents =
      applied.target.overflowEvents := by
  simp only [publishQueue]
  split <;> rfl

/-- Only an observation moves the counter. -/
theorem KindCase.overflowEvents {fabric : Fabric J} {target : QueueRecord}
    {request : MutationRequest} {now : Nanos} {applied : KindApplied}
    (ended : KindCase fabric target request now applied)
    (other : request.kind ≠ .ingestOccupancy) :
    applied.target.overflowEvents = target.overflowEvents := by
  cases ended with
  | ingested sample overflows rule events stats kind => exact absurd kind other
  | _ => rfl

theorem applyKindLocked_ingests {fabric : Fabric J} {target : QueueRecord}
    {request : MutationRequest} {now : Nanos} {applied : KindApplied}
    (kind : request.kind = .ingestOccupancy)
    (ok : applyKindLocked fabric target request now = .ok applied) :
    ∃ sample, Ingests fabric target now sample applied.target applied.stats applied.events := by
  rw [applyKindLocked, kind] at ok
  cases carried : request.payload with
  | occupancy sample =>
      rw [carried] at ok
      exact ⟨sample, applyIngest_ingests ok⟩
  | _ =>
      rw [carried] at ok
      cases ok

theorem applyKindLocked_tallied {fabric : Fabric J} {target : QueueRecord}
    {request : MutationRequest} {now : Nanos} {applied : KindApplied}
    (ok : applyKindLocked fabric target request now = .ok applied) :
    Tallied target applied.target := by
  by_cases kind : request.kind = .ingestOccupancy
  · obtain ⟨sample, ingests⟩ := applyKindLocked_ingests kind ok
    rw [Tallied, ingests.counted]
    split
    · exact .inr rfl
    · exact .inl (UInt64.add_zero _)
  · exact .inl ((applyKindLocked_cases ok).overflowEvents kind)

/-! Calls. -/

/-- Every queue that stays is tallied. -/
def AllTallied (before after : Table QueueId QueueRecord) : Prop :=
  ∀ id queue next, before.get? id = some queue → after.get? id = some next → Tallied queue next

theorem allTallied_of_eq {before after : Table QueueId QueueRecord} (same : after = before) :
    AllTallied before after := by
  intro id queue next found stored
  rw [same, found, Option.some.injEq] at stored
  exact stored ▸ .refl queue

theorem allTallied_of_related {before after : Table QueueId QueueRecord}
    (related : Table.Related Tallied before after) : AllTallied before after := by
  intro id queue next found stored
  obtain ⟨old, here, tallied⟩ := related.get? stored
  rw [found, Option.some.injEq] at here
  exact here ▸ tallied

theorem allTallied_insert {queues : Table QueueId QueueRecord} {key : QueueId}
    {queue updated : QueueRecord} (found : queues.get? key = some queue)
    (tallied : Tallied queue updated) : AllTallied queues (queues.insert key updated) :=
  allTallied_of_related (Table.related_insert Tallied.refl found tallied)

theorem allTallied_emplace (queues : Table QueueId QueueRecord) (key : QueueId)
    (record : QueueRecord) : AllTallied queues (queues.emplace key record) := by
  intro id queue next found stored
  rw [Table.get?_emplace, found, Option.some_or, Option.some.injEq] at stored
  exact stored ▸ .refl queue

variable [IJournal J]

omit [IJournal J] in
theorem answerFromMemo_allTallied (fabric : Fabric J) {key : QueueId} {queue : QueueRecord}
    (found : fabric.findQueue key = some queue) (request : MutationRequest) (now : Nanos)
    (memo : AttemptMemo) :
    AllTallied fabric.queues (fabric.answerFromMemo key queue request now memo).fabric.queues := by
  rw [answerFromMemo]
  split
  · exact allTallied_insert found (.inl rfl)
  split
  · exact allTallied_insert found (.inl rfl)
  · exact allTallied_insert found (.inl rfl)

theorem ExistingCase.allTallied {fabric : Fabric J} {key : QueueId} {queue : QueueRecord}
    {request : MutationRequest} {now : Nanos} {reply : Reply J MutationOutcome}
    (ended : ExistingCase fabric key queue request now reply)
    (found : fabric.findQueue key = some queue) : AllTallied fabric.queues reply.fabric.queues := by
  cases ended with
  | answered memo recorded => exact answerFromMemo_allTallied fabric found request now memo
  | refused tracker refusal unseen gate real => exact allTallied_insert found (.inl rfl)
  | undurable tracker applied refusal after admitted durable failed real =>
      have queues : after.queues = fabric.queues := (commitDurably_touch failed).queues
      simp only [reject, queues]
      exact allTallied_insert found (.inl rfl)
  | published tracker applied after admitted committed =>
      have queues : after.queues = fabric.queues := (published_touch committed).queues
      simp only [publish, queues]
      refine allTallied_insert found ?_
      rw [Tallied, overflowEvents_publishQueue]
      exact applyKindLocked_tallied admitted.kind

theorem DeclareCase.allTallied {fabric : Fabric J} {request : MutationRequest}
    {payload : DeclareQueuePayload} {now : Nanos} {reply : Reply J MutationOutcome}
    (ended : DeclareCase fabric request payload now reply) :
    AllTallied fabric.queues reply.fabric.queues := by
  cases ended with
  | refused refusal => exact allTallied_of_eq rfl
  | answered id taken =>
      rw [answerDeclared]
      split
      · exact allTallied_of_eq rfl
      · split <;> exact allTallied_of_eq rfl
  | undurable resource refusal after declarable failed =>
      exact allTallied_of_eq (commitDurably_touch failed).queues
  | committed resource after declarable written =>
      rw [← (commitDurably_touch written).queues, admitDeclared]
      split
      · exact allTallied_emplace _ _ _
      · simp only []
        split
        · exact allTallied_of_eq rfl
        · exact allTallied_emplace _ _ _

theorem ApplyCase.allTallied {fabric : Fabric J} {request : MutationRequest} {now : Nanos}
    {reply : Reply J MutationOutcome} (ended : ApplyCase fabric request now reply) :
    AllTallied fabric.queues reply.fabric.queues := by
  cases ended with
  | stopped stopping => exact allTallied_of_eq rfl
  | unbound refusal => exact allTallied_of_eq rfl
  | declare payload reply valid kind carried ended => exact ended.allTallied
  | existing queue reply valid kind found ended => exact ended.allTallied found

theorem CommitCase.allTallied {fabric : Fabric J} {plan : BackendPlan} {queue : QueueRecord}
    {request : MutationRequest} {reply : Reply J MutationOutcome}
    (ended : CommitCase fabric plan queue request reply)
    (found : fabric.findQueue plan.queue = some queue) :
    AllTallied fabric.queues reply.fabric.queues := by
  cases ended with
  | refused refused => exact allTallied_of_eq refused.queues
  | lost status events after touch written => exact allTallied_of_eq touch.queues
  | served middle now inner events after touch written ended final journal =>
      rw [final.queues, ← touch.queues]
      exact ended.allTallied (by rw [findQueue, touch.queues]; exact found)

theorem Recorded.allTallied {α : Type} {before lost kept : Fabric J} {type : JournalRecordType}
    {payload : Bytes} {value : α} {reply : Reply J α}
    (recorded : Recorded before type payload lost kept value reply)
    (onLost : lost.queues = before.queues) (onKept : AllTallied before.queues kept.queues) :
    AllTallied before.queues reply.fabric.queues := by
  cases recorded with
  | lost status events after touch written => exact allTallied_of_eq (touch.queues.trans onLost)
  | kept events after touch written =>
      rw [touch.queues]
      exact onKept

theorem serve_allTallied (fabric : Fabric J) {call : Call} (living : call ≠ .recover) :
    AllTallied fabric.queues (fabric.serve call).fabric.queues := by
  have ended := serve_cases fabric call
  generalize fabric.serve call = reply at ended
  cases ended with
  | refused refused => exact allTallied_of_eq refused.queues
  | recovered => exact absurd rfl living
  | stopped touch journal => exact allTallied_of_eq touch.queues
  | edited lost kept updated value spent issued edit recorded =>
      exact recorded.allTallied rfl (allTallied_of_eq rfl)
  | classed resource name priority qos principal epoch provenance record cls classes nextClassId
      generation found declared recorded =>
      refine recorded.allTallied rfl (allTallied_of_related ?_)
      refine Table.related_mapValues _ fun key queue => ?_
      split <;> exact .inl rfl
  | advanced principal provenance epoch payload minted recorded =>
      refine recorded.allTallied rfl (allTallied_of_related ?_)
      exact Table.related_mapValues _ fun _ queue => tallied_supersedeEpoch queue
  | invalidated id principal epoch reason queue events after found touch journal =>
      rw [touch.queues]
      exact allTallied_insert found (tallied_invalidateQueue queue)
  | applied request now inner events after ended touch journal =>
      rw [touch.queues]
      exact ended.allTallied
  | gated id expected principal provenance accepted refused => exact allTallied_of_eq refused.queues
  | planned id expected principal provenance plan accepted recorded =>
      exact recorded.allTallied rfl (allTallied_of_eq rfl)
  | committed plan applied provenance queue inner found ended => exact ended.allTallied found
  | aborted plan reason recorded => exact recorded.allTallied rfl (allTallied_of_eq rfl)
  | explained id principal touch journal => exact allTallied_of_eq touch.queues
  | refreshed now touch journal =>
      rw [touch.queues]
      exact allTallied_of_related
        (Table.related_mapValues _ fun _ queue => tallied_refreshQueueLocked _ queue now)
  | compacted journal present touch rewritten => exact allTallied_of_eq touch.queues

end Fabric

/-! The observation in force. -/

/-- An observation of the current definition above the own maximum of the queue has been counted;
the counter cannot have wrapped in so few calls. -/
structure QueueRecord.Reported (calls : Nat) (queue : QueueRecord) : Prop where
  few : queue.overflowEvents.toNat ≤ calls
  bound : queue.occupancy.present = true →
    queue.occupancy.queueGeneration.value ≤ queue.definition.generation.value
  counted : queue.occupancy.present = true →
    queue.occupancy.queueGeneration = queue.definition.generation →
    queue.definition.thresholds.maxOccupancyBytes ≠ 0 →
    queue.definition.thresholds.maxOccupancyBytes < queue.occupancy.bytes →
    queue.overflowEvents ≠ 0

theorem OccupancySample.overflows_own {sample : OccupancySample} {policy : FabricPolicy}
    {own : Thresholds} {cls : ClassId} (maximum : own.maxOccupancyBytes ≠ 0)
    (above : own.maxOccupancyBytes < sample.bytes) :
    sample.overflows (policy.resolve own cls) = true := by
  rw [overflows_iff]
  left
  simp only [FabricPolicy.resolve, if_pos maximum]
  exact ⟨maximum, above⟩

namespace Fabric

variable {J : Type} {calls : Nat}

theorem Tallied.few {before after : QueueRecord} (tallied : Tallied before after)
    (few : before.overflowEvents.toNat ≤ calls) (small : calls + 1 < 2 ^ 64) :
    after.overflowEvents.toNat ≤ calls + 1 ∧
      (before.overflowEvents ≠ 0 → after.overflowEvents ≠ 0) := by
  rcases tallied with same | next
  · rw [same]
    exact ⟨Nat.le_succ_of_le few, id⟩
  · have value : after.overflowEvents.toNat = before.overflowEvents.toNat + 1 := by
      rw [next, UInt64.toNat_add, UInt64.toNat_one, Nat.mod_eq_of_lt (by omega)]
    refine ⟨by omega, fun _ zero => ?_⟩
    rw [zero, UInt64.toNat_zero] at value
    omega

/-- The observation stays and the counter is tallied. -/
theorem Tallied.reported {before after : QueueRecord} (tallied : Tallied before after)
    (reported : before.Reported calls) (small : calls + 1 < 2 ^ 64)
    (definition : after.definition = before.definition)
    (reading : after.occupancy.reading = before.occupancy.reading) :
    after.Reported (calls + 1) := by
  obtain ⟨few, grows⟩ := tallied.few reported.few small
  obtain ⟨present, bytes, _, _, _, generation⟩ := OccupancyState.values_of_reading reading
  refine ⟨few, ?_, ?_⟩
  · rw [present, generation, definition]
    exact reported.bound
  · rw [present, generation, definition, bytes]
    exact fun here bound maximum above => grows (reported.counted here bound maximum above)

theorem reported_of_ingests {fabric : Fabric J} {before after : QueueRecord} {now : Nanos}
    {sample : OccupancySample} {stats : FabricStats} {events : List Event}
    (ingests : Ingests fabric before now sample after stats events) (tallied : Tallied before after)
    (reported : before.Reported calls) (small : calls + 1 < 2 ^ 64) :
    after.Reported (calls + 1) := by
  refine ⟨(tallied.few reported.few small).1, fun _ => ?_, fun _ _ maximum above => ?_⟩
  · rw [ingests.occupancy, ingests.definition]
    exact UInt64.le_of_eq (congrArg Counter.value ingests.generation)
  · rw [ingests.definition] at maximum above
    rw [ingests.occupancy] at above
    have exceeds : sample.overflows (effectiveThresholds fabric.config before) = true :=
      OccupancySample.overflows_own maximum above
    have next : after.overflowEvents = before.overflowEvents + 1 := by
      rw [ingests.counted, if_pos exceeds]
    have few := reported.few
    rw [next]
    intro zero
    have value := congrArg UInt64.toNat zero
    rw [UInt64.toNat_add, UInt64.toNat_one, Nat.mod_eq_of_lt (by omega), UInt64.toNat_zero] at value
    omega

theorem applyKindLocked_reported {fabric : Fabric J} {target : QueueRecord}
    {request : MutationRequest} {now : Nanos} {applied : KindApplied}
    (ok : applyKindLocked fabric target request now = .ok applied)
    (reported : target.Reported calls) (small : calls + 1 < 2 ^ 64) :
    applied.target.Reported (calls + 1) := by
  have tallied := applyKindLocked_tallied ok
  by_cases kind : request.kind = .ingestOccupancy
  · obtain ⟨sample, ingests⟩ := applyKindLocked_ingests kind ok
    exact reported_of_ingests ingests tallied reported small
  have ended := applyKindLocked_cases ok
  cases ended with
  | ingested sample overflows rule events stats observes => exact absurd observes kind
  | redefined cls thresholds owner generation rule events minted redefines changed bound ladder =>
      -- the observation stays behind with the older generation
      obtain ⟨present, _, _, _, _, behind⟩ := OccupancyState.values_of_reading
        (OccupancyState.reading_invalidate target.occupancy .staleGeneration)
      have newer : target.definition.generation.value < generation.value := Counter.next_lt minted
      have below (here : (redefine target { target.definition with
          cls, thresholds, owner, generation }).occupancy.present = true) :
          (invalidateOccupancy target.occupancy .staleGeneration).queueGeneration.value <
            generation.value := by
        rw [behind]
        exact UInt64.lt_of_le_of_lt (reported.bound (present.symm.trans here)) newer
      refine ⟨(tallied.few reported.few small).1, fun here => UInt64.le_of_lt (below here),
        fun here same => ?_⟩
      have apart := below here
      rw [show (invalidateOccupancy target.occupancy .staleGeneration).queueGeneration =
        generation from same] at apart
      exact absurd apart (UInt64.lt_irrefl _)
  | retired rule events retires moves allowed =>
      have absent : ¬ (OccupancyState.present {} = true) := by decide
      exact ⟨(tallied.few reported.few small).1, fun here => absurd here absent,
        fun here => absurd here absent⟩
  | _ => exact tallied.reported reported small rfl rfl

theorem QueueStep.reported {fabric : Fabric J} {call : Call} {result : Except Status Answer}
    {id : QueueId} {before : Option QueueRecord} {after : QueueRecord}
    (step : QueueStep fabric call result id before (some after))
    (tallied : ∀ queue, before = some queue → Tallied queue after)
    (reported : ∀ queue, before = some queue → queue.Reported calls) (small : calls + 1 < 2 ^ 64) :
    after.Reported (calls + 1) := by
  cases step with
  | tended still tended quiet remembers =>
      exact (tallied _ rfl).reported (reported _ rfl) small still.definition still.reading
  | unbound unbinds =>
      have still := still_supersedeBinding
      exact (tallied _ rfl).reported (reported _ rfl) small (still _).definition (still _).reading
  | @mutated queue _ start request now presented named executed touch mutated read =>
      cases mutated with
      | intro middle published tracker applied durable touch config admitted =>
          have unmoved := unmoved_publishQueue published queue request applied durable
          have counter := overflowEvents_publishQueue published queue request applied durable
          obtain ⟨few, bound, counted⟩ :=
            applyKindLocked_reported admitted.kind (reported _ rfl) small
          refine ⟨by rw [counter]; exact few, ?_, ?_⟩
          · rw [unmoved.occupancy, unmoved.definition]
            exact bound
          · rw [unmoved.occupancy, unmoved.definition, counter]
            exact counted
  | declared start request now presented executed touch declared =>
      have occupancy := declared.blank.2.2.1
      cases declared with
      | intro _ payload resource durable config numbered next kind carried declarable =>
          have absent : ¬ (OccupancyState.present {} = true) := by decide
          refine ⟨Nat.zero_le _, ?_, ?_⟩
          · rw [occupancy]
            exact fun here => absurd here absent
          · rw [occupancy]
            exact fun here => absurd here absent

end Fabric

end QueueFabric
