import QueueFabric.Lib.Runs
import QueueFabric.SerializeRoundTrip
import QueueFabric.KindCases
import QueueFabric.RecoveryCases

/-!
Occupancy evidence over whole runs. Only an accepted observation makes the
evidence of a queue current; every other step keeps it, ages it or withdraws it.
-/

namespace QueueFabric

/-- The stored observation is the one the sample reported. -/
structure OccupancyState.Stores (state : OccupancyState) (sample : OccupancySample) : Prop where
  present : state.present = true
  bytes : state.bytes = sample.bytes
  packets : state.packets = sample.packets
  observedAt : state.observedAt = sample.observedAt
  sequence : state.sequence = sample.sequence
  epoch : state.epoch = sample.epoch
  provenance : state.provenance = sample.provenance
  queueGeneration : state.queueGeneration = sample.queueGeneration

namespace QueueRecord

/-- No observation is ahead of the queue it was taken from. -/
def Bounded (queue : QueueRecord) : Prop :=
  queue.occupancy.queueGeneration.value ≤ queue.definition.generation.value

/-- Evidence that a later look at the clock may call fresh. -/
structure Current (queue : QueueRecord) : Prop where
  present : queue.occupancy.present = true
  loose : isSticky queue.occupancy.freshness = false
  generation : queue.occupancy.queueGeneration = queue.definition.generation

/-- `after` has no current evidence that `before` did not have. -/
structure Carries (before after : QueueRecord) : Prop where
  bounded : before.Bounded → after.Bounded
  current : before.Bounded → after.Current → before.Current
  stores : before.Bounded → after.Current → ∀ sample, before.occupancy.Stores sample →
    after.occupancy.Stores sample

theorem Carries.of_same {before after : QueueRecord} (occupancy : after.occupancy = before.occupancy)
    (generation : after.definition.generation = before.definition.generation) :
    Carries before after where
  bounded bounded := by
    rw [Bounded, occupancy, generation]
    exact bounded
  current _ current :=
    ⟨occupancy ▸ current.present, occupancy ▸ current.loose,
      (occupancy ▸ current.generation).trans generation⟩
  stores _ _ sample stored := occupancy ▸ stored

theorem Carries.refl (queue : QueueRecord) : Carries queue queue := .of_same rfl rfl

theorem Carries.trans {first second third : QueueRecord} (one : Carries first second)
    (two : Carries second third) : Carries first third where
  bounded bounded := two.bounded (one.bounded bounded)
  current bounded current := one.current bounded (two.current (one.bounded bounded) current)
  stores bounded current sample stored :=
    two.stores (one.bounded bounded) current sample
      (one.stores bounded (two.current (one.bounded bounded) current) sample stored)

theorem Carries.of_not_current {before after : QueueRecord}
    (bounded : before.Bounded → after.Bounded) (stale : before.Bounded → ¬ after.Current) :
    Carries before after where
  bounded := bounded
  current known current := absurd current (stale known)
  stores known current := absurd current (stale known)

theorem Carries.of_freshness {before after : QueueRecord} {freshness : Freshness} {age : Nanos}
    (occupancy : after.occupancy = { before.occupancy with freshness, age })
    (definition : after.definition = before.definition)
    (sticky : before.occupancy.present = true → isSticky freshness = false →
      isSticky before.occupancy.freshness = false) :
    Carries before after where
  bounded bounded := by
    rw [Bounded, occupancy, definition]
    exact bounded
  current _ current := by
    obtain ⟨present, loose, generation⟩ := current
    rw [occupancy] at present loose generation
    exact ⟨present, sticky present loose, generation.trans (congrArg _ definition)⟩
  stores _ _ sample stored := by
    obtain ⟨present, bytes, packets, observedAt, sequence, epoch, provenance, generation⟩ := stored
    rw [occupancy]
    exact ⟨present, bytes, packets, observedAt, sequence, epoch, provenance, generation⟩

theorem not_current_of_sticky {queue : QueueRecord}
    (sticky : queue.occupancy.present = true → isSticky queue.occupancy.freshness = true) :
    ¬ queue.Current := by
  intro current
  have loose := current.loose
  rw [sticky current.present] at loose
  simp at loose

theorem invalidate_sticky {occupancy : OccupancyState} {reason : Freshness}
    (sticky : isSticky reason = true)
    (present : (invalidateOccupancy occupancy reason).present = true) :
    isSticky (invalidateOccupancy occupancy reason).freshness = true := by
  rw [invalidateOccupancy] at present ⊢
  split
  · rename_i absent
    simp only [absent, ↓reduceIte] at present
    simp [present] at absent
  · exact sticky

@[simp] theorem invalidate_queueGeneration (occupancy : OccupancyState) (reason : Freshness) :
    (invalidateOccupancy occupancy reason).queueGeneration = occupancy.queueGeneration := by
  rw [invalidateOccupancy]
  split <;> rfl

end QueueRecord

open QueueRecord

namespace Fabric

variable {J : Type}

/-! What each kind does to the evidence. -/

theorem carries_redefine {target : QueueRecord} {definition : QueueDefinition}
    (ahead : target.definition.generation.value < definition.generation.value) :
    Carries target (redefine target definition) := by
  have past : target.Bounded →
      target.occupancy.queueGeneration.value < definition.generation.value :=
    fun bounded => UInt64.lt_of_le_of_lt bounded ahead
  refine .of_not_current (fun bounded => ?_) (fun bounded current => ?_)
  · rw [Bounded, redefine, invalidate_queueGeneration]
    exact UInt64.le_of_lt (past bounded)
  · have same := current.generation
    rw [redefine, invalidate_queueGeneration] at same
    have behind := past bounded
    rw [same] at behind
    exact UInt64.lt_irrefl _ behind

theorem carries_reset {before after : QueueRecord} (empty : after.occupancy = {}) :
    Carries before after := by
  refine .of_not_current (fun _ => ?_) (fun _ current => ?_)
  · rw [Bounded, empty]
    exact UInt64.zero_le
  · have present := current.present
    rw [empty] at present
    simp at present

section Kinds

variable {fabric : Fabric J} {target : QueueRecord} {request : MutationRequest} {now : Nanos}
  {applied : KindApplied}

/-- An accepted observation: what it stores and what it was checked against. -/
structure Ingested (fabric : Fabric J) (target updated : QueueRecord) (sample : OccupancySample) :
    Prop where
  stores : updated.occupancy.Stores sample
  definition : updated.definition = target.definition
  generation : sample.queueGeneration = target.definition.generation
  epoch : sample.epoch = fabric.epoch

/-- Every accepted kind carries the evidence of its target, except an accepted observation. -/
theorem applyKindLocked_carries (ok : applyKindLocked fabric target request now = .ok applied) :
    Carries target applied.target ∨
      ∃ sample, request.kind = .ingestOccupancy ∧ request.payload = .occupancy sample ∧
        Ingested fabric target applied.target sample := by
  cases applyKindLocked_cases ok with
  | redefined cls thresholds owner generation rule events minted kind changed bound ladder =>
      exact .inl (carries_redefine (Counter.next_lt minted))
  | ingested sample overflows rule events stats kind payload generation epoch =>
      exact .inr ⟨sample, kind, payload, ⟨rfl, rfl, rfl, rfl, rfl, rfl, rfl, rfl⟩, rfl, generation,
        epoch⟩
  | retired rule events kind moves allowed => exact .inl (carries_reset rfl)
  -- the other kinds leave the occupancy and the generation alone
  | _ => exact .inl (.of_same rfl rfl)

end Kinds

/-! What a call does to the evidence of every queue. -/

/-- No queue of `after` has current evidence that its record in `before` did not have. -/
def CarriesAll (before after : Table QueueId QueueRecord) : Prop :=
  ∀ id updated, after.get? id = some updated →
    (∃ queue, before.get? id = some queue ∧ Carries queue updated) ∨
      updated.Bounded ∧ ¬ updated.Current

theorem carriesAll_refl (queues : Table QueueId QueueRecord) : CarriesAll queues queues :=
  fun _ updated found => .inl ⟨updated, found, .refl updated⟩

theorem carriesAll_insert {queues : Table QueueId QueueRecord} {key : QueueId}
    {queue updated : QueueRecord} (found : queues.get? key = some queue)
    (carries : Carries queue updated) : CarriesAll queues (queues.insert key updated) := by
  intro id current stored
  by_cases same : key = id
  · subst same
    rw [Table.get?_insert_self, Option.some.injEq] at stored
    exact .inl ⟨queue, found, stored ▸ carries⟩
  · rw [Table.get?_insert_ne _ _ same] at stored
    exact .inl ⟨current, stored, .refl current⟩

theorem carriesAll_emplace {queues : Table QueueId QueueRecord} {key : QueueId}
    {record : QueueRecord} (bounded : record.Bounded) (stale : ¬ record.Current) :
    CarriesAll queues (queues.emplace key record) := by
  rw [Table.emplace]
  split
  · exact carriesAll_refl queues
  · intro id current stored
    by_cases same : key = id
    · subst same
      rw [Table.get?_insert_self, Option.some.injEq] at stored
      exact .inr (stored ▸ ⟨bounded, stale⟩)
    · rw [Table.get?_insert_ne _ _ same] at stored
      exact .inl ⟨current, stored, .refl current⟩

theorem carriesAll_mapValues {queues : Table QueueId QueueRecord}
    {update : QueueId → QueueRecord → QueueRecord}
    (each : ∀ id queue, queues.get? id = some queue → Carries queue (update id queue)) :
    CarriesAll queues (queues.mapValues update) := by
  intro id updated stored
  rw [Table.get?_mapValues] at stored
  obtain ⟨queue, found, equal⟩ := Option.map_eq_some_iff.mp stored
  exact .inl ⟨queue, found, equal ▸ each id queue found⟩

theorem carries_rejectQueue (config : FabricConfig) (queue : QueueRecord)
    (request : MutationRequest) (refusal : Refusal) :
    Carries queue (rejectQueue config queue request refusal) := .of_same rfl rfl

theorem publishQueue_occupancy (fabric : Fabric J) (queue : QueueRecord)
    (request : MutationRequest) (applied : KindApplied) (durable : Bool) :
    (publishQueue fabric queue request applied durable).occupancy = applied.target.occupancy ∧
      (publishQueue fabric queue request applied durable).definition =
        applied.target.definition := by
  simp only [publishQueue]
  split <;> exact ⟨rfl, rfl⟩

theorem declaredRecord_evidence (fabric : Fabric J) (request : MutationRequest)
    (payload : DeclareQueuePayload) (now : Nanos) (durable : Bool) :
    (declaredRecord fabric request payload now durable).Bounded ∧
      ¬ (declaredRecord fabric request payload now durable).Current := by
  refine ⟨UInt64.zero_le, fun current => ?_⟩
  have present : false = true := current.present
  simp at present

variable [IJournal J]

/-- An application either carries all evidence or stores one accepted observation. -/
structure Observed (fabric : Fabric J) (request : MutationRequest)
    (reply : Reply J MutationOutcome) (sample : OccupancySample) (queue updated : QueueRecord) :
    Prop where
  kind : request.kind = .ingestOccupancy
  payload : request.payload = .occupancy sample
  answered : ∃ outcome, reply.result = .ok outcome ∧ outcome.replayed = false
  found : fabric.findQueue request.queue = some queue
  ingested : Ingested fabric queue updated sample
  queues : reply.fabric.queues = fabric.queues.insert request.queue updated

theorem ExistingCase.evidence {fabric : Fabric J} {key : QueueId} {queue : QueueRecord}
    {request : MutationRequest} {now : Nanos} {reply : Reply J MutationOutcome}
    (ended : ExistingCase fabric key queue request now reply)
    (found : fabric.findQueue key = some queue) (target : request.queue = key) :
    (reply.fabric.epoch = fabric.epoch ∧ reply.fabric.config = fabric.config) ∧
      (CarriesAll fabric.queues reply.fabric.queues ∨
        ∃ sample updated, Observed fabric request reply sample queue updated) := by
  subst target
  cases ended with
  | answered memo recorded =>
      have counted : ∀ updated : QueueRecord, updated.occupancy = queue.occupancy →
          updated.definition = queue.definition →
          CarriesAll fabric.queues (fabric.queues.insert request.queue updated) :=
        fun updated occupancy definition =>
          carriesAll_insert found (.of_same occupancy (congrArg _ definition))
      rw [answerFromMemo]
      split
      · exact ⟨⟨rfl, rfl⟩, .inl (counted _ rfl rfl)⟩
      split
      · exact ⟨⟨rfl, rfl⟩, .inl (counted _ rfl rfl)⟩
      · exact ⟨⟨rfl, rfl⟩, .inl (counted _ rfl rfl)⟩
  | refused tracker refusal unseen gate real =>
      exact ⟨⟨rfl, rfl⟩, .inl (carriesAll_insert found (carries_rejectQueue ..))⟩
  | undurable tracker applied refusal after admitted durable failed real =>
      have touch := commitDurably_touch failed
      refine ⟨⟨touch.epoch, touch.config⟩, .inl ?_⟩
      simp only [reject, touch.queues]
      exact carriesAll_insert found (carries_rejectQueue ..)
  | published tracker applied after admitted committed =>
      have touch := published_touch committed
      refine ⟨⟨touch.epoch, touch.config⟩, ?_⟩
      simp only [publish, touch.queues]
      obtain ⟨occupancy, definition⟩ := publishQueue_occupancy after queue request applied
        (isDurable request.kind && after.journal.isSome)
      rcases applyKindLocked_carries admitted.kind with carries | ⟨sample, kind, payload, ingested⟩
      · have published := Carries.of_same occupancy (congrArg _ definition)
        exact .inl (carriesAll_insert found (carries.trans published))
      · refine .inr ⟨sample, _, kind, payload, ⟨_, rfl, rfl⟩, found, ?_, rfl⟩
        exact ⟨occupancy ▸ ingested.stores, definition.trans ingested.definition,
          ingested.generation, ingested.epoch⟩

theorem DeclareCase.evidence {fabric : Fabric J} {request : MutationRequest}
    {payload : DeclareQueuePayload} {now : Nanos} {reply : Reply J MutationOutcome}
    (ended : DeclareCase fabric request payload now reply) :
    (reply.fabric.epoch = fabric.epoch ∧ reply.fabric.config = fabric.config) ∧
      CarriesAll fabric.queues reply.fabric.queues := by
  cases ended with
  | refused refusal => exact ⟨⟨rfl, rfl⟩, carriesAll_refl _⟩
  | answered id taken =>
      rw [answerDeclared]
      split
      · exact ⟨⟨rfl, rfl⟩, carriesAll_refl _⟩
      split
      · exact ⟨⟨rfl, rfl⟩, carriesAll_refl _⟩
      · exact ⟨⟨rfl, rfl⟩, carriesAll_refl _⟩
  | undurable resource refusal after declarable failed =>
      have touch := commitDurably_touch failed
      refine ⟨⟨touch.epoch, touch.config⟩, ?_⟩
      change CarriesAll fabric.queues after.queues
      rw [touch.queues]
      exact carriesAll_refl _
  | committed resource after declarable written =>
      have touch := commitDurably_touch written
      have blank : ∀ declaring : Fabric J, CarriesAll fabric.queues (fabric.queues.emplace
          ⟨declaring.nextQueueId⟩ (declaredRecord declaring request payload now
            declaring.journal.isSome)) :=
        fun declaring => carriesAll_emplace (declaredRecord_evidence ..).1
          (declaredRecord_evidence ..).2
      rw [admitDeclared]
      split
      · refine ⟨⟨touch.epoch, touch.config⟩, ?_⟩
        simp only [publishDeclared, touch.queues]
        exact blank after
      simp only []
      split
      · refine ⟨⟨touch.epoch, touch.config⟩, ?_⟩
        change CarriesAll fabric.queues after.queues
        rw [touch.queues]
        exact carriesAll_refl _
      · refine ⟨⟨touch.epoch, touch.config⟩, ?_⟩
        simp only [publishDeclared, touch.queues]
        exact blank { after with provenance := _ }

theorem ApplyCase.evidence {fabric : Fabric J} {request : MutationRequest} {now : Nanos}
    {reply : Reply J MutationOutcome} (ended : ApplyCase fabric request now reply) :
    (reply.fabric.epoch = fabric.epoch ∧ reply.fabric.config = fabric.config) ∧
      (CarriesAll fabric.queues reply.fabric.queues ∨
        ∃ sample queue updated, Observed fabric request reply sample queue updated) := by
  cases ended with
  | stopped stopping => exact ⟨⟨rfl, rfl⟩, .inl (carriesAll_refl _)⟩
  | unbound refusal => exact ⟨⟨rfl, rfl⟩, .inl (carriesAll_refl _)⟩
  | declare payload _ valid kind carried ended =>
      exact ⟨ended.evidence.1, .inl ended.evidence.2⟩
  | existing queue _ valid kind found ended =>
      obtain ⟨same, carries | ⟨sample, updated, observed⟩⟩ := ended.evidence found rfl
      · exact ⟨same, .inl carries⟩
      · exact ⟨same, .inr ⟨sample, queue, updated, observed⟩⟩

/-! Withdrawals. -/

omit [IJournal J] in
theorem sticky_of_withdrawn {queue updated : QueueRecord} {reason : Freshness}
    (sticky : isSticky reason = true)
    (occupancy : updated.occupancy = if queue.occupancy.present then
      invalidateOccupancy queue.occupancy reason else queue.occupancy)
    (present : updated.occupancy.present = true) : isSticky updated.occupancy.freshness = true := by
  rw [occupancy] at present ⊢
  split at present
  · rename_i known
    rw [if_pos known]
    exact invalidate_sticky sticky present
  · rename_i absent
    exact absurd present absent

omit [IJournal J] in
/-- Evidence marked with a sticky reason is carried and no longer current. -/
theorem withdrawn {queue updated : QueueRecord} {reason : Freshness}
    (sticky : isSticky reason = true) (definition : updated.definition = queue.definition)
    (occupancy : updated.occupancy = if queue.occupancy.present then
      invalidateOccupancy queue.occupancy reason else queue.occupancy) :
    Carries queue updated ∧ ¬ updated.Current := by
  have stale : ¬ updated.Current := not_current_of_sticky (sticky_of_withdrawn sticky occupancy)
  refine ⟨.of_not_current (fun bounded => ?_) fun _ => stale, stale⟩
  rw [Bounded, definition, occupancy]
  split
  · rw [invalidate_queueGeneration]
    exact bounded
  · exact bounded

omit [IJournal J] in
theorem supersedeEpoch_withdrawn (queue : QueueRecord) :
    Carries queue (supersedeEpoch queue) ∧ ¬ (supersedeEpoch queue).Current := by
  refine withdrawn (show isSticky .staleEpoch = true from rfl) ?_ ?_
  · simp only [supersedeEpoch]
    split <;> split <;> rfl
  · simp only [supersedeEpoch]
    split <;> split <;> rfl

omit [IJournal J] in
theorem invalidateQueue_withdrawn (queue : QueueRecord) :
    Carries queue (invalidateQueue queue) ∧ ¬ (invalidateQueue queue).Current :=
  withdrawn (show isSticky .staleBackend = true from rfl) rfl rfl

omit [IJournal J] in
theorem revalidateQueue_withdrawn (queue : QueueRecord) :
    Carries queue (revalidateQueue queue) ∧ ¬ (revalidateQueue queue).Current :=
  withdrawn (show isSticky .staleRestart = true from rfl) rfl rfl

omit [IJournal J] in
theorem restoreQueue_withdrawn (queue : QueueRecord) :
    Carries queue (Scan.restoreQueue queue) ∧ ¬ (Scan.restoreQueue queue).Current := by
  refine withdrawn (show isSticky .staleRestart = true from rfl) ?_ ?_
  · simp only [Scan.restoreQueue]
    repeat' split
    all_goals rfl
  · simp only [Scan.restoreQueue]
    repeat' split
    all_goals rfl

omit [IJournal J] in
theorem carries_markUnfinished (queue : QueueRecord) (_ : ¬ queue.Current) :
    Carries queue (markUnfinished queue) ∧ ¬ (markUnfinished queue).Current := by
  have after : ¬ (markUnfinished queue).Current :=
    not_current_of_sticky fun present => invalidate_sticky rfl present
  refine ⟨.of_not_current (fun bounded => ?_) fun _ => after, after⟩
  rw [Bounded, markUnfinished, invalidate_queueGeneration]
  exact bounded

omit [IJournal J] in
theorem carries_refreshQueueLocked (config : FabricConfig) (queue : QueueRecord) (now : Nanos) :
    Carries queue (refreshQueueLocked config queue now) := by
  have shape : (refreshQueueLocked config queue now).definition = queue.definition ∧
      (refreshQueueLocked config queue now).occupancy = { queue.occupancy with
        freshness := refreshedFreshness config queue now
        age := occupancyAge now queue.occupancy.observedAt } := by
    simp only [refreshQueueLocked]
    split <;> exact ⟨rfl, rfl⟩
  refine .of_freshness shape.2 shape.1 fun present loose => ?_
  by_contra sticky
  rw [Bool.not_eq_false] at sticky
  simp only [refreshedFreshness, classifyFreshness, present, sticky, Bool.not_true,
    Bool.false_eq_true, ↓reduceIte] at loose
  cases loose

/-! Classes. -/

omit [IJournal J] in
/-- A redeclared class keeps its identity, and every class of another identity is untouched. -/
theorem redeclareClass_find {name : Text} {priority : UInt32} {qos : QosRef}
    {classes updated : List SchedulingClassDef} {cls other : ClassId}
    (redeclared : redeclareClass name priority qos classes = some (.ok (cls, updated)))
    (different : other ≠ cls) :
    updated.find? (fun entry => entry.id = other) = classes.find? fun entry => entry.id = other := by
  induction classes generalizing updated with
  | nil => simp [redeclareClass] at redeclared
  | cons entry rest ih =>
      rw [redeclareClass] at redeclared
      split at redeclared
      · rw [Option.some.injEq] at redeclared
        cases minted : entry.generation.next with
        | error status => simp [minted, Except.map] at redeclared
        | ok generation =>
            simp only [minted, Except.map, Except.ok.injEq, Prod.mk.injEq] at redeclared
            obtain ⟨rfl, rfl⟩ := redeclared
            simp only [List.find?_cons, decide_eq_false (Ne.symm different)]
      · cases inner : redeclareClass name priority qos rest with
        | none => simp [inner] at redeclared
        | some result =>
            cases result with
            | error status => simp [inner, Except.map] at redeclared
            | ok pair =>
                simp only [inner, Option.map_some, Except.map, Option.some.injEq, Except.ok.injEq,
                  Prod.mk.injEq] at redeclared
                obtain ⟨rfl, rfl⟩ := redeclared
                simp only [List.find?_cons]
                rw [ih inner]

omit [IJournal J] in
/-- A class declaration leaves the classes of other identities as they were. -/
theorem declareClassIn_findClass {fabric : Fabric J} {record : ResourceRecord}
    {resource : ResourceId} {name : Text} {priority : UInt32} {qos : QosRef}
    {provenance : Provenance} {cls other : ClassId} {classes : List SchedulingClassDef}
    {nextClassId : UInt64} {generation : Generation}
    (declared : fabric.declareClassIn record resource name priority qos provenance =
      .ok (cls, classes, nextClassId)) (different : other ≠ cls) :
    { record with classes, generation }.findClass other = record.findClass other := by
  simp only [ResourceRecord.findClass]
  rw [declareClassIn] at declared
  split at declared
  · cases declared
  · rename_i id updated redeclared
    rw [Except.ok.injEq, Prod.mk.injEq, Prod.mk.injEq] at declared
    obtain ⟨rfl, rfl, rfl⟩ := declared
    exact redeclareClass_find redeclared different
  · split at declared
    · cases declared
    · simp only [Except.ok.injEq, Prod.mk.injEq] at declared
      obtain ⟨rfl, rfl, rfl⟩ := declared
      rw [List.find?_append]
      simp [Ne.symm different]

omit [IJournal J] in
/-- A queue without an observation of its current generation has nothing left to lose. -/
theorem carries_supersedeBinding {queue : QueueRecord}
    (idle : queue.occupancy.present = true →
      queue.occupancy.queueGeneration ≠ queue.definition.generation) :
    Carries queue (supersedeBinding queue) := by
  refine .of_not_current (fun bounded => ?_) fun _ current => ?_
  · rw [Bounded, supersedeBinding, invalidate_queueGeneration]
    exact bounded
  · have present : queue.occupancy.present = true := by
      have present := current.present
      rw [supersedeBinding, invalidateOccupancy] at present
      split at present <;> exact present
    have same := current.generation
    rw [supersedeBinding, invalidate_queueGeneration] at same
    exact idle present same

/-! Recovery leaves no current evidence. -/

def AllBounded (queues : Table QueueId QueueRecord) : Prop :=
  ∀ id queue, queues.get? id = some queue → queue.Bounded

def AllStale (queues : Table QueueId QueueRecord) : Prop :=
  ∀ id queue, queues.get? id = some queue → queue.Bounded ∧ ¬ queue.Current

omit [IJournal J] in
theorem CarriesAll.bounded {before after : Table QueueId QueueRecord}
    (carries : CarriesAll before after) (bounded : AllBounded before) : AllBounded after := by
  intro id queue found
  rcases carries id queue found with ⟨earlier, known, carried⟩ | ⟨fresh, _⟩
  · exact carried.bounded (bounded id earlier known)
  · exact fresh

omit [IJournal J] in
theorem Ingested.bounded {fabric : Fabric J} {target updated : QueueRecord}
    {sample : OccupancySample} (ingested : Ingested fabric target updated sample) :
    updated.Bounded := by
  rw [Bounded, ingested.stores.queueGeneration, ingested.definition, ingested.generation]
  exact UInt64.le_refl _

theorem ApplyCase.bounded {fabric : Fabric J} {request : MutationRequest} {now : Nanos}
    {reply : Reply J MutationOutcome} (ended : ApplyCase fabric request now reply)
    (bounded : AllBounded fabric.queues) : AllBounded reply.fabric.queues := by
  obtain ⟨_, carries | ⟨sample, queue, updated, observed⟩⟩ := ended.evidence
  · exact carries.bounded bounded
  · intro id current stored
    rw [observed.queues, Table.get?_insert] at stored
    split at stored
    · rw [Option.some.injEq] at stored
      exact stored ▸ observed.ingested.bounded
    · exact bounded id current stored

theorem replayAll_bounded (fabric : Fabric J) (requests : List MutationRequest)
    (bounded : AllBounded fabric.queues) : AllBounded (fabric.replayAll requests).queues := by
  induction requests generalizing fabric with
  | nil => exact bounded
  | cons request rest ih =>
      refine ih (fabric.replayOne request) ?_
      obtain ⟨now, reply, ended, touch, _⟩ := replayOne_cases fabric request
      rw [touch.queues]
      exact ended.bounded bounded

omit [IJournal J] in
theorem revalidateAll_stale (fabric : Fabric J) (outstanding : List MutationRequest)
    (bounded : AllBounded fabric.queues) : AllStale (fabric.revalidateAll outstanding).queues := by
  refine revalidateAll_holds (fun id queue found => ?_) fun id queue ⟨bounded, idle⟩ => ?_
  · obtain ⟨carries, stale⟩ := revalidateQueue_withdrawn queue
    exact ⟨carries.bounded (bounded id queue found), stale⟩
  · obtain ⟨carries, still⟩ := carries_markUnfinished queue idle
    exact ⟨carries.bounded bounded, still⟩

/-- The queue records of a store are bounded. -/
def StoredBounded (records : List JournalRecord) : Prop :=
  ∀ payload queue, ⟨.queueState, payload⟩ ∈ records → decodeQueueState payload = .ok queue →
    queue.Bounded

omit [IJournal J] in
theorem addRecords_stale {scan : Scan} {records : List JournalRecord} (empty : scan.queues = .empty)
    (stored : StoredBounded records) : AllStale (scan.addRecords records).queues := by
  intro id queue found
  rcases Scan.get?_queues_addRecords found with early | ⟨payload, saved, listed, decoded, rfl, _⟩
  · simp [empty] at early
  · obtain ⟨carries, stale⟩ := restoreQueue_withdrawn saved
    exact ⟨carries.bounded (stored payload saved listed decoded), stale⟩

theorem RecoverCase.stale {fabric : Fabric StableStore} {reply : Reply StableStore Unit}
    (ended : RecoverCase fabric reply) (empty : fabric.queues = .empty)
    (stored : StoredBounded fabric.store.contents) : AllStale reply.fabric.queues := by
  have blank : AllStale fabric.queues := by
    intro id queue found
    simp [empty] at found
  have opened : ∀ store, fabric.journal = some store →
      StoredBounded (IJournal.records store.openStore.2) := by
    intro store present payload queue listed
    refine stored payload queue ?_
    rw [Fabric.store, present]
    exact StableStore.contents_openStore store ▸ listed
  cases ended with
  | unjournaled absent result touch journal =>
      rw [touch.queues]
      exact blank
  | unopened store present failed result touch journal =>
      rw [touch.queues]
      exact blank
  | exhausted store scan status present opens scanned minted result touch journal =>
      rw [touch.queues, scanned]
      exact addRecords_stale empty (opened store present)
  | replayed store last scan epoch replayed payload present opens scanned minted installed kept
      touch written =>
      rw [touch.queues]
      refine revalidateAll_stale replayed _ ?_
      rw [installed]
      refine replayAll_bounded _ _ fun id queue found => ?_
      have scanned : (fabric.beginRecovery.scanJournal store.openStore.2).queues.get? id =
        some queue := scanned ▸ found
      exact (addRecords_stale empty (opened store present) id queue scanned).1

end Fabric

/-! Runs. -/

namespace System

/-- The generation of the class a queue is bound to. -/
def classGeneration (system : System) (id : QueueId) : Option Generation := do
  let queue ← system.fabric.findQueue id
  let resource ← system.fabric.findResource queue.definition.resource
  let cls ← resource.findClass queue.definition.cls.id
  return cls.generation

/-- The calls that withdraw the evidence of a queue. -/
def Withdraws (before after : System) (id : QueueId) : Call → Prop
  | .advanceEpoch _ _ => after.result.isOk = true
  | .invalidateEvidence queue _ _ _ => queue = id ∧ after.result.isOk = true
  | .declareClass _ _ _ _ _ _ _ => after.classGeneration id ≠ before.classGeneration id
  | _ => False

/-- In the current process life `sample` was accepted for the queue, and nothing has withdrawn it
since. -/
inductive Backed (start : System) (id : QueueId) (sample : OccupancySample) : List Step → Prop
  | accepted (done : List Step) (request : MutationRequest) (script : List Bool)
      (outcome : MutationOutcome) (kind : request.kind = .ingestOccupancy)
      (target : request.queue = id) (payload : request.payload = .occupancy sample)
      (answered : (start.run (done ++ [.call (.apply request) script])).result =
        .ok (.outcome outcome))
      (new : outcome.replayed = false) :
      Backed start id sample (done ++ [.call (.apply request) script])
  | kept (done : List Step) (call : Call) (script : List Bool)
      (earlier : Backed start id sample done)
      (intact : ¬ Withdraws (start.run done) (start.run (done ++ [.call call script])) id call) :
      Backed start id sample (done ++ [.call call script])

/-- A step that cannot revive evidence: no second recovery in one life, and no declaration of a
class that a queue with an observation of its current generation is bound to. -/
def KeepsEvidence (system : System) : Step → Prop
  | .call .recover _ => False
  | .call (.declareClass resource name priority qos _ _ provenance) _ =>
      ∀ record cls classes nextClassId, system.fabric.findResource resource = some record →
        system.fabric.declareClassIn record resource name priority qos provenance =
          .ok (cls, classes, nextClassId) →
        ∀ id queue, system.fabric.findQueue id = some queue →
          queue.definition.resource = resource → queue.definition.cls.id = cls →
          queue.occupancy.present = true →
          queue.occupancy.queueGeneration ≠ queue.definition.generation
  | _ => True

/-- Every queue is bounded, and current evidence is backed by a sample of the current epoch. -/
structure EvidenceHolds (start : System) (done : List Step) (system : System) : Prop where
  bounded : ∀ id queue, system.fabric.findQueue id = some queue → queue.Bounded
  backed : ∀ id queue, system.fabric.findQueue id = some queue → queue.Current →
    ∃ sample, queue.occupancy.Stores sample ∧ Backed start id sample done ∧
      sample.epoch = system.fabric.epoch
  stored : ∀ payload queue, ⟨.queueState, payload⟩ ∈ system.fabric.store.contents →
    decodeQueueState payload = .ok queue → queue.Bounded

theorem EvidenceHolds.of_stale {start : System} {done : List Step} {system : System}
    (stale : Fabric.AllStale system.fabric.queues)
    (stored : Fabric.StoredBounded system.fabric.store.contents) :
    EvidenceHolds start done system where
  bounded id queue found := (stale id queue found).1
  backed id queue found current := absurd current (stale id queue found).2
  stored := stored

/-- A step that carries all evidence and withdraws nothing that is still current. -/
theorem EvidenceHolds.kept {start before after : System} {done : List Step} {call : Call}
    {script : List Bool} (holds : EvidenceHolds start done before)
    (here : start.run done = before) (there : start.run (done ++ [.call call script]) = after)
    (carries : Fabric.CarriesAll before.fabric.queues after.fabric.queues)
    (epoch : after.fabric.epoch = before.fabric.epoch)
    (stored : Fabric.StoredBounded after.fabric.store.contents)
    (intact : ∀ id queue, after.fabric.findQueue id = some queue → queue.Current →
      ¬ Withdraws before after id call) :
    EvidenceHolds start (done ++ [.call call script]) after where
  bounded := carries.bounded holds.bounded
  backed id queue found current := by
    rcases carries id queue found with ⟨earlier, known, carried⟩ | ⟨_, stale⟩
    · have bounded := holds.bounded id earlier known
      obtain ⟨sample, stores, backed, sampled⟩ :=
        holds.backed id earlier known (carried.current bounded current)
      refine ⟨sample, carried.stores bounded current sample stores, .kept done call script backed ?_,
        sampled.trans epoch.symm⟩
      rw [here, there]
      exact intact id queue found current
    · exact absurd current stale
  stored := stored

theorem classGeneration_congr {before after : System} (id : QueueId)
    (queues : after.fabric.findQueue id = before.fabric.findQueue id)
    (resources : after.fabric.resources = before.fabric.resources) :
    after.classGeneration id = before.classGeneration id := by
  simp only [classGeneration, queues, Fabric.findResource, resources]

theorem not_withdraws_of_failed {before after : System} {id : QueueId} {call : Call}
    {status : Status} (failed : after.result = .error status)
    (queues : after.fabric.queues = before.fabric.queues)
    (resources : after.fabric.resources = before.fabric.resources) :
    ¬ Withdraws before after id call := by
  intro withdraws
  cases call with
  | advanceEpoch principal provenance =>
      rw [Withdraws, failed] at withdraws
      cases withdraws
  | invalidateEvidence queue principal epoch reason =>
      rw [Withdraws, failed] at withdraws
      cases withdraws.2
  | declareClass resource name priority qos principal epoch provenance =>
      refine withdraws (classGeneration_congr id ?_ resources)
      simp only [Fabric.findQueue, queues]
  | _ => exact withdraws

/-- A class declaration leaves the class generation of every queue bound elsewhere. -/
theorem classGeneration_declared {before after : System} {resource : ResourceId} {name : Text}
    {priority : UInt32} {qos : QosRef} {provenance : Provenance} {record : ResourceRecord}
    {cls : ClassId} {classes : List SchedulingClassDef} {nextClassId : UInt64}
    {generation : Generation} {id : QueueId} {queue updated : QueueRecord}
    (found : before.fabric.findResource resource = some record)
    (declared : before.fabric.declareClassIn record resource name priority qos provenance =
      .ok (cls, classes, nextClassId))
    (resources : after.fabric.resources =
      before.fabric.resources.insert resource { record with classes, generation })
    (held : before.fabric.findQueue id = some queue)
    (holds : after.fabric.findQueue id = some updated)
    (definition : updated.definition = queue.definition)
    (elsewhere : queue.definition.resource = resource → queue.definition.cls.id ≠ cls) :
    after.classGeneration id = before.classGeneration id := by
  simp only [classGeneration, held, holds, Option.bind_eq_bind, Option.bind_some, definition,
    Fabric.findResource, resources]
  by_cases same : resource = queue.definition.resource
  · rw [← same, Table.get?_insert_self]
    have known : before.fabric.resources.get? resource = some record := found
    simp only [known, Option.bind_some]
    rw [Fabric.declareClassIn_findClass declared (elsewhere same.symm)]
  · rw [Table.get?_insert_ne _ _ same]

theorem stored_after_call {fabric : Fabric StableStore} {call : Call}
    {reply : Reply StableStore Answer} (ended : Fabric.ServeCase fabric call reply)
    (living : call ≠ .recover) (bounded : Fabric.AllBounded fabric.queues)
    (stored : Fabric.StoredBounded fabric.store.contents) :
    Fabric.StoredBounded reply.fabric.store.contents := by
  intro payload queue listed decoded
  rcases ended.mem_queueState living listed with early | ⟨_, id, saved, found, rfl⟩
  · exact stored payload queue early decoded
  · obtain ⟨definition, occupancy⟩ := identity_of_decodeQueueState decoded
    rw [Bounded, definition, occupancy]
    exact bounded id saved found

/-- A recorded change that keeps every queue and the epoch, whether or not it was written. -/
theorem recorded_quiet {fabric lost kept : Fabric StableStore} {type : JournalRecordType}
    {payload : Bytes} {value : Answer} {reply : Reply StableStore Answer}
    (recorded : Fabric.Recorded fabric type payload lost kept value reply)
    (queues : lost.queues = fabric.queues ∧ kept.queues = fabric.queues)
    (epoch : lost.epoch = fabric.epoch ∧ kept.epoch = fabric.epoch) :
    reply.fabric.queues = fabric.queues ∧ reply.fabric.epoch = fabric.epoch := by
  cases recorded with
  | lost status events after touch written =>
      exact ⟨touch.queues.trans queues.1, touch.epoch.trans epoch.1⟩
  | kept events after touch written =>
      exact ⟨touch.queues.trans queues.2, touch.epoch.trans epoch.2⟩

/-- An accepted observation backs its queue and leaves every other queue as it was. -/
theorem EvidenceHolds.observed {start before after : System} {done : List Step} {call : Call}
    {script : List Bool} {sample : OccupancySample} {target : QueueId} {queue updated : QueueRecord}
    {fabric : Fabric StableStore} (holds : EvidenceHolds start done before)
    (here : start.run done = before) (there : start.run (done ++ [.call call script]) = after)
    (epoch : after.fabric.epoch = before.fabric.epoch)
    (stored : Fabric.StoredBounded after.fabric.store.contents)
    (ingested : Fabric.Ingested fabric queue updated sample)
    (queues : after.fabric.queues = before.fabric.queues.insert target updated)
    (sampled : sample.epoch = before.fabric.epoch)
    (accepted : Backed start target sample (done ++ [.call call script]))
    (intact : ∀ id, ¬ Withdraws before after id call) :
    EvidenceHolds start (done ++ [.call call script]) after := by
  refine ⟨fun id current held => ?_, fun id current held live => ?_, stored⟩
  · rw [Fabric.findQueue, queues, Table.get?_insert] at held
    split at held
    · rw [Option.some.injEq] at held
      exact held ▸ ingested.bounded
    · exact holds.bounded id current held
  · rw [Fabric.findQueue, queues, Table.get?_insert] at held
    split at held
    · rename_i same
      rw [Option.some.injEq] at held
      exact ⟨sample, held ▸ ingested.stores, same ▸ accepted, sampled.trans epoch.symm⟩
    · obtain ⟨earlier, stores, backed, known⟩ := holds.backed id current held live
      refine ⟨earlier, stores, .kept done call script backed ?_, known.trans epoch.symm⟩
      rw [here, there]
      exact intact id

theorem EvidenceHolds.call {start : System} {done : List Step}
    (holds : EvidenceHolds start done (start.run done)) (call : Call) (script : List Bool)
    (allowed : KeepsEvidence (start.run done) (.call call script)) :
    EvidenceHolds start (done ++ [.call call script])
      ((start.run done).step (.call call script)) := by
  have there : start.run (done ++ [.call call script]) =
      (start.run done).step (.call call script) := by
    simp only [run, List.foldl_append, List.foldl_cons, List.foldl_nil]
  generalize here : start.run done = system at holds allowed there
  have living : call ≠ .recover := by
    rintro rfl
    exact allowed
  have bounded : Fabric.AllBounded (withScript system.fabric script).queues := holds.bounded
  have contents := contents_withScript system.fabric script
  have ended := Fabric.serve_cases (withScript system.fabric script) call
  have stored := stored_after_call ended living bounded (contents ▸ holds.stored)
  have stepped : system.step (.call call script) =
      ⟨((withScript system.fabric script).serve call).fabric,
        ((withScript system.fabric script).serve call).result⟩ := rfl
  rw [stepped] at there ⊢
  clear stepped
  generalize (withScript system.fabric script).serve call = reply at ended stored there
  have quiet : ∀ (queues : reply.fabric.queues = system.fabric.queues)
      (epoch : reply.fabric.epoch = system.fabric.epoch)
      (intact : ∀ id, ¬ Withdraws system ⟨reply.fabric, reply.result⟩ id call),
      EvidenceHolds start (done ++ [.call call script]) ⟨reply.fabric, reply.result⟩ := by
    intro queues epoch intact
    refine holds.kept here there ?_ epoch stored fun id _ _ _ => intact id
    rw [queues]
    exact Fabric.carriesAll_refl _
  cases ended with
  | refused refused =>
      obtain ⟨status, failed⟩ := refused.failed
      exact quiet refused.queues refused.touch.epoch fun id =>
        not_withdraws_of_failed failed refused.queues refused.touch.resources
  | recovered => exact absurd rfl living
  | stopped touch journal => exact quiet touch.queues touch.epoch fun id withdraws => withdraws
  | edited lost kept updated value spent issued edit recorded =>
      obtain ⟨queues, epoch⟩ := recorded_quiet recorded ⟨rfl, rfl⟩ ⟨rfl, rfl⟩
      refine quiet queues epoch fun id withdraws => ?_
      cases edit <;> exact withdraws
  | classed resource name priority qos principal epoch provenance record cls classes nextClassId
      generation found declared recorded =>
      cases recorded with
      | lost status events after touch written =>
          exact quiet touch.queues touch.epoch fun id =>
            not_withdraws_of_failed rfl touch.queues touch.resources
      | kept events after touch written =>
          have idle := allowed record cls classes nextClassId found declared
          have each : ∀ id queue, system.fabric.queues.get? id = some queue →
              Carries queue (if Fabric.losesBinding { record with classes, generation } resource
                cls queue then Fabric.supersedeBinding queue else queue) := by
            intro id queue held
            split
            · rename_i loses
              simp only [Fabric.losesBinding, Bool.and_eq_true, decide_eq_true_eq] at loses
              exact Fabric.carries_supersedeBinding (idle id queue held loses.1.1 loses.1.2)
            · exact .refl queue
          refine holds.kept here there ?_ touch.epoch stored fun id updated held live withdraws => ?_
          · rw [touch.queues]
            exact Fabric.carriesAll_mapValues each
          · have stored := held
            change after.queues.get? id = some updated at stored
            rw [touch.queues, Fabric.invalidateBound, Table.get?_mapValues] at stored
            obtain ⟨queue, known, equal⟩ := Option.map_eq_some_iff.mp stored
            have current := (each id queue known).current (holds.bounded id queue known)
              (equal ▸ live)
            refine withdraws (classGeneration_declared found declared touch.resources known held
              ?_ fun bound same => ?_)
            · rw [← equal]
              split <;> rfl
            · exact idle id queue known bound same current.present current.generation
  | advanced principal provenance epoch payload minted recorded =>
      cases recorded with
      | lost status events after touch written =>
          exact quiet touch.queues touch.epoch fun id =>
            not_withdraws_of_failed rfl touch.queues touch.resources
      | kept events after touch written =>
          refine .of_stale (fun id queue known => ?_) stored
          rw [touch.queues, Fabric.enterEpoch, Table.get?_mapValues] at known
          obtain ⟨earlier, held, rfl⟩ := Option.map_eq_some_iff.mp known
          obtain ⟨carries, stale⟩ := Fabric.supersedeEpoch_withdrawn earlier
          exact ⟨carries.bounded (holds.bounded id earlier held), stale⟩
  | invalidated id principal epoch reason queue events after found touch journal =>
      obtain ⟨carries, stale⟩ := Fabric.invalidateQueue_withdrawn queue
      refine holds.kept here there ?_ touch.epoch stored fun other current held live withdraws => ?_
      · rw [touch.queues]
        exact Fabric.carriesAll_insert found carries
      · have same : id = other := withdraws.1
        subst same
        change after.queues.get? id = some current at held
        rw [touch.queues, Table.get?_insert_self, Option.some.injEq] at held
        exact stale (held ▸ live)
  | applied request now inner events after ended touch journal =>
      obtain ⟨⟨epoch, _⟩, carries | ⟨sample, queue, updated, observed⟩⟩ := ended.evidence
      · refine holds.kept here there ?_ (touch.epoch.trans epoch) stored
          fun _ _ _ _ withdraws => withdraws
        rw [touch.queues]
        exact carries
      · obtain ⟨outcome, answered, new⟩ := observed.answered
        refine holds.observed here there (touch.epoch.trans epoch) stored observed.ingested
          (touch.queues.trans observed.queues) observed.ingested.epoch ?_ fun _ withdraws => withdraws
        refine .accepted done request script outcome observed.kind rfl observed.payload ?_ new
        rw [there, answered]
        rfl
  | gated id expected principal provenance accepted refused =>
      exact quiet refused.queues refused.touch.epoch fun _ withdraws => withdraws
  | planned id expected principal provenance plan accepted recorded =>
      obtain ⟨queues, epoch⟩ := recorded_quiet recorded ⟨rfl, rfl⟩ ⟨rfl, rfl⟩
      exact quiet queues epoch fun id withdraws => withdraws
  | committed plan applied provenance queue inner found ended =>
      cases ended with
      | refused refused =>
          exact quiet refused.queues refused.touch.epoch fun id withdraws => withdraws
      | lost status events after touch written =>
          exact quiet touch.queues touch.epoch fun id withdraws => withdraws
      | served middle now served events after touch written ended final journal =>
          have held : middle.findQueue plan.queue = some queue := by
            rw [Fabric.findQueue, touch.queues]
            exact found
          obtain ⟨⟨epoch, _⟩, carries | ⟨sample, updated, observed⟩⟩ := ended.evidence held rfl
          · refine holds.kept here there ?_ ((final.epoch.trans epoch).trans touch.epoch) stored
              fun _ _ _ _ withdraws => withdraws
            change Fabric.CarriesAll system.fabric.queues after.queues
            rw [final.queues]
            rw [touch.queues] at carries
            exact carries
          · cases observed.kind
  | aborted plan reason recorded =>
      obtain ⟨queues, epoch⟩ := recorded_quiet recorded ⟨rfl, rfl⟩ ⟨rfl, rfl⟩
      exact quiet queues epoch fun id withdraws => withdraws
  | explained id principal touch journal =>
      exact quiet touch.queues touch.epoch fun _ withdraws => withdraws
  | refreshed now touch journal =>
      refine holds.kept here there ?_ touch.epoch stored fun _ _ _ _ withdraws => withdraws
      rw [touch.queues]
      exact Fabric.carriesAll_mapValues fun _ queue _ => Fabric.carries_refreshQueueLocked _ queue now
  | compacted journal present touch rewritten =>
      exact quiet touch.queues touch.epoch fun id withdraws => withdraws

theorem EvidenceHolds.boot {start : System} {done : List Step} (config : FabricConfig)
    (journal : Option StableStore) (clock : Clock) (seed : UInt64) (script : List Bool)
    (stored : Fabric.StoredBounded (journal.getD {}).contents) :
    EvidenceHolds start done (boot config journal clock seed script) := by
  have contents : (withScript (Fabric.create config clock journal seed) script).store.contents =
      (journal.getD {}).contents := by
    cases journal <;> rfl
  have ended := Fabric.recover_cases (withScript (Fabric.create config clock journal seed) script)
  have stale := ended.stale rfl (contents ▸ stored)
  refine .of_stale stale fun payload queue listed decoded => ?_
  exact stored payload queue (contents ▸ ended.mem_queueState listed) decoded

theorem EvidenceHolds.step {start : System} {done : List Step} (input : Step)
    (holds : EvidenceHolds start done (start.run done))
    (allowed : KeepsEvidence (start.run done) input) :
    EvidenceHolds start (done ++ [input]) ((start.run done).step input) := by
  cases input with
  | call call script => exact holds.call call script allowed
  | restart survivors clock seed script =>
      refine .boot _ _ clock seed script fun payload queue listed => ?_
      exact holds.stored payload queue (mem_contents_crashed listed)

/-- An explanation that authorizes admission rests on current evidence. -/
theorem current_of_authorized {fabric : Fabric StableStore} {queue : QueueRecord}
    {principal : OwnerId} {now : Nanos}
    (exact : fabric.config.occupancy.requireGenerationMatch = true)
    (authorized : (fabric.explainQueue queue principal now).thresholdEval.admissionAuthorized =
      true) : queue.Current := by
  have policy : (Fabric.occupancyPolicyFor fabric.config queue).requireGenerationMatch = true := by
    simp only [Fabric.occupancyPolicyFor]
    split <;> exact exact
  have fresh : classifyFreshness queue.occupancy now (Fabric.occupancyPolicyFor fabric.config queue)
      queue.definition.generation = .fresh := by
    by_contra stale
    simp [Fabric.explainQueue, evaluateThresholds, stale] at authorized
  rw [classifyFreshness] at fresh
  split at fresh
  · cases fresh
  rename_i present
  split at fresh
  · rename_i sticky
    rw [fresh] at sticky
    cases sticky
  rename_i loose
  split at fresh
  · cases fresh
  rename_i generation
  refine ⟨by simpa using present, by simpa using loose, ?_⟩
  simpa [policy] using generation

/-- Evidence that authorizes admission was accepted in this life, in the current epoch and for the
current generation, and nothing has withdrawn it since. -/
theorem authorized_evidence_backed (config : FabricConfig) (journaled : Bool) (clock : Clock)
    (seed : UInt64) (script : List Bool) (steps : List Step) (id : QueueId) (principal : OwnerId)
    (explanation : Fabric.Explanation)
    (exact : config.occupancy.requireGenerationMatch = true)
    (kept : Runs.Along step KeepsEvidence
      (boot config (if journaled then some {} else none) clock seed script) steps)
    (explained : (((boot config (if journaled then some {} else none) clock seed script).run
      steps).fabric.explain id principal).result = .ok explanation)
    (authorized : explanation.thresholdEval.admissionAuthorized = true) :
    let start := boot config (if journaled then some {} else none) clock seed script
    let system := start.run steps
    ∃ queue sample, system.fabric.findQueue id = some queue ∧ queue.occupancy.Stores sample ∧
      Backed start id sample steps ∧ sample.epoch = system.fabric.epoch ∧
      sample.queueGeneration = queue.definition.generation := by
  intro start system
  have holds : EvidenceHolds start steps (steps.foldl step start) := by
    refine Runs.history_invariant (fun done input holds allowed => holds.step input allowed) ?_ kept
    refine .boot config _ clock seed script fun payload queue listed => ?_
    cases journaled <;> simp [StableStore.contents] at listed
  change ((system.fabric.explain id principal)).result = _ at explained
  rw [Fabric.explain] at explained
  cases found : system.fabric.findQueue id with
  | none =>
      rw [found] at explained
      cases explained
  | some queue =>
      rw [found] at explained
      simp only [Fabric.atNow, Except.ok.injEq] at explained
      subst explained
      have unchanged : system.fabric.config = config :=
        (config_run start steps).trans (config_boot config _ clock seed script)
      have current : queue.Current :=
        current_of_authorized (by rw [← exact, ← unchanged]; rfl) authorized
      obtain ⟨sample, stores, backed, epoch⟩ := holds.backed id queue found current
      exact ⟨queue, sample, rfl, stores, backed, epoch,
        stores.queueGeneration.symm.trans current.generation⟩

/-! One observation, and the class declaration that should have withdrawn it. -/

def evidenceStart : System := boot {} none ⟨fun _ => 1000, 0⟩ 7 []

def evidenceProvenance (sequence : UInt64) : Provenance :=
  { publisher := ⟨9⟩, node := ⟨1⟩, incarnation := ⟨1⟩, epoch := ⟨1⟩, sequence := ⟨sequence⟩,
    boot := ⟨1, 1⟩ }

def evidenceSample : OccupancySample :=
  { queue := ⟨1⟩, queueGeneration := ⟨1⟩, bytes := 5, packets := 1, epoch := ⟨1⟩, sequence := ⟨1⟩,
    observedAt := 1000, provenance := evidenceProvenance 1 }

def evidenceSteps : List Step := [
  .call (.declareResource (text "r") ⟨5⟩ (evidenceProvenance 1)) [],
  .call (.declareClass ⟨1⟩ (text "c") 0 {} ⟨5⟩ ⟨1⟩ (evidenceProvenance 1)) [],
  .call (.declarePool ⟨1⟩ (text "p") 0 ⟨5⟩ ⟨1⟩ (evidenceProvenance 1)) [],
  .call (.apply
    { attempt := ⟨⟨9⟩, 1⟩, kind := .declareQueue, expectedEpoch := ⟨1⟩, principal := ⟨5⟩,
      provenance := evidenceProvenance 1,
      payload := .declareQueue { resource := ⟨1⟩, name := text "q", cls := ⟨⟨1⟩, ⟨1⟩⟩,
                                 pool := ⟨⟨1⟩, ⟨1⟩, 0⟩, thresholds := ⟨10, 50, 100, 0, 0⟩ } }) [],
  .call (.apply
    { attempt := ⟨⟨9⟩, 2⟩, kind := .ingestOccupancy, queue := ⟨1⟩, expectedGeneration := ⟨1⟩,
      expectedEpoch := ⟨1⟩, principal := ⟨5⟩, provenance := evidenceProvenance 2,
      payload := .occupancy evidenceSample }) []]

def authorizes (system : System) : Bool :=
  match (system.fabric.explain ⟨1⟩ ⟨5⟩).result with
  | .ok explanation => explanation.thresholdEval.admissionAuthorized
  | .error _ => false

theorem evidenceSteps_keep : Runs.Along step KeepsEvidence evidenceStart evidenceSteps := by
  refine ⟨trivial, ?_, trivial, trivial, trivial, trivial⟩
  intro record cls classes nextClassId _ _ id queue found
  have empty : (evidenceStart.step
      (.call (.declareResource (text "r") ⟨5⟩ (evidenceProvenance 1)) [])).fabric.queues.size = 0 := by
    decide +kernel
  rw [Fabric.findQueue, Table.get?_of_size_zero empty] at found
  cases found

theorem authorized_evidence_backed_once :
    ∃ queue sample, (evidenceStart.run evidenceSteps).fabric.findQueue ⟨1⟩ = some queue ∧
      queue.occupancy.Stores sample ∧ Backed evidenceStart ⟨1⟩ sample evidenceSteps ∧
      sample.epoch = (evidenceStart.run evidenceSteps).fabric.epoch ∧
      sample.queueGeneration = queue.definition.generation := by
  have authorized : authorizes (evidenceStart.run evidenceSteps) = true := by decide +kernel
  rw [authorizes] at authorized
  cases explained : ((evidenceStart.run evidenceSteps).fabric.explain ⟨1⟩ ⟨5⟩).result with
  | error status =>
      rw [explained] at authorized
      cases authorized
  | ok explanation =>
      rw [explained] at authorized
      exact authorized_evidence_backed {} false ⟨fun _ => 1000, 0⟩ 7 [] evidenceSteps ⟨1⟩ ⟨5⟩
        explanation rfl evidenceSteps_keep explained authorized

def redeclaration : Step :=
  .call (.declareClass ⟨1⟩ (text "c") 1 {} ⟨5⟩ ⟨1⟩ (evidenceProvenance 1)) []

theorem Backed.last {start : System} {id : QueueId} {sample : OccupancySample} {done : List Step}
    {resource : ResourceId} {name : Text} {priority : UInt32} {qos : QosRef} {principal : OwnerId}
    {epoch : Epoch} {provenance : Provenance} {script : List Bool}
    (backed : Backed start id sample
      (done ++ [.call (.declareClass resource name priority qos principal epoch provenance) script])) :
    (start.run (done ++ [.call
      (.declareClass resource name priority qos principal epoch provenance) script])).classGeneration
        id = (start.run done).classGeneration id := by
  generalize shape : done ++ [.call
    (.declareClass resource name priority qos principal epoch provenance) script] = steps at backed
  cases backed with
  | accepted earlier request script outcome kind target payload answered new =>
      have last := (List.append_inj' shape rfl).2
      cases last
  | kept earlier call script backed intact =>
      obtain ⟨same, last⟩ := List.append_inj' shape rfl
      cases last
      subst same
      by_contra changed
      exact intact changed

/-- After the class of the queue was declared again its evidence still authorizes admission. -/
theorem redeclared_class_authorizes :
    authorizes (evidenceStart.run (evidenceSteps ++ [redeclaration])) = true ∧
      ¬ ∃ sample, Backed evidenceStart ⟨1⟩ sample (evidenceSteps ++ [redeclaration]) := by
  refine ⟨by decide +kernel, ?_⟩
  rintro ⟨sample, backed⟩
  have same := backed.last
  have changed : (evidenceStart.run (evidenceSteps ++ [redeclaration])).classGeneration ⟨1⟩ ≠
      (evidenceStart.run evidenceSteps).classGeneration ⟨1⟩ := by decide +kernel
  exact changed same

end System

end QueueFabric
