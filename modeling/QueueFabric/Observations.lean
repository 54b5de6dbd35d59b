import QueueFabric.QueueSteps

/-!
Accepted observations. The ingest handler decides by rules of its own what it
stores and what it reports; they are compared here with `classify_freshness` and
`evaluate_thresholds`, which read the stored observation afterwards.
-/

namespace QueueFabric

open QueueRecord

/-- The handler's own test for an overflow: a limit of zero is no limit. -/
def OccupancySample.overflows (sample : OccupancySample) (thresholds : Thresholds) : Bool :=
  (thresholds.maxOccupancyBytes ≠ 0 && sample.bytes > thresholds.maxOccupancyBytes) ||
    (thresholds.maxPackets ≠ 0 && sample.packets > thresholds.maxPackets)

theorem OccupancySample.overflows_iff (sample : OccupancySample) (thresholds : Thresholds) :
    sample.overflows thresholds = true ↔
      (thresholds.maxOccupancyBytes ≠ 0 ∧ sample.bytes > thresholds.maxOccupancyBytes) ∨
        (thresholds.maxPackets ≠ 0 ∧ sample.packets > thresholds.maxPackets) := by
  simp [overflows]

namespace Fabric

variable {J : Type}

def effectiveThresholds (config : FabricConfig) (queue : QueueRecord) : Thresholds :=
  config.policy.resolve queue.definition.thresholds queue.definition.cls.id

/-- The guards an accepted observation has passed, and what it leaves behind: the queue, the
counters of the fabric and the events. -/
structure Ingests (fabric : Fabric J) (before : QueueRecord) (now : Nanos)
    (sample : OccupancySample) (after : QueueRecord) (stats : FabricStats)
    (events : List Event) : Prop where
  generation : sample.queueGeneration = before.definition.generation
  near : ¬ (sample.observedAt > now ∧ (occupancyPolicyFor fabric.config before).maxFutureSkew > 0 ∧
    sample.observedAt - now > (occupancyPolicyFor fabric.config before).maxFutureSkew)
  ascends : samePublisherLife before.occupancy sample = true →
    before.occupancy.sequence.value < sample.sequence.value
  definition : after.definition = before.definition
  occupancy : after.occupancy = observed now sample
  counted : after.overflowEvents = before.overflowEvents +
    if sample.overflows (effectiveThresholds fabric.config before) then 1 else 0
  totalled : stats.occupancyOverflow = fabric.stats.occupancyOverflow +
    if sample.overflows (effectiveThresholds fabric.config before) then 1 else 0
  reported : (∃ event ∈ events, event.kind = .occupancyOverflow) ↔
    sample.overflows (effectiveThresholds fabric.config before) = true

section Handler

variable {fabric : Fabric J} {queue : QueueRecord} {request : MutationRequest} {now : Nanos}
  {sample : OccupancySample} {applied : KindApplied}

theorem applyIngest_ingests (ok : applyIngest fabric queue request now sample = .ok applied) :
    Ingests fabric queue now sample applied.target applied.stats applied.events := by
  simp only [applyIngest] at ok
  split at ok
  · cases ok
  split at ok
  · cases ok
  rename_i generation
  split at ok
  · cases ok
  split at ok
  · cases ok
  rename_i near
  split at ok
  · cases ok
  rename_i follows
  have ascends : samePublisherLife queue.occupancy sample = true →
      queue.occupancy.sequence.value < sample.sequence.value := by
    intro same
    by_contra behind
    exact follows ⟨same, UInt64.not_lt.mp behind⟩
  by_cases overflows : sample.overflows (fabric.config.policy.resolve
      queue.definition.thresholds queue.definition.cls.id) = true
  · rw [if_pos ((sample.overflows_iff _).mp overflows)] at ok
    cases ok
    refine ⟨not_not.mp generation, near, ascends, rfl, rfl, ?_, ?_, ?_⟩ <;>
      rw [effectiveThresholds, overflows]
    · rfl
    · rfl
    · simp [kindEvent]
  · rw [if_neg fun above => overflows ((sample.overflows_iff _).mpr above)] at ok
    cases ok
    rw [Bool.not_eq_true] at overflows
    refine ⟨not_not.mp generation, near, ascends, rfl, rfl, ?_, ?_, ?_⟩ <;>
      rw [effectiveThresholds, overflows]
    · exact (UInt64.add_zero _).symm
    · exact (UInt64.add_zero _).symm
    · simp [kindEvent]

theorem Ingests.published (durable : Bool) {announced : List Event}
    (plain : ∀ event ∈ announced, event.kind = .mutationApplied)
    (ingests : Ingests fabric queue now sample applied.target applied.stats applied.events)
    (after : Fabric J) (request : MutationRequest) :
    Ingests fabric queue now sample (publishQueue after queue request applied durable)
      (publishStats queue applied.stats applied.target) (applied.events ++ announced) := by
  have unmoved := unmoved_publishQueue after queue request applied durable
  have events : (publishQueue after queue request applied durable).overflowEvents =
      applied.target.overflowEvents := by
    simp only [publishQueue]
    split <;> rfl
  have stats : (publishStats queue applied.stats applied.target).occupancyOverflow =
      applied.stats.occupancyOverflow := by
    simp only [publishStats]
    split <;> split <;> rfl
  refine ⟨ingests.generation, ingests.near, ingests.ascends,
    unmoved.definition.trans ingests.definition, unmoved.occupancy.trans ingests.occupancy,
    events.trans ingests.counted, stats.trans ingests.totalled, ?_⟩
  rw [← ingests.reported]
  constructor
  · rintro ⟨event, listed, kind⟩
    rcases List.mem_append.mp listed with early | late
    · exact ⟨event, early, kind⟩
    · rw [plain event late] at kind
      cases kind
  · rintro ⟨event, listed, kind⟩
    exact ⟨event, List.mem_append_left _ listed, kind⟩

end Handler

variable [IJournal J]

/-- An observation the fabric accepts, between the queue before it and the queue after it. -/
structure Takes (fabric : Fabric J) (request : MutationRequest) (sample : OccupancySample)
    (before after : QueueRecord) : Prop where
  found : fabric.findQueue request.queue = some before
  stored : (fabric.apply request).fabric.findQueue request.queue = some after
  ingests : Ingests fabric before fabric.monotonicNow.1 sample after
    (fabric.apply request).fabric.stats (fabric.apply request).events

/-- An observation is accepted by the ingest handler alone, without a journal record. -/
theorem apply_takes {fabric : Fabric J} {request : MutationRequest} {sample : OccupancySample}
    {outcome : MutationOutcome} (kind : request.kind = .ingestOccupancy)
    (payload : request.payload = .occupancy sample)
    (ok : (fabric.apply request).result = .ok outcome) (first : outcome.replayed = false) :
    ∃ before after, Takes fabric request sample before after := by
  have ended := applyAt_cases fabric.monotonicNow.2 request fabric.monotonicNow.1
  have shape : fabric.apply request =
      (fabric.monotonicNow.2.applyAt request fabric.monotonicNow.1).emit := rfl
  generalize fabric.monotonicNow.2.applyAt request fabric.monotonicNow.1 = reply at ended shape
  rw [shape] at ok
  cases ended with
  | stopped stopping => cases ok
  | unbound refusal => cases ok
  | declare payload _ valid declares carried ended =>
      rw [kind] at declares
      cases declares
  | existing queue _ valid other found ended =>
      cases ended with
      | answered memo recorded =>
          obtain ⟨_, _, _, _, again⟩ := answerFromMemo_unmoved fabric.monotonicNow.2 request.queue
            queue request fabric.monotonicNow.1 memo
          exact absurd ⟨outcome, ok, first⟩ again
      | refused tracker refusal unseen gate real => cases ok
      | undurable tracker applied refusal after admitted durable failed real => cases ok
      | published tracker applied after admitted committed =>
          rw [kind] at committed
          have same : after = fabric.monotonicNow.2.accepted tracker applied := committed
          have accepted := admitted.kind
          simp only [applyKindLocked, kind, payload] at accepted
          have plain : ∀ event ∈ (if after.replaying then [] else
              [kindEvent applied.target request fabric.monotonicNow.1 .mutationApplied .ok
                (text applied.rule)]), event.kind = .mutationApplied := by
            intro event listed
            split at listed
            · cases listed
            · rw [List.mem_singleton] at listed
              rw [listed]
              rfl
          have ingests := (applyIngest_ingests accepted).published
            (isDurable request.kind && after.journal.isSome) plain after request
          refine ⟨queue, publishQueue after queue request applied
            (isDurable request.kind && after.journal.isSome), found, ?_, ?_⟩
          · rw [shape]
            exact Table.get?_insert_self _ _ _
          · subst same
            rw [shape]
            exact ⟨ingests.generation, ingests.near, ingests.ascends, ingests.definition,
              ingests.occupancy, ingests.counted, ingests.totalled, ingests.reported⟩

/-! Freshness. -/

omit [IJournal J] in
theorem occupancyPolicyFor_congr (config : FabricConfig) {before after : QueueRecord}
    (same : after.definition = before.definition) :
    occupancyPolicyFor config after = occupancyPolicyFor config before := by
  simp only [occupancyPolicyFor, same]

/-- The observation is not classified fresh at the time it is accepted: it is older than the
window, or ahead of the clock where the policy allows no skew. -/
def Untimely (policy : OccupancyPolicy) (now : Nanos) (sample : OccupancySample) : Prop :=
  (policy.maxFutureSkew ≤ 0 ∧ sample.observedAt > now) ∨
    (policy.maxAge > 0 ∧ occupancyAge now sample.observedAt > policy.maxAge)

instance (policy : OccupancyPolicy) (now : Nanos) (sample : OccupancySample) :
    Decidable (Untimely policy now sample) := inferInstanceAs (Decidable (_ ∨ _))

omit [IJournal J] in
theorem classifyFreshness_observed (policy : OccupancyPolicy) (now : Nanos)
    (sample : OccupancySample)
    (near : ¬ (sample.observedAt > now ∧ policy.maxFutureSkew > 0 ∧
      sample.observedAt - now > policy.maxFutureSkew)) :
    classifyFreshness (observed now sample) now policy sample.queueGeneration = .fresh ↔
      ¬ Untimely policy now sample := by
  have sticky : isSticky Freshness.fresh = false := rfl
  simp only [classifyFreshness, observed, sticky, Bool.not_true, Bool.false_eq_true, ↓reduceIte,
    ne_eq, not_true_eq_false, decide_false, Bool.and_false, Bool.and_eq_true, Bool.or_eq_true,
    decide_eq_true_eq, Untimely]
  by_cases ahead : sample.observedAt > now
  · by_cases strict : policy.maxFutureSkew ≤ 0
    · simp [ahead, strict]
    · have allowed : ¬ sample.observedAt - now > policy.maxFutureSkew :=
        fun far => near ⟨ahead, Int64.not_le.mp strict, far⟩
      simp [ahead, strict, allowed]
  · simp [ahead]

/-- The freshness stored with an accepted observation is the one `classify_freshness` gives it at
that time exactly when the observation is neither too old nor, without an allowance, ahead. -/
theorem stored_freshness_agrees_iff {fabric : Fabric J} {request : MutationRequest}
    {sample : OccupancySample} {outcome : MutationOutcome}
    (kind : request.kind = .ingestOccupancy) (payload : request.payload = .occupancy sample)
    (ok : (fabric.apply request).result = .ok outcome) (first : outcome.replayed = false) :
    ∃ queue, (fabric.apply request).fabric.findQueue request.queue = some queue ∧
      queue.occupancy.freshness = .fresh ∧
      (queue.occupancy.freshness = classifyFreshness queue.occupancy fabric.monotonicNow.1
          (occupancyPolicyFor fabric.config queue) queue.definition.generation ↔
        ¬ Untimely (occupancyPolicyFor fabric.config queue) fabric.monotonicNow.1 sample) := by
  obtain ⟨before, after, takes⟩ := apply_takes kind payload ok first
  obtain ⟨found, stored, ingests⟩ := takes
  have fresh : after.occupancy.freshness = .fresh := by rw [ingests.occupancy]; rfl
  have generation : after.definition.generation = sample.queueGeneration := by
    rw [ingests.definition, ingests.generation]
  have near := ingests.near
  rw [← occupancyPolicyFor_congr fabric.config ingests.definition] at near
  refine ⟨after, stored, fresh, ?_⟩
  rw [fresh, eq_comm, generation, ingests.occupancy]
  exact classifyFreshness_observed _ _ _ near

/-! Ages. -/

theorem toInt_sub_iff (left right : Nanos) (above : right < left) :
    (left - right).toInt = left.toInt - right.toInt ↔ left.toInt - right.toInt < 2 ^ 63 := by
  have forward := Int64.lt_iff_toInt_lt.mp above
  rw [Int64.toInt_sub]
  constructor
  · intro exact
    have bound := Int64.toInt_lt (left - right)
    rw [Int64.toInt_sub, exact] at bound
    exact bound
  · intro small
    exact Int.bmod_eq_of_le (by omega) (by omega)

/-- The age of an observation in the integers: nothing is younger than zero. -/
def trueAge (now observedAt : Nanos) : Int := max 0 (now.toInt - observedAt.toInt)

theorem occupancyAge_exact_iff (now observedAt : Nanos) :
    (occupancyAge now observedAt).toInt = trueAge now observedAt ↔
      now.toInt - observedAt.toInt < 2 ^ 63 := by
  rw [occupancyAge, trueAge]
  split
  · rename_i future
    have order := Int64.le_iff_toInt_le.mp future
    have none : max 0 (now.toInt - observedAt.toInt) = 0 := max_eq_left (by omega)
    rw [none]
    exact ⟨fun _ => by omega, fun _ => rfl⟩
  · rename_i past
    have above : observedAt < now := Int64.not_le.mp past
    have order := Int64.lt_iff_toInt_lt.mp above
    rw [max_eq_right (by omega)]
    exact toInt_sub_iff now observedAt above

/-- What exact ages give at a clock value: no difference wraps, and an observation that has aged
out is neither classified fresh nor evidence for a drain that is still to be assessed. -/
structure AgesExactly (occupancy : OccupancyState) (now : Nanos) : Prop where
  age : (occupancyAge now occupancy.observedAt).toInt = trueAge now occupancy.observedAt
  skew : now < occupancy.observedAt → (occupancy.observedAt - now).toInt =
    occupancy.observedAt.toInt - now.toInt
  classified : ∀ (policy : OccupancyPolicy) (generation : Generation), policy.maxAge > 0 →
    policy.maxAge.toInt < trueAge now occupancy.observedAt →
    classifyFreshness occupancy now policy generation ≠ .fresh
  assessed : ∀ (policy : OccupancyPolicy) (drain : DrainState) (live : Option BackendIncarnation)
    (epoch : Epoch), policy.maxAge > 0 →
    policy.maxAge.toInt < trueAge now occupancy.observedAt → drain.phase ≠ .completed →
    (assessDrain drain occupancy live epoch policy now).completable = false

theorem not_fresh_of_aged {state : OccupancyState} {now : Nanos} {policy : OccupancyPolicy}
    (generation : Generation) (aged : (decide (policy.maxAge > 0) &&
      decide (occupancyAge now state.observedAt > policy.maxAge)) = true) :
    classifyFreshness state now policy generation ≠ .fresh := by
  simp only [classifyFreshness, aged, ↓reduceIte]
  split
  · exact Freshness.noConfusion
  split
  · rename_i sticky
    intro fresh
    rw [fresh] at sticky
    cases sticky
  split
  · exact Freshness.noConfusion
  split <;> exact Freshness.noConfusion

theorem not_completable_of_aged {drain : DrainState} {occupancy : OccupancyState} {now : Nanos}
    {policy : OccupancyPolicy} (live : Option BackendIncarnation) (epoch : Epoch)
    (aged : (decide (policy.maxAge > 0) &&
      decide (occupancyAge now occupancy.observedAt > policy.maxAge)) = true)
    (unproven : drain.phase ≠ .completed) :
    (assessDrain drain occupancy live epoch policy now).completable = false := by
  fun_cases assessDrain drain occupancy live epoch policy now
  all_goals first
    | rfl
    | exact absurd ‹drain.phase = .completed› unproven
    | exact absurd aged ‹_›

theorem agesExactly_iff (occupancy : OccupancyState) (now : Nanos) (clock : 0 ≤ now) :
    AgesExactly occupancy now ↔ now.toInt - occupancy.observedAt.toInt < 2 ^ 63 := by
  constructor
  · exact fun exactly => (occupancyAge_exact_iff now _).mp exactly.age
  intro small
  have age := (occupancyAge_exact_iff now occupancy.observedAt).mpr small
  have start : 0 ≤ now.toInt := Int64.le_iff_toInt_le.mp clock
  have above (policy : OccupancyPolicy) (window : policy.maxAge > 0)
      (aged : policy.maxAge.toInt < trueAge now occupancy.observedAt) :
      (decide (policy.maxAge > 0) &&
        decide (occupancyAge now occupancy.observedAt > policy.maxAge)) = true := by
    rw [← age] at aged
    have older : occupancyAge now occupancy.observedAt > policy.maxAge :=
      Int64.lt_iff_toInt_lt.mpr aged
    simp [window, older]
  refine ⟨age, ?_, ?_, ?_⟩
  · intro ahead
    refine (toInt_sub_iff _ _ ahead).mpr ?_
    have bound := Int64.toInt_lt occupancy.observedAt
    omega
  · intro policy generation window aged
    exact not_fresh_of_aged generation (above policy window aged)
  · intro policy drain live epoch window aged unproven
    exact not_completable_of_aged live epoch (above policy window aged) unproven

/-- Ages are exact for an accepted observation at a clock value exactly when that value is less than
`2 ^ 63` nanoseconds past the observation. -/
theorem accepted_ages_exact_iff {fabric : Fabric J} {request : MutationRequest}
    {sample : OccupancySample} {outcome : MutationOutcome}
    (kind : request.kind = .ingestOccupancy) (payload : request.payload = .occupancy sample)
    (ok : (fabric.apply request).result = .ok outcome) (first : outcome.replayed = false)
    (now : Nanos) (clock : 0 ≤ now) :
    ∃ queue, (fabric.apply request).fabric.findQueue request.queue = some queue ∧
      queue.occupancy.observedAt = sample.observedAt ∧
      (AgesExactly queue.occupancy now ↔ now.toInt - sample.observedAt.toInt < 2 ^ 63) := by
  obtain ⟨before, after, found, stored, ingests⟩ := apply_takes kind payload ok first
  have observedAt : after.occupancy.observedAt = sample.observedAt := by
    rw [ingests.occupancy]
    rfl
  refine ⟨after, stored, observedAt, ?_⟩
  rw [← observedAt]
  exact agesExactly_iff after.occupancy now clock

/-! Thresholds. -/

omit [IJournal J] in
theorem consistent_iff (thresholds : Thresholds) : thresholds.consistent = true ↔
    thresholds.lowWatermarkBytes ≤ thresholds.highWatermarkBytes ∧
      thresholds.highWatermarkBytes ≤ thresholds.maxOccupancyBytes := by
  simp [Thresholds.consistent]

omit [IJournal J] in
theorem fallback_consistent {policy : FabricPolicy} (cls : ClassId)
    (defaults : policy.defaultThresholds.consistent = true)
    (classes : ∀ entry ∈ policy.classes, entry.thresholds.consistent = true) :
    (policy.fallback cls).consistent = true := by
  rw [FabricPolicy.fallback]
  split
  · rename_i entry found
    exact classes entry (List.mem_of_find?_eq_some found)
  · exact defaults

omit [IJournal J] in
/-- Each rung falls back alone. The result is a ladder exactly when a maximum set without a high
watermark, and a high watermark set without a low one, is not below the rung taken from the class or
the defaults. -/
theorem resolve_consistent_iff {policy : FabricPolicy} {own : Thresholds} (cls : ClassId)
    (defaults : policy.defaultThresholds.consistent = true)
    (classes : ∀ entry ∈ policy.classes, entry.thresholds.consistent = true)
    (ladder : own.consistent = true) :
    (policy.resolve own cls).consistent = true ↔
      (own.highWatermarkBytes = 0 → own.maxOccupancyBytes ≠ 0 →
        (policy.fallback cls).highWatermarkBytes ≤ own.maxOccupancyBytes) ∧
      (own.lowWatermarkBytes = 0 → own.highWatermarkBytes ≠ 0 →
        (policy.fallback cls).lowWatermarkBytes ≤ own.highWatermarkBytes) := by
  have below := (consistent_iff _).mp (fallback_consistent cls defaults classes)
  have rungs := (consistent_iff _).mp ladder
  rw [consistent_iff]
  simp only [FabricPolicy.resolve, UInt64.le_iff_toNat_le, ne_eq, ← UInt64.toNat_inj,
    UInt64.toNat_zero] at below rungs ⊢
  by_cases high : own.highWatermarkBytes.toNat = 0
  · have low : own.lowWatermarkBytes.toNat = 0 := by omega
    by_cases maximum : own.maxOccupancyBytes.toNat = 0
    · simp [high, low, maximum, below]
    · simp [high, low, maximum, below]
  · have maximum : own.maxOccupancyBytes.toNat ≠ 0 := by omega
    by_cases low : own.lowWatermarkBytes.toNat = 0
    · simp [high, low, maximum, rungs]
    · simp [high, low, maximum, rungs]

/-! Overflows. -/

theorem exceeded_iff (thresholds : Thresholds) (bytes packets : UInt64) :
    (evaluateThresholds thresholds bytes packets true).band = .exceeded ↔
      bytes > thresholds.maxOccupancyBytes ∨
        thresholds.maxPackets ≠ 0 ∧ packets > thresholds.maxPackets := by
  simp only [evaluateThresholds, Bool.not_true, Bool.false_eq_true, ↓reduceIte]
  split
  · rename_i above
    exact ⟨fun _ => above, fun _ => rfl⟩
  · rename_i within
    refine ⟨fun exceeded => ?_, fun above => absurd above within⟩
    split at exceeded
    · cases exceeded
    split at exceeded
    · cases exceeded
    split at exceeded <;> cases exceeded

/-- The counters and the event of an overflow go with `exceeded`. -/
structure Reports (fabric : Fabric J) (request : MutationRequest) (before after : QueueRecord)
    (exceeded : Prop) : Prop where
  counted : after.overflowEvents = before.overflowEvents + 1 ↔ exceeded
  totalled : (fabric.apply request).fabric.stats.occupancyOverflow =
    fabric.stats.occupancyOverflow + 1 ↔ exceeded
  reported : (∃ event ∈ (fabric.apply request).events, event.kind = .occupancyOverflow) ↔ exceeded

omit [IJournal J] in
theorem counts_iff {before after : UInt64} {exceeds : Bool}
    (same : after = before + if exceeds then 1 else 0) : after = before + 1 ↔ exceeds = true := by
  rw [same, UInt64.add_right_inj]
  cases exceeds <;> decide

theorem Takes.reports {fabric : Fabric J} {request : MutationRequest} {sample : OccupancySample}
    {before after : QueueRecord} (takes : Takes fabric request sample before after) :
    Reports fabric request before after
      (sample.overflows (effectiveThresholds fabric.config before) = true) :=
  ⟨counts_iff takes.ingests.counted, counts_iff takes.ingests.totalled, takes.ingests.reported⟩

/-- An overflow is counted and reported as `evaluate_thresholds` judges the observation, unless the
resolved thresholds set no maximum for the bytes of an observation that has some. -/
theorem overflow_reported_iff {fabric : Fabric J} {request : MutationRequest}
    {sample : OccupancySample} {outcome : MutationOutcome}
    (kind : request.kind = .ingestOccupancy) (payload : request.payload = .occupancy sample)
    (ok : (fabric.apply request).result = .ok outcome) (first : outcome.replayed = false) :
    ∃ before after, fabric.findQueue request.queue = some before ∧
      (fabric.apply request).fabric.findQueue request.queue = some after ∧
      (Reports fabric request before after
          ((evaluateThresholds (effectiveThresholds fabric.config before) sample.bytes
            sample.packets true).band = .exceeded) ↔
        ¬ ((effectiveThresholds fabric.config before).maxOccupancyBytes = 0 ∧ sample.bytes ≠ 0 ∧
          ¬ ((effectiveThresholds fabric.config before).maxPackets ≠ 0 ∧
            sample.packets > (effectiveThresholds fabric.config before).maxPackets))) := by
  obtain ⟨before, after, takes⟩ := apply_takes kind payload ok first
  have reports := takes.reports
  refine ⟨before, after, takes.found, takes.stored, ?_⟩
  generalize effectiveThresholds fabric.config before = thresholds at reports
  rw [exceeded_iff]
  rw [sample.overflows_iff] at reports
  constructor
  · rintro agrees ⟨unset, bytes, few⟩
    have above : sample.bytes > thresholds.maxOccupancyBytes := by
      rw [unset]
      exact UInt64.pos_iff_ne_zero.mpr bytes
    rcases reports.counted.mp (agrees.counted.mpr (.inl above)) with ⟨set, _⟩ | packets
    · exact set unset
    · exact few packets
  · intro limited
    have same : (thresholds.maxOccupancyBytes ≠ 0 ∧ sample.bytes > thresholds.maxOccupancyBytes ∨
        thresholds.maxPackets ≠ 0 ∧ sample.packets > thresholds.maxPackets) ↔
        (sample.bytes > thresholds.maxOccupancyBytes ∨
          thresholds.maxPackets ≠ 0 ∧ sample.packets > thresholds.maxPackets) := by
      refine ⟨fun exceeds => exceeds.imp_left And.right, ?_⟩
      rintro (bytes | packets)
      · by_cases unset : thresholds.maxOccupancyBytes = 0
        · right
          by_contra few
          rw [unset] at bytes
          exact limited ⟨unset, UInt64.pos_iff_ne_zero.mp bytes, few⟩
        · exact .inl ⟨unset, bytes⟩
      · exact .inr packets
    rwa [same] at reports

end Fabric

/-! Thresholds set in part. -/

def partialDefaults : FabricPolicy := { defaultThresholds := ⟨10, 100, 200, 0, 0⟩ }

theorem resolve_consistent_above : (partialDefaults.resolve ⟨0, 0, 150, 0, 0⟩ ⟨1⟩).consistent = true :=
  (Fabric.resolve_consistent_iff ⟨1⟩ rfl (by decide) rfl).mpr ⟨by decide, by decide⟩

/-- A maximum of 50 under a default high watermark of 100. -/
theorem resolve_inconsistent_below :
    partialDefaults.defaultThresholds.consistent = true ∧
      (∀ entry ∈ partialDefaults.classes, entry.thresholds.consistent = true) ∧
      Thresholds.consistent ⟨0, 0, 50, 0, 0⟩ = true ∧
      (partialDefaults.resolve ⟨0, 0, 50, 0, 0⟩ ⟨1⟩).consistent = false := by decide

/-! Readings of the sample queue. -/

namespace System

def sampleReading (bytes : UInt64) (observedAt : Nanos) : OccupancySample :=
  { queue := ⟨1⟩, queueGeneration := ⟨1⟩, bytes, epoch := ⟨1⟩, sequence := ⟨1⟩, observedAt,
    provenance := sampleProvenance 2 }

def observing (bytes : UInt64) (observedAt : Nanos) : MutationRequest :=
  sampleRequest 2 .ingestOccupancy (.occupancy (sampleReading bytes observedAt))

theorem timely_reading_agrees :
    ∃ queue, (sampleSystem.fabric.apply (observing 5 1000)).fabric.findQueue ⟨1⟩ = some queue ∧
      queue.occupancy.freshness =
        Fabric.refreshedFreshness sampleSystem.fabric.config queue
          sampleSystem.fabric.monotonicNow.1 := by
  have executes : Fabric.Executed (sampleSystem.fabric.apply (observing 5 1000)).result := by
    decide +kernel
  obtain ⟨outcome, ok, first⟩ := executes
  obtain ⟨queue, stored, _, agrees⟩ := @Fabric.stored_freshness_agrees_iff _ _ _
    (observing 5 1000) (sampleReading 5 1000) outcome rfl rfl ok first
  obtain ⟨same, found, timely⟩ := @first_queue
    (sampleSystem.fabric.apply (observing 5 1000)).fabric
    (fun queue => ¬ Fabric.Untimely (Fabric.occupancyPolicyFor sampleSystem.fabric.config queue)
      sampleSystem.fabric.monotonicNow.1 (sampleReading 5 1000)) _ (by decide +kernel)
  have here : same = queue := Option.some.inj (found.symm.trans stored)
  exact ⟨queue, stored, agrees.mpr (here ▸ timely)⟩

/-- A reading five seconds old is stored as fresh under a window of one second. -/
theorem late_reading_recorded_fresh :
    Fabric.Executed (sampleSystem.fabric.apply (observing 5 (-5000000000))).result ∧
      ∃ queue, (sampleSystem.fabric.apply (observing 5 (-5000000000))).fabric.findQueue ⟨1⟩ =
          some queue ∧
        queue.applicability.hasFlag .stale = false ∧ queue.occupancy.freshness = .fresh ∧
        Fabric.refreshedFreshness sampleSystem.fabric.config queue
          sampleSystem.fabric.monotonicNow.1 = .staleAge :=
  ⟨by decide +kernel, first_queue (by decide +kernel)⟩

theorem reading_ages_exactly :
    ∃ queue, (sampleSystem.fabric.apply (observing 5 1000)).fabric.findQueue ⟨1⟩ = some queue ∧
      Fabric.AgesExactly queue.occupancy Int64.maxValue := by
  have executes : Fabric.Executed (sampleSystem.fabric.apply (observing 5 1000)).result := by
    decide +kernel
  obtain ⟨outcome, ok, first⟩ := executes
  obtain ⟨queue, stored, _, exactly⟩ :=
    @Fabric.accepted_ages_exact_iff _ _ _ (observing 5 1000) (sampleReading 5 1000) outcome rfl rfl
      ok first Int64.maxValue (by decide)
  exact ⟨queue, stored, exactly.mpr (by decide)⟩

/-- The earliest timestamp is accepted, its age wraps below zero, and it counts as fresh. -/
theorem earliest_reading_wraps :
    Fabric.Executed (sampleSystem.fabric.apply (observing 5 Int64.minValue)).result ∧
      ∃ queue, (sampleSystem.fabric.apply (observing 5 Int64.minValue)).fabric.findQueue ⟨1⟩ =
          some queue ∧
        (occupancyAge 1000 queue.occupancy.observedAt).toInt < 0 ∧
        (Fabric.occupancyPolicyFor sampleSystem.fabric.config queue).maxAge.toInt <
          Fabric.trueAge 1000 queue.occupancy.observedAt ∧
        Fabric.refreshedFreshness sampleSystem.fabric.config queue 1000 = .fresh :=
  ⟨by decide +kernel, first_queue (by decide +kernel)⟩

theorem reading_above_reported :
    ∃ before after, Fabric.Reports sampleSystem.fabric (observing 101 1000) before after
      ((evaluateThresholds (Fabric.effectiveThresholds sampleSystem.fabric.config before) 101 0
        true).band = .exceeded) := by
  have executes : Fabric.Executed (sampleSystem.fabric.apply (observing 101 1000)).result := by
    decide +kernel
  obtain ⟨outcome, ok, first⟩ := executes
  obtain ⟨before, after, found, stored, agrees⟩ := @Fabric.overflow_reported_iff _ _ _
    (observing 101 1000) (sampleReading 101 1000) outcome rfl rfl ok first
  obtain ⟨same, here, limited⟩ := @first_queue sampleSystem.fabric
    (fun queue => (Fabric.effectiveThresholds sampleSystem.fabric.config queue).maxOccupancyBytes ≠ 0)
    _ (by decide +kernel)
  have equal : same = before := Option.some.inj (here.symm.trans found)
  exact ⟨before, after, agrees.mpr fun unset => limited (equal ▸ unset.1)⟩

/-- The sample queue declared without thresholds, under defaults that set none either. -/
def unlimitedSystem : System :=
  sampleStart.run (sampleSteps.take 3 ++ [.call (.apply { sampleDeclaration with
    payload := .declareQueue
      { resource := ⟨1⟩, name := text "q", cls := ⟨⟨1⟩, ⟨1⟩⟩, pool := ⟨⟨1⟩, ⟨1⟩, 0⟩ } }) []])

/-- `evaluate_thresholds` says exceeded, and nothing is counted or reported. -/
theorem unlimited_reading_unreported :
    Fabric.Executed (unlimitedSystem.fabric.apply (observing 5 1000)).result ∧
      (∃ before, unlimitedSystem.fabric.findQueue ⟨1⟩ = some before ∧ before.overflowEvents = 0 ∧
        (evaluateThresholds (Fabric.effectiveThresholds unlimitedSystem.fabric.config before) 5 0
          true).band = .exceeded) ∧
      (∃ after, (unlimitedSystem.fabric.apply (observing 5 1000)).fabric.findQueue ⟨1⟩ = some after ∧
        after.overflowEvents = 0) ∧
      ∀ event ∈ (unlimitedSystem.fabric.apply (observing 5 1000)).events,
        event.kind ≠ .occupancyOverflow :=
  ⟨by decide +kernel, first_queue (by decide +kernel), first_queue (by decide +kernel),
    by decide +kernel⟩

end System

end QueueFabric
