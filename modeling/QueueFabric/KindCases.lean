import QueueFabric.FabricCore

/-!
What an accepted kind does to its target. `KindCase` lists the ways
`apply_kind_locked` accepts, with the guards it has passed; it refuses only with
a status that is not ok.
-/

namespace QueueFabric

theorem bind_ok {ε α β : Type} {first : Except ε α} {next : α → Except ε β} {value : β}
    (ok : (first >>= next) = .ok value) : ∃ middle, first = .ok middle ∧ next middle = .ok value := by
  cases first with
  | error error => cases ok
  | ok middle => exact ⟨middle, rfl, ok⟩

namespace Fabric

variable {J : Type}

theorem Counter.next_lt {tag : CounterTag} {counter successor : Counter tag}
    (minted : counter.next = .ok successor) : counter.value < successor.value := by
  rw [QueueFabric.Counter.next] at minted
  split at minted
  · cases minted
  · rename_i small
    rw [Except.ok.injEq] at minted
    subst minted
    have bound := counter.value.toNat_lt
    have below : counter.value.toNat ≠ 0xFFFFFFFFFFFFFFFF :=
      fun equal => small (UInt64.toNat_inj.mp equal)
    rw [UInt64.lt_iff_toNat_lt, UInt64.toNat_add]
    simp only [UInt64.toNat_one]
    omega

section Cases

variable (fabric : Fabric J) (target : QueueRecord) (request : MutationRequest) (now : Nanos)

/-- The effect a request asks for is there already; evidence is never a repetition. -/
def Repeats : Prop :=
  match request.kind with
  | .validateQueue => target.lifecycle = .validated
  | .activateQueue => target.lifecycle = .active
  | .rebindClass | .setThresholds | .transferOwnership | .noOp => True
  | .requestDrain => target.lifecycle = .draining
  | .quiesceQueue => target.lifecycle = .quiesced
  | .fenceQueue => target.fence.fenced = true
  | .unfenceQueue => target.fence.fenced = false
  | .failQueue => target.lifecycle = .failed
  | .retireQueue => target.lifecycle = .retired
  | _ => False

/-- Every way a kind is accepted, with the guards it has passed. -/
inductive KindCase : KindApplied → Prop
  | unchanged (rule : String) (repeats : Repeats target request) :
      KindCase ⟨target, rule, [], fabric.fenceTokens, fabric.stats⟩
  | moved (goal : Lifecycle) (rule : String) (events : List Event)
      (kind : request.kind = .validateQueue ∧ goal = .validated ∨
        request.kind = .activateQueue ∧ goal = .active)
      (moves : target.lifecycle ≠ goal)
      (allowed : (checkTransition target.lifecycle goal).allowed = true) :
      KindCase ⟨{ target with lifecycle := goal }, rule, events, fabric.fenceTokens, fabric.stats⟩
  | redefined (cls : ClassBinding) (thresholds : Thresholds) (owner : OwnerId)
      (generation : Generation) (rule : String) (events : List Event)
      (minted : target.definition.generation.next = .ok generation)
      (kind : request.kind = .rebindClass ∨ request.kind = .setThresholds ∨
        request.kind = .transferOwnership)
      (changed : cls ≠ target.definition.cls ∨ thresholds ≠ target.definition.thresholds ∨
        owner ≠ target.definition.owner)
      (bound : cls = target.definition.cls ∨ checkClassBinding fabric target cls = .ok ())
      (ladder : thresholds = target.definition.thresholds ∨ thresholds.consistent = true) :
      KindCase ⟨redefine target { target.definition with cls, thresholds, owner, generation },
        rule, events, fabric.fenceTokens, fabric.stats⟩
  | ingested (sample : OccupancySample) (overflows : UInt64) (rule : String)
      (events : List Event) (stats : FabricStats) (kind : request.kind = .ingestOccupancy)
      (payload : request.payload = .occupancy sample)
      (generation : sample.queueGeneration = target.definition.generation)
      (epoch : sample.epoch = fabric.epoch) :
      KindCase ⟨{ ingestTarget target now sample with overflowEvents := overflows }, rule, events,
        fabric.fenceTokens, stats⟩
  | drainRequested (rule : String) (events : List Event) (kind : request.kind = .requestDrain)
      (moves : target.lifecycle ≠ .draining)
      (allowed : (checkTransition target.lifecycle .draining).allowed = true) :
      KindCase ⟨{ target with
        lifecycle := .draining
        drain := { phase := .requested, attempt := request.attempt, requestedAt := now,
                   requestedBy := request.provenance } }, rule, events, fabric.fenceTokens,
        fabric.stats⟩
  | drainCancelled (rule : String) (events : List Event) (kind : request.kind = .cancelDrain)
      (draining : target.lifecycle = .draining) :
      KindCase ⟨{ target with lifecycle := .active, drain := {} }, rule, events,
        fabric.fenceTokens, fabric.stats⟩
  | evidenceRecorded (evidence : DrainEvidence) (rule : String) (events : List Event)
      (kind : request.kind = .submitDrainEvidence)
      (payload : request.payload = .drainEvidence evidence)
      (progress : target.drain.inProgress = true) (some : evidence.records ≠ 0)
      (few : evidence.records.toNat ≤ fabric.config.policy.maxDrainEvidenceRecords.toNat)
      (backed : checkEvidenceBackend fabric target evidence.backend = .ok ()) :
      KindCase ⟨recordEvidence target evidence, rule, events, fabric.fenceTokens, fabric.stats⟩
  | quiesced (rule : String) (events : List Event) (kind : request.kind = .quiesceQueue)
      (draining : target.lifecycle = .draining)
      (complete : (assessDrain target.drain target.occupancy
        (fabric.findLiveBackend target.definition.resource target.drain.evidence.backend.backend)
        fabric.epoch (occupancyPolicyFor fabric.config target) now).completable = true)
      (acknowledged : checkQuiesceAck fabric target (fabric.findLiveBackend
        target.definition.resource target.drain.evidence.backend.backend) = .ok ()) :
      KindCase ⟨{ target with
        lifecycle := .quiesced
        drain := { target.drain with phase := .completed } }, rule, events, fabric.fenceTokens,
        fabric.stats⟩
  | fenced (fence : FenceState) (rule : String) (events : List Event)
      (kind : request.kind = .fenceQueue) (raised : fence.fenced = true) :
      KindCase ⟨{ target with
        fence := fence
        applicability := target.applicability.union .fenced }, rule, events,
        fabric.fenceTokens + 1, fabric.stats⟩
  | unfenced (rule : String) (events : List Event) (kind : request.kind = .unfenceQueue) :
      KindCase ⟨{ target with
        fence := { target.fence with fenced := false, reason := [] }
        applicability := target.applicability.clearFlag .fenced }, rule, events,
        fabric.fenceTokens, fabric.stats⟩
  | failed (reason : Text) (rule : String) (events : List Event)
      (kind : request.kind = .failQueue) (moves : target.lifecycle ≠ .failed)
      (allowed : (checkTransition target.lifecycle .failed).allowed = true) :
      KindCase ⟨{ target with lifecycle := .failed, failureReason := reason }, rule, events,
        fabric.fenceTokens, fabric.stats⟩
  | retired (rule : String) (events : List Event) (kind : request.kind = .retireQueue)
      (moves : target.lifecycle ≠ .retired)
      (allowed : (checkTransition target.lifecycle .retired).allowed = true) :
      KindCase ⟨{ target with
        lifecycle := .retired
        occupancy := {}
        drain := {}
        applicability := .none }, rule, events, fabric.fenceTokens, fabric.stats⟩
  | acknowledged (applied : BackendApplied) (rule : String) (events : List Event)
      (kind : request.kind = .acknowledgeBackend)
      (generation : applied.queueGeneration = target.definition.generation) :
      KindCase ⟨{ target with
        applied := applied
        applicability := target.applicability.clearFlag .stale }, rule, events,
        fabric.fenceTokens, fabric.stats⟩

end Cases

section Inversion

variable {fabric : Fabric J} {target : QueueRecord} {request : MutationRequest} {now : Nanos}
  {applied : KindApplied}

theorem unchanged_case {rule : String} (ok : unchanged fabric target rule = .ok applied)
    (repeats : Repeats target request) : KindCase fabric target request now applied := by
  rw [unchanged, accept, Except.ok.injEq] at ok
  exact ok ▸ .unchanged rule repeats

theorem nextGeneration_ok {generation : Generation}
    (minted : nextGeneration target = .ok generation) :
    target.definition.generation.next = .ok generation := by
  rw [nextGeneration] at minted
  split at minted
  · rename_i next
    rw [Except.ok.injEq] at minted
    exact minted ▸ next
  · cases minted

theorem requireTransition_ok {goal : Lifecycle} {rule : String}
    (ok : requireTransition target goal = .ok rule) :
    (checkTransition target.lifecycle goal).allowed = true := by
  simp only [requireTransition] at ok
  split at ok
  · cases ok
  · rename_i allowed
    simpa using allowed

theorem applyValidate_case (kind : request.kind = .validateQueue)
    (ok : applyValidate fabric target request now = .ok applied) :
    KindCase fabric target request now applied := by
  rw [applyValidate] at ok
  split at ok
  · rename_i there
    exact unchanged_case ok (by rw [Repeats, kind]; exact there)
  · rename_i moves
    obtain ⟨rule, allowed, ok⟩ := bind_ok ok
    obtain ⟨_, _, ok⟩ := bind_ok ok
    cases ok
    exact .moved .validated rule _ (.inl ⟨kind, rfl⟩) moves (requireTransition_ok allowed)

theorem applyActivate_case (kind : request.kind = .activateQueue)
    (ok : applyActivate fabric target request now = .ok applied) :
    KindCase fabric target request now applied := by
  rw [applyActivate] at ok
  split at ok
  · rename_i there
    exact unchanged_case ok (by rw [Repeats, kind]; exact there)
  · rename_i moves
    obtain ⟨rule, allowed, ok⟩ := bind_ok ok
    obtain ⟨_, _, ok⟩ := bind_ok ok
    split at ok
    · cases ok
    · cases ok
      exact .moved .active rule _ (.inr ⟨kind, rfl⟩) moves (requireTransition_ok allowed)

theorem applyRebind_case {cls : ClassBinding} (kind : request.kind = .rebindClass)
    (ok : applyRebind fabric target request now cls = .ok applied) :
    KindCase fabric target request now applied := by
  obtain ⟨_, binding, ok⟩ := bind_ok ok
  split at ok
  · exact unchanged_case ok (by rw [Repeats, kind]; trivial)
  · rename_i changed
    obtain ⟨generation, minted, ok⟩ := bind_ok ok
    cases ok
    exact .redefined cls _ _ generation _ _ (nextGeneration_ok minted) (.inl kind)
      (.inl fun same => changed same.symm) (.inr binding) (.inl rfl)

theorem applySetThresholds_case {thresholds : Thresholds} (kind : request.kind = .setThresholds)
    (ok : applySetThresholds fabric target request now thresholds = .ok applied) :
    KindCase fabric target request now applied := by
  rw [applySetThresholds] at ok
  split at ok
  · cases ok
  rename_i ladder
  split at ok
  · exact unchanged_case ok (by rw [Repeats, kind]; trivial)
  · rename_i changed
    obtain ⟨generation, minted, ok⟩ := bind_ok ok
    cases ok
    exact .redefined _ thresholds _ generation _ _ (nextGeneration_ok minted) (.inr (.inl kind))
      (.inr (.inl changed)) (.inl rfl) (.inr (by simpa using ladder))

theorem applyTransfer_case {owner : OwnerId} (kind : request.kind = .transferOwnership)
    (ok : applyTransfer fabric target request now owner = .ok applied) :
    KindCase fabric target request now applied := by
  rw [applyTransfer] at ok
  split at ok
  · exact unchanged_case ok (by rw [Repeats, kind]; trivial)
  · rename_i changed
    obtain ⟨generation, minted, ok⟩ := bind_ok ok
    cases ok
    exact .redefined _ _ owner generation _ _ (nextGeneration_ok minted) (.inr (.inr kind))
      (.inr (.inr changed)) (.inl rfl) (.inl rfl)

theorem applyIngest_case {sample : OccupancySample} (kind : request.kind = .ingestOccupancy)
    (payload : request.payload = .occupancy sample)
    (ok : applyIngest fabric target request now sample = .ok applied) :
    KindCase fabric target request now applied := by
  simp only [applyIngest] at ok
  split at ok
  · cases ok
  split at ok
  · cases ok
  rename_i generation
  split at ok
  · cases ok
  rename_i epoch
  rw [not_or, not_not, not_not] at epoch
  rw [not_not] at generation
  split at ok
  · cases ok
  split at ok
  · cases ok
  split at ok
  all_goals
    rw [Except.ok.injEq] at ok
    subst ok
    exact .ingested sample _ _ _ _ kind payload generation epoch.2

theorem applyRequestDrain_case (kind : request.kind = .requestDrain)
    (ok : applyRequestDrain fabric target request now = .ok applied) :
    KindCase fabric target request now applied := by
  rw [applyRequestDrain] at ok
  split at ok
  · rename_i there
    exact unchanged_case ok (by rw [Repeats, kind]; exact there)
  · rename_i moves
    obtain ⟨rule, allowed, ok⟩ := bind_ok ok
    cases ok
    exact .drainRequested _ _ kind moves (requireTransition_ok allowed)

theorem applyCancelDrain_case (kind : request.kind = .cancelDrain)
    (ok : applyCancelDrain fabric target request now = .ok applied) :
    KindCase fabric target request now applied := by
  rw [applyCancelDrain] at ok
  split at ok
  · cases ok
  · rename_i draining
    obtain ⟨rule, _, ok⟩ := bind_ok ok
    cases ok
    exact .drainCancelled _ _ kind (not_not.mp draining)

theorem applyEvidence_case {evidence : DrainEvidence} (kind : request.kind = .submitDrainEvidence)
    (payload : request.payload = .drainEvidence evidence)
    (ok : applyEvidence fabric target request now evidence = .ok applied) :
    KindCase fabric target request now applied := by
  rw [applyEvidence] at ok
  split at ok
  · cases ok
  rename_i progress
  split at ok
  · cases ok
  rename_i present
  split at ok
  · cases ok
  rename_i few
  obtain ⟨_, backed, ok⟩ := bind_ok ok
  split at ok
  · cases ok
  · cases ok
    exact .evidenceRecorded evidence _ _ kind payload (by simpa using progress) present (by omega)
      backed

theorem draining_of_quiesce {source : Lifecycle} (moves : source ≠ .quiesced)
    (allowed : (checkTransition source .quiesced).allowed = true) : source = .draining := by
  cases source with
  | draining => rfl
  | quiesced => exact absurd rfl moves
  | _ => simp [checkTransition, transitionRules] at allowed

theorem applyQuiesce_case (kind : request.kind = .quiesceQueue)
    (ok : applyQuiesce fabric target request now = .ok applied) :
    KindCase fabric target request now applied := by
  rw [applyQuiesce] at ok
  split at ok
  · rename_i there
    exact unchanged_case ok (by rw [Repeats, kind]; exact there)
  · rename_i moves
    obtain ⟨rule, allowed, ok⟩ := bind_ok ok
    simp only [] at ok
    split at ok
    · cases ok
    · rename_i complete
      obtain ⟨_, acknowledged, ok⟩ := bind_ok ok
      cases ok
      exact .quiesced _ _ kind (draining_of_quiesce moves (requireTransition_ok allowed))
        (by simpa using complete) acknowledged

theorem applyFence_case {payload : FencePayload} (kind : request.kind = .fenceQueue)
    (ok : applyFence fabric target request now payload = .ok applied) :
    KindCase fabric target request now applied := by
  rw [applyFence] at ok
  split at ok
  · rename_i there
    exact unchanged_case ok (by rw [Repeats, kind]; exact there)
  · cases ok
    exact .fenced _ _ _ kind rfl

theorem applyUnfence_case (kind : request.kind = .unfenceQueue)
    (ok : applyUnfence fabric target request now = .ok applied) :
    KindCase fabric target request now applied := by
  rw [applyUnfence] at ok
  split at ok
  · rename_i there
    exact unchanged_case ok (by rw [Repeats, kind]; simpa using there)
  · cases ok
    exact .unfenced _ _ kind

theorem applyFail_case {payload : FencePayload} (kind : request.kind = .failQueue)
    (ok : applyFail fabric target request now payload = .ok applied) :
    KindCase fabric target request now applied := by
  rw [applyFail] at ok
  split at ok
  · rename_i there
    exact unchanged_case ok (by rw [Repeats, kind]; exact there)
  · rename_i moves
    obtain ⟨rule, allowed, ok⟩ := bind_ok ok
    cases ok
    exact .failed _ _ _ kind moves (requireTransition_ok allowed)

theorem applyRetire_case (kind : request.kind = .retireQueue)
    (ok : applyRetire fabric target request now = .ok applied) :
    KindCase fabric target request now applied := by
  rw [applyRetire] at ok
  split at ok
  · rename_i there
    exact unchanged_case ok (by rw [Repeats, kind]; exact there)
  rename_i moves
  split at ok
  · cases ok
  · obtain ⟨rule, allowed, ok⟩ := bind_ok ok
    cases ok
    exact .retired _ _ kind moves (requireTransition_ok allowed)

/-- What a verified acknowledgement agrees with. -/
structure Verified (applied : BackendApplied) (live : BackendIncarnation) (epoch : Epoch)
    (generation : Generation) (cls : ClassBinding) : Prop where
  known : applied.known = true
  alive : live.alive = true
  backend : applied.backend = live.backend
  incarnation : applied.backendIncarnation = live.incarnation
  epoch : applied.epoch = epoch
  generation : applied.queueGeneration = generation
  cls : applied.appliedClass = cls

theorem verified_of_none {applied : BackendApplied} {live : BackendIncarnation} {epoch : Epoch}
    {generation : Generation} {cls : ClassBinding}
    (verified : verifyBackendApplied applied live epoch generation cls = none) :
    Verified applied live epoch generation cls := by
  rw [verifyBackendApplied] at verified
  split at verified
  · cases verified
  rename_i known
  split at verified
  · cases verified
  rename_i alive
  split at verified
  · cases verified
  rename_i backend
  split at verified
  · cases verified
  rename_i incarnation
  split at verified
  · cases verified
  rename_i current
  split at verified
  · cases verified
  rename_i definition
  split at verified
  · cases verified
  rename_i binding
  exact ⟨by simpa using known, by simpa using alive, not_not.mp backend, not_not.mp incarnation,
    not_not.mp current, not_not.mp definition, not_not.mp binding⟩

theorem applyAcknowledge_case {acknowledged : BackendApplied}
    (kind : request.kind = .acknowledgeBackend)
    (ok : applyAcknowledge fabric target request now acknowledged = .ok applied) :
    KindCase fabric target request now applied := by
  rw [applyAcknowledge] at ok
  split at ok
  · cases ok
  split at ok
  · cases ok
  split at ok
  · cases ok
  · rename_i verified
    cases ok
    exact .acknowledged acknowledged _ _ kind (verified_of_none verified).generation

theorem applyKindLocked_cases (ok : applyKindLocked fabric target request now = .ok applied) :
    KindCase fabric target request now applied := by
  rw [applyKindLocked] at ok
  split at ok
  · rename_i kind
    exact applyValidate_case kind ok
  · rename_i kind
    exact applyActivate_case kind ok
  · rename_i kind _
    exact applyRebind_case kind ok
  · rename_i kind _
    exact applySetThresholds_case kind ok
  · rename_i kind _
    exact applyTransfer_case kind ok
  · rename_i kind payload
    exact applyIngest_case kind payload ok
  · rename_i kind
    exact applyRequestDrain_case kind ok
  · rename_i kind
    exact applyCancelDrain_case kind ok
  · rename_i kind payload
    exact applyEvidence_case kind payload ok
  · rename_i kind
    exact applyQuiesce_case kind ok
  · rename_i kind _
    exact applyFence_case kind ok
  · rename_i kind
    exact applyUnfence_case kind ok
  · rename_i kind _
    exact applyFail_case kind ok
  · rename_i kind
    exact applyRetire_case kind ok
  · rename_i kind _
    exact applyAcknowledge_case kind ok
  · rename_i kind
    exact unchanged_case ok (by rw [Repeats, kind]; trivial)
  · cases ok

/-! Refusals. -/

/-- A stage that fails only with a status that is not ok. -/
def Honest {α : Type} (stage : Except Refusal α) : Prop :=
  ∀ refusal, stage = .error refusal → refusal.status.isOk = false

/-- A stage that fails with neither ok nor authority_denied. -/
def Plain {α : Type} (stage : Except Refusal α) : Prop :=
  ∀ refusal, stage = .error refusal →
    refusal.status.code ≠ .ok ∧ refusal.status.code ≠ .authorityDenied

theorem Plain.honest {α : Type} {stage : Except Refusal α} (plain : Plain stage) :
    Honest stage := by
  intro refusal failed
  exact decide_eq_false (plain refusal failed).1

theorem plain_ok {α : Type} (value : α) : Plain (.ok value) := by
  intro refusal failed
  cases failed

theorem plain_error {α : Type} {refusal : Refusal}
    (real : refusal.status.code ≠ .ok ∧ refusal.status.code ≠ .authorityDenied) :
    Plain (.error refusal : Except Refusal α) := by
  intro other failed
  cases failed
  exact real

theorem plain_ruled {α : Type} {code : Code} (rule : String)
    (real : code ≠ .ok ∧ code ≠ .authorityDenied) :
    Plain (.error (ruled code rule) : Except Refusal α) := plain_error real

theorem Plain.bind {α β : Type} {first : Except Refusal α} {next : α → Except Refusal β}
    (one : Plain first) (two : ∀ value, Plain (next value)) : Plain (first >>= next) := by
  intro refusal failed
  cases first with
  | error early =>
      cases failed
      exact one refusal rfl
  | ok value => exact two value refusal failed

theorem Plain.ite {α : Type} {condition : Prop} [Decidable condition]
    {first second : Except Refusal α} (one : Plain first) (two : Plain second) :
    Plain (if condition then first else second) := by
  split
  · exact one
  · exact two

theorem plain_unchanged (rule : String) : Plain (unchanged fabric target rule) := plain_ok _

theorem plain_requireTransition (goal : Lifecycle) : Plain (requireTransition target goal) := by
  rw [requireTransition, checkTransition]
  split
  · exact plain_ok _
  split
  · exact plain_ok _
  split
  · exact plain_ruled _ (by decide)
  · exact plain_ruled _ (by decide)

theorem plain_checkClassBinding (binding : ClassBinding) :
    Plain (checkClassBinding fabric target binding) := by
  rw [checkClassBinding]
  split
  · exact plain_error (by decide)
  split
  · exact plain_error (by decide)
  · exact .ite (plain_error (by decide)) (plain_ok _)

theorem plain_nextGeneration : Plain (nextGeneration target) := by
  rw [nextGeneration]
  split
  · exact plain_ok _
  · rename_i exhausted
    rw [QueueFabric.Counter.next] at exhausted
    split at exhausted
    · cases exhausted
      exact plain_error ⟨Code.noConfusion, Code.noConfusion⟩
    · cases exhausted

theorem plain_checkEvidenceBackend (backend : BackendObservation) :
    Plain (checkEvidenceBackend fabric target backend) := by
  rw [checkEvidenceBackend]
  split
  · split
    · exact plain_ruled _ (by decide)
    · exact .ite (plain_ruled _ (by decide)) (plain_ok _)
  · exact plain_ok _

theorem verifyBackendApplied_code {applied : BackendApplied} {live : BackendIncarnation}
    {epoch : Epoch} {generation : Generation} {cls : ClassBinding} {code : Code} {rule : String}
    (refused : verifyBackendApplied applied live epoch generation cls = some (code, rule)) :
    code ≠ .ok ∧ code ≠ .authorityDenied := by
  rw [verifyBackendApplied] at refused
  repeat' split at refused
  all_goals
    cases refused
    try decide

theorem plain_checkQuiesceAck (live : Option BackendIncarnation) :
    Plain (checkQuiesceAck fabric target live) := by
  rw [checkQuiesceAck.eq_def]
  split
  · split
    · exact plain_ruled _ (by decide)
    split
    · exact plain_ruled _ (by decide)
    · exact plain_ok _
  · exact plain_ok _

theorem assessDrain_code {drain : DrainState} {occupancy : OccupancyState}
    {live : Option BackendIncarnation} {epoch : Epoch} {policy : OccupancyPolicy}
    (incomplete : (assessDrain drain occupancy live epoch policy now).completable = false) :
    (assessDrain drain occupancy live epoch policy now).code ≠ .ok ∧
      (assessDrain drain occupancy live epoch policy now).code ≠ .authorityDenied := by
  revert incomplete
  fun_cases assessDrain drain occupancy live epoch policy now
  all_goals simp

theorem plain_applyIngest (sample : OccupancySample) :
    Plain (applyIngest fabric target request now sample) := by
  simp only [applyIngest]
  refine .ite (plain_ruled _ (by decide)) (.ite (plain_ruled _ (by decide))
    (.ite (plain_ruled _ (by decide)) (.ite (plain_ruled _ (by decide))
      (.ite (plain_ruled _ (by decide)) ?_))))
  exact .ite (plain_ok _) (plain_ok _)

theorem plain_applyQuiesce : Plain (applyQuiesce fabric target request now) := by
  rw [applyQuiesce]
  refine .ite (plain_unchanged _) ((plain_requireTransition _).bind fun _ => ?_)
  simp only []
  split
  · rename_i incomplete
    refine plain_ruled _ ?_
    rw [Bool.not_eq_true'] at incomplete
    exact assessDrain_code incomplete
  · exact (plain_checkQuiesceAck _).bind fun _ => plain_ok _

theorem plain_applyAcknowledge (acknowledged : BackendApplied) :
    Plain (applyAcknowledge fabric target request now acknowledged) := by
  rw [applyAcknowledge]
  split
  · exact plain_ruled _ (by decide)
  split
  · exact plain_ruled _ (by decide)
  split
  · rename_i refused
    exact plain_ruled _ (verifyBackendApplied_code refused)
  · exact plain_ok _

theorem applyKindLocked_plain : Plain (applyKindLocked fabric target request now) := by
  have move : ∀ goal, Plain (requireTransition target goal) := plain_requireTransition
  have binding : ∀ cls, Plain (checkClassBinding fabric target cls) := plain_checkClassBinding
  have generation : Plain (nextGeneration target) := plain_nextGeneration
  rw [applyKindLocked]
  split
  · exact .ite (plain_unchanged _) ((move _).bind fun _ => (binding _).bind fun _ => plain_ok _)
  · exact .ite (plain_unchanged _) ((move _).bind fun _ => (binding _).bind fun _ =>
      .ite (plain_ruled _ (by decide)) (plain_ok _))
  · exact (binding _).bind fun _ =>
      .ite (plain_unchanged _) (generation.bind fun _ => plain_ok _)
  · exact .ite (plain_ruled _ (by decide))
      (.ite (plain_unchanged _) (generation.bind fun _ => plain_ok _))
  · exact .ite (plain_unchanged _) (generation.bind fun _ => plain_ok _)
  · exact plain_applyIngest _
  · exact .ite (plain_unchanged _) ((move _).bind fun _ => plain_ok _)
  · exact .ite (plain_ruled _ (by decide)) ((move _).bind fun _ => plain_ok _)
  · exact .ite (plain_ruled _ (by decide)) (.ite (plain_ruled _ (by decide))
      (.ite (plain_ruled _ (by decide)) ((plain_checkEvidenceBackend _).bind fun _ =>
        .ite (plain_ruled _ (by decide)) (plain_ok _))))
  · exact plain_applyQuiesce
  · exact .ite (plain_unchanged _) (plain_ok _)
  · exact .ite (plain_unchanged _) (plain_ok _)
  · exact .ite (plain_unchanged _) ((move _).bind fun _ => plain_ok _)
  · exact .ite (plain_unchanged _)
      (.ite (plain_ruled _ (by decide)) ((move _).bind fun _ => plain_ok _))
  · exact plain_applyAcknowledge _
  · exact plain_unchanged _
  · exact plain_ruled _ (by decide)

theorem applyKindLocked_honest : Honest (applyKindLocked fabric target request now) :=
  applyKindLocked_plain.honest

end Inversion

end Fabric

end QueueFabric
