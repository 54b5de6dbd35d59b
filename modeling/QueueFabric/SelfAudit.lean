import QueueFabric.Audit
import QueueFabric.InvariantsCore
import QueueFabric.Overflows
import QueueFabric.RecordBounds
import QueueFabric.Reservations

/-!
What `validate_invariants` can find. In one process life the calls keep every
rule but six: a class or a pool declared anew leaves queues bound to its older
generation, an activation or a failure leaves a drain behind, traffic is observed
on a quiesced queue, and a redefinition overtakes a reservation.
-/

namespace QueueFabric

open QueueRecord Fabric

namespace InvariantRule

theorem mem_brokenIf {rule found : InvariantRule} {broken : Bool} :
    found ∈ rule.brokenIf broken ↔ broken = true ∧ found = rule := by
  cases broken <;> simp [brokenIf]

theorem brokenIf_eq_nil {rule : InvariantRule} {broken : Bool} :
    rule.brokenIf broken = [] ↔ ¬ broken = true := by
  cases broken <;> simp [brokenIf]

/-- The rules that calls of a life can break. -/
def Breakable (rule : InvariantRule) : Prop :=
  rule ∈ [classSuperseded, poolSuperseded, quiescedOccupied, drainedUnquiesced, drainedActive,
    planSuperseded]

instance (rule : InvariantRule) : Decidable rule.Breakable :=
  inferInstanceAs (Decidable (rule ∈ _))

end InvariantRule

open InvariantRule

/-! What the rules ask of the records. -/

/-- What the rules ask of a queue record beyond the audit. -/
structure QueueRecord.Tidy (queue : QueueRecord) : Prop where
  name : queue.definition.name ≠ [] ∧ queue.definition.name.length ≤ Limits.maxNameChars
  generation : queue.definition.generation.valid = true
  cls : queue.definition.cls.valid = true
  fence : queue.FenceAgrees
  drained : queue.lifecycle = .quiesced → queue.drain.phase = .completed

structure ResourceRecord.Tidy (limits : FabricLimits) (id : ResourceId)
    (resource : ResourceRecord) : Prop where
  keyed : resource.id = id
  grants : resource.authority.grants.length ≤ limits.maxGrantsPerResource.toNat
  classes : resource.classes.length ≤ limits.maxClassesPerResource.toNat
  pools : resource.pools.length ≤ limits.maxPoolsPerResource.toNat

namespace Fabric

variable {J : Type}

/-- What the rules ask of a fabric that has served so many calls. -/
structure Tidy (calls : Nat) (fabric : Fabric J) : Prop where
  consistent : Consistent fabric
  queues : ∀ id queue, fabric.findQueue id = some queue → queue.Tidy
  reported : ∀ id queue, fabric.findQueue id = some queue → queue.Reported calls
  resources : ∀ id record, fabric.findResource id = some record →
    record.Tidy fabric.config.limits id
  pending : fabric.pending.length ≤ fabric.config.limits.maxPendingAttempts.toNat
  plans : ∀ attempt plan, fabric.plans.get? attempt = some plan →
    ∃ queue, fabric.findQueue plan.queue = some queue

variable {fabric : Fabric J} {calls : Nat}

theorem capacityRules_nil (tidy : Tidy calls fabric) : fabric.capacityRules = [] := by
  have queues : fabric.queues.size ≤ fabric.config.limits.maxQueuesTotal.toNat :=
    tidy.consistent.indexed.room
  have resources : fabric.resources.size ≤ fabric.config.limits.maxResources.toNat :=
    tidy.consistent.housed.room
  have pending := tidy.pending
  simp only [capacityRules, List.append_eq_nil_iff, brokenIf_eq_nil, decide_eq_true_eq]
  exact ⟨⟨Nat.not_lt.mpr queues, Nat.not_lt.mpr resources⟩, Nat.not_lt.mpr pending⟩

theorem identityRules_nil (tidy : Tidy calls fabric) {key : QueueId} {queue : QueueRecord}
    (found : fabric.findQueue key = some queue) : identityRules key queue = [] := by
  have keyed : queue.definition.id = key := tidy.consistent.indexed.keyed key queue found
  obtain ⟨⟨named, short⟩, generation, cls, _, _⟩ := tidy.queues key queue found
  simp [identityRules, brokenIf, keyed, named, generation, cls, Nat.not_lt.mpr short]

theorem bindingRules_breakable (tidy : Tidy calls fabric) {key : QueueId} {queue : QueueRecord}
    (found : fabric.findQueue key = some queue) {resource : ResourceRecord}
    (home : fabric.findResource queue.definition.resource = some resource) :
    ∀ rule ∈ bindingRules resource queue, rule.Breakable := by
  obtain ⟨record, stored, classed, pooled⟩ := tidy.consistent.lodged key queue found
  have ladder := (tidy.consistent.sound key queue found).ladder
  obtain rfl : record = resource := Option.some.inj (stored.symm.trans home)
  obtain ⟨cls, classFound⟩ := Option.isSome_iff_exists.mp ((record.findClass_isSome _).mpr classed)
  obtain ⟨pool, poolFound⟩ := Option.isSome_iff_exists.mp ((record.findPool_isSome _).mpr pooled)
  intro rule broken
  simp only [bindingRules, classFound, poolFound, List.mem_append, mem_brokenIf, ladder,
    Bool.not_true, Bool.false_eq_true, false_and, or_false] at broken
  rcases broken with ⟨_, rfl⟩ | ⟨_, rfl⟩ <;> decide

theorem evidenceRules_nil (tidy : Tidy calls fabric) {key : QueueId} {queue : QueueRecord}
    (found : fabric.findQueue key = some queue) : fabric.evidenceRules queue = [] := by
  have few := (tidy.consistent.sound key queue found).memo.few
  have generation := (tidy.queues key queue found).generation
  rw [Counter.valid, bne_iff_ne] at generation
  simp only [evidenceRules, List.append_eq_nil_iff, brokenIf_eq_nil, Bool.and_eq_true,
    decide_eq_true_eq]
  refine ⟨⟨Nat.not_lt.mpr few, fun zero => generation zero.2⟩, ?_⟩
  rintro ⟨⟨⟨⟨⟨present, _⟩, bound⟩, maximum⟩, above⟩, unreported⟩
  exact (tidy.reported key queue found).counted present bound maximum above unreported

theorem stateRules_breakable (tidy : Tidy calls fabric) {key : QueueId} {queue : QueueRecord}
    (found : fabric.findQueue key = some queue) : ∀ rule ∈ stateRules queue, rule.Breakable := by
  obtain ⟨_, _, retired, acknowledged, fresh⟩ := tidy.consistent.sound key queue found
  obtain ⟨_, _, _, fence, drained⟩ := tidy.queues key queue found
  intro rule broken
  simp only [stateRules, List.mem_append, mem_brokenIf, Bool.and_eq_true, decide_eq_true_eq]
    at broken
  rcases broken with (((((((⟨_, rfl⟩ | ⟨⟨quiesced, phase⟩, _⟩) | ⟨⟨ended, present⟩, _⟩) |
    ⟨_, rfl⟩) | ⟨_, rfl⟩) | ⟨disagrees, _⟩) | ⟨⟨ended, accepts⟩, _⟩) | ⟨⟨⟨known, _⟩, future⟩, _⟩) |
    ⟨⟨⟨⟨_, _⟩, unbound⟩, current⟩, _⟩
  · decide
  · exact absurd (drained quiesced) phase
  · have reading : queue.occupancy.reading = OccupancyState.reading {} := (retired ended).1
    rw [(OccupancyState.values_of_reading reading).1] at present
    cases present
  · decide
  · decide
  · exact absurd fence.flag disagrees
  · rw [Lifecycle.isTerminal, decide_eq_true_eq] at ended
    simp [QueueRecord.acceptsFreshMutation, Lifecycle.acceptsMutation, ended] at accepts
  · exact absurd (acknowledged known) (UInt64.not_le.mpr future)
  · exact absurd (fresh current) unbound

/-- The name of a queue no earlier queue has is its own in the index as well. -/
theorem nameRules_nil (tidy : Tidy calls fabric) {key : QueueId} {queue : QueueRecord}
    (found : fabric.findQueue key = some queue) {seen : List Text}
    (new : nameKey queue.definition.resource queue.definition.name ∉ seen) :
    fabric.nameRules seen queue = [] := by
  have keyed : queue.definition.id = key := tidy.consistent.indexed.keyed key queue found
  have named : fabric.queueNames.get? (nameKey queue.definition.resource queue.definition.name) =
      some key := (tidy.consistent.indexed.named _ key).mpr ⟨queue, found, rfl⟩
  simp only [nameRules, List.append_eq_nil_iff, brokenIf_eq_nil, decide_eq_true_eq]
  exact ⟨new, fun wrong => wrong (by rw [named, keyed])⟩

theorem queueRules_breakable (tidy : Tidy calls fabric) {key : QueueId} {queue : QueueRecord}
    (found : fabric.findQueue key = some queue) {seen : List Text}
    (new : nameKey queue.definition.resource queue.definition.name ∉ seen) :
    ∀ rule ∈ fabric.queueRules seen key queue, rule.Breakable := by
  obtain ⟨resource, home, _⟩ := tidy.consistent.lodged key queue found
  have known : fabric.findResource queue.definition.resource = some resource := home
  intro rule broken
  simp only [queueRules, identityRules_nil tidy found, known, nameRules_nil tidy found new,
    evidenceRules_nil tidy found, List.nil_append, List.append_nil] at broken
  rcases List.mem_append.mp broken with binding | state
  · exact bindingRules_breakable tidy found known rule binding
  · exact stateRules_breakable tidy found rule state

/-- Names that differ are looked at one by one. -/
theorem checkQueues_breakable (tidy : Tidy calls fabric) {entries : List (QueueId × QueueRecord)}
    (held : ∀ entry ∈ entries, fabric.findQueue entry.1 = some entry.2) {seen : List Text}
    (distinct : (entries.map fun entry =>
      nameKey entry.2.definition.resource entry.2.definition.name).Nodup)
    (new : ∀ entry ∈ entries,
      nameKey entry.2.definition.resource entry.2.definition.name ∉ seen) :
    ∀ violation ∈ fabric.checkQueues seen entries, violation.rule.Breakable := by
  induction entries generalizing seen with
  | nil => exact fun violation listed => absurd listed List.not_mem_nil
  | cons entry rest ih =>
      obtain ⟨key, queue⟩ := entry
      rw [List.map_cons, List.nodup_cons] at distinct
      intro violation listed
      rw [checkQueues] at listed
      rcases List.mem_append.mp listed with now | later
      · obtain ⟨rule, broken, rfl⟩ := List.mem_map.mp now
        exact queueRules_breakable tidy (held _ List.mem_cons_self) (new _ List.mem_cons_self)
          rule broken
      · refine ih (fun other member => held other (List.mem_cons_of_mem _ member)) distinct.2
          (fun other member => ?_) violation later
        have apart := new other (List.mem_cons_of_mem _ member)
        split
        · refine List.not_mem_cons_of_ne_of_not_mem (fun same => ?_) apart
          exact distinct.1 (List.mem_map.mpr ⟨other, member, same⟩)
        · exact apart

theorem names_distinct (tidy : Tidy calls fabric) :
    (fabric.queues.entries.map fun entry =>
      nameKey entry.2.definition.resource entry.2.definition.name).Nodup := by
  refine List.Nodup.map_on ?_ (List.Nodup.of_map _ fabric.queues.nodup)
  rintro ⟨first, queue⟩ listed ⟨second, other⟩ listed' same
  have found := (Table.mem_entries_iff _ _ _).mp listed
  have found' := (Table.mem_entries_iff _ _ _).mp listed'
  have one := (tidy.consistent.indexed.named _ first).mpr ⟨queue, found, rfl⟩
  have two := (tidy.consistent.indexed.named _ second).mpr ⟨other, found', same⟩
  obtain rfl : first = second := Option.some.inj (one.symm.trans two)
  rw [Prod.mk.injEq]
  exact ⟨rfl, Option.some.inj (found.symm.trans found')⟩

theorem observedQueues_eq (tidy : Tidy calls fabric) (resource : ResourceId) :
    fabric.observedQueues resource = resourceQueues fabric.queues resource := by
  rw [observedQueues, resourceQueues]
  refine List.countP_congr fun queue listed => ?_
  obtain ⟨⟨key, stored⟩, member, rfl⟩ := List.mem_map.mp listed
  obtain ⟨record, home, _⟩ :=
    tidy.consistent.lodged key stored ((Table.mem_entries_iff _ _ _).mp member)
  have known : fabric.findResource stored.definition.resource = some record := home
  simp [known]

theorem resourceRules_nil (tidy : Tidy calls fabric) {key : ResourceId} {record : ResourceRecord}
    (found : fabric.findResource key = some record) : fabric.resourceRules key record = [] := by
  obtain ⟨keyed, grants, classes, pools⟩ := tidy.resources key record found
  have counted := tidy.consistent.housed.counted key record found
  simp only [resourceRules, List.append_eq_nil_iff, brokenIf_eq_nil, decide_eq_true_eq]
  refine ⟨⟨⟨⟨fun other => other keyed.symm, Nat.not_lt.mpr grants⟩, Nat.not_lt.mpr classes⟩,
    Nat.not_lt.mpr pools⟩, fun differs => differs ?_⟩
  rw [observedQueues_eq tidy, keyed]
  exact counted

theorem planRules_breakable (tidy : Tidy calls fabric) {attempt : AttemptId} {plan : BackendPlan}
    (held : fabric.plans.get? attempt = some plan) :
    ∀ rule ∈ fabric.planRules plan, rule.Breakable := by
  obtain ⟨queue, found⟩ := tidy.plans attempt plan held
  intro rule broken
  simp only [planRules, found, mem_brokenIf] at broken
  rw [broken.2]
  decide

/-- A tidy fabric breaks no rule but those. -/
theorem Tidy.breakable (tidy : Tidy calls fabric) :
    ∀ violation ∈ fabric.validateInvariants, violation.rule.Breakable := by
  intro violation listed
  simp only [validateInvariants, capacityRules_nil tidy, List.map_nil, List.nil_append,
    List.mem_append, List.mem_map, List.mem_flatMap] at listed
  rcases listed with (queue | ⟨rule, ⟨entry, member, broken⟩, rfl⟩) |
    ⟨rule, ⟨plan, member, broken⟩, rfl⟩
  · refine checkQueues_breakable tidy (fun entry member => ?_) (names_distinct tidy)
      (fun entry _ => List.not_mem_nil) violation queue
    exact (Table.mem_entries_iff _ _ _).mp member
  · rw [resourceRules_nil tidy ((Table.mem_entries_iff _ _ _).mp member)] at broken
    cases broken
  · obtain ⟨⟨attempt, held⟩, entry, rfl⟩ := List.mem_map.mp member
    exact planRules_breakable tidy ((Table.mem_entries_iff _ _ _).mp entry) rule broken

end Fabric

/-! Queues. -/

theorem shaped_of_validate {request : MutationRequest} {payload : DeclareQueuePayload}
    (valid : request.validate.isOk = true) (kind : request.kind = .declareQueue)
    (carried : request.payload = .declareQueue payload) :
    (payload.name ≠ [] ∧ payload.name.length ≤ Limits.maxNameChars) ∧
      payload.cls.valid = true := by
  have target := Fabric.target_of_valid valid
  rw [MutationRequest.validateTarget, kind, carried] at target
  simp only [] at target
  split at target
  · cases target
  split at target
  · cases target
  split at target
  · cases target
  rename_i inRange
  split at target
  · cases target
  rename_i bound
  simp only [Bool.or_eq_true, decide_eq_true_eq, List.isEmpty_iff, not_or, not_lt] at inRange
  exact ⟨inRange, by simpa using bound⟩

theorem rebinds_of_validate {request : MutationRequest} {cls : ClassBinding}
    (valid : request.validate.isOk = true) (kind : request.kind = .rebindClass)
    (carried : request.payload = .rebindClass cls) : cls.valid = true := by
  by_contra unbound
  have target := Fabric.target_of_valid valid
  have refused : request.validate.isOk = false := by
    simp only [MutationRequest.validate, target, Bool.not_true, Bool.false_eq_true, ↓reduceIte,
      MutationRequest.validatePayload, kind, carried, Bool.not_eq_true] at unbound ⊢
    simp only [unbound, Bool.not_false, ↓reduceIte]
    repeat' split
    all_goals rfl
  exact absurd (refused.symm.trans valid) Bool.false_ne_true

namespace Fabric

variable {J : Type}

/-- A class binding changes only to the one a request asks for. -/
theorem applyKindLocked_cls {fabric : Fabric J} {target : QueueRecord}
    {request : MutationRequest} {now : Nanos} {applied : KindApplied}
    (ok : applyKindLocked fabric target request now = .ok applied) :
    applied.target.definition.cls = target.definition.cls ∨
      request.kind = .rebindClass ∧
        request.payload = .rebindClass applied.target.definition.cls := by
  cases kind : request.kind with
  | rebindClass =>
      rw [applyKindLocked, kind] at ok
      cases carried : request.payload with
      | rebindClass cls =>
          rw [carried] at ok
          obtain ⟨_, _, ok⟩ := bind_ok ok
          split at ok
          · cases ok
            exact .inl rfl
          · obtain ⟨generation, _, ok⟩ := bind_ok ok
            cases ok
            exact .inr ⟨rfl, rfl⟩
      | _ =>
          rw [carried] at ok
          cases ok
  | setThresholds =>
      left
      rw [applyKindLocked, kind] at ok
      cases carried : request.payload with
      | thresholds thresholds =>
          simp only [carried, applySetThresholds] at ok
          split at ok
          · cases ok
          split at ok
          · cases ok
            rfl
          · obtain ⟨generation, _, ok⟩ := bind_ok ok
            cases ok
            rfl
      | _ =>
          rw [carried] at ok
          cases ok
  | transferOwnership =>
      left
      rw [applyKindLocked, kind] at ok
      cases carried : request.payload with
      | ownership owner =>
          simp only [carried, applyTransfer] at ok
          split at ok
          · cases ok
            rfl
          · obtain ⟨generation, _, ok⟩ := bind_ok ok
            cases ok
            rfl
      | _ =>
          rw [carried] at ok
          cases ok
  | _ =>
      left
      have ended := applyKindLocked_cases ok
      cases ended with
      | redefined cls thresholds owner generation rule events minted redefines =>
          simp [kind] at redefines
      | _ => rfl

theorem Counter.valid_of_lt {tag : CounterTag} {first second : Counter tag}
    (below : first.value < second.value) : second.valid = true := by
  rw [QueueFabric.Counter.valid, bne_iff_ne]
  intro zero
  rw [zero] at below
  exact UInt64.not_lt_zero below

/-- A quiesced queue has completed its drain, whatever is done to it. -/
theorem KindCase.drained {fabric : Fabric J} {target : QueueRecord} {request : MutationRequest}
    {now : Nanos} {applied : KindApplied} (ended : KindCase fabric target request now applied)
    (drained : target.lifecycle = .quiesced → target.drain.phase = .completed) :
    applied.target.lifecycle = .quiesced → applied.target.drain.phase = .completed := by
  cases ended with
  | moved goal rule events kind moves allowed =>
      rintro rfl
      rcases kind with ⟨_, goal⟩ | ⟨_, goal⟩ <;> cases goal
  | ingested sample overflows rule events stats kind payload generation epoch =>
      simp only [ingestTarget, noteZero_phase]
      exact drained
  | drainRequested rule events kind moves allowed => exact fun rests => by cases rests
  | drainCancelled rule events kind draining => exact fun rests => by cases rests
  | evidenceRecorded evidence rule events kind payload progress some few backed =>
      intro rests
      exact absurd (drained rests) (not_completed_of_inProgress progress)
  | quiesced rule events kind draining complete acknowledged => exact fun _ => rfl
  | failed reason rule events kind moves allowed => exact fun rests => by cases rests
  | retired rule events kind moves allowed => exact fun rests => by cases rests
  | _ => exact drained

theorem applyKindLocked_generation {fabric : Fabric J} {target : QueueRecord}
    {request : MutationRequest} {now : Nanos} {applied : KindApplied}
    (ok : applyKindLocked fabric target request now = .ok applied)
    (valid : target.definition.generation.valid = true) :
    applied.target.definition.generation.valid = true := by
  have ended := applyKindLocked_cases ok
  cases ended with
  | redefined cls thresholds owner generation rule events minted kind changed bound ladder =>
      exact Counter.valid_of_lt (Counter.next_lt minted)
  | _ => exact valid

/-- An executed request is valid, unless it finishes a reservation. -/
theorem valid_of_presented [IJournal J] {fabric : Fabric J} {request : MutationRequest}
    {call : Call} (presented : Presenting fabric request call)
    (executes : Executes (fabric.serve call).result) :
    request.validate.isOk = true ∨ request.kind = .acknowledgeBackend := by
  cases presented with
  | applied => exact .inl (valid_of_executes executes)
  | committed plan applied provenance same => exact .inr (by rw [same]; rfl)

theorem QueueStep.tidy {fabric : Fabric StableStore} {call : Call} {id : QueueId}
    {before : Option QueueRecord} {after : QueueRecord}
    (step : QueueStep fabric call (fabric.serve call).result id before (some after))
    (tidy : ∀ queue, before = some queue → queue.Tidy) : after.Tidy := by
  have still {queue next : QueueRecord} (same : Still queue next) (held : queue.Tidy) :
      next.Tidy := by
    refine ⟨?_, ?_, ?_, System.fenceAgrees_invariant.still same held.fence, ?_⟩
    · rw [same.definition]
      exact held.name
    · rw [same.definition]
      exact held.generation
    · rw [same.definition]
      exact held.cls
    · rw [same.lifecycle, same.drain]
      exact held.drained
  cases step with
  | tended same tended quiet remembers => exact still same (tidy _ rfl)
  | unbound unbinds => exact still (still_supersedeBinding _) (tidy _ rfl)
  | @mutated queue _ start request now presented named executed touch mutated read =>
      have held := tidy queue rfl
      have fence := System.fenceAgrees_invariant.mutated mutated trivial held.fence
      cases mutated with
      | intro middle published tracker applied durable touch config admitted =>
          have ended := applyKindLocked_cases admitted.kind
          have unmoved := unmoved_publishQueue published queue request applied durable
          refine ⟨?_, ?_, ?_, fence, ?_⟩
          · rw [unmoved.definition, ended.identical.1.name]
            exact held.name
          · rw [unmoved.definition]
            exact applyKindLocked_generation admitted.kind held.generation
          · rw [unmoved.definition]
            rcases applyKindLocked_cls admitted.kind with same | ⟨kind, carried⟩
            · rw [same]
              exact held.cls
            · rcases valid_of_presented presented executed with valid | acknowledges
              · exact rebinds_of_validate valid kind carried
              · rw [kind] at acknowledges
                cases acknowledges
          · rw [unmoved.lifecycle, unmoved.drain]
            exact ended.drained held.drained
  | declared start request now presented executed touch declared =>
      subst presented
      have fence := System.fenceAgrees_invariant.declared declared
      obtain ⟨lifecycle, _⟩ := declared.blank
      have valid := valid_of_executes executed
      cases declared with
      | intro _ payload resource durable config numbered next kind carried declarable =>
          obtain ⟨name, cls⟩ := shaped_of_validate valid kind carried
          refine ⟨name, rfl, cls, fence, fun rests => ?_⟩
          rw [lifecycle] at rests
          cases rests

/-! Resources. -/

section Resources

variable {resources : Table ResourceId ResourceRecord} {limits : FabricLimits}

def TidyResources (limits : FabricLimits) (resources : Table ResourceId ResourceRecord) : Prop :=
  ∀ id record, resources.get? id = some record → record.Tidy limits id

theorem TidyResources.insert (tidy : TidyResources limits resources) {key : ResourceId}
    {record : ResourceRecord} (fits : record.Tidy limits key) :
    TidyResources limits (resources.insert key record) := by
  intro id other found
  rw [Table.get?_insert] at found
  split at found
  · rename_i here
    cases found
    exact here ▸ fits
  · exact tidy id other found

theorem TidyResources.emplace (tidy : TidyResources limits resources) {key : ResourceId}
    {record : ResourceRecord} (fits : record.Tidy limits key) :
    TidyResources limits (resources.emplace key record) := by
  intro id other found
  rw [Table.get?_emplace] at found
  cases held : resources.get? id with
  | some old =>
      rw [held, Option.some_or, Option.some.injEq] at found
      exact found ▸ tidy id old held
  | none =>
      rw [held, Option.none_or] at found
      split at found
      · rename_i here
        cases found
        exact here ▸ fits
      · cases found

theorem TidyResources.related (tidy : TidyResources limits resources)
    {after : Table ResourceId ResourceRecord}
    (carried : Table.Related ResourceRecord.Carried resources after) :
    TidyResources limits after := by
  intro id record found
  obtain ⟨old, held, same⟩ := carried.get? found
  obtain ⟨keyed, grants, classes, pools⟩ := tidy id old held
  exact ⟨same.id.trans keyed, same.grants ▸ grants, same.classes ▸ classes, same.pools ▸ pools⟩

theorem Named.few {before after : List Text} {name : Text} {limit : UInt64}
    (named : Named before after name limit) (few : before.length ≤ limit.toNat) :
    after.length ≤ limit.toNat := by
  rcases named with rfl | ⟨rfl, room⟩
  · exact few
  · rw [List.length_append, List.length_singleton]
    exact room

variable [IJournal J]

theorem ResourceEdit.tidy {fabric : Fabric J} {call : Call}
    {lost kept : Table ResourceId ResourceRecord} {spent issued : Identities}
    {updated : ResourceRecord} (edit : ResourceEdit fabric call lost spent kept issued updated)
    (accepted : ¬ Refused fabric (fabric.serve call))
    (grantable : fabric.config.limits.maxGrantsPerResource ≠ 0)
    (tidy : TidyResources fabric.config.limits fabric.resources) :
    TidyResources fabric.config.limits lost ∧ TidyResources fabric.config.limits kept := by
  cases edit with
  | declared name owner provenance now short record made room =>
      refine ⟨tidy, tidy.emplace ?_⟩
      rw [made]
      refine ⟨rfl, ?_, Nat.zero_le _, Nat.zero_le _⟩
      exact Nat.pos_of_ne_zero fun zero => grantable (UInt64.toNat_inj.mp zero)
  | granted resource grantee capabilities principal epoch provenance record grants found shape =>
      obtain ⟨keyed, granted, classes, pools⟩ := tidy resource record found
      refine ⟨tidy, tidy.insert ⟨keyed, ?_, classes, pools⟩⟩
      change grants.length ≤ _
      rcases shape with replaced | ⟨absent, rfl⟩
      · rw [length_replaceGrant replaced]
        exact granted
      · rcases grantCapabilities_room fabric resource grantee capabilities principal epoch
          provenance with refused | room
        · exact absurd (refused.answered _) accepted
        · rw [List.length_append, List.length_singleton]
          exact room record found absent
  | pooled resource name capacityBytes principal epoch provenance record pool pools nextPoolId
      found declared =>
      obtain ⟨keyed, granted, classes, pooled⟩ := tidy resource record found
      refine ⟨tidy, tidy.insert ⟨keyed, granted, classes, ?_⟩⟩
      have few := Named.few (declarePoolIn_named declared) (by rw [List.length_map]; exact pooled)
      rwa [List.length_map] at few
  | registered resource incarnation principal epoch provenance record backends found added =>
      obtain ⟨keyed, granted, classes, pools⟩ := tidy resource record found
      have updated : ({ record with backends } : ResourceRecord).Tidy fabric.config.limits
          resource := ⟨keyed, granted, classes, pools⟩
      exact ⟨tidy.insert updated, tidy.insert updated⟩
  | buried backend incarnation principal epoch key record backends found killed =>
      obtain ⟨keyed, granted, classes, pools⟩ := tidy key record found
      exact ⟨tidy, tidy.insert ⟨keyed, granted, classes, pools⟩⟩

theorem Recorded.tidy {α : Type} {before lost kept : Fabric J} {type : JournalRecordType}
    {payload : Bytes} {value : α} {reply : Reply J α}
    (recorded : Recorded before type payload lost kept value reply)
    (onLost : TidyResources limits lost.resources)
    (onKept : TidyResources limits kept.resources) :
    TidyResources limits reply.fabric.resources := by
  cases recorded with
  | lost status events after touch written => exact touch.resources ▸ onLost
  | kept events after touch written => exact touch.resources ▸ onKept

theorem serve_tidy_resources {fabric : Fabric J} {call : Call} (living : call ≠ .recover)
    (grantable : fabric.config.limits.maxGrantsPerResource ≠ 0)
    (tidy : TidyResources fabric.config.limits fabric.resources) :
    TidyResources fabric.config.limits (fabric.serve call).fabric.resources := by
  by_cases failed : Refused fabric (fabric.serve call)
  · rw [failed.touch.resources]
    exact tidy
  have ended := serve_cases fabric call
  generalize same : fabric.serve call = reply at ended ⊢
  cases ended with
  | refused refused => exact absurd (same ▸ refused) failed
  | recovered => exact absurd rfl living
  | stopped touch journal => exact touch.resources ▸ tidy
  | edited lost kept updated value spent issued edit recorded =>
      obtain ⟨onLost, onKept⟩ := edit.tidy failed grantable tidy
      exact recorded.tidy onLost onKept
  | classed resource name priority qos principal epoch provenance record cls classes nextClassId
      generation found declared recorded =>
      obtain ⟨keyed, granted, classed, pools⟩ := tidy resource record found
      refine recorded.tidy tidy (tidy.insert ⟨keyed, granted, ?_, pools⟩)
      have few := Named.few (declareClassIn_named declared) (by rw [List.length_map]; exact classed)
      rwa [List.length_map] at few
  | advanced principal provenance epoch payload minted recorded =>
      refine recorded.tidy tidy (tidy.related ?_)
      exact Table.related_mapValues _ fun _ record =>
        ResourceRecord.carried_withEpoch epoch record
  | invalidated id principal epoch reason queue events after found touch journal =>
      exact touch.resources ▸ tidy
  | applied request now inner events after ended touch journal =>
      rw [touch.resources]
      exact tidy.related ended.carried
  | gated id expected principal provenance accepted refused =>
      exact refused.touch.resources ▸ tidy
  | planned id expected principal provenance plan accepted recorded =>
      exact recorded.tidy tidy tidy
  | committed plan applied provenance queue inner found ended =>
      exact tidy.related ended.carried
  | aborted plan reason recorded => exact recorded.tidy tidy tidy
  | explained id principal touch journal => exact touch.resources ▸ tidy
  | refreshed now touch journal => exact touch.resources ▸ tidy
  | compacted journal present touch rewritten => exact touch.resources ▸ tidy

end Resources

/-! Reservations. -/

section Plans

variable [IJournal J]

theorem admitPlan_ok {fabric : Fabric J} {plan other : BackendPlan} {provenance : Provenance}
    (ok : (fabric.admitPlan plan provenance).result = .ok other) : other = plan := by
  simp only [admitPlan, reservePlan, recordPlan, orRefuse] at ok
  repeat' split at ok
  all_goals cases ok
  rfl

/-- A reservation is made for a queue that is declared. -/
theorem planBackendApply_ok {fabric : Fabric J} {id : QueueId} {expected : Generation}
    {principal : OwnerId} {provenance : Provenance} {plan : BackendPlan}
    (ok : (fabric.planBackendApply id expected principal provenance).result = .ok plan) :
    ∃ queue, fabric.findQueue plan.queue = some queue := by
  rw [planBackendApply] at ok
  split at ok
  · cases ok
  split at ok
  · cases ok
  split at ok
  · cases ok
  split at ok
  · cases ok
  rename_i queue found
  split at ok
  · cases ok
  split at ok
  · cases ok
  simp only [] at ok
  split at ok
  · cases ok
  split at ok
  · cases ok
  split at ok
  · cases ok
  split at ok
  · cases ok
  rw [admitPlan_ok ok]
  exact ⟨queue, found⟩

/-- A reservation in force was made before or is made now. -/
theorem serve_plans {fabric : Fabric J} {call : Call} {attempt : AttemptId} {plan : BackendPlan}
    (held : (fabric.serve call).fabric.plans.get? attempt = some plan) :
    fabric.plans.get? attempt = some plan ∨
      ∃ queue, fabric.findQueue plan.queue = some queue := by
  have change := serve_change fabric call
  have held' : (fabric.serve call).fabric.reservations.plans.get? attempt = some plan := held
  generalize (fabric.serve call).fabric.reservations = after at change held'
  generalize ended : (fabric.serve call).result = result at change
  cases change with
  | left => exact .inl held'
  | stopped => exact .inl held'
  | reserved id expected principal provenance made room free =>
      simp only [Reservations.reserve] at held'
      rw [Table.get?_emplace] at held'
      cases earlier : fabric.reservations.plans.get? attempt with
      | some old =>
          rw [earlier, Option.some_or] at held'
          exact .inl (earlier.trans held')
      | none =>
          rw [earlier, Option.none_or] at held'
          split at held'
          · cases held'
            right
            rw [serve, Reply.answered] at ended
            cases planned : (fabric.planBackendApply id expected principal provenance).result with
            | error status =>
                rw [planned] at ended
                cases ended
            | ok value =>
                rw [planned] at ended
                cases ended
                exact planBackendApply_ok planned
          · cases held'
  | released other answer releases =>
      simp only [Reservations.release] at held'
      rw [Table.get?_erase] at held'
      split at held'
      · cases held'
      · exact .inl held'

theorem length_erasePending (attempt : AttemptId) (pending : List PendingAttempt) :
    (erasePending attempt pending).length ≤ pending.length := by
  induction pending with
  | nil => exact Nat.le_refl _
  | cons entry rest ih =>
      rw [erasePending]
      split
      · exact Nat.le_succ _
      · exact Nat.succ_le_succ ih

/-- The pending list is cut back to its limit. -/
theorem serve_pending {fabric : Fabric J} {call : Call}
    (few : fabric.pending.length ≤ fabric.config.limits.maxPendingAttempts.toNat) :
    (fabric.serve call).fabric.pending.length ≤
      fabric.config.limits.maxPendingAttempts.toNat := by
  have change := serve_change fabric call
  have kept : fabric.reservations.pending.length ≤
      fabric.reservations.config.limits.maxPendingAttempts.toNat := few
  change (fabric.serve call).fabric.reservations.pending.length ≤
    fabric.reservations.config.limits.maxPendingAttempts.toNat
  generalize (fabric.serve call).fabric.reservations = after at change
  generalize (fabric.serve call).result = result at change
  cases change with
  | left => exact kept
  | stopped => exact Nat.zero_le _
  | reserved id expected principal provenance made room free =>
      simp only [Reservations.reserve]
      split
      · rw [List.length_tail, List.length_append, List.length_singleton]
        exact kept
      · omega
  | released other answer releases => exact (length_erasePending _ _).trans kept

end Plans

/-! Calls. -/

theorem Tidy.serve {calls : Nat} {fabric : Fabric StableStore} (tidy : Tidy calls fabric)
    (strict : fabric.config.occupancy.requireGenerationMatch = true)
    (grantable : fabric.config.limits.maxGrantsPerResource ≠ 0) {call : Call}
    (living : call ≠ .recover) (small : calls + 1 < 2 ^ 64) :
    Tidy (calls + 1) (fabric.serve call).fabric := by
  have config : (fabric.serve call).fabric.config = fabric.config := serve_config fabric call
  refine ⟨tidy.consistent.serve strict living, fun id queue found => ?_,
    fun id queue found => ?_, ?_, ?_, fun attempt plan held => ?_⟩
  · have moved := serve_queueStep fabric living id
    rw [found] at moved
    exact moved.tidy fun old stored => tidy.queues id old stored
  · have moved := serve_queueStep fabric living id
    rw [found] at moved
    refine moved.reported (fun old stored => ?_) (fun old stored => ?_) small
    · exact serve_allTallied fabric living id old queue stored found
    · exact tidy.reported id old stored
  · rw [config]
    exact serve_tidy_resources living grantable tidy.resources
  · rw [config]
    exact serve_pending tidy.pending
  · have known : ∃ queue, fabric.findQueue plan.queue = some queue :=
      (serve_plans held).elim (tidy.plans attempt plan) id
    obtain ⟨queue, found⟩ := known
    obtain ⟨next, kept, _⟩ := serve_keeps fabric living found
    exact ⟨next, kept⟩

theorem tidy_of_blank {fabric : Fabric StableStore} {config : FabricConfig} {epoch : Epoch}
    (blank : fabric.tables = .blank config epoch) (plans : fabric.plans = .empty)
    (pending : fabric.pending = []) : Tidy 0 fabric := by
  have queues : fabric.queues = .empty := congrArg Tables.queues blank
  have resources : fabric.resources = .empty := congrArg Tables.resources blank
  have absent : ∀ id queue, fabric.findQueue id ≠ some queue := by
    intro id queue found
    rw [findQueue, queues] at found
    cases found
  refine ⟨System.consistent_of_blank blank, fun id queue found => absurd found (absent id queue),
    fun id queue found => absurd found (absent id queue), fun id record found => ?_, ?_,
    fun attempt plan held => ?_⟩
  · rw [findResource, resources] at found
    cases found
  · rw [pending]
    exact Nat.zero_le _
  · rw [plans] at held
    cases held

end Fabric

namespace System

/-- The state is in order, and the configuration is one the audit can hold. -/
structure InOrder (done : List Step) (system : System) : Prop where
  tidy : done.length < 2 ^ 64 - 1 → Tidy done.length system.fabric
  strict : system.fabric.config.occupancy.requireGenerationMatch = true
  grantable : system.fabric.config.limits.maxGrantsPerResource ≠ 0

theorem tidy_withScript {calls : Nat} {fabric : Fabric StableStore}
    (tidy : Tidy calls fabric) (script : List Bool) :
    Tidy calls (withScript fabric script) :=
  ⟨⟨tidy.consistent.indexed, tidy.consistent.housed, tidy.consistent.lodged,
    tidy.consistent.sound⟩, tidy.queues, tidy.reported, tidy.resources,
    tidy.pending, tidy.plans⟩

theorem InOrder.step {done : List Step} {system : System} (inOrder : InOrder done system)
    {input : Step} (living : Living system input) :
    InOrder (done ++ [input]) (system.step input) := by
  cases input with
  | restart => exact absurd living id
  | call call script =>
      refine ⟨fun small => ?_, ?_, ?_⟩
      · rw [List.length_append, List.length_singleton] at small ⊢
        exact (tidy_withScript (inOrder.tidy (by omega)) script).serve inOrder.strict
          inOrder.grantable living (by omega)
      · rw [config_step]
        exact inOrder.strict
      · rw [config_step]
        exact inOrder.grantable

/-- In one process life the audit finds no rule broken but those that calls can break. -/
theorem self_audit_of_life (config : FabricConfig) (journaled : Bool) (clock : Clock)
    (seed : UInt64) (script : List Bool) (steps : List Step)
    (strict : config.occupancy.requireGenerationMatch = true)
    (grantable : config.limits.maxGrantsPerResource ≠ 0) (few : steps.length < 2 ^ 64 - 1)
    (living : Runs.Along step Living
      (boot config (if journaled then some {} else none) clock seed script) steps) :
    ∀ violation ∈ ((boot config (if journaled then some {} else none) clock seed script).run
      steps).fabric.validateInvariants, violation.rule.Breakable := by
  obtain ⟨epoch, blank⟩ := boot_tables config journaled clock seed script
  have reserved : (boot config (if journaled then some {} else none) clock seed
      script).fabric.reservations = ⟨.empty, [], false, config⟩ :=
    recover_reservations _
  have inOrder : InOrder steps
      ((boot config (if journaled then some {} else none) clock seed script).run steps) := by
    refine Runs.history_invariant (fun done input held allowed => held.step allowed) ?_ living
    refine ⟨fun _ => tidy_of_blank blank (congrArg Reservations.plans reserved)
      (congrArg Reservations.pending reserved), ?_, ?_⟩
    · rw [config_boot]
      exact strict
    · rw [config_boot]
      exact grantable
  exact (inOrder.tidy few).breakable

/-- The class of the sample queue is declared anew. -/
def reclassedSteps : List Step :=
  sampleSteps ++ [.call (.declareClass ⟨1⟩ (text "c") 1 {} ⟨5⟩ ⟨1⟩ (sampleProvenance 1)) []]

theorem self_audit_of_life_reclassed :
    (sampleStart.run reclassedSteps).fabric.validateInvariants.map (·.rule) =
        [.classSuperseded] ∧
      ∀ violation ∈ (sampleStart.run reclassedSteps).fabric.validateInvariants,
        violation.rule.Breakable := by
  have living : Runs.Along step Living sampleStart reclassedSteps :=
    ⟨Call.noConfusion, Call.noConfusion, Call.noConfusion, Call.noConfusion, Call.noConfusion,
      trivial⟩
  exact ⟨by decide +kernel, self_audit_of_life {} true ⟨fun _ => 1000, 0⟩ 7 [] reclassedSteps rfl
    (by decide) (by decide) living⟩

end System

end QueueFabric
