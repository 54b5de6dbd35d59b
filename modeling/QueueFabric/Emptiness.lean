import QueueFabric.Evidence
import QueueFabric.Quiescence

/-!
Quiescence rests on a zero observation. Whether an observation was taken after
the drain was requested is judged by its own timestamp; it was, in every run that
starts no drain over a zero stamped at or after the request and relabels no
withdrawn zero of a draining queue.
-/

namespace QueueFabric

open QueueRecord

/-- The window of a queue is its own; whether generations must match is the fabric's choice. -/
theorem Fabric.occupancyPolicyFor_strict (config : FabricConfig) (queue : QueueRecord) :
    (Fabric.occupancyPolicyFor config queue).requireGenerationMatch =
      config.occupancy.requireGenerationMatch := by
  simp only [Fabric.occupancyPolicyFor]
  split
  · rfl
  · rfl

/-- The stored observation is not classified fresh, whatever the clock says. -/
def Doubted (config : FabricConfig) (queue : QueueRecord) : Prop :=
  queue.occupancy.present = false ∨ isSticky queue.occupancy.freshness = true ∨
    config.occupancy.requireGenerationMatch = true ∧
      queue.occupancy.queueGeneration ≠ queue.definition.generation

theorem Doubted.not_fresh {config : FabricConfig} {queue : QueueRecord}
    (doubted : Doubted config queue) (now : Nanos) :
    Fabric.refreshedFreshness config queue now ≠ .fresh := by
  simp only [Fabric.refreshedFreshness, classifyFreshness, Fabric.occupancyPolicyFor_strict]
  split
  · exact Freshness.noConfusion
  rename_i present
  split
  · rename_i sticky
    intro fresh
    rw [fresh] at sticky
    exact absurd sticky (by decide)
  rename_i loose
  split
  · exact Freshness.noConfusion
  rename_i matched
  exfalso
  rcases doubted with absent | sticky | ⟨required, other⟩
  · exact present (by simpa using absent)
  · exact loose sticky
  · exact matched (by simp [required, other])

namespace QueueRecord

/-- The stored observation is a zero stamped no earlier than `since`. -/
structure ZeroSince (queue : QueueRecord) (since : Nanos) : Prop where
  present : queue.occupancy.present = true
  bytes : queue.occupancy.bytes = 0
  packets : queue.occupancy.packets = 0
  late : ¬ queue.occupancy.observedAt < since

/-- The stored observation is fresh or may yet be found fresh. -/
structure Live (strict : Bool) (queue : QueueRecord) : Prop where
  loose : isSticky queue.occupancy.freshness = false
  bound : strict = true → queue.occupancy.freshness = .fresh ∨
    queue.occupancy.queueGeneration = queue.definition.generation

/-- The drain of the queue may be completed on the observation it holds. -/
structure Emptied (queue : QueueRecord) : Prop where
  draining : queue.lifecycle = .draining
  zero : queue.ZeroSince queue.drain.requestedAt

theorem ZeroSince.of_reading {before after : QueueRecord} {since : Nanos}
    (zero : after.ZeroSince since)
    (same : after.occupancy.reading = before.occupancy.reading) : before.ZeroSince since := by
  obtain ⟨present, bytes, packets, observedAt, _, _⟩ := OccupancyState.values_of_reading same
  exact ⟨present ▸ zero.present, bytes ▸ zero.bytes, packets ▸ zero.packets,
    observedAt ▸ zero.late⟩

theorem Emptied.of_still {before after : QueueRecord} (emptied : after.Emptied)
    (still : Still before after) : before.Emptied := by
  refine ⟨still.lifecycle ▸ emptied.draining, ?_⟩
  rw [← still.drain]
  exact emptied.zero.of_reading still.reading

theorem Live.of_same {strict : Bool} {before after : QueueRecord} (live : after.Live strict)
    (occupancy : after.occupancy = before.occupancy)
    (generation : after.definition.generation = before.definition.generation) :
    before.Live strict := by
  refine ⟨occupancy ▸ live.loose, fun exact => ?_⟩
  rw [← occupancy, ← generation]
  exact live.bound exact

theorem Live.of_tended {config : FabricConfig} {before after : QueueRecord}
    (live : after.Live config.occupancy.requireGenerationMatch)
    (present : before.occupancy.present = true) (still : Still before after)
    (tended : Tended config before after.occupancy) :
    before.Live config.occupancy.requireGenerationMatch := by
  have generation : after.definition.generation = before.definition.generation := by
    rw [still.definition]
  generalize occupancy : after.occupancy = state at tended
  cases tended with
  | kept => exact live.of_same occupancy generation
  | withdrawn reason sticky =>
      have loose := live.loose
      rw [occupancy, invalidateOccupancy] at loose
      simp [present, sticky] at loose
  | refreshed now =>
      obtain ⟨loose, bound⟩ := live
      rw [occupancy] at loose bound
      simp only [Fabric.refreshedFreshness] at loose bound
      simp only [classifyFreshness, present, Bool.not_true, Bool.false_eq_true, ↓reduceIte,
        Fabric.occupancyPolicyFor_strict] at loose bound
      split at loose
      · rename_i sticky
        rw [sticky] at loose
        cases loose
      · rename_i sticky
        refine ⟨by simpa using sticky, fun exact => .inr ?_⟩
        by_contra other
        have late := bound exact
        simp [sticky, exact, other, generation] at late

end QueueRecord

namespace Fabric

variable {J : Type}

/-- The definition of a queue is changed. -/
def Redefines (kind : MutationKind) : Prop :=
  kind = .rebindClass ∨ kind = .setThresholds ∨ kind = .transferOwnership

/-- A live zero of a draining queue was there before, or was withdrawn and relabelled by a new
definition, or was just sampled, or was found by the request that starts the drain. -/
inductive ZeroFrom (strict : Bool) (target : QueueRecord) (request : MutationRequest)
    (now : Nanos) : Prop
  | kept (emptied : target.Emptied) (live : target.Live strict)
      (unsampled : request.kind ≠ .ingestOccupancy)
  | relabelled (emptied : target.Emptied) (withdrawn : isSticky target.occupancy.freshness = true)
      (lenient : strict = false) (kind : Redefines request.kind)
  | sampled (sample : OccupancySample) (kind : request.kind = .ingestOccupancy)
      (payload : request.payload = .occupancy sample) (bytes : sample.bytes = 0)
      (packets : sample.packets = 0)
  | early (kind : request.kind = .requestDrain) (starts : target.lifecycle ≠ .draining)
      (live : target.Live strict) (zero : target.ZeroSince now)

theorem KindCase.zeroFrom {fabric : Fabric J} {target : QueueRecord} {request : MutationRequest}
    {now : Nanos} {applied : KindApplied} (ended : KindCase fabric target request now applied)
    {strict : Bool} (bounded : target.Bounded) (emptied : applied.target.Emptied)
    (live : applied.target.Live strict) : ZeroFrom strict target request now := by
  obtain ⟨draining, zero⟩ := emptied
  cases ended with
  | unchanged rule repeats =>
      refine .kept ⟨draining, zero⟩ live fun kind => ?_
      rw [Repeats, kind] at repeats
      exact repeats
  | moved goal rule events kind moves allowed =>
      rcases kind with ⟨_, rfl⟩ | ⟨_, rfl⟩
      · cases draining
      · cases draining
  | redefined cls thresholds owner generation rule events minted kind changed bound ladder =>
      have before : target.Emptied := ⟨draining,
        zero.of_reading (OccupancyState.reading_invalidate target.occupancy .staleGeneration)⟩
      -- the new generation is ahead of every observation
      have lenient : strict = false := by
        by_contra exact
        rcases live.bound (by simpa using exact) with fresh | same
        · simp [redefine, invalidateOccupancy, before.zero.present] at fresh
        · have ahead := UInt64.lt_of_le_of_lt bounded (Counter.next_lt minted)
          simp only [redefine, invalidate_queueGeneration] at same
          rw [same] at ahead
          exact UInt64.lt_irrefl _ ahead
      by_cases withdrawn : isSticky target.occupancy.freshness = true
      · exact .relabelled before withdrawn lenient kind
      · refine .kept before ⟨by simpa using withdrawn, fun exact => ?_⟩ ?_
        · simp [lenient] at exact
        · rcases kind with kind | kind | kind
          all_goals simp [kind]
  | ingested sample overflows rule events stats kind payload generation epoch =>
      exact .sampled sample kind payload zero.bytes zero.packets
  | drainRequested rule events kind moves allowed =>
      exact .early kind moves (live.of_same rfl rfl) ⟨zero.present, zero.bytes, zero.packets,
        zero.late⟩
  | drainCancelled rule events kind _ => cases draining
  | evidenceRecorded evidence rule events kind payload progress some few backed =>
      exact .kept ⟨draining, ⟨zero.present, zero.bytes, zero.packets, zero.late⟩⟩
        (live.of_same rfl rfl) (by simp [kind])
  | quiesced rule events kind _ complete acknowledged => cases draining
  | fenced fence rule events kind raised =>
      exact .kept ⟨draining, ⟨zero.present, zero.bytes, zero.packets, zero.late⟩⟩
        (live.of_same rfl rfl) (by simp [kind])
  | unfenced rule events kind =>
      exact .kept ⟨draining, ⟨zero.present, zero.bytes, zero.packets, zero.late⟩⟩
        (live.of_same rfl rfl) (by simp [kind])
  | failed reason rule events kind moves allowed => cases draining
  | retired rule events kind moves allowed => cases draining
  | acknowledged acknowledged rule events kind generation =>
      exact .kept ⟨draining, ⟨zero.present, zero.bytes, zero.packets, zero.late⟩⟩
        (live.of_same rfl rfl) (by simp [kind])

theorem KindCase.emptied {fabric : Fabric J} {target : QueueRecord} {request : MutationRequest}
    {now : Nanos} {applied : KindApplied} (ended : KindCase fabric target request now applied)
    (kind : request.kind = .quiesceQueue) (draining : target.lifecycle = .draining)
    (progress : target.drain.inProgress = true) :
    target.Emptied ∧ target.occupancy.freshness = .fresh := by
  obtain ⟨proven, _⟩ := ended.proven kind draining progress
  exact ⟨⟨draining, proven.present, proven.bytes, proven.packets, proven.after⟩, proven.fresh⟩

/-! Recoveries. -/

theorem restoreQueue_sticky (queue : QueueRecord)
    (present : (Scan.restoreQueue queue).occupancy.present = true) :
    isSticky (Scan.restoreQueue queue).occupancy.freshness = true := by
  have shape : (Scan.restoreQueue queue).occupancy = if queue.occupancy.present then
      invalidateOccupancy queue.occupancy .staleRestart else queue.occupancy := by
    simp only [Scan.restoreQueue]
    split <;> split <;> split <;> rfl
  exact sticky_of_withdrawn rfl shape present

theorem revalidateQueue_sticky (queue : QueueRecord)
    (present : (revalidateQueue queue).occupancy.present = true) :
    isSticky (revalidateQueue queue).occupancy.freshness = true :=
  sticky_of_withdrawn (show isSticky .staleRestart = true from rfl) rfl present

/-- An observation that is not withdrawn after a recovery was in memory, and nothing was
replayed. -/
theorem loose_recover {fabric : Fabric StableStore} {id : QueueId} {queue : QueueRecord}
    (found : fabric.recover.fabric.findQueue id = some queue)
    (present : queue.occupancy.present = true)
    (loose : isSticky queue.occupancy.freshness = false) :
    fabric.findQueue id = some queue ∧ fabric.replayStart = none := by
  cases recover_cases fabric with
  | unjournaled absent result touch journal =>
      exact ⟨by rwa [findQueue, touch.queues] at found, by simp [replayStart, absent]⟩
  | unopened store present failed result touch journal =>
      exact ⟨by rwa [findQueue, touch.queues] at found, by simp [replayStart, present, failed]⟩
  | exhausted store scan status opened_present opened scanned minted result touch journal =>
      refine ⟨?_, by simp [replayStart, opened_present, opened, ← scanned, minted]⟩
      rw [findQueue, touch.queues, scanned] at found
      rcases Scan.get?_queues_addRecords found with
        early | ⟨payload, saved, listed, decoded, rfl, own⟩
      · exact early
      · have sticky := restoreQueue_sticky saved present
        rw [sticky] at loose
        cases loose
  | replayed store last scan epoch final payload opened_present opened scanned minted installed
      kept touch written =>
      have sticky : ∀ id queue, (final.revalidateAll scan.outstanding.values).findQueue id =
          some queue → queue.occupancy.present = true →
          isSticky queue.occupancy.freshness = true :=
        revalidateAll_holds (fun id queue _ => revalidateQueue_sticky queue)
          (fun id queue _ => invalidate_sticky rfl)
      rw [findQueue, touch.queues] at found
      rw [sticky id queue found present] at loose
      cases loose

end Fabric

namespace System

theorem bounded_invariant :
    Invariant (fun _ _ => True) (fun _ => True) QueueRecord.Bounded where
  still still bounded := by
    obtain ⟨_, _, _, _, _, generation⟩ := OccupancyState.values_of_reading still.reading
    rw [Bounded, still.definition, generation]
    exact bounded
  mutated {fabric request now before after} mutated _ bounded := by
    cases mutated with
    | intro middle after tracker applied durable touch config admitted =>
        obtain ⟨occupancy, definition⟩ :=
          Fabric.publishQueue_occupancy after before request applied durable
        rw [Bounded, occupancy, definition]
        rcases Fabric.applyKindLocked_carries admitted.kind with carries | ⟨_, _, _, ingested⟩
        · exact carries.bounded bounded
        · exact ingested.bounded
  declared declared := by
    rw [Bounded, declared.blank.2.2.1]
    exact UInt64.zero_le
  restored {queue result} read _ bounded := by
    refine (Fabric.restoreQueue_withdrawn result).1.bounded ?_
    rw [Bounded, read.occupancy, read.definition]
    exact bounded

/-- A caller reports a zero for the queue stored under `id` and it is accepted. -/
def IngestsZero (id : QueueId) (system : System) (input : Step) : Prop :=
  ∃ request script queue sample, input = .call (.apply request) script ∧
    CarriesOut id queue request system input ∧ request.kind = .ingestOccupancy ∧
    request.payload = .occupancy sample ∧ sample.bytes = 0 ∧ sample.packets = 0

/-- The step starts no drain of the queue stored under `id` and accepts no traffic for it. -/
def Calm (id : QueueId) (system : System) (input : Step) : Prop :=
  ∀ queue request, CarriesOut id queue request system input →
    (request.kind = .requestDrain → queue.lifecycle = .draining) ∧
    ∀ sample, request.kind = .ingestOccupancy → request.payload = .occupancy sample →
      sample.bytes = 0 ∧ sample.packets = 0

/-- No caller starts a drain over a zero stamped at or after the request, and no call relabels the
withdrawn zero of a draining queue, by a new definition or by a new declaration of its class. -/
structure KeepsZero (system : System) (input : Step) : Prop where
  starts : ∀ id queue request script, input = .call (.apply request) script →
    CarriesOut id queue request system input → request.kind = .requestDrain →
    queue.lifecycle ≠ .draining →
    queue.Live system.fabric.config.occupancy.requireGenerationMatch →
    ¬ queue.ZeroSince system.fabric.monotonicNow.1
  redefines : ∀ id queue request script, input = .call (.apply request) script →
    CarriesOut id queue request system input → Fabric.Redefines request.kind →
    system.fabric.config.occupancy.requireGenerationMatch = false → queue.Emptied →
    isSticky queue.occupancy.freshness = false
  unbinds : ∀ id queue call script, input = .call call script →
    system.fabric.findQueue id = some queue →
    Fabric.Unbinds (withScript system.fabric script) queue call → queue.Emptied →
    isSticky queue.occupancy.freshness = false

/-- A live zero of a draining queue was reported after its drain was requested, and nothing but
zeros since. -/
def ZeroHolds (start : System) (done : List Step) (system : System) : Prop :=
  ∀ id queue, system.fabric.findQueue id = some queue → queue.Emptied →
    queue.Live system.fabric.config.occupancy.requireGenerationMatch →
    Runs.Since step (IngestsZero id) (Calm id) start done

theorem calm_call {system : System} {id : QueueId} {call : Call} {script : List Bool}
    (living : call ≠ .recover)
    (calm : ∀ queue request, system.fabric.findQueue id = some queue →
      Fabric.Presenting (withScript system.fabric script) request call → request.queue = id →
      Fabric.Executes (system.step (.call call script)).result →
      (request.kind = .requestDrain → queue.lifecycle = .draining) ∧
        request.kind ≠ .ingestOccupancy) :
    Calm id system (.call call script) := by
  intro queue request carried
  cases carried with
  | served _ _ presented named found executes =>
      obtain ⟨starts, silent⟩ := calm queue request found presented named executes
      exact ⟨starts, fun sample kind => absurd kind silent⟩
  | replayed _ fabric base early late started order named found executed =>
      exact absurd started (not_recovering living)

theorem ZeroHolds.call {start : System} {done : List Step}
    (holds : ZeroHolds start done (start.run done))
    (bounded : Holding QueueRecord.Bounded (start.run done)) {call : Call} (script : List Bool)
    (living : call ≠ .recover) (keeps : KeepsZero (start.run done) (.call call script)) :
    ZeroHolds start (done ++ [.call call script])
      ((start.run done).step (.call call script)) := by
  intro id queue found emptied live
  rw [config_step] at live
  have moved := Fabric.serve_queueStep (withScript (start.run done).fabric script) living id
  change ((withScript (start.run done).fabric script).serve call).fabric.findQueue id = some queue
    at found
  rw [found] at moved
  generalize before : (withScript (start.run done).fabric script).findQueue id = earlier at moved
  cases moved with
  | @tended old _ still tended quiet =>
      have zero := emptied.of_still still
      have since := holds id old before zero (live.of_tended zero.zero.present still tended)
      refine since.later (calm_call living fun _ request _ presented named executes => ?_)
      have kind := quiet request presented named executes
      exact ⟨by simp [kind], by simp [kind]⟩
  | @unbound old unbinds =>
      have zero := emptied.of_still (Fabric.still_supersedeBinding old)
      have loose := keeps.unbinds id old call script rfl before unbinds zero
      have relabelled : (Fabric.supersedeBinding old).occupancy.freshness ≠ .fresh := by
        simp [Fabric.supersedeBinding, invalidateOccupancy, zero.zero.present]
      have since := holds id old before zero ⟨loose, fun exact => by
        rcases live.bound exact with fresh | same
        · exact absurd fresh relabelled
        · rw [Fabric.supersedeBinding, invalidate_queueGeneration] at same
          exact .inr same⟩
      refine since.later (calm_call living fun _ request _ presented _ _ => ?_)
      cases unbinds
      cases presented
  | @mutated old _ origin request now presented named executed touch mutated read =>
      have carried : CarriesOut id old request (start.run done) (.call call script) :=
        .served call script presented named before executed
      -- a reservation only acknowledges; everything else is presented by `apply`
      have direct : request.kind ≠ .acknowledgeBackend → call = .apply request := by
        intro kind
        cases presented with
        | applied => rfl
        | committed plan applied provenance same =>
            rw [same] at kind
            exact absurd rfl kind
      obtain ⟨middle, applied, later, ended, unmoved⟩ := mutated.kindCase
      have target : applied.target.Emptied := emptied.of_still unmoved.still
      have fresh : applied.target.Live (start.run done).fabric.config.occupancy.requireGenerationMatch :=
        live.of_same unmoved.occupancy (by rw [unmoved.definition])
      cases ended.zeroFrom (bounded.queues id old before) target fresh with
      | kept zero alive unsampled =>
          refine (holds id old before zero alive).later (calm_call living ?_)
          intro held other known shown _ _
          rw [shown.unique presented]
          have same : old = held := Option.some.inj (before.symm.trans known)
          exact ⟨fun _ => same ▸ zero.draining, unsampled⟩
      | relabelled zero withdrawn lenient kind =>
          have apply : call = .apply request := direct (by
            rcases kind with kind | kind | kind
            all_goals simp [kind])
          have loose := keeps.redefines id old request script (by rw [apply]) carried kind lenient
            zero
          rw [withdrawn] at loose
          cases loose
      | sampled sample kind payload bytes packets =>
          have apply : call = .apply request := direct (by simp [kind])
          exact .now ⟨request, script, old, sample, by rw [apply], carried, kind, payload, bytes,
            packets⟩
      | early kind starts alive zero =>
          have apply : call = .apply request := direct (by simp [kind])
          rw [read apply] at zero
          exact absurd zero (keeps.starts id old request script (by rw [apply]) carried kind starts
            alive)
  | declared origin request now presented executed touch declared =>
      have draining := emptied.draining
      rw [declared.blank.1] at draining
      cases draining

theorem ZeroHolds.recover {start : System} {done : List Step}
    (holds : ZeroHolds start done (start.run done)) (script : List Bool) :
    ZeroHolds start (done ++ [.call .recover script])
      ((start.run done).step (.call .recover script)) := by
  intro id queue found emptied live
  rw [config_step] at live
  obtain ⟨held, nothing⟩ := Fabric.loose_recover found emptied.zero.present live.loose
  refine (holds id queue held emptied live).later fun other request carried => ?_
  cases carried with
  | served _ _ presented named found executes => cases presented
  | replayed _ fabric base early late started order named found executed =>
      cases started
      cases nothing.symm.trans order

theorem zeroHolds_boot (config : FabricConfig) (journal : Option StableStore) (clock : Clock)
    (seed : UInt64) (script : List Bool) (start : System) (done : List Step) :
    ZeroHolds start done (boot config journal clock seed script) := by
  intro id queue found emptied live
  obtain ⟨held, _⟩ := Fabric.loose_recover found emptied.zero.present live.loose
  cases held

theorem ZeroHolds.step {start : System} {done : List Step} (input : Step)
    (holds : ZeroHolds start done (start.run done))
    (bounded : Holding QueueRecord.Bounded (start.run done))
    (keeps : KeepsZero (start.run done) input) :
    ZeroHolds start (done ++ [input]) ((start.run done).step input) := by
  cases input with
  | restart survivors clock seed script => exact zeroHolds_boot _ _ _ _ _ _ _
  | call call script =>
      by_cases living : call = .recover
      · exact living ▸ holds.recover script
      · exact holds.call bounded script living keeps

/-- Quiescence rests on a zero reported after the drain was requested, in every run that keeps its
zeros. -/
theorem quiescence_rests_on_zero (config : FabricConfig) (journaled : Bool) (clock : Clock)
    (seed : UInt64) (script : List Bool) (steps : List Step)
    (keeps : Runs.Along step KeepsZero
      (boot config (if journaled then some {} else none) clock seed script) steps)
    (input : Step) (id : QueueId) (queue : QueueRecord) (request : MutationRequest)
    (carried : CarriesOut id queue request
      ((boot config (if journaled then some {} else none) clock seed script).run steps) input)
    (kind : request.kind = .quiesceQueue) (draining : queue.lifecycle = .draining) :
    Runs.Since step (IngestsZero id) (Calm id)
      (boot config (if journaled then some {} else none) clock seed script) steps := by
  have progress := inProgress_of_carriedOut config journaled clock seed script carried draining
  have bounded : ∀ done, Holding QueueRecord.Bounded
      ((boot config (if journaled then some {} else none) clock seed script).run done) :=
    fun done => bounded_invariant.run config journaled clock seed script
      (Runs.along_of_all respects_all _ done)
  generalize began : boot config (if journaled then some {} else none) clock seed script = start
    at carried keeps bounded ⊢
  have holds : ZeroHolds start steps (start.run steps) := by
    refine Runs.history_invariant (fun done input holds keeps => ?_) ?_ keeps
    · exact ZeroHolds.step input holds (bounded done) keeps
    · exact began ▸ zeroHolds_boot _ _ _ _ _ _ _
  obtain ⟨found, script, middle, now, applied, touch, ended⟩ :=
    quiesce_cases carried kind draining progress
  obtain ⟨emptied, fresh⟩ := ended.emptied kind draining progress
  refine holds id queue found emptied ⟨?_, fun _ => .inl fresh⟩
  rw [fresh]
  rfl

/-- A request that neither starts a drain nor redefines its queue keeps every zero. -/
theorem keepsZero_apply {system : System} {request : MutationRequest} {script : List Bool}
    (starts : request.kind ≠ .requestDrain) (redefines : ¬ Fabric.Redefines request.kind) :
    KeepsZero system (.call (.apply request) script) := by
  refine ⟨fun id queue other _ same _ kind => ?_, fun id queue other _ same _ kind => ?_,
    fun id queue call _ same _ unbinds => ?_⟩
  · cases same
    exact absurd kind starts
  · cases same
    exact absurd kind redefines
  · cases same
    cases unbinds

/-- A call that presents no request and declares no class keeps every zero. -/
theorem keepsZero_call {system : System} {call : Call} {script : List Bool}
    (silent : ∀ request, call ≠ .apply request)
    (classless : ∀ queue, ¬ Fabric.Unbinds (withScript system.fabric script) queue call) :
    KeepsZero system (.call call script) := by
  refine ⟨fun id queue request _ same _ => ?_, fun id queue request _ same _ => ?_,
    fun id queue other _ same _ unbinds => ?_⟩
  · cases same
    exact absurd rfl (silent request)
  · cases same
    exact absurd rfl (silent request)
  · cases same
    exact absurd unbinds (classless queue)

theorem provenSteps_keepZero : Runs.Along step KeepsZero sampleStart provenSteps := by
  refine (Runs.along_append _ _ _).mpr ⟨(Runs.along_append _ _ _).mpr
    ⟨⟨?_, ?_, ?_, ?_, trivial⟩, ?_, ?_, ?_, trivial⟩, ?_, ?_, ?_, ?_, trivial⟩
  · exact keepsZero_call (by simp) fun queue unbinds => by cases unbinds
  · refine ⟨fun id queue request _ same => ?_, fun id queue request _ same => ?_,
      fun id queue call script same found => ?_⟩
    · cases same
    · cases same
    · have empty : (sampleStart.run (sampleSteps.take 1)).fabric.queues.size = 0 := by
        decide +kernel
      have nothing := Table.get?_of_size_zero empty id
      cases nothing.symm.trans found
  · exact keepsZero_call (by simp) fun queue unbinds => by cases unbinds
  · exact keepsZero_apply (by simp [sampleDeclaration, sampleRequest])
      (by simp [sampleDeclaration, sampleRequest, Fabric.Redefines])
  · exact keepsZero_apply (by simp [sampleRequest]) (by simp [sampleRequest, Fabric.Redefines])
  · exact keepsZero_apply (by simp [sampleRequest]) (by simp [sampleRequest, Fabric.Redefines])
  · refine ⟨fun id queue request script same carried _ _ _ zero => ?_,
      fun id queue request script same _ kind => ?_,
      fun id queue call script same _ unbinds => ?_⟩
    · cases carried with
      | served _ _ presented named found executes =>
          cases same
          subst named
          have absent : ((sampleStart.run (sampleSteps ++ drainingSteps.take 2)).fabric.findQueue
              ⟨1⟩).map (·.occupancy.present) = some false := by decide +kernel
          have stored : (sampleStart.run (sampleSteps ++ drainingSteps.take 2)).fabric.findQueue
              ⟨1⟩ = some queue := found
          rw [stored, Option.map_some, Option.some.injEq] at absent
          rw [zero.present] at absent
          cases absent
      | replayed _ fabric base early late started order named found executed =>
          cases same
          exact absurd started (not_recovering (by simp))
    · cases same
      simp [sampleRequest, Fabric.Redefines] at kind
    · cases same
      cases unbinds
  · exact keepsZero_call (by simp) fun queue unbinds => by cases unbinds
  · exact keepsZero_apply (by simp [sampleRequest]) (by simp [sampleRequest, Fabric.Redefines])
  · exact keepsZero_apply (by simp [sampleRequest]) (by simp [sampleRequest, Fabric.Redefines])
  · exact keepsZero_apply (by simp [sampleRequest]) (by simp [sampleRequest, Fabric.Redefines])

theorem quiescence_rests_on_zero_once :
    Runs.Since step (IngestsZero ⟨1⟩) (Calm ⟨1⟩) sampleStart provenSteps := by
  have draining : (sampleStart.run provenSteps).fabric.lifecycleOf ⟨1⟩ = some .draining := by
    decide +kernel
  have executes : Fabric.Executes
      ((sampleStart.run provenSteps).step (.call (.apply quiescing) [])).result := by
    decide +kernel
  obtain ⟨queue, found, lifecycle⟩ := Option.map_eq_some_iff.mp draining
  exact quiescence_rests_on_zero {} true ⟨fun _ => 1000, 0⟩ 7 [] provenSteps provenSteps_keepZero
    (.call (.apply quiescing) []) ⟨1⟩ queue quiescing
    (.served (.apply quiescing) [] .applied rfl found executes) rfl lifecycle

/-! A zero reported before the drain was requested, in the same nanosecond. -/

def zeroBefore : List Step := sampleSteps ++ drainingSteps.take 2 ++ [
  .call (.apply (sampleRequest 4 .ingestOccupancy (.occupancy (sampleZero 4 1000)))) []]

def drainAfter : Step := .call (.apply (sampleRequest 5 .requestDrain .monostate)) []

def earlySteps : List Step := zeroBefore ++ [drainAfter] ++ [registration] ++ [
  .call (.apply (sampleRequest 6 .acknowledgeBackend (.backendAck sampleAck))) []] ++ [
  .call (.apply (sampleRequest 7 .submitDrainEvidence (.drainEvidence sampleEvidence))) []]

theorem ingestsZero_kind {id : QueueId} {system : System} {request : MutationRequest}
    {script : List Bool} (ingests : IngestsZero id system (.call (.apply request) script)) :
    request.kind = .ingestOccupancy := by
  obtain ⟨other, _, _, _, same, _, kind, _⟩ := ingests
  cases same
  exact kind

/-- The queue is quiesced although no observation was reported after its drain was requested. -/
theorem early_zero_quiesces :
    ∃ queue, CarriesOut ⟨1⟩ queue quiescing (sampleStart.run earlySteps)
        (.call (.apply quiescing) []) ∧
      quiescing.kind = .quiesceQueue ∧ queue.lifecycle = .draining ∧
      ¬ Runs.Since step (IngestsZero ⟨1⟩) (Calm ⟨1⟩) sampleStart earlySteps := by
  have draining : (sampleStart.run earlySteps).fabric.lifecycleOf ⟨1⟩ = some .draining := by
    decide +kernel
  have executes : Fabric.Executes
      ((sampleStart.run earlySteps).step (.call (.apply quiescing) [])).result := by
    decide +kernel
  obtain ⟨queue, found, lifecycle⟩ := Option.map_eq_some_iff.mp draining
  refine ⟨queue, .served (.apply quiescing) [] .applied rfl found executes, rfl, lifecycle, ?_⟩
  intro since
  rw [earlySteps] at since
  rcases Runs.since_concat.mp since with now | ⟨since, _⟩
  · cases ingestsZero_kind now
  rcases Runs.since_concat.mp since with now | ⟨since, _⟩
  · cases ingestsZero_kind now
  rcases Runs.since_concat.mp since with now | ⟨since, _⟩
  · obtain ⟨_, _, _, _, same, _⟩ := now
    cases same
  rcases Runs.since_concat.mp since with now | ⟨_, calm⟩
  · cases ingestsZero_kind now
  -- the drain was started here, on an active queue
  have active : (sampleStart.run zeroBefore).fabric.lifecycleOf ⟨1⟩ = some .active := by
    decide +kernel
  have starts : Fabric.Executes ((sampleStart.run zeroBefore).step drainAfter).result := by
    decide +kernel
  obtain ⟨before, stored, idle⟩ := Option.map_eq_some_iff.mp active
  have already := (calm before _ (.served _ [] .applied rfl stored starts)).1 rfl
  rw [idle] at already
  cases already

end System

end QueueFabric
