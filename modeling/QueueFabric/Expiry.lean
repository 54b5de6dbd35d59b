import QueueFabric.Clocks
import QueueFabric.Emptiness
import QueueFabric.SampleOrder

/-!
Evidence that has aged out. Within a process life the watermark and the window
of the observation keep it stale; what a recovery restores is only marked, and
a new declaration of the class replaces the mark.
-/

namespace QueueFabric

open QueueRecord

/-! Windows. -/

theorem occupancyAge_mono {earlier later observedAt : Nanos} (order : earlier ≤ later)
    (fits : later.toInt - observedAt.toInt < 2 ^ 63) :
    occupancyAge earlier observedAt ≤ occupancyAge later observedAt := by
  have steps := Int64.le_iff_toInt_le.mp order
  have before := (Fabric.occupancyAge_exact_iff earlier observedAt).mpr (by omega)
  have after := (Fabric.occupancyAge_exact_iff later observedAt).mpr fits
  rw [Int64.le_iff_toInt_le, before, after, Fabric.trueAge, Fabric.trueAge]
  omega

namespace QueueRecord

/-- The observation was older than its window at a time the watermark has passed. -/
def Aged (config : FabricConfig) (watermark : Nanos) (queue : QueueRecord) : Prop :=
  ∃ reading, reading ≤ watermark ∧ (Fabric.occupancyPolicyFor config queue).maxAge > 0 ∧
    occupancyAge reading queue.occupancy.observedAt > (Fabric.occupancyPolicyFor config queue).maxAge

/-- No relabelling makes the observation fresh: there is none, it is of another generation, or it
has aged out. -/
def Spent (config : FabricConfig) (watermark : Nanos) (queue : QueueRecord) : Prop :=
  queue.occupancy.present = false ∨
    queue.occupancy.queueGeneration ≠ queue.definition.generation ∨ queue.Aged config watermark

variable {config : FabricConfig} {watermark : Nanos} {queue before after : QueueRecord}

theorem Spent.later {last : Nanos} (spent : queue.Spent config watermark)
    (order : watermark ≤ last) : queue.Spent config last := by
  rcases spent with absent | other | ⟨reading, passed, window, aged⟩
  · exact .inl absent
  · exact .inr (.inl other)
  · exact .inr (.inr ⟨reading, Int64.le_trans passed order, window, aged⟩)

theorem Spent.of_reading (spent : before.Spent config watermark)
    (definition : after.definition = before.definition)
    (same : after.occupancy.reading = before.occupancy.reading) : after.Spent config watermark := by
  obtain ⟨present, _, _, observedAt, _, generation⟩ := OccupancyState.values_of_reading same
  simpa only [Spent, Aged, definition, present, observedAt, generation,
    Fabric.occupancyPolicyFor_congr config definition] using spent

theorem Spent.not_fresh (spent : queue.Spent config watermark)
    (strict : config.occupancy.requireGenerationMatch = true)
    (fits : watermark.toInt - queue.occupancy.observedAt.toInt < 2 ^ 63) :
    Fabric.refreshedFreshness config queue watermark ≠ .fresh := by
  rcases spent with absent | other | ⟨reading, passed, window, aged⟩
  · exact Doubted.not_fresh (.inl absent) watermark
  · exact Doubted.not_fresh (.inr (.inr ⟨strict, other⟩)) watermark
  · refine Fabric.not_fresh_of_aged _ ?_
    have older := Int64.lt_of_lt_of_le aged (occupancyAge_mono passed fits)
    simp [window, older]

theorem spent_of_staleAge
    (classified : Fabric.refreshedFreshness config queue watermark = .staleAge) :
    queue.Spent config watermark := by
  refine .inr (.inr ⟨watermark, Int64.le_refl _, ?_⟩)
  simp only [Fabric.refreshedFreshness, classifyFreshness] at classified
  split at classified
  · cases classified
  split at classified
  · rename_i sticky
    rw [classified] at sticky
    cases sticky
  split at classified
  · cases classified
  split at classified
  · cases classified
  split at classified
  · rename_i aged
    simpa using aged
  · cases classified

/-- Spent, or withdrawn by a mark that a classification keeps. -/
def Shut (config : FabricConfig) (watermark : Nanos) (queue : QueueRecord) : Prop :=
  queue.Spent config watermark ∨ isSticky queue.occupancy.freshness = true

theorem isSticky_tended {state : OccupancyState} (tended : Tended config before state)
    (present : before.occupancy.present = true)
    (sticky : isSticky before.occupancy.freshness = true) : isSticky state.freshness = true := by
  cases tended with
  | kept => exact sticky
  | withdrawn reason marks =>
      rw [invalidateOccupancy, present]
      exact marks
  | refreshed now =>
      simp only [Fabric.refreshedFreshness, classifyFreshness, present, sticky, Bool.not_true,
        Bool.false_eq_true, ↓reduceIte]

end QueueRecord

namespace Fabric

variable {J : Type}

/-- A kind that is no observation leaves a spent observation spent and a mark in place. -/
theorem KindCase.spent {fabric : Fabric J} {target : QueueRecord} {request : MutationRequest}
    {now : Nanos} {applied : KindApplied} (ended : KindCase fabric target request now applied)
    (silent : request.kind ≠ .ingestOccupancy) (bounded : target.Bounded) (config : FabricConfig)
    (watermark : Nanos) :
    applied.target.Spent config watermark ∨
      applied.target.occupancy = target.occupancy ∧ applied.target.definition = target.definition := by
  cases ended with
  | redefined cls thresholds owner generation rule events minted kind changed bound ladder =>
      refine .inl (.inr (.inl fun same => ?_))
      simp only [redefine, invalidate_queueGeneration] at same
      have behind := UInt64.lt_of_le_of_lt bounded (Counter.next_lt minted)
      rw [same] at behind
      exact UInt64.lt_irrefl _ behind
  | ingested sample overflows rule events stats kind payload generation epoch =>
      exact absurd kind silent
  | retired rule events kind moves allowed => exact .inl (.inl rfl)
  -- the other kinds touch neither
  | _ => exact .inr ⟨rfl, rfl⟩

variable [IJournal J]

omit [IJournal J] in
theorem QueueStep.spent {fabric : Fabric J} {call : Call} {result : Except Status Answer}
    {id : QueueId} {before : Option QueueRecord} {after : QueueRecord}
    (moved : QueueStep fabric call result id before (some after))
    (unsampled : Unsampled call result id)
    (bounded : ∀ queue, before = some queue → queue.Bounded) (config : FabricConfig)
    (watermark : Nanos) :
    after.Spent config watermark ∨ ∃ queue, before = some queue ∧
      (queue.Spent config watermark → after.Spent config watermark) ∧
      (isSticky queue.occupancy.freshness = true → Unbinds fabric queue call ∨
        after.Shut config watermark) := by
  cases moved with
  | @tended queue _ still tended quiet remembers =>
      refine .inr ⟨queue, rfl, fun spent => spent.of_reading still.definition still.reading,
        fun sticky => .inr ?_⟩
      by_cases present : queue.occupancy.present = true
      · exact .inr (isSticky_tended tended present sticky)
      · left
        left
        rw [(OccupancyState.values_of_reading still.reading).1]
        simpa using present
  | @unbound queue unbinds =>
      exact .inr ⟨queue, rfl, fun spent => spent.of_reading rfl (still_supersedeBinding queue).reading,
        fun _ => .inl unbinds⟩
  | @mutated queue _ start request now presented named executed touch mutated =>
      obtain ⟨middle, applied, _, ended, unmoved⟩ := mutated.kindCase
      have silent := unsampled.kind presented named executed ended
      rcases ended.spent silent (bounded queue rfl) config watermark with
        spent | ⟨occupancy, definition⟩
      · exact .inl (spent.of_reading unmoved.definition (congrArg _ unmoved.occupancy))
      · refine .inr ⟨queue, rfl, fun spent => ?_, fun sticky => .inr (.inr ?_)⟩
        · exact spent.of_reading (unmoved.definition.trans definition)
            (congrArg _ (unmoved.occupancy.trans occupancy))
        · rw [unmoved.occupancy, occupancy]
          exact sticky
  | declared start request now presented executed touch declared =>
      left
      left
      rw [declared.blank.2.2.1]

end Fabric

namespace System

/-- The step is an `explain` of the queue, or a `refresh_freshness`, that gives its observation this
freshness. -/
inductive Classifies (id : QueueId) (freshness : Freshness) (system : System) : Step → Prop
  | explained (principal : OwnerId) (script : List Bool) (explanation : Fabric.Explanation)
      (result : (system.step (.call (.explain id principal) script)).result =
        .ok (.explanation explanation))
      (given : explanation.occupancy.freshness = freshness) :
      Classifies id freshness system (.call (.explain id principal) script)
  | refreshed (script : List Bool) (queue : QueueRecord)
      (result : (system.step (.call .refreshFreshness script)).result = .ok .done)
      (stored : (system.step (.call .refreshFreshness script)).fabric.findQueue id = some queue)
      (given : queue.occupancy.freshness = freshness) :
      Classifies id freshness system (.call .refreshFreshness script)

theorem Classifies.reading {id : QueueId} {freshness : Freshness} {system : System} {input : Step}
    (classifies : Classifies id freshness system input) :
    ∃ queue, system.fabric.findQueue id = some queue ∧
      Fabric.refreshedFreshness system.fabric.config queue
        (system.step input).fabric.clockWatermark = freshness := by
  cases classifies with
  | explained principal script explanation result given =>
      simp only [step, Fabric.serve, Fabric.explain] at result ⊢
      cases found : (withScript system.fabric script).findQueue id with
      | none =>
          rw [found] at result
          cases result
      | some queue =>
          rw [found] at result
          cases result
          exact ⟨queue, found, given⟩
  | refreshed script queue result stored given =>
      simp only [step, Fabric.serve, Fabric.refreshFreshness] at result stored ⊢
      split at result
      · cases result
      · rename_i running
        rw [if_neg running] at stored ⊢
        have mapped : (system.fabric.findQueue id).map (fun queue =>
            Fabric.refreshQueueLocked system.fabric.config queue
              (withScript system.fabric script).monotonicNow.1) = some queue :=
          (Table.get?_mapValues _ _ _).symm.trans stored
        obtain ⟨before, found, rfl⟩ := Option.map_eq_some_iff.mp mapped
        refine ⟨before, found, Eq.trans ?_ given⟩
        simp only [Fabric.refreshQueueLocked]
        split
        · rfl
        · rfl

theorem Classifies.living {id : QueueId} {freshness : Freshness} {system : System} {input : Step}
    (classifies : Classifies id freshness system input) :
    ∃ call script, input = .call call script ∧ call ≠ .recover ∧ ∀ request, call ≠ .apply request := by
  cases classifies with
  | explained principal script explanation result given =>
      exact ⟨.explain id principal, script, rfl, by simp, by simp⟩
  | refreshed script queue result stored given =>
      exact ⟨.refreshFreshness, script, rfl, by simp, by simp⟩

theorem Classifies.elapses {id : QueueId} {freshness : Freshness} {system : System} {input : Step}
    (classifies : Classifies id freshness system input) :
    system.fabric.clockWatermark ≤ (system.step input).fabric.clockWatermark := by
  obtain ⟨call, script, rfl, _, _⟩ := classifies.living
  exact Fabric.serve_elapses (withScript system.fabric script) call

/-- A new declaration of its class relabels the withdrawn observation of the queue. -/
inductive Relabels (id : QueueId) (system : System) : Step → Prop
  | intro (call : Call) (script : List Bool) (queue : QueueRecord)
      (found : system.fabric.findQueue id = some queue)
      (sticky : isSticky queue.occupancy.freshness = true)
      (unbinds : Fabric.Unbinds (withScript system.fabric script) queue call) :
      Relabels id system (.call call script)

/-- A recovery was run. -/
def Recovered (start : System) (done : List Step) : Prop :=
  Runs.Happened step (fun system input => system.recovering input ≠ none) start done

/-- The observation is spent; or it is marked, after a recovery. -/
def StaysExpired (id : QueueId) (start : System) (done : List Step) (system : System) : Prop :=
  ∀ queue, system.fabric.findQueue id = some queue →
    queue.Spent system.fabric.config system.fabric.clockWatermark ∨
      isSticky queue.occupancy.freshness = true ∧ Recovered start done

theorem StaysExpired.call {id : QueueId} {start : System} {done : List Step}
    (expired : StaysExpired id start done (start.run done))
    (bounded : Holding QueueRecord.Bounded (start.run done)) {call : Call} {script : List Bool}
    (living : call ≠ .recover)
    (unsampled : ∀ sample, ¬ Accepts id sample (start.run done) (.call call script))
    (kept : Recovered start done → ¬ Relabels id (start.run done) (.call call script)) :
    StaysExpired id start (done ++ [.call call script])
      ((start.run done).step (.call call script)) := by
  intro queue found
  have moved := Fabric.serve_queueStep (withScript (start.run done).fabric script) living id
  have elapsed := Fabric.serve_elapses (withScript (start.run done).fabric script) call
  change ((withScript (start.run done).fabric script).serve call).fabric.findQueue id = some queue
    at found
  rw [config_step]
  rw [found] at moved
  rcases moved.spent (unsampled_of_unaccepted unsampled)
      (fun before stored => bounded.queues id before stored) _ _ with
    spent | ⟨before, stored, spends, sticks⟩
  · exact .inl spent
  rcases expired before stored with spent | ⟨sticky, recovered⟩
  · exact .inl (spends (spent.later elapsed))
  · rcases sticks sticky with unbinds | spent | sticky'
    · exact absurd (.intro call script before stored sticky unbinds) (kept recovered)
    · exact .inl spent
    · exact .inr ⟨sticky', recovered.later _⟩

theorem Classifies.expires {id : QueueId} {system : System} {input : Step}
    (expires : Classifies id .staleAge system input) (held : Holding QueueRecord.Bounded system) :
    StaysExpired id (system.step input) [] (system.step input) := by
  intro queue found
  obtain ⟨before, stored, classified⟩ := expires.reading
  have spent := spent_of_staleAge classified
  obtain ⟨call, script, rfl, living, silent⟩ := expires.living
  have moved := Fabric.serve_queueStep (withScript system.fabric script) living id
  change ((withScript system.fabric script).serve call).fabric.findQueue id = some queue at found
  rw [found] at moved
  rw [config_step]
  left
  rcases moved.spent (fun request _ presented => absurd presented (silent request))
      (fun before stored => held.queues id before stored) _ _ with
    done | ⟨old, here, spends, _⟩
  · exact done
  · have same : before = old := Option.some.inj (stored.symm.trans here)
    exact spends (same ▸ spent)

theorem StaysExpired.recover {id : QueueId} {start : System} {done : List Step} {input : Step}
    (expired : StaysExpired id start done (start.run done))
    (recovers : (start.run done).recovering input ≠ none) :
    StaysExpired id start (done ++ [input]) ((start.run done).step input) := by
  intro queue found
  have recovered : Recovered start (done ++ [input]) := .now recovers
  by_cases present : queue.occupancy.present = true
  · by_cases sticky : isSticky queue.occupancy.freshness = true
    · exact .inr ⟨sticky, recovered⟩
    · rw [Bool.not_eq_true] at sticky
      cases input with
      | restart survivors clock seed script =>
          obtain ⟨held, _⟩ := Fabric.loose_recover found present sticky
          cases held
      | call call script =>
          have recovery : call = .recover := by
            by_contra other
            refine recovers ?_
            cases call with
            | recover => exact absurd rfl other
            | _ => rfl
          subst recovery
          obtain ⟨held, _⟩ := Fabric.loose_recover found present sticky
          rw [config_step]
          rcases expired queue held with spent | ⟨marked, _⟩
          · exact .inl (spent.later (Fabric.recover_elapses (withScript (start.run done).fabric script)))
          · rw [sticky] at marked
            cases marked
  · exact .inl (.inl (by simpa using present))

theorem StaysExpired.step {id : QueueId} {start : System} {done : List Step} {input : Step}
    (expired : StaysExpired id start done (start.run done))
    (bounded : Holding QueueRecord.Bounded (start.run done))
    (unsampled : ∀ sample, ¬ Accepts id sample (start.run done) input)
    (kept : Recovered start done → ¬ Relabels id (start.run done) input) :
    StaysExpired id start (done ++ [input]) ((start.run done).step input) := by
  by_cases recovers : (start.run done).recovering input = none
  · cases input with
    | restart survivors clock seed script => cases recovers
    | call call script =>
        refine expired.call bounded ?_ unsampled kept
        rintro rfl
        cases recovers
  · exact expired.recover recovers

/-- An observation classified as too old is found fresh again by no later `explain` or
`refresh_freshness`, as long as its age fits, no sample is accepted for the queue, and no new
declaration of its class relabels what a recovery has marked. -/
theorem expired_stays_expired (config : FabricConfig) (journaled : Bool) (clock : Clock)
    (seed : UInt64) (script : List Bool) (before after : List Step) (look later : Step)
    (id : QueueId) (strict : config.occupancy.requireGenerationMatch = true) :
    let start := boot config (if journaled then some {} else none) clock seed script
    let looked := (start.run before).step look
    Classifies id .staleAge (start.run before) look →
    Runs.Along step (fun system input => ∀ sample, ¬ Accepts id sample system input) looked after →
    Runs.Throughout (fun done input => Recovered looked done →
      ¬ Relabels id (looked.run done) input) after →
    (∀ queue, (looked.run after).fabric.findQueue id = some queue →
      ((looked.run after).step later).fabric.clockWatermark.toInt -
        queue.occupancy.observedAt.toInt < 2 ^ 63) →
    ¬ Classifies id .fresh (looked.run after) later := by
  intro start looked expires silent kept fits fresh
  have bounded : ∀ done, Holding QueueRecord.Bounded (looked.run done) := by
    intro done
    have held := bounded_invariant.run config journaled clock seed script
      (Runs.along_of_all respects_all start (before ++ [look] ++ done))
    rwa [run, List.foldl_append, List.foldl_append] at held
  have expired : StaysExpired id looked after (looked.run after) := by
    clear fits fresh
    induction after using List.reverseRecOn with
    | nil => exact expires.expires (bounded_invariant.run config journaled clock seed script
        (Runs.along_of_all respects_all start before))
    | append_singleton done input ih =>
        obtain ⟨early, last⟩ := (Runs.along_append looked done [input]).mp silent
        obtain ⟨earlier, final⟩ := Runs.throughout_concat.mp kept
        rw [run_concat]
        exact (ih early earlier).step (bounded done) last.1 final
  obtain ⟨queue, found, read⟩ := fresh.reading
  rcases expired queue found with spent | ⟨sticky, _⟩
  · have strict' : (looked.run after).fabric.config.occupancy.requireGenerationMatch = true := by
      rw [config_run, config_step, config_run, config_boot]
      exact strict
    exact (spent.later fresh.elapses).not_fresh strict' (fits queue found) read
  · exact Doubted.not_fresh (.inr (.inl sticky)) _ read

/-! Two readings of the sample queue. -/

def look : Step := .call (.explain ⟨1⟩ ⟨5⟩) []

def givenFreshness : Except Status Answer → Option Freshness
  | .ok (.explanation explanation) => some explanation.occupancy.freshness
  | _ => none

theorem classifies_look {system : System} {freshness : Freshness}
    (given : givenFreshness (system.step look).result = some freshness) :
    Classifies ⟨1⟩ freshness system look := by
  generalize result : (system.step look).result = answered at given
  cases answered with
  | error status => cases given
  | ok answer =>
      cases answer with
      | explanation explanation => exact .explained ⟨5⟩ [] explanation result (Option.some.inj given)
      | _ => cases given

def reporting (attempt sequence : UInt64) (observedAt : Nanos) : Step :=
  .call (.apply (sampleRequest attempt .ingestOccupancy
    (.occupancy { sampleReading 5 observedAt with
      sequence := ⟨sequence⟩
      provenance := sampleProvenance attempt }))) []

/-- A reading of the moment is compacted into the journal, then one five seconds old comes in. -/
def agedSteps : List Step :=
  sampleSteps ++ [reporting 2 1 1000, .call .compact [], reporting 3 2 (-5000000000)]

theorem aged_reading_stays_aged :
    ¬ Classifies ⟨1⟩ .fresh
      (((sampleStart.run agedSteps).step look).run [.call .refreshFreshness []]) look := by
  refine expired_stays_expired {} true ⟨fun _ => 1000, 0⟩ 7 [] agedSteps
    [.call .refreshFreshness []] look look ⟨1⟩ rfl (classifies_look (by decide +kernel)) ⟨?_, trivial⟩
    ?_ ?_
  · intro sample accepts
    cases accepts
  · intro done input rest split recovered
    cases done with
    | nil =>
        obtain ⟨before, early, late, empty, _⟩ := recovered
        simp at empty
    | cons first others => simp at split
  · intro queue found
    obtain ⟨same, here, fits⟩ := @first_queue
      ((((sampleStart.run agedSteps).step look).run [.call .refreshFreshness []]).fabric)
      (fun queue => ((((sampleStart.run agedSteps).step look).run
        [.call .refreshFreshness []]).step look).fabric.clockWatermark.toInt -
          queue.occupancy.observedAt.toInt < 2 ^ 63) _ (by decide +kernel)
    have equal : same = queue := Option.some.inj (here.symm.trans found)
    exact equal ▸ fits

def renewal : Step :=
  .call (.declareClass ⟨1⟩ (text "c") 1 {} ⟨5⟩ ⟨2⟩ (sampleProvenance 9)) []

/-- The reading of the moment comes in, is compacted, and ages for five seconds. -/
def ageing : System :=
  (boot {} (some {}) ⟨fun calls => if calls < 7 then 1000 else 5000000000, 0⟩ 7 []).run
    (sampleSteps ++ [reporting 2 1 1000, .call .compact []])

/-- Within one process a recovery brings the compacted reading back, across a restart the clock goes
back; in both the new declaration of the class makes a marked reading fresh. -/
theorem expired_found_fresh :
    (Classifies ⟨1⟩ .staleAge (sampleStart.run agedSteps) look ∧
      (∀ input ∈ [.call .recover [], renewal], ∀ sample system, ¬ Accepts ⟨1⟩ sample system input) ∧
      Classifies ⟨1⟩ .fresh
        (((sampleStart.run agedSteps).step look).run [.call .recover [], renewal]) look) ∧
    Classifies ⟨1⟩ .staleAge ageing look ∧
      Classifies ⟨1⟩ .fresh
        ((ageing.step look).run [.restart 0 ⟨fun _ => 1000, 0⟩ 8 [], renewal]) look := by
  refine ⟨⟨classifies_look (by decide +kernel), ?_, classifies_look (by decide +kernel)⟩,
    classifies_look (by decide +kernel), classifies_look (by decide +kernel)⟩
  intro input listed sample system accepts
  simp only [List.mem_cons, List.not_mem_nil, or_false] at listed
  rcases listed with rfl | rfl
  · cases accepts
  · cases accepts

end System

end QueueFabric
