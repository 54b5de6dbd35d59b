import QueueFabric.Readmission

/-!
Declared queues across process lives. As long as every recovery admits the
declarations it reads again, and no declaration is refused after its commit record
was appended, an acknowledged identity denotes its label in every later life.
-/

namespace QueueFabric

open QueueRecord Fabric Enrollment

namespace System

/-- A recovery of the step admits the declarations it reads again, and a call of it leaves the
journal no declaration that was refused and no queue that cannot be read back. -/
structure Retains (system : System) (input : Step) : Prop where
  recoveries : ∀ fabric, system.recovering input = some fabric → fabric.Readmits
  calls : ∀ call script, input = .call call script →
    (withScript system.fabric script).Upholds call

end System

namespace Enrolled

variable {live labels : List Label} {fabric : Fabric StableStore}

theorem withScript (enrolled : Enrolled live labels fabric) (script : List Bool) :
    Enrolled live labels (System.withScript fabric script) where
  registered := enrolled.registered
  held := enrolled.held
  journal := by
    obtain ⟨store, present, keeps, current⟩ := enrolled.journal
    refine ⟨{ store with script }, ?_, keeps.same rfl rfl, current⟩
    rw [System.withScript, present]
    rfl

/-- A new process holds nothing yet of what its journal enrolls. -/
theorem create {config : FabricConfig} {store : StableStore} (keeps : Keeps config labels store)
    (closed : store.opened = false) (clock : Clock) (seed : UInt64) :
    Enrolled [] labels (Fabric.create config clock (some store) seed) where
  registered := {
    catalog := .empty
    permitted := keeps.contents.permitted.within List.nil_prefix
    next := rfl
    named := fun label id => by
      change Table.empty.get? _ = some id ↔ _
      rw [Table.get?_empty, labelAt]
      simp }
  held := List.nil_prefix
  journal := ⟨store, rfl, keeps, fun opened => by
    rw [closed] at opened
    cases opened⟩

end Enrolled

namespace Fabric

/-- The identity a declaration is answered with denotes its label. -/
theorem apply_denotes {labels : List Label} {fabric : Fabric StableStore}
    (registered : Registered labels fabric.tables) {request : MutationRequest}
    {payload : DeclareQueuePayload} (declared : request.declaration = some payload)
    {outcome : MutationOutcome} (ok : (fabric.apply request).result = .ok outcome) :
    ∃ queue, (fabric.apply request).fabric.findQueue outcome.queue = some queue ∧
      queue.label = payload.label := by
  obtain ⟨kind, carried⟩ := declaration_eq_some.mp declared
  have ended := applyAt_cases fabric.monotonicNow.2 request fabric.monotonicNow.1
  change (fabric.monotonicNow.2.applyAt request fabric.monotonicNow.1).result = _ at ok
  change ∃ queue, (fabric.monotonicNow.2.applyAt request
    fabric.monotonicNow.1).fabric.findQueue outcome.queue = some queue ∧ _
  have start : Registered labels fabric.monotonicNow.2.tables := registered
  generalize fabric.monotonicNow.2.applyAt request fabric.monotonicNow.1 = reply at ended ok
  generalize fabric.monotonicNow.2 = middle at start ended
  cases ended with
  | stopped stopping => cases ok
  | unbound refusal => cases ok
  | existing queue _ valid other found ended => exact absurd kind other
  | declare same _ valid _ repeated ended =>
      rw [carried, MutationPayload.declareQueue.injEq] at repeated
      subst repeated
      cases ended with
      | refused refusal => cases ok
      | undurable resource refusal after declarable failed => cases ok
      | answered id taken =>
          have denoted : labelAt labels id = some payload.label :=
            (start.named payload.label id).mp taken
          obtain ⟨queue, found, labelled⟩ := start.catalog.found denoted
          have keyed := start.catalog.keyed id queue found
          have stored : middle.findQueue id = some queue := found
          rw [answerDeclared] at ok ⊢
          simp only [stored] at ok ⊢
          split at ok
          · cases ok
            rename_i repeats
            rw [if_pos repeats]
            exact ⟨queue, keyed.symm ▸ stored, labelled⟩
          · cases ok
      | committed resource after declarable written =>
          obtain ⟨next, tables, _, published⟩ :=
            admitDeclared_published declarable (commitDurably_touch written)
              fabric.monotonicNow.1
          obtain ⟨record, origin, added⟩ :=
            publishDeclared_tables next request payload fabric.monotonicNow.1 resource
          rw [published] at ok ⊢
          cases ok
          refine ⟨record, ?_, ?_⟩
          · have queues : (next.publishDeclared request payload fabric.monotonicNow.1
                resource).fabric.queues = _ := congrArg Tables.queues added
            have vacant := start.vacant
            rw [← tables] at vacant
            rw [findQueue, queues]
            change (next.tables.queues.emplace ⟨next.tables.nextQueueId⟩ record).get?
              ⟨next.tables.nextQueueId⟩ = _
            rw [Table.emplace_of_absent _ _ vacant, Table.get?_insert_self]
          · rw [QueueRecord.label, origin.resource, origin.name]
            rfl

end Fabric

theorem keeps_empty (config : FabricConfig) : Keeps config [] {} := by
  intro survivors
  change Ledger config [] (List.take survivors [])
  rw [List.take_nil]
  refine ⟨⟨[], .empty, rfl⟩, fun request listed => ?_, ⟨List.nodup_nil, Nat.zero_le _, ?_⟩⟩
  · cases listed
  · exact fun _ => Nat.zero_le _

namespace System

variable {live labels : List Label} {system : System} {input : Step}
  {fabric : Fabric StableStore}

theorem step_of_recovering (started : system.recovering input = some fabric) :
    (system.step input).fabric = fabric.recover.fabric ∧
      (system.step input).result.isOk = fabric.recover.result.isOk := by
  cases input with
  | restart survivors clock seed script =>
      cases started
      exact ⟨rfl, answered_isOk _ _⟩
  | call call script =>
      cases call with
      | recover =>
          cases started
          exact ⟨rfl, answered_isOk _ _⟩
      | _ => cases started

/-- The fabric of a recovery holds some of the labels its journal enrolls. -/
theorem enrolled_recovering (enrolled : Enrolled live labels system.fabric)
    (started : system.recovering input = some fabric) :
    ∃ start, Enrolled start labels fabric := by
  cases input with
  | restart survivors clock seed script =>
      cases started
      obtain ⟨store, present, keeps, _⟩ := enrolled.journal
      rw [present]
      exact ⟨[], (Enrolled.create (keeps.crash survivors) rfl clock seed).withScript script⟩
  | call call script =>
      cases call with
      | recover =>
          cases started
          exact ⟨live, enrolled.withScript script⟩
      | _ => cases started

/-- A step enters labels at the end, if any; a recovery that succeeds holds them all. -/
theorem enrolled_step (enrolled : Enrolled live labels system.fabric)
    (retains : Retains system input) :
    ∃ later more, labels <+: more ∧ Enrolled later more (system.step input).fabric ∧
      ((system.recovering input).isSome = true → (system.step input).result.isOk = true →
        later = more) := by
  cases started : system.recovering input with
  | some fabric =>
      obtain ⟨start, entering⟩ := enrolled_recovering enrolled started
      obtain ⟨later, _, recovered, whole⟩ :=
        recover_enrolled entering (retains.recoveries fabric started)
      obtain ⟨reached, answered⟩ := step_of_recovering started
      rw [reached, answered]
      exact ⟨later, labels, List.prefix_refl labels, recovered, fun _ => whole⟩
  | none =>
      cases input with
      | restart survivors clock seed script => cases started
      | call call script =>
          have living : call ≠ .recover := by
            rintro rfl
            cases started
          obtain ⟨more, entered⟩ := serve_enrolls (enrolled.withScript script) living
            (retains.calls call script rfl)
          refine ⟨live ++ more, labels ++ more, List.prefix_append labels more, entered, ?_⟩
          intro impossible
          cases impossible

theorem enrolled_run (enrolled : Enrolled live labels system.fabric) {steps : List Step}
    (kept : Runs.Along step Retains system steps) :
    ∃ later more, labels <+: more ∧ Enrolled later more (system.run steps).fabric := by
  induction steps generalizing live labels system with
  | nil => exact ⟨live, labels, List.prefix_refl labels, enrolled⟩
  | cons input rest ih =>
      obtain ⟨middle, reached, longer, entered, _⟩ := enrolled_step enrolled kept.1
      obtain ⟨later, more, longest, ended⟩ := ih entered kept.2
      exact ⟨later, more, longer.trans longest, ended⟩

theorem enrolled_boot (config : FabricConfig) (clock : Clock) (seed : UInt64)
    (script : List Bool) :
    ∃ live labels, Enrolled live labels (boot config (some {}) clock seed script).fabric := by
  have start := ((Enrolled.create (keeps_empty config) rfl clock seed).withScript script)
  have readmits : (withScript (Fabric.create config clock (some {}) seed) script).Readmits := by
    intro store present opened
    have records : IJournal.records store.openStore.2 = [] := by
      refine (StableStore.contents_openStore store).trans ?_
      cases present
      rfl
    have unread : (withScript (Fabric.create config clock (some {}) seed)
        script).beginRecovery.scanJournal store.openStore.2 =
        { recovery := { StableStore.report with currentBoot :=
            (withScript (Fabric.create config clock (some {}) seed) script).beginRecovery.boot }
          resources := .empty
          queues := .empty
          previousEpoch := default } := by
      rw [scanJournal, records]
      rfl
    refine (readmitted_iff unread.symm).mpr ⟨⟨⟨1⟩, rfl⟩, fun request listed => ?_⟩
    cases listed
  obtain ⟨later, _, recovered, _⟩ := recover_enrolled start readmits
  exact ⟨later, [], recovered⟩


/-- The queue stands under the identity when the step begins, or at some point of its replay. -/
inductive Seen (id : QueueId) (queue : QueueRecord) (system : System) (input : Step) : Prop
  | standing (found : system.fabric.findQueue id = some queue) : Seen id queue system input
  | replaying (fabric base : Fabric StableStore) (early late : List MutationRequest)
      (started : system.recovering input = some fabric)
      (order : fabric.replayStart = some (base, early ++ late))
      (found : (base.replayAll early).findQueue id = some queue) : Seen id queue system input

theorem CarriesOut.seen {id : QueueId} {queue : QueueRecord} {request : MutationRequest}
    (carried : CarriesOut id queue request system input) : Seen id queue system input := by
  cases carried with
  | served call script presented named found executes => exact .standing found
  | replayed _ fabric base early late started order named found executed =>
      exact .replaying fabric base early (request :: late) started order found

theorem Seen.denotes (enrolled : Enrolled live labels system.fabric)
    (retains : Retains system input) {id : QueueId} {queue : QueueRecord}
    (seen : Seen id queue system input) : labelAt labels id = some queue.label := by
  cases seen with
  | standing found =>
      exact labelAt_extended enrolled.held (enrolled.registered.catalog.denotes found)
  | replaying fabric base early late started order found =>
      obtain ⟨start, entering⟩ := enrolled_recovering enrolled started
      obtain ⟨later, _, replaying⟩ := replayStart_replaying entering
        (retains.recoveries fabric started) order
      have within : later <+: labels := replaying.enrolled ▸ prefix_enrollAll later _
      exact labelAt_extended within (replaying.registered.catalog.denotes found)

/-- An acknowledged declaration enters its label under the identity it is answered with. -/
theorem acknowledged_denotes (enrolled : Enrolled live labels system.fabric)
    {request : MutationRequest} {payload : DeclareQueuePayload} {script : List Bool}
    {outcome : MutationOutcome} (declared : request.declaration = some payload)
    (acknowledged : (system.step (.call (.apply request) script)).result =
      .ok (.outcome outcome)) {later more : List Label}
    (entered : Enrolled later more (system.step (.call (.apply request) script)).fabric) :
    labelAt more outcome.queue = some payload.label := by
  have ok : ((System.withScript system.fabric script).apply request).result = .ok outcome := by
    have served : ((System.withScript system.fabric script).apply request).result.map
        Answer.outcome = .ok (.outcome outcome) := acknowledged
    cases applied : ((System.withScript system.fabric script).apply request).result with
    | error status =>
        rw [applied] at served
        cases served
    | ok other =>
        rw [applied] at served
        cases served
        rfl
  obtain ⟨queue, found, labelled⟩ :=
    apply_denotes (enrolled.withScript script).registered declared ok
  rw [← labelled]
  exact labelAt_extended entered.held (entered.registered.catalog.denotes found)

/-- A declaration that was acknowledged is there, under its identity, after every recovery that
succeeds. -/
theorem acknowledged_survives (config : FabricConfig) (clock : Clock) (seed : UInt64)
    (script : List Bool) (before after : List Step) (last : Step) (request : MutationRequest)
    (payload : DeclareQueuePayload) (sent : List Bool) (outcome : MutationOutcome) :
    let start := boot config (some {}) clock seed script
    let acknowledged := (start.run before).step (.call (.apply request) sent)
    let ended := (acknowledged.run after).step last
    Runs.Along step Retains start (before ++ .call (.apply request) sent :: (after ++ [last])) →
    request.declaration = some payload → acknowledged.result = .ok (.outcome outcome) →
    ((acknowledged.run after).recovering last).isSome = true → ended.result.isOk = true →
    ∃ queue, ended.fabric.findQueue outcome.queue = some queue ∧
      queue.definition.id = outcome.queue ∧ queue.definition.resource = payload.resource ∧
      queue.definition.name = payload.name := by
  intro start acknowledged ended kept declared ok recovers recovered
  obtain ⟨live, labels, booted⟩ := enrolled_boot config clock seed script
  obtain ⟨first, retains, later⟩ := (Runs.along_append _ _ _).mp kept
  obtain ⟨second, final, _⟩ := (Runs.along_append _ _ _).mp later
  obtain ⟨_, _, _, applied⟩ := enrolled_run booted first
  obtain ⟨_, held, _, entered, _⟩ := enrolled_step applied retains
  have denoted := acknowledged_denotes applied declared ok entered
  obtain ⟨_, more, longer, reached⟩ := enrolled_run entered second
  obtain ⟨all, most, longest, restored, whole⟩ := enrolled_step reached final
  have same : all = most := whole recovers recovered
  have kept : labelAt all outcome.queue = some payload.label :=
    same ▸ labelAt_extended (longer.trans longest) denoted
  obtain ⟨queue, found, labelled⟩ := restored.registered.catalog.found kept
  have keyed := restored.registered.catalog.keyed _ _ found
  exact ⟨queue, found, keyed, congrArg Label.resource labelled, congrArg Label.name labelled⟩

/-! One declared queue, another class, and a restart. -/

/-- The identity a system answered its last request with. -/
def acknowledgedQueue (system : System) : Option QueueId :=
  match system.result with
  | .ok (.outcome outcome) => some outcome.queue
  | _ => none

theorem outcome_of_acknowledgedQueue {id : QueueId}
    (acknowledged : acknowledgedQueue system = some id) :
    ∃ outcome, system.result = .ok (.outcome outcome) ∧ outcome.queue = id := by
  rw [acknowledgedQueue] at acknowledged
  split at acknowledged
  · rename_i outcome answered
    cases acknowledged
    exact ⟨outcome, answered, rfl⟩
  · cases acknowledged

theorem retains_call {call : Call} {script : List Bool} (living : call ≠ .recover)
    (upholds : (withScript system.fabric script).Upholds call) :
    Retains system (.call call script) where
  recoveries := fun _ started => absurd started (not_recovering living)
  calls := fun other outcomes same => by
    cases same
    exact upholds

theorem retains_restart {survivors : Nat} {clock : Clock} {seed : UInt64} {script : List Bool}
    (readmits : (withScript (Fabric.create system.fabric.config clock
      (system.fabric.journal.map (·.crash survivors)) seed) script).Readmits) :
    Retains system (.restart survivors clock seed script) where
  recoveries := fun _ started => by
    cases started
    exact readmits
  calls := fun _ _ impossible => by cases impossible

def nextLife : Step := .restart 0 ⟨fun _ => 2000, 0⟩ 8 []

def secondClass : Step :=
  .call (.declareClass ⟨1⟩ (text "d") 0 {} ⟨5⟩ ⟨1⟩ (sampleProvenance 1)) []

/-- The class of the declared queue once more, under its next generation. -/
def redeclaredClass : Step :=
  .call (.declareClass ⟨1⟩ (text "c") 1 {} ⟨5⟩ ⟨1⟩ (sampleProvenance 1)) []

theorem sampleSteps_retain :
    Runs.Along step Retains sampleStart (sampleSteps ++ [secondClass, nextLife]) := by
  refine ⟨retains_call (by simp) trivial, retains_call (by simp) trivial,
    retains_call (by simp) trivial, retains_call (by simp) ?_, retains_call (by simp) trivial,
    retains_restart (by decide +kernel), trivial⟩
  intro lost
  exact absurd lost (by decide +kernel)

theorem acknowledged_survives_once : ∃ queue,
    (((sampleSystem.run [secondClass]).step nextLife).fabric.findQueue ⟨1⟩ = some queue) ∧
      queue.definition.resource = ⟨1⟩ ∧ queue.definition.name = text "q" := by
  obtain ⟨outcome, ok, identity⟩ := @outcome_of_acknowledgedQueue sampleSystem ⟨1⟩
    (by decide +kernel)
  obtain ⟨queue, found, _, resource, name⟩ := acknowledged_survives {} ⟨fun _ => 1000, 0⟩ 7 []
    (sampleSteps.take 3) [secondClass] nextLife sampleDeclaration _ [] outcome sampleSteps_retain
    rfl ok rfl (by decide +kernel)
  rw [identity] at found
  exact ⟨queue, found, resource, name⟩

/-- A class declared anew while its queue stands: the recovery succeeds without the queue. -/
theorem redeclared_class_loses :
    (∃ outcome, sampleSystem.result = .ok (.outcome outcome) ∧ outcome.queue = ⟨1⟩) ∧
      ((sampleSystem.run [redeclaredClass]).step nextLife).result.isOk = true ∧
      ((sampleSystem.run [redeclaredClass]).step nextLife).fabric.findQueue ⟨1⟩ = none := by
  refine ⟨outcome_of_acknowledgedQueue (by decide +kernel), by decide +kernel, ?_⟩
  exact Option.isNone_iff_eq_none.mp (by decide +kernel)

/-- A recovery of the step replays the request while the queue stands under its identity. -/
inductive ReplaysOnto (queue : QueueRecord) (request : MutationRequest) (system : System)
    (input : Step) : Prop
  | intro (fabric base : Fabric StableStore) (early late : List MutationRequest)
      (started : system.recovering input = some fabric)
      (order : fabric.replayStart = some (base, early ++ request :: late))
      (found : (base.replayAll early).findQueue request.queue = some queue) :
      ReplaysOnto queue request system input

theorem CarriesOut.named {id : QueueId} {queue : QueueRecord} {request : MutationRequest}
    (carried : CarriesOut id queue request system input) : request.queue = id := by
  cases carried with
  | served call script presented named found executes => exact named
  | replayed _ fabric base early late started order named found executed => exact named

/-- An acknowledged identity never denotes another label, and a commit is replayed only onto the
queue it was applied to. -/
theorem identities_keep_labels (config : FabricConfig) (clock : Clock) (seed : UInt64)
    (script : List Bool) (steps : List Step) :
    let start := boot config (some {}) clock seed script
    Runs.Along step Retains start steps →
    (∀ before request payload sent outcome after,
      steps = before ++ .call (.apply request) sent :: after →
      request.declaration = some payload →
      ((start.run before).step (.call (.apply request) sent)).result = .ok (.outcome outcome) →
      ∀ queue, (start.run steps).fabric.findQueue outcome.queue = some queue →
        queue.definition.resource = payload.resource ∧ queue.definition.name = payload.name) ∧
    ∀ first early second late third id old new request,
      steps = first ++ early :: (second ++ late :: third) →
      CarriesOut id old request (start.run first) early →
      ReplaysOnto new request (start.run (first ++ early :: second)) late →
      new.definition.resource = old.definition.resource ∧
        new.definition.name = old.definition.name := by
  intro start kept
  obtain ⟨live, labels, booted⟩ := enrolled_boot config clock seed script
  refine ⟨?_, ?_⟩
  · rintro before request payload sent outcome after rfl declared ok queue found
    obtain ⟨first, retains, later⟩ := (Runs.along_append _ _ _).mp kept
    obtain ⟨_, _, _, applied⟩ := enrolled_run booted first
    obtain ⟨_, held, _, entered, _⟩ := enrolled_step applied retains
    have denoted := acknowledged_denotes applied declared ok entered
    obtain ⟨shown, more, longer, reached⟩ := enrolled_run entered later
    have ended : start.run (before ++ .call (.apply request) sent :: after) =
        ((start.run before).step (.call (.apply request) sent)).run after := by
      simp [run]
    rw [ended] at found
    have current := labelAt_extended reached.held (reached.registered.catalog.denotes found)
    have same := Option.some.inj (current.symm.trans (labelAt_extended longer denoted))
    exact ⟨congrArg Label.resource same, congrArg Label.name same⟩
  · rintro first early second late third id old new request rfl carried replays
    obtain ⟨before, retains, later⟩ := (Runs.along_append _ _ _).mp kept
    obtain ⟨between, replayed, _⟩ := (Runs.along_append _ _ _).mp later
    obtain ⟨_, known, _, applied⟩ := enrolled_run booted before
    have old_denoted := carried.seen.denotes applied retains
    obtain ⟨_, held, grown, entered, _⟩ := enrolled_step applied retains
    obtain ⟨_, more, longer, reached⟩ := enrolled_run entered between
    have ended : start.run (first ++ early :: second) =
        ((start.run first).step early).run second := by
      simp [run]
    rw [ended] at replays
    obtain ⟨fabric, base, done, rest, started, order, found⟩ := replays
    have new_denoted :=
      (Seen.replaying fabric base done (request :: rest) started order found).denotes reached
        replayed
    rw [carried.named] at new_denoted
    have same := Option.some.inj
      (new_denoted.symm.trans (labelAt_extended (grown.trans longer) old_denoted))
    exact ⟨congrArg Label.resource same, congrArg Label.name same⟩

/-! Two queues of two classes, and a restart. -/

/-- A declaration of the second class's queue. -/
def otherDeclaration : MutationRequest :=
  { sampleRequest 2 .declareQueue (.declareQueue
      { resource := ⟨1⟩, name := text "other", cls := ⟨⟨2⟩, ⟨1⟩⟩, pool := ⟨⟨1⟩, ⟨1⟩, 0⟩ }) with
    queue := default
    expectedGeneration := default }

/-- Queues 1 and 2 under two classes, the first of them validated. -/
def pairSteps : List Step := sampleSteps ++ [secondClass, .call (.apply otherDeclaration) [],
  .call (.apply (sampleRequest 3 .validateQueue .monostate)) []]

theorem identities_keep_labels_once : ∃ queue,
    (sampleStart.run (pairSteps ++ [nextLife])).fabric.findQueue ⟨1⟩ = some queue ∧
      queue.definition.name = text "q" := by
  have kept : Runs.Along step Retains sampleStart (pairSteps ++ [nextLife]) := by
    refine ⟨retains_call (by simp) trivial, retains_call (by simp) trivial,
      retains_call (by simp) trivial, retains_call (by simp) ?_, retains_call (by simp) trivial,
      retains_call (by simp) ?_, retains_call (by simp) ?_, retains_restart (by decide +kernel),
      trivial⟩
    all_goals
      intro lost
      exact absurd lost (by decide +kernel)
  obtain ⟨outcome, ok, identity⟩ := @outcome_of_acknowledgedQueue sampleSystem ⟨1⟩
    (by decide +kernel)
  obtain ⟨queue, found, _⟩ := @first_queue (sampleStart.run (pairSteps ++ [nextLife])).fabric
    (fun _ => True) _ (by decide +kernel)
  have labelled := (identities_keep_labels {} ⟨fun _ => 1000, 0⟩ 7 [] (pairSteps ++ [nextLife])
    kept).1 (sampleSteps.take 3) sampleDeclaration _ [] outcome
    ([secondClass, .call (.apply otherDeclaration) [],
      .call (.apply (sampleRequest 3 .validateQueue .monostate)) [], nextLife]) rfl rfl ok queue
    (identity ▸ found)
  exact ⟨queue, found, labelled.2⟩

/-- The first queue's class is declared anew: after the recovery its identity, acknowledged for
`q`, denotes `other`, and the validation of `q` was replayed onto that queue. -/
theorem redeclared_class_misattributes :
    (∃ outcome, sampleSystem.result = .ok (.outcome outcome) ∧ outcome.queue = ⟨1⟩) ∧
      (sampleStart.run (pairSteps ++ [redeclaredClass, nextLife])).result.isOk = true ∧
      ∃ queue, (sampleStart.run (pairSteps ++ [redeclaredClass, nextLife])).fabric.findQueue ⟨1⟩ =
          some queue ∧ queue.definition.name = text "other" ∧ queue.lifecycle = .validated := by
  refine ⟨outcome_of_acknowledgedQueue (by decide +kernel), by decide +kernel, ?_⟩
  exact @first_queue _ (fun queue => queue.definition.name = text "other" ∧
    queue.lifecycle = .validated) (fun _ => inferInstance) (by decide +kernel)

end System

end QueueFabric
