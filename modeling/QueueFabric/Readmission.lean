import QueueFabric.Enrollments
import QueueFabric.Idempotence
import QueueFabric.QueueRuns

/-!
A recovery and the labels of its journal. Every declaration is checked again when it
is replayed, against the last record of its resource. Where all of them are admitted
again, and written again, the recovered fabric holds the labels the journal enrolls,
in their order; a declaration that is refused would give its place to the next one.
-/

namespace QueueFabric

open QueueRecord Fabric Enrollment

/-! What a replayed declaration is checked against. -/

/-- The resource lets the principal declare, and has the class and the pool the payload names
at the generations it names. -/
def ResourceRecord.admits (resource : ResourceRecord) (request : MutationRequest)
    (payload : DeclareQueuePayload) : Bool :=
  hasCapability (resource.authority.capabilitiesOf request.principal) .declareQueue &&
    !resource.applicability.hasFlag .fenced &&
    ((resource.findClass payload.cls.id).any fun cls =>
      cls.generation = payload.cls.generation) &&
    (resource.findPool payload.pool.id).any fun pool => pool.generation = payload.pool.generation

namespace Scan

def holds (scan : Scan) (label : Label) : Bool :=
  scan.queues.values.any fun queue => queue.label = label

def admits (scan : Scan) (request : MutationRequest) (payload : DeclareQueuePayload) : Bool :=
  (scan.resources.get? payload.resource).any fun resource => resource.admits request payload

end Scan

namespace StableStore

/-- The next `count` commits get through. -/
def Flows (count : Nat) (store : StableStore) : Prop :=
  store.opened = true ∧ ∀ outcome ∈ store.script.take (3 * count), outcome = true

instance (count : Nat) (store : StableStore) : Decidable (store.Flows count) :=
  inferInstanceAs (Decidable (_ ∧ _))

theorem closed_of_failed {store : StableStore} (failed : store.openStore.1.isOk = false) :
    store.openStore.2.opened = false := by
  rw [openStore] at failed ⊢
  split at failed
  · cases failed
  · rename_i refused
    rw [if_neg refused]

theorem Flows.fewer {count : Nat} {store : StableStore} (flows : store.Flows (count + 1)) :
    store.Flows count :=
  ⟨flows.1, fun outcome listed =>
    flows.2 outcome (List.take_subset_take_left store.script (by omega) listed)⟩

theorem Flows.committed {count : Nat} {store : StableStore} (flows : store.Flows (count + 1))
    {encoded : Bytes} {ok : Bool} {after : Option StableStore}
    (committed : Fabric.Committed encoded (some store) ok after) :
    (encoded ≠ [] → ok = true) ∧ ∀ last, after = some last → last.Flows count := by
  have next : ∀ outcome ∈ store.script.take 3, outcome = true := fun outcome listed =>
    flows.2 outcome (List.take_subset_take_left store.script (by omega) listed)
  cases committed with
  | unencoded _ empty =>
      refine ⟨fun nonempty => absurd empty nonempty, fun last same => ?_⟩
      cases same
      exact flows.fewer
  | offered _ _ nonempty status =>
      have ended := store.commitRecords_cases encoded
      generalize Fabric.commitRecords store encoded = result at ended status
      cases ended with
      | refused refusal last failed balked synced still pending =>
          rcases balked with closed | lost
          · exact absurd (flows.1.symm.trans closed) (by simp)
          · exact absurd (next false lost) (by simp)
      | unsynced refusal last failed lost still synced pending =>
          simp only [losesSync, Bool.and_eq_true, decide_eq_true_eq] at lost
          exact absurd (next false (by rw [lost.2]; simp)) (by simp)
      | synced last opened synced pending still script =>
          refine ⟨fun _ => status.symm, fun other same => ?_⟩
          cases same
          refine ⟨still, fun outcome listed => flows.2 outcome ?_⟩
          rw [script, List.take_drop] at listed
          have earlier := List.mem_of_mem_drop listed
          rwa [show 3 + 3 * count = 3 * (count + 1) by omega] at earlier

end StableStore

namespace Fabric

/-- Over an opened store the recovery can issue an epoch, and each declaration it reads is of a
queue it restores, or is admitted by the resource it restores and can be written again. -/
def readmitted (fabric : Fabric StableStore) (store : StableStore) : Bool :=
  let scan := fabric.beginRecovery.scanJournal store
  scan.mintEpoch.isOk && scan.replayOrder.all fun request =>
    request.declaration.all fun payload => scan.holds payload.label ||
      (!fabric.shuttingDown && store.Flows scan.replayOrder.length &&
        scan.admits request payload)

def Readmits (fabric : Fabric StableStore) : Prop :=
  ∀ store, fabric.journal = some store → store.openStore.1.isOk = true →
    fabric.readmitted store.openStore.2 = true

instance (fabric : Fabric StableStore) : Decidable fabric.Readmits :=
  match present : fabric.journal with
  | none => isTrue fun store held => by
      rw [present] at held
      cases held
  | some store => decidable_of_iff
      (store.openStore.1.isOk = true → fabric.readmitted store.openStore.2 = true)
      ⟨fun holds other held => by
        rw [present, Option.some.injEq] at held
        exact held ▸ holds, fun readmits => readmits store present⟩

theorem readmitted_iff {fabric : Fabric StableStore} {store : StableStore} {scan : Scan}
    (scanned : scan = fabric.beginRecovery.scanJournal store) :
    fabric.readmitted store = true ↔ (∃ epoch, scan.mintEpoch = .ok epoch) ∧
      ∀ request ∈ scan.replayOrder, ∀ payload, request.declaration = some payload →
        scan.holds payload.label = true ∨ fabric.shuttingDown = false ∧
          store.Flows scan.replayOrder.length ∧ scan.admits request payload = true := by
  have minted : scan.mintEpoch.isOk = true ↔ ∃ epoch, scan.mintEpoch = .ok epoch := by
    cases scan.mintEpoch <;> simp [Except.isOk, Except.toBool]
  rw [readmitted, ← scanned, ← minted]
  simp only [Bool.and_eq_true, List.all_eq_true, Option.all_eq_true, Bool.or_eq_true,
    Bool.not_eq_true', decide_eq_true_eq, and_assoc]

end Fabric

/-- A resource record but for its count of queues. -/
structure ResourceRecord.Recounted (before after : ResourceRecord) : Prop where
  authority : after.authority = before.authority
  applicability : after.applicability = before.applicability
  classes : after.classes = before.classes
  pools : after.pools = before.pools

theorem ResourceRecord.Recounted.refl (resource : ResourceRecord) : Recounted resource resource :=
  ⟨rfl, rfl, rfl, rfl⟩

theorem ResourceRecord.admits_congr {before after : ResourceRecord} (request : MutationRequest)
    (payload : DeclareQueuePayload)
    (grants : after.authority.capabilitiesOf request.principal =
      before.authority.capabilitiesOf request.principal)
    (applicability : after.applicability = before.applicability)
    (classes : after.classes = before.classes) (pools : after.pools = before.pools) :
    after.admits request payload = before.admits request payload := by
  rw [admits, admits, grants, applicability, findClass, findClass, classes, findPool, findPool,
    pools]

namespace Fabric

section Replay

variable {J : Type} [IJournal J]

/-- Some resource under the payload's name admits the request, in an epoch that was issued. -/
def Readies (resources : Table ResourceId ResourceRecord) (request : MutationRequest)
    (payload : DeclareQueuePayload) : Prop :=
  ∃ resource, resources.get? payload.resource = some resource ∧
    resource.authority.epoch.valid = true ∧ resource.admits request payload = true

theorem Readies.related {before after : Table ResourceId ResourceRecord}
    {request : MutationRequest} {payload : DeclareQueuePayload}
    (readies : Readies before request payload)
    (recounted : Table.Related ResourceRecord.Recounted before after) :
    Readies after request payload := by
  obtain ⟨resource, found, valid, admits⟩ := readies
  have compared := recounted.find payload.resource
  rw [found] at compared
  generalize later : after.get? payload.resource = other at compared
  cases compared with
  | some same =>
      rename_i counted
      refine ⟨counted, later, ?_, ?_⟩
      · rw [same.authority]
        exact valid
      · rw [ResourceRecord.admits_congr request payload (by rw [same.authority])
          same.applicability same.classes same.pools]
        exact admits

omit [IJournal J] in
theorem thresholds_of_valid {request : MutationRequest} {payload : DeclareQueuePayload}
    (valid : request.validate.isOk = true) (declared : request.declaration = some payload) :
    payload.thresholds.consistent = true := by
  obtain ⟨kind, carried⟩ := declaration_eq_some.mp declared
  have target := target_of_valid valid
  by_contra inconsistent
  rw [Bool.not_eq_true] at inconsistent
  rw [MutationRequest.validateTarget, kind, carried] at target
  simp only [inconsistent, Bool.not_false, ↓reduceIte] at target
  repeat' split at target
  all_goals cases target

omit [IJournal J] in
theorem Readies.declarable {fabric : Fabric J} {request : MutationRequest}
    {payload : DeclareQueuePayload} {labels : List Label}
    (readies : Readies fabric.resources request payload)
    (registered : Registered labels fabric.tables) (replaying : fabric.replaying = true)
    (valid : request.validate.isOk = true) (declared : request.declaration = some payload)
    (fresh : payload.label ∉ labels)
    (permitted : Permitted fabric.config (labels ++ [payload.label])) :
    ∃ resource, Declarable fabric request payload resource := by
  obtain ⟨resource, found, epoch, admits⟩ := readies
  simp only [ResourceRecord.admits, Bool.and_eq_true, Bool.not_eq_true', Option.any_eq_true,
    decide_eq_true_eq] at admits
  obtain ⟨⟨⟨granted, unfenced⟩, cls, foundClass, current⟩, pool, foundPool, fits⟩ := admits
  have few := registered.permitted.few
  have room : fabric.queues.size < fabric.config.limits.maxQueuesTotal.toNat := by
    have total := permitted.total
    have size : fabric.queues.size = labels.length := registered.catalog.size few
    rw [List.length_append, List.length_singleton] at total
    omega
  have quota : resourceQueues fabric.queues payload.resource <
      fabric.config.limits.maxQueuesPerResource.toNat := by
    have bound := permitted.quota payload.resource
    have counted : resourceQueues fabric.queues payload.resource =
        labels.countP fun label => label.resource = payload.resource :=
      registered.catalog.resourceQueues few payload.resource
    rw [List.countP_append, List.countP_singleton] at bound
    simp only [DeclareQueuePayload.label, decide_true, ↓reduceIte] at bound
    omega
  refine ⟨resource, found, ?_, (registered.free_iff payload.label).mpr fresh, ?_, ?_⟩
  · rw [if_pos replaying, authorize]
    simp [epoch, granted, unfenced]
  · rw [checkDeclaration, if_neg (by omega), if_neg (by omega), foundClass]
    simp only [current, ne_eq, not_true_eq_false, ↓reduceIte, foundPool, fits,
      thresholds_of_valid valid declared, Bool.not_true, Bool.false_eq_true]
  · rw [checkDeclareProvenance, if_pos replaying]

theorem Declarable.issues {fabric : Fabric J} {request : MutationRequest}
    {payload : DeclareQueuePayload} {resource : ResourceRecord}
    (declarable : Declarable fabric request payload resource)
    (running : fabric.shuttingDown = false) (valid : request.validate.isOk = true)
    (declared : request.declaration = some payload)
    (durable : (fabric.commitDurably request).1 = none) (now : Nanos) :
    (fabric.applyAt request now).fabric.nextQueueId = fabric.nextQueueId + 1 := by
  obtain ⟨kind, carried⟩ := declaration_eq_some.mp declared
  obtain ⟨after, _, next, published⟩ := declarable.published durable now
  rw [applyAt_declare running valid kind carried, published, ← next]
  rfl

theorem ApplyCase.shuttingDown {fabric : Fabric J} {request : MutationRequest} {now : Nanos}
    {reply : Reply J MutationOutcome} (ended : ApplyCase fabric request now reply) :
    reply.fabric.shuttingDown = fabric.shuttingDown := by
  have committed : ∀ middle : Fabric J,
      (middle.commitDurably request).2.shuttingDown = middle.shuttingDown := by
    intro middle
    rw [commitDurably]
    split
    · rw [journalCommitLocked]
      split <;> rfl
    · split <;> rfl
  cases ended with
  | stopped stopping => rfl
  | unbound refusal => rfl
  | declare payload reply valid kind carried ended =>
      cases ended with
      | refused refusal => rfl
      | answered id taken =>
          rw [answerDeclared]
          split
          · rfl
          · split <;> rfl
      | undurable resource refusal after declarable failed =>
          have kept := committed fabric
          rw [failed] at kept
          exact kept
      | committed resource after declarable written =>
          have kept := committed fabric
          rw [written] at kept
          rw [admitDeclared]
          split
          · exact kept
          · simp only []
            split <;> exact kept
  | existing queue reply valid kind found ended =>
      cases ended with
      | answered memo recorded =>
          rw [answerFromMemo]
          split
          · rfl
          · split <;> rfl
      | refused tracker refusal unseen gate real => rfl
      | undurable tracker applied refusal after admitted durable failed real =>
          have kept := committed (fabric.accepted tracker applied)
          rw [failed] at kept
          exact kept
      | published tracker applied after admitted written =>
          split at written
          · have kept := committed (fabric.accepted tracker applied)
            rw [written] at kept
            exact kept
          · rw [written]
            rfl

/-- A commit of the replay loop, but for the report. -/
theorem replayOne_applied (fabric : Fabric J) (request : MutationRequest) :
    let after := (fabric.replayed.applyAt request fabric.monotonicNow.1).fabric
    (fabric.replayOne request).tables = after.tables ∧
      (fabric.replayOne request).journal = after.journal ∧
      (fabric.replayOne request).shuttingDown = fabric.shuttingDown := by
  have running := (applyAt_cases fabric.replayed request fabric.monotonicNow.1).shuttingDown
  rw [replayOne]
  simp only []
  split <;> exact ⟨rfl, rfl, running⟩

theorem LabelCase.journaled {fabric after : Fabric J} {request : MutationRequest}
    (ended : LabelCase fabric request after) :
    after.journal = fabric.journal ∨
      ∃ ok, Committed (encodeMutation request) fabric.journal ok after.journal := by
  cases ended with
  | moved queues rest journal => exact journal.imp_right And.right
  | lost payload resource declared valid declarable tables journal => exact .inr ⟨_, journal⟩
  | declared payload resource record declared valid declarable origin tables journal =>
      exact .inr ⟨_, journal⟩

theorem LabelCase.recounted {fabric after : Fabric J} {request : MutationRequest}
    (ended : LabelCase fabric request after) :
    Table.Related ResourceRecord.Recounted fabric.resources after.resources := by
  cases ended with
  | moved queues rest journal =>
      rw [show after.resources = fabric.resources from congrArg Tables.resources rest]
      exact Table.related_refl ResourceRecord.Recounted.refl _
  | lost payload resource declared valid declarable tables journal =>
      rw [show after.resources = fabric.resources from congrArg Tables.resources tables]
      exact Table.related_refl ResourceRecord.Recounted.refl _
  | declared payload resource record declared valid declarable origin tables journal =>
      rw [show after.resources = _ from congrArg Tables.resources tables]
      exact Table.related_insert ResourceRecord.Recounted.refl declarable.found ⟨rfl, rfl, rfl, rfl⟩

/-- A request enters no label, or the one it declares under the next identity. -/
theorem LabelCase.entered {labels : List Label} {fabric after : Fabric J}
    {request : MutationRequest} (ended : LabelCase fabric request after)
    (registered : Registered labels fabric.tables) :
    (Registered labels after.tables ∧ after.nextQueueId = fabric.nextQueueId) ∨
      ∃ payload, request.declaration = some payload ∧ payload.label ∉ labels ∧
        Registered (labels ++ [payload.label]) after.tables := by
  cases ended with
  | moved queues rest journal =>
      refine .inl ⟨?_, congrArg Tables.nextQueueId rest⟩
      rw [rest]
      exact registered.moved queues rfl rfl rfl
  | lost payload resource declared valid declarable tables journal =>
      exact .inl ⟨tables ▸ registered, congrArg Tables.nextQueueId tables⟩
  | declared payload resource record declared valid declarable origin tables journal =>
      refine .inr ⟨payload, declared, (registered.free_iff payload.label).mp declarable.free, ?_⟩
      rw [tables]
      exact registered.declared declarable.free (admissible_of_checked declarable.checked) origin
        rfl rfl rfl rfl

end Replay

/-! The replay of a journal's commits. -/

/-- Between two commits of a replay: the tables hold `live`, and the commits to come make the
labels of the journal of it. -/
structure Replaying (labels live : List Label) (requests : List MutationRequest)
    (fabric : Fabric StableStore) (store : StableStore) : Prop where
  registered : Registered live fabric.tables
  enrolled : enrollAll live (declarations requests) = labels
  valid : ∀ request ∈ requests, ∀ payload, request.declaration = some payload →
    request.validate.isOk = true
  present : fabric.journal = some store
  keeps : Keeps fabric.config labels store
  ready : ∀ request ∈ requests, ∀ payload, request.declaration = some payload →
    payload.label ∈ live ∨ fabric.shuttingDown = false ∧ store.Flows requests.length ∧
      Readies fabric.resources request payload

namespace Replaying

variable {labels live : List Label} {request : MutationRequest} {rest : List MutationRequest}
  {fabric : Fabric StableStore} {store : StableStore}

/-- What the journal is after one more commit. -/
theorem journal (replaying : Replaying labels live (request :: rest) fabric store)
    {after : Fabric StableStore} (ended : LabelCase fabric.replayed request after) :
    ∃ last, after.journal = some last ∧ Keeps fabric.config labels last ∧
      ∀ count, store.Flows (count + 1) → last.Flows count := by
  have familiar : Familiar labels ⟨.commitMutation, encodeMutation request⟩ := by
    refine familiar_commit fun payload declared => ⟨?_, ?_⟩
    · exact replaying.valid request List.mem_cons_self payload declared
    · rw [← replaying.enrolled]
      exact mem_enrollAll (mem_declarations.mpr
        ⟨request, List.mem_cons_self, payload, declared, rfl⟩)
  rcases ended.journaled with same | ⟨ok, committed⟩
  · exact ⟨store, same.trans replaying.present, replaying.keeps, fun _ flows => flows.fewer⟩
  · have present : fabric.replayed.journal = some store := replaying.present
    obtain ⟨last, held, keeps, _⟩ :=
      committed.preserves familiar store present replaying.keeps
    rw [present] at committed
    exact ⟨last, held, keeps, fun count flows => (flows.committed committed).2 last held⟩

/-- A declaration that is not held yet issues the next identity. -/
theorem issues (replaying : Replaying labels live (request :: rest) fabric store)
    {payload : DeclareQueuePayload} (declared : request.declaration = some payload)
    (fresh : payload.label ∉ live) :
    (fabric.replayed.applyAt request fabric.monotonicNow.1).fabric.nextQueueId =
      fabric.nextQueueId + 1 := by
  have valid := replaying.valid request List.mem_cons_self payload declared
  obtain ⟨running, flows, readies⟩ :=
    (replaying.ready request List.mem_cons_self payload declared).resolve_left fresh
  have within : live ++ [payload.label] <+: labels := by
    rw [← replaying.enrolled, declarations, List.filterMap_cons, declared]
    simp only [Option.map_some, enrollAll_cons, enroll_of_fresh fresh]
    exact prefix_enrollAll _ _
  have permitted := replaying.keeps.contents.permitted.within within
  have ready : Readies fabric.replayed.resources request payload := readies
  obtain ⟨resource, declarable⟩ :=
    ready.declarable replaying.registered rfl valid declared fresh permitted
  have committed := (commitDurably_cases fabric.replayed request).2
  rw [show fabric.replayed.journal = some store from replaying.present] at committed
  have durable := (flows.committed committed).1 (encoded_of_declaration declared valid).1
  exact declarable.issues running valid declared (Option.isNone_iff_eq_none.mp durable) _

theorem step (replaying : Replaying labels live (request :: rest) fabric store) :
    ∃ later last, live <+: later ∧ Replaying labels later rest (fabric.replayOne request) last := by
  have ended := (applyAt_cases fabric.replayed request fabric.monotonicNow.1).labelCase
  obtain ⟨tables, journal, running⟩ := replayOne_applied fabric request
  obtain ⟨last, held, keeps, flows⟩ := replaying.journal ended
  have config : (fabric.replayOne request).config = fabric.config :=
    (congrArg Tables.config tables).trans (applyAt_cases fabric.replayed request _).config
  have resources : Table.Related ResourceRecord.Recounted fabric.resources
      (fabric.replayOne request).resources := by
    rw [show (fabric.replayOne request).resources = _ from congrArg Tables.resources tables]
    exact ended.recounted
  have ready : ∀ later, live <+: later → ∀ other ∈ rest, ∀ payload,
      other.declaration = some payload → payload.label ∈ later ∨
        (fabric.replayOne request).shuttingDown = false ∧ last.Flows rest.length ∧
          Readies (fabric.replayOne request).resources other payload := by
    intro later longer other listed payload declared
    rcases replaying.ready other (List.mem_cons_of_mem _ listed) payload declared with
      old | ⟨live, flowing, readies⟩
    · exact .inl (longer.subset old)
    · refine .inr ⟨running.trans live, flows rest.length flowing, ?_⟩
      exact Readies.related readies resources
  have valid : ∀ other ∈ rest, ∀ payload, other.declaration = some payload →
      other.validate.isOk = true := fun other listed =>
    replaying.valid other (List.mem_cons_of_mem _ listed)
  rcases ended.entered replaying.registered with
    ⟨kept, unspent⟩ | ⟨payload, declared, fresh, entered⟩
  · refine ⟨live, last, List.prefix_refl live, tables ▸ kept, ?_, valid, journal.trans held,
      config ▸ keeps, ready live (List.prefix_refl live)⟩
    rw [← replaying.enrolled, declarations, declarations, List.filterMap_cons]
    cases declared : request.declaration with
    | none => rfl
    | some payload =>
        have known : payload.label ∈ live := by
          by_contra fresh
          have issued := (replaying.issues declared fresh).symm.trans unspent
          exact absurd issued (by simp [replayed, monotonicNow])
        simp only [Option.map_some, enrollAll_cons, enroll_of_mem known]
  · have longer := List.prefix_append live [payload.label]
    refine ⟨live ++ [payload.label], last, longer, tables ▸ entered, ?_, valid,
      journal.trans held, config ▸ keeps, ready _ longer⟩
    rw [← replaying.enrolled, declarations, declarations, List.filterMap_cons, declared]
    simp only [Option.map_some, enrollAll_cons, enroll_of_fresh fresh]

theorem run {early late : List MutationRequest}
    (replaying : Replaying labels live (early ++ late) fabric store) :
    ∃ later last, live <+: later ∧ Replaying labels later late (fabric.replayAll early) last := by
  induction early generalizing live fabric store with
  | nil => exact ⟨live, store, List.prefix_refl live, replaying⟩
  | cons request early ih =>
      obtain ⟨middle, next, longer, stepped⟩ := replaying.step
      obtain ⟨later, last, longest, ended⟩ := ih stepped
      exact ⟨later, last, longer.trans longest, ended⟩

end Replaying

theorem mem_of_holds {labels : List Label} {scan : Scan} (catalog : Catalog labels scan.queues)
    (few : labels.length < 2 ^ 64) {label : Label} (holds : scan.holds label = true) :
    label ∈ labels := by
  simp only [Scan.holds, List.any_eq_true, decide_eq_true_eq] at holds
  obtain ⟨queue, listed, rfl⟩ := holds
  rw [Table.values, List.mem_map] at listed
  obtain ⟨⟨id, stored⟩, member, rfl⟩ := listed
  exact (mem_iff_labelAt few).mpr
    ⟨id, catalog.denotes ((Table.mem_entries_iff _ _ _).mp member)⟩

theorem scanJournal_above {J : Type} [IJournal J] (fabric : Fabric J) (journal : J) :
    ∃ base, Scan.Above base (Scan.reading (IJournal.records journal))
      (fabric.scanJournal journal) ∧ base.replayOrder = [] ∧ base.queues = fabric.queues :=
  ⟨_, Scan.above_addRecords _ _, rfl, rfl⟩

theorem readies_installScan {fabric : Fabric StableStore} {scan : Scan} {epoch : Epoch}
    (minted : scan.mintEpoch = .ok epoch) {request : MutationRequest}
    {payload : DeclareQueuePayload} (admits : scan.admits request payload = true) :
    Readies (fabric.installScan scan epoch).resources request payload := by
  rw [Scan.admits, Option.any_eq_true] at admits
  obtain ⟨resource, found, admits⟩ := admits
  have installed := findResource_installScan fabric scan epoch payload.resource
  rw [found, Option.map_some] at installed
  refine ⟨_, installed, ?_, admits⟩
  have later := Scan.lt_of_mintEpoch minted
  have positive : epoch.value ≠ 0 := by
    rw [UInt64.lt_iff_toNat_lt] at later
    intro zero
    rw [zero] at later
    exact absurd later (Nat.not_lt_zero _)
  simpa [withEpoch, killBackends, Counter.valid] using positive

theorem registered_revalidateAll {J : Type} {labels : List Label} {fabric : Fabric J}
    (registered : Registered labels fabric.tables) (outstanding : List MutationRequest) :
    Registered labels (fabric.revalidateAll outstanding).tables := by
  have same := (revalidateAll_same fabric outstanding).imp fun _ _ same => same.identical
  have permitted : Permitted (fabric.revalidateAll outstanding).config labels := by
    rw [revalidateAll_config]
    exact registered.permitted
  exact @registered_rebuildIndexesLocked J labels (outstanding.foldl noteUnfinished { fabric with
    queues := fabric.queues.mapValues fun _ queue => revalidateQueue queue
    recovery := { fabric.recovery with
      queuesRevalidated := fabric.recovery.queuesRevalidated + fabric.queues.size } })
    (registered.catalog.related same) permitted

/-- The labels a recovery scans are between those of its tables and those of its journal. -/
theorem Readmits.replaying {live labels : List Label} {fabric : Fabric StableStore}
    (enrolled : Enrolled live labels fabric) (readmits : fabric.Readmits) {store : StableStore}
    (present : fabric.journal = some store) (opened : store.openStore.1.isOk = true) {scan : Scan}
    (scanned : scan = fabric.beginRecovery.scanJournal store.openStore.2) {epoch : Epoch}
    (minted : scan.mintEpoch = .ok epoch) :
    ∃ start, live <+: start ∧ Replaying labels start scan.replayOrder
      ((fabric.beginRecovery.adoptScan store.openStore.2 scan).installScan scan epoch)
      store.openStore.2 := by
  obtain ⟨other, held, keeps, _⟩ := enrolled.journal
  rw [present, Option.some.injEq] at held
  subst held
  have ledger := keeps.contents
  obtain ⟨first, catalog, enrolls⟩ := ledger.enrolled
  have records : IJournal.records store.openStore.2 = store.contents :=
    StableStore.contents_openStore store
  obtain ⟨base, above, unread, queues⟩ :=
    scanJournal_above fabric.beginRecovery store.openStore.2
  rw [← scanned, records] at above
  have order : scan.replayOrder = (Scan.reading store.contents).replayOrder := by
    rw [above.order, unread, List.nil_append]
  have within : first <+: labels := enrolls ▸ prefix_enrollAll first _
  obtain ⟨start, fromFirst, fromLive, either, small⟩ : ∃ start, first <+: start ∧
      live <+: start ∧ (start = first ∨ start = live) ∧ start <+: labels := by
    rcases List.prefix_or_prefix_of_prefix within enrolled.held with shorter | shorter
    · exact ⟨live, shorter, List.prefix_refl live, .inr rfl, enrolled.held⟩
    · exact ⟨first, List.prefix_refl first, shorter, .inl rfl, within⟩
  have scannedCatalog : Catalog start scan.queues :=
    catalog.laid enrolled.registered.catalog fromFirst fromLive either fun id => by
      rw [above.queues, queues]
      rfl
  have permitted := ledger.permitted.within small
  refine ⟨start, fromLive, registered_rebuildIndexesLocked scannedCatalog permitted, ?_, ?_, rfl,
    keeps.openStore, ?_⟩
  · rw [order, ← enrolls]
    exact enrollAll_resumed fromFirst (enrolls ▸ small)
  · rw [order]
    exact ledger.valid
  · intro request listed payload declared
    obtain ⟨_, admitted⟩ := (readmitted_iff scanned).mp (readmits store present opened)
    rcases admitted request listed payload declared with holds | ⟨running, flows, admits⟩
    · exact .inl (mem_of_holds scannedCatalog permitted.few holds)
    · exact .inr ⟨running, flows, readies_installScan minted admits⟩

theorem replayStart_replaying {live labels : List Label} {fabric base : Fabric StableStore}
    (enrolled : Enrolled live labels fabric) (readmits : fabric.Readmits)
    {early late : List MutationRequest}
    (started : fabric.replayStart = some (base, early ++ late)) :
    ∃ later last, Replaying labels later late (base.replayAll early) last := by
  obtain ⟨store, scan, epoch, present, scanned, minted, rfl, order⟩ := replayStart_cases started
  have opened : store.openStore.1.isOk = true := by
    by_contra failed
    simp only [replayStart, present, failed, ↓reduceIte] at started
    cases started
  obtain ⟨start, _, replaying⟩ := readmits.replaying enrolled present opened scanned minted
  rw [← order] at replaying
  obtain ⟨later, last, _, reached⟩ := replaying.run
  exact ⟨later, last, reached⟩

/-- A recovery ends with the labels of its journal, or leaves the tables alone and fails. -/
theorem recover_enrolled {live labels : List Label} {fabric : Fabric StableStore}
    (enrolled : Enrolled live labels fabric) (readmits : fabric.Readmits) :
    ∃ later, live <+: later ∧ Enrolled later labels fabric.recover.fabric ∧
      (fabric.recover.result.isOk = true → later = labels) := by
  have ended := recover_cases fabric
  have config := ended.config
  generalize fabric.recover = reply at ended config
  obtain ⟨other, held, keeps, _⟩ := enrolled.journal
  cases ended with
  | unjournaled absent result touch journal =>
      rw [absent] at held
      cases held
  | unopened store present failed result touch journal failing =>
      rw [present, Option.some.injEq] at held
      subst held
      refine ⟨live, List.prefix_refl live, ⟨?_, enrolled.held, _, journal, ?_, ?_⟩, ?_⟩
      · exact touch.tables ▸ ⟨enrolled.registered.catalog, enrolled.registered.permitted,
          enrolled.registered.next, enrolled.registered.named⟩
      · rw [config]
        exact keeps.openStore
      · intro opened
        rw [StableStore.closed_of_failed failed] at opened
        cases opened
      · rw [result]
        intro impossible
        cases impossible
  | exhausted store scan status present opened scanned minted result touch journal failing =>
      obtain ⟨⟨epoch, minting⟩, _⟩ :=
        (readmitted_iff scanned).mp (readmits store present opened)
      rw [minted] at minting
      cases minting
  | replayed store last scan epoch replayed payload present opened scanned minted installed kept
      touch written named =>
      obtain ⟨start, longer, replaying⟩ :=
        readmits.replaying enrolled present opened scanned minted
      rw [← List.append_nil scan.replayOrder] at replaying
      obtain ⟨later, final, longest, done⟩ := replaying.run
      have all : later = labels := done.enrolled
      rw [all, ← installed] at done
      have still : replayed.config = fabric.config := by
        rw [installed, replayAll_config]
        rfl
      have held := done.present.symm.trans kept
      cases held
      refine ⟨labels, enrolled.held, ⟨?_, List.prefix_refl labels, ?_⟩, fun _ => rfl⟩
      · rw [touch.tables]
        exact registered_revalidateAll done.registered scan.outstanding.values
      · obtain ⟨closed, journal, closing, _⟩ := written.preserves
          (familiar_of_type (by simp) (by simp)) last rfl (still ▸ done.keeps)
        exact ⟨closed, journal, config ▸ closing, fun _ => rfl⟩

end Fabric

end QueueFabric
