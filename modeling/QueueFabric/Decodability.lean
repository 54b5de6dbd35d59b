import QueueFabric.Encodings
import QueueFabric.QueueSteps
import QueueFabric.RecoveryCases

/-!
Whether recovery can read back what a call wrote. A topology change appends the
record it publishes and a mutation appends its request; both are read back
exactly when they are within the bounds of writer and reader.
-/

namespace QueueFabric

namespace StableStore

theorem contents_appended {store : StableStore} {type : JournalRecordType} {payload : Bytes}
    (ok : (store.append type payload).1.isOk = true) :
    (store.append type payload).2.contents = store.contents ++ [⟨type, payload⟩] := by
  rw [append] at ok ⊢
  split
  · rename_i closed
    rw [if_pos closed] at ok
    cases ok
  rename_i opened
  rw [if_neg opened] at ok
  split
  · simp [contents, advance]
  · rename_i failed
    rw [if_neg failed] at ok
    cases ok

theorem contents_committed {store : StableStore} {encoded : Bytes}
    (ok : (Fabric.commitRecords store encoded).1.isOk = true) :
    (Fabric.commitRecords store encoded).2.contents =
      store.contents ++ [⟨.beginAttempt, encoded⟩, ⟨.commitMutation, encoded⟩] := by
  simp only [Fabric.commitRecords] at ok ⊢
  split
  · rename_i failed
    rw [if_pos failed] at ok
    simp [ok] at failed
  rename_i begun
  rw [if_neg begun] at ok
  split
  · rename_i failed
    rw [if_pos failed] at ok
    simp [ok] at failed
  rename_i committed
  rw [if_neg committed] at ok
  simp only [Bool.not_eq_true, Bool.not_eq_false'] at begun committed
  have first : (store.append .beginAttempt encoded).1.isOk = true := begun
  have second : ((store.append .beginAttempt encoded).2.append .commitMutation encoded).1.isOk =
      true := committed
  have both : ((store.append .beginAttempt encoded).2.append .commitMutation
      encoded).2.sync.2.contents =
      store.contents ++ [⟨.beginAttempt, encoded⟩, ⟨.commitMutation, encoded⟩] := by
    rw [contents_sync, contents_appended second, contents_appended first]
    simp
  split
  · exact both
  · exact both

end StableStore

/-- A resource record is read back exactly when it is within the bounds of writer and reader. -/
theorem decodeResourceState_ok_iff (resource : ResourceRecord) :
    (∃ result, decodeResourceState (encodeResourceState resource) = .ok result) ↔
      resource.Encodable ∧ resource.Readable := by
  rw [← encodeResourceState_ne_nil_iff]
  constructor
  · rintro ⟨result, decoded⟩
    have written : encodeResourceState resource ≠ [] := by
      intro empty
      rw [empty, decodeResourceState_nil] at decoded
      cases decoded
    exact ⟨written,
      ((decodeWhole_finish (feeds_resourceState resource) _ written).2 result decoded).1⟩
  · rintro ⟨written, readable⟩
    exact ⟨_, (decodeWhole_finish (feeds_resourceState resource) _ written).1 readable⟩

/-- The two records describe the same topology. -/
structure SameTopology (decoded published : ResourceRecord) : Prop where
  id : decoded.id = published.id
  name : decoded.name = published.name
  owner : decoded.owner = published.owner
  generation : decoded.generation = published.generation
  grants : decoded.authority.grants = published.authority.grants
  classes : decoded.classes = published.classes
  pools : decoded.pools = published.pools
  backends : decoded.backends = published.backends

theorem sameTopology_stored (resource : ResourceRecord) : SameTopology resource.stored resource :=
  ⟨rfl, rfl, rfl, rfl, rfl, rfl, rfl, rfl⟩

def Call.editsTopology : Call → Bool
  | .declareResource .. => true
  | .grantCapabilities .. => true
  | .declareClass .. => true
  | .declarePool .. => true
  | .registerBackend .. => true
  | .markBackendDead .. => true
  | _ => false

namespace Fabric

variable {J : Type} [IJournal J]

/-- The record a topology change is about to write and publish. -/
def edited (fabric : Fabric J) : Call → Option ResourceRecord
  | .declareResource name owner provenance =>
      some (fabric.declaredResource name owner provenance fabric.monotonicNow.1)
  | .grantCapabilities resource grantee capabilities _ _ _ => do
      let record ← fabric.findResource resource
      let grants := record.authority.grants
      some (withGrants record
        ((replaceGrant grantee capabilities grants).getD (grants ++ [⟨grantee, capabilities⟩])))
  | .declareClass resource name priority qos _ _ provenance => do
      let record ← fabric.findResource resource
      let declared ← (fabric.declareClassIn record resource name priority qos provenance).toOption
      let generation ← record.generation.next.toOption
      some { record with classes := declared.2.1, generation }
  | .declarePool resource name capacityBytes _ _ provenance => do
      let record ← fabric.findResource resource
      let declared ← (fabric.declarePoolIn record resource name capacityBytes provenance).toOption
      some { record with pools := declared.2.1 }
  | .registerBackend resource incarnation _ _ _ => do
      let record ← fabric.findResource resource
      some { record with
        backends := record.backends ++ [fabric.registration resource incarnation] }
  | .markBackendDead backend _ _ _ => do
      let entry ← fabric.resources.entries.find? fun entry =>
        entry.2.backends.any fun registered => registered.backend = backend
      some { entry.2 with backends := killBackend backend entry.2.backends }
  | _ => none

/-- The identity a declaration of a resource takes is not in use. -/
def IdentityFree (fabric : Fabric J) : Call → Prop
  | .declareResource .. => fabric.findResource ⟨fabric.nextResourceId⟩ = none
  | _ => True

/-- How an edited record is published. -/
inductive Publishes (fabric : Fabric J) (updated : ResourceRecord)
    (table : Table ResourceId ResourceRecord) : Call → Prop
  | declared (name : Text) (owner : OwnerId) (provenance : Provenance)
      (id : updated.id = ⟨fabric.nextResourceId⟩) (named : updated.name = name)
      (unnamed : ∀ id stored, fabric.findResource id = some stored → stored.name ≠ name)
      (placed : table = fabric.resources.emplace updated.id updated) :
      Publishes fabric updated table (.declareResource name owner provenance)
  | replaced {call : Call} (key : ResourceId) (free : fabric.IdentityFree call)
      (placed : table = fabric.resources.insert key updated) :
      Publishes fabric updated table call

omit [IJournal J] in
theorem Publishes.found {fabric : Fabric J} {updated : ResourceRecord} {call : Call}
    {table : Table ResourceId ResourceRecord} (published : Publishes fabric updated table call)
    (free : fabric.IdentityFree call) : ∃ key, table.get? key = some updated := by
  cases published with
  | declared name owner provenance id named unnamed placed =>
      refine ⟨updated.id, ?_⟩
      have absent : fabric.resources.get? updated.id = none := by
        rw [id]
        exact free
      rw [placed, Table.emplace_of_absent _ _ absent, Table.get?_insert_self]
  | replaced key free placed => exact ⟨key, by rw [placed, Table.get?_insert_self]⟩

omit [IJournal J] in
/-- A taken identity keeps its old record, and no old record has the new name. -/
theorem Publishes.free {fabric : Fabric J} {updated stored : ResourceRecord} {call : Call}
    {table : Table ResourceId ResourceRecord} {key : ResourceId}
    (published : Publishes fabric updated table call) (found : table.get? key = some stored)
    (same : stored.name = updated.name) : fabric.IdentityFree call := by
  cases published with
  | declared name owner provenance id named unnamed placed =>
      rw [IdentityFree, findResource]
      by_contra taken
      obtain ⟨held, present⟩ := Option.ne_none_iff_exists'.mp taken
      have unchanged : table = fabric.resources := by
        rw [placed, id]
        simp [Table.emplace, Table.contains, present]
      rw [unchanged] at found
      exact unnamed key stored found (same.trans named)
  | replaced key free placed => exact free

/-- A topology change that answers ok wrote and published one record. -/
structure Edited (fabric : Fabric J) (call : Call) (updated : ResourceRecord)
    (after : Fabric J) : Prop where
  record : fabric.edited call = some updated
  written : Written .resourceState (encodeResourceState updated) fabric.journal true after.journal
  published : Publishes fabric updated after.resources call

theorem Recorded.of_ok {α : Type} {before lost kept : Fabric J} {type : JournalRecordType}
    {payload : Bytes} {value answer : α} {reply : Reply J α}
    (recorded : Recorded before type payload lost kept value reply)
    (ok : reply.result = .ok answer) :
    Touch kept reply.fabric ∧ Written type payload before.journal true reply.fabric.journal := by
  cases recorded with
  | lost status events after touch written => cases ok
  | kept events after touch written => exact ⟨touch, written⟩

omit [IJournal J] in
theorem Refused.not_ok {α : Type} {before : Fabric J} {reply : Reply J α} {answer : α}
    (refused : Refused before reply) : reply.result ≠ .ok answer := by
  obtain ⟨status, failed⟩ := refused.failed
  rw [failed]
  intro impossible
  cases impossible

omit [IJournal J] in
theorem Reply.ok_of_answered {α : Type} {reply : Reply J α} {render : α → Answer} {answer : Answer}
    (ok : (reply.answered render).result = .ok answer) : ∃ value, reply.result = .ok value := by
  rw [Reply.answered] at ok
  cases result : reply.result with
  | error status =>
      rw [result] at ok
      cases ok
  | ok value => exact ⟨value, rfl⟩

theorem serve_edited {fabric : Fabric J} {call : Call} {answer : Answer}
    (topology : call.editsTopology = true) (ok : (fabric.serve call).result = .ok answer) :
    ∃ updated, Edited fabric call updated (fabric.serve call).fabric := by
  cases call with
  | declareResource name owner provenance =>
      obtain ⟨value, ok⟩ := Reply.ok_of_answered ok
      rcases declareResource_cases fabric name owner provenance with
        refused | ⟨now, rfl, _, _, unnamed, recorded⟩
      · exact absurd ok refused.not_ok
      · obtain ⟨touch, written⟩ := recorded.of_ok ok
        refine ⟨_, rfl, written, ?_⟩
        exact .declared name owner provenance rfl rfl unnamed touch.resources
  | grantCapabilities resource grantee capabilities principal epoch provenance =>
      obtain ⟨value, ok⟩ := Reply.ok_of_answered ok
      rcases grantCapabilities_cases fabric resource grantee capabilities principal epoch
        provenance with refused | ⟨record, grants, found, shape, recorded⟩
      · exact absurd ok refused.not_ok
      · obtain ⟨touch, written⟩ := recorded.of_ok ok
        refine ⟨withGrants record grants, ?_, written, .replaced resource trivial touch.resources⟩
        rcases shape with replaced | ⟨absent, appended⟩
        · simp [edited, found, replaced]
        · simp [edited, found, absent, appended]
  | declareClass resource name priority qos principal epoch provenance =>
      obtain ⟨value, ok⟩ := Reply.ok_of_answered ok
      rcases declareClass_cases fabric resource name priority qos principal epoch provenance with
        refused | ⟨record, cls, classes, nextClassId, generation, found, declared, minted, recorded⟩
      · exact absurd ok refused.not_ok
      · obtain ⟨touch, written⟩ := recorded.of_ok ok
        refine ⟨_, ?_, written, .replaced resource trivial touch.resources⟩
        simp [edited, found, declared, minted, Except.toOption]
  | declarePool resource name capacityBytes principal epoch provenance =>
      obtain ⟨value, ok⟩ := Reply.ok_of_answered ok
      rcases declarePool_cases fabric resource name capacityBytes principal epoch provenance with
        refused | ⟨record, pool, pools, nextPoolId, found, declared, recorded⟩
      · exact absurd ok refused.not_ok
      · obtain ⟨touch, written⟩ := recorded.of_ok ok
        refine ⟨_, ?_, written, .replaced resource trivial touch.resources⟩
        simp [edited, found, declared, Except.toOption]
  | registerBackend resource incarnation principal epoch provenance =>
      obtain ⟨value, ok⟩ := Reply.ok_of_answered ok
      rcases registerBackend_cases fabric resource incarnation principal epoch provenance with
        refused | ⟨record, value, found, recorded⟩
      · exact absurd ok refused.not_ok
      · obtain ⟨touch, written⟩ := recorded.of_ok ok
        refine ⟨_, ?_, written, .replaced resource trivial touch.resources⟩
        simp [edited, found]
  | markBackendDead backend incarnation principal epoch =>
      obtain ⟨value, ok⟩ := Reply.ok_of_answered ok
      rcases markBackendDead_cases fabric backend incarnation principal epoch with
        refused | ⟨key, record, found, holder, recorded⟩
      · exact absurd ok refused.not_ok
      · obtain ⟨touch, written⟩ := recorded.of_ok ok
        refine ⟨_, ?_, written, .replaced key trivial touch.resources⟩
        simp only [edited, holder]
        rfl
  | _ => cases topology

/-- The record a topology change appended is read back as the one it published. -/
def ReadsBack (fabric : Fabric StableStore) (call : Call) : Prop :=
  ∃ payload decoded key published,
    (fabric.serve call).fabric.store.contents =
      fabric.store.contents ++ [⟨.resourceState, payload⟩] ∧
    decodeResourceState payload = .ok decoded ∧
    (fabric.serve call).fabric.findResource key = some published ∧ SameTopology decoded published

theorem Written.contents {type : JournalRecordType} {payload : Bytes}
    {before after : Option StableStore} {store : StableStore}
    (written : Written type payload before true after) (present : before = some store) :
    (after.getD {}).contents = store.contents ++ [⟨type, payload⟩] := by
  cases written with
  | unjournaled => cases present
  | synced journal appended flushed =>
      cases present
      change (store.append type payload).2.sync.2.contents = _
      rw [StableStore.contents_sync]
      exact StableStore.contents_appended appended

/-- A topology change that answers ok can be read back exactly when the record it published is
within the bounds of writer and reader and its identity was free. -/
theorem topology_change_decodable_iff (fabric : Fabric StableStore) (store : StableStore)
    (call : Call) (answer : Answer) (present : fabric.journal = some store)
    (topology : call.editsTopology = true) (ok : (fabric.serve call).result = .ok answer) :
    ReadsBack fabric call ↔ fabric.IdentityFree call ∧
      ∀ updated, fabric.edited call = some updated → updated.Encodable ∧ updated.Readable := by
  obtain ⟨updated, edit⟩ := serve_edited topology ok
  have appended : (fabric.serve call).fabric.store.contents =
      fabric.store.contents ++ [⟨.resourceState, encodeResourceState updated⟩] := by
    have held : fabric.store = store := by rw [Fabric.store, present]; rfl
    rw [held]
    exact edit.written.contents present
  constructor
  · rintro ⟨payload, decoded, key, published, grown, read, found, same⟩
    rw [appended, List.append_cancel_left_eq] at grown
    cases grown
    have shape := eq_of_decodeResourceState read
    have named : published.name = updated.name := by rw [← same.name, shape]; rfl
    refine ⟨edit.published.free found named, ?_⟩
    intro record made
    rw [edit.record] at made
    cases made
    exact (decodeResourceState_ok_iff updated).mp ⟨decoded, read⟩
  · rintro ⟨free, bounds⟩
    obtain ⟨decoded, read⟩ := (decodeResourceState_ok_iff updated).mpr (bounds updated edit.record)
    have shape := eq_of_decodeResourceState read
    obtain ⟨key, found⟩ := edit.published.found free
    exact ⟨_, decoded, key, updated, appended, read, found, shape ▸ sameTopology_stored updated⟩

end Fabric

namespace System

/-- The declaration of a class whose QoS group has `length` characters. -/
def groupedClass (length : Nat) : Call :=
  .declareClass ⟨1⟩ (text "c") 0 { group := List.replicate length 0x67 } ⟨5⟩ ⟨1⟩
    (sampleProvenance 1)

/-- The sample system once its resource is declared. -/
def groupedStart : Fabric StableStore := (sampleStart.run (sampleSteps.take 1)).fabric

theorem groupedStart_journal : ∃ store, groupedStart.journal = some store :=
  Option.isSome_iff_exists.mp (by decide +kernel)

theorem groupedClass_ok {length : Nat}
    (ok : (groupedStart.serve (groupedClass length)).result.isOk = true) :
    ∃ answer, (groupedStart.serve (groupedClass length)).result = .ok answer := by
  cases result : (groupedStart.serve (groupedClass length)).result with
  | error status =>
      rw [result] at ok
      cases ok
  | ok answer => exact ⟨answer, rfl⟩

/-- A group of 128 characters is read back. -/
theorem topology_change_decodable_once : Fabric.ReadsBack groupedStart (groupedClass 128) := by
  obtain ⟨store, present⟩ := groupedStart_journal
  obtain ⟨answer, ok⟩ := groupedClass_ok (show (groupedStart.serve
    (groupedClass 128)).result.isOk = true by decide +kernel)
  refine (Fabric.topology_change_decodable_iff groupedStart store (groupedClass 128) answer present
    rfl ok).mpr ⟨trivial, ?_⟩
  have bounds : (groupedStart.edited (groupedClass 128)).all
      (fun updated => decide (updated.Encodable ∧ updated.Readable)) = true := by decide +kernel
  intro updated made
  rw [made] at bounds
  simpa using bounds

/-- A group of 129 characters is accepted, and its record cannot be read back. -/
theorem long_group_unreadable :
    (∃ answer, (groupedStart.serve (groupedClass 129)).result = .ok answer) ∧
      ¬ Fabric.ReadsBack groupedStart (groupedClass 129) := by
  refine ⟨groupedClass_ok (by decide +kernel), ?_⟩
  rintro ⟨payload, decoded, key, published, grown, read, _⟩
  have last : (groupedStart.serve (groupedClass 129)).fabric.store.contents.getLast? =
      some ⟨.resourceState, []⟩ := by decide +kernel
  rw [grown, List.getLast?_concat] at last
  cases last
  rw [decodeResourceState_nil] at read
  cases read

end System

/-! Mutations. -/

namespace Fabric

theorem Committed.contents {encoded : Bytes} {before after : Option StableStore}
    (committed : Committed encoded before true after) (present : after.isSome = true) :
    encoded ≠ [] ∧ (after.getD {}).contents = (before.getD {}).contents ++
      [⟨.beginAttempt, encoded⟩, ⟨.commitMutation, encoded⟩] := by
  cases committed with
  | unjournaled => cases present
  | offered journal ok nonempty status => exact ⟨nonempty, StableStore.contents_committed status⟩

theorem DeclareCase.appended {fabric : Fabric StableStore} {request : MutationRequest}
    {payload : DeclareQueuePayload} {now : Nanos} {reply : Reply StableStore MutationOutcome}
    {outcome : MutationOutcome} (ended : DeclareCase fabric request payload now reply)
    (ok : reply.result = .ok outcome) (fresh : outcome.replayed = false)
    (durable : outcome.durable = true) :
    encodeMutation request ≠ [] ∧ reply.fabric.store.contents = fabric.store.contents ++
      [⟨.beginAttempt, encodeMutation request⟩, ⟨.commitMutation, encodeMutation request⟩] := by
  cases ended with
  | refused refusal => cases ok
  | answered id taken =>
      rw [answerDeclared] at ok
      split at ok
      · cases ok
      split at ok
      · cases ok
        cases fresh
      · cases ok
  | undurable resource refusal after declarable failed => cases ok
  | committed resource after declarable written =>
      have committed := commitDurably_committed written
      rw [admitDeclared] at ok ⊢
      split
      · rename_i replaying
        rw [if_pos replaying] at ok
        cases ok
        exact committed.contents durable
      · rename_i living
        rw [if_neg living] at ok
        simp only [] at ok ⊢
        split
        · rename_i failed
          rw [if_pos failed] at ok
          cases ok
        · rename_i passed
          rw [if_neg passed] at ok
          cases ok
          exact committed.contents durable

theorem ExistingCase.appended {fabric : Fabric StableStore} {key : QueueId} {queue : QueueRecord}
    {request : MutationRequest} {now : Nanos} {reply : Reply StableStore MutationOutcome}
    {outcome : MutationOutcome} (ended : ExistingCase fabric key queue request now reply)
    (ok : reply.result = .ok outcome) (fresh : outcome.replayed = false)
    (durable : outcome.durable = true) :
    encodeMutation request ≠ [] ∧ reply.fabric.store.contents = fabric.store.contents ++
      [⟨.beginAttempt, encodeMutation request⟩, ⟨.commitMutation, encodeMutation request⟩] := by
  cases ended with
  | answered memo recorded =>
      rw [answerFromMemo] at ok
      split at ok
      · cases ok
      split at ok
      · cases ok
      · cases ok
        cases fresh
  | refused tracker refusal unseen gate real => cases ok
  | undurable tracker applied refusal after admitted lasting failed real => cases ok
  | published tracker applied after admitted committed =>
      cases ok
      have flags : isDurable request.kind = true ∧ after.journal.isSome = true := by
        simpa using durable
      rw [if_pos flags.1] at committed
      exact (commitDurably_committed committed).contents flags.2

/-- An acknowledged durable mutation has appended its begin and its commit record. -/
theorem apply_appended {fabric : Fabric StableStore} {request : MutationRequest}
    {outcome : MutationOutcome} (ok : (fabric.apply request).result = .ok outcome)
    (fresh : outcome.replayed = false) (durable : outcome.durable = true) :
    encodeMutation request ≠ [] ∧ (fabric.apply request).fabric.store.contents =
      fabric.store.contents ++ [⟨.beginAttempt, encodeMutation request⟩,
        ⟨.commitMutation, encodeMutation request⟩] := by
  have ended := applyAt_cases fabric.monotonicNow.2 request fabric.monotonicNow.1
  change (fabric.monotonicNow.2.applyAt request fabric.monotonicNow.1).result = .ok outcome at ok
  change _ ∧ (fabric.monotonicNow.2.applyAt request
    fabric.monotonicNow.1).fabric.store.contents = _
  have same : fabric.store.contents = fabric.monotonicNow.2.store.contents := rfl
  rw [same]
  generalize fabric.monotonicNow.2 = fabric at ended ok ⊢
  generalize fabric.applyAt request _ = reply at ended ok ⊢
  cases ended with
  | stopped stopping => cases ok
  | unbound refusal => cases ok
  | declare payload _ valid kind carried ended => exact ended.appended ok fresh durable
  | existing queue _ valid kind found ended => exact ended.appended ok fresh durable

/-- An encoded request is read back exactly when a fence reason it carries has at most 96
characters and drain evidence it carries counts at most 16 records; the same bounds decide for
every acknowledged durable mutation whether recovery can read its commit record. -/
theorem mutation_round_trip_iff (request : MutationRequest) :
    (request.validate.isOk = true → encodeMutation request ≠ [] →
      (decodeMutation (encodeMutation request) = .ok request ↔ request.Readable)) ∧
    ∀ (fabric : Fabric StableStore) (outcome : MutationOutcome),
      (fabric.apply request).result = .ok outcome → outcome.replayed = false →
      outcome.durable = true →
        (fabric.apply request).fabric.store.contents = fabric.store.contents ++
          [⟨.beginAttempt, encodeMutation request⟩, ⟨.commitMutation, encodeMutation request⟩] ∧
        ((∃ result, decodeMutation (encodeMutation request) = .ok result) ↔ request.Readable) := by
  have reads : encodeMutation request ≠ [] →
      (decodeMutation (encodeMutation request) = .ok request ↔ request.Readable) := by
    intro written
    constructor
    · exact fun decoded => (eq_of_decodeMutation decoded).1
    · exact fun readable => decodeMutation_encodeMutation request readable written
  refine ⟨fun _ written => reads written, ?_⟩
  intro fabric outcome ok fresh durable
  obtain ⟨written, appended⟩ := apply_appended ok fresh durable
  refine ⟨appended, ?_, ?_⟩
  · rintro ⟨result, decoded⟩
    exact (eq_of_decodeMutation decoded).1
  · exact fun readable => ⟨request, (reads written).mpr readable⟩

end Fabric

namespace System

theorem mutation_round_trip_once : decodeMutation (encodeMutation (sampleRequest 2 .fenceQueue
    (.fence { reason := List.replicate 96 0x78 }))) =
      .ok (sampleRequest 2 .fenceQueue (.fence { reason := List.replicate 96 0x78 })) := by
  refine ((Fabric.mutation_round_trip_iff _).1 (by decide) (by decide +kernel)).mpr ?_
  change 96 ≤ 96
  exact Nat.le_refl 96

/-- A fence of the sample queue whose reason has 97 characters. -/
def longFence : MutationRequest :=
  sampleRequest 2 .fenceQueue (.fence { reason := List.replicate 97 0x78 })

/-- The fence is acknowledged as durable, and its commit record cannot be read back. -/
theorem long_reason_unreadable :
    longFence.validate.isOk = true ∧ encodeMutation longFence ≠ [] ∧
      decodeMutation (encodeMutation longFence) ≠ .ok longFence ∧
      ∃ outcome, (sampleSystem.fabric.apply longFence).result = .ok outcome ∧
        outcome.replayed = false ∧ outcome.durable = true ∧
        ⟨.commitMutation, encodeMutation longFence⟩ ∈
          (sampleSystem.fabric.apply longFence).fabric.store.contents ∧
        ¬ ∃ result, decodeMutation (encodeMutation longFence) = .ok result := by
  have unread : ¬ ∃ result, decodeMutation (encodeMutation longFence) = .ok result := by
    rintro ⟨result, decoded⟩
    have short : 97 ≤ 96 := (eq_of_decodeMutation decoded).1
    omega
  have acknowledged : ((sampleSystem.fabric.apply longFence).result.toOption.any fun outcome =>
      !outcome.replayed && outcome.durable) = true := by decide +kernel
  obtain ⟨outcome, answered, flags⟩ := (Option.any_eq_true _ _).mp acknowledged
  simp only [Bool.and_eq_true, Bool.not_eq_true'] at flags
  have ok : (sampleSystem.fabric.apply longFence).result = .ok outcome := by
    cases result : (sampleSystem.fabric.apply longFence).result with
    | error status =>
        rw [result] at answered
        cases answered
    | ok value =>
        rw [result] at answered
        cases answered
        rfl
  obtain ⟨written, appended⟩ := Fabric.apply_appended ok flags.1 flags.2
  refine ⟨by decide, written, fun decoded => unread ⟨_, decoded⟩, outcome, ok, flags.1, flags.2,
    ?_, unread⟩
  rw [appended]
  simp

end System

end QueueFabric
