import QueueFabric.Enrollments
import QueueFabric.Reservations
import QueueFabric.Usage

/-!
What the peers of a coordinator cannot do. Whatever bytes arrive, a cycle applies
mutations and withdraws evidence: the resources with their grants, classes, pools
and backends, the epoch and the reservations are out of reach.
-/

namespace QueueFabric

open Relation StableStore

/-- All of the resource stays but the number of its queues. -/
def ResourceRecord.Requeued (before after : ResourceRecord) : Prop :=
  after = { before with queueCount := after.queueCount }

theorem ResourceRecord.Requeued.refl (record : ResourceRecord) : Requeued record record := rfl

theorem ResourceRecord.Requeued.trans {first second third : ResourceRecord}
    (one : Requeued first second) (two : Requeued second third) : Requeued first third := by
  rw [Requeued, two, one]

namespace Fabric

/-- What peers leave of a fabric. -/
structure Confined (before after : Fabric StableStore) : Prop where
  config : after.config = before.config
  epoch : after.epoch = before.epoch
  resources : Table.Related ResourceRecord.Requeued before.resources after.resources
  identities : after.identities = before.identities
  reservations : after.reservations = before.reservations
  journal : Grown before.journal after.journal
  queues : ∀ id queue, before.findQueue id = some queue →
    ∃ next, after.findQueue id = some next ∧ QueueRecord.Identical queue next
  names : ∀ key id, before.queueNames.get? key = some id → after.queueNames.get? key = some id
  declared : ∀ id queue, after.findQueue id = some queue → before.findQueue id = none →
    ∃ record, before.findResource queue.definition.resource = some record

theorem Confined.refl (fabric : Fabric StableStore) : Confined fabric fabric where
  config := rfl
  epoch := rfl
  resources := Table.related_refl ResourceRecord.Requeued.refl _
  identities := rfl
  reservations := rfl
  journal := .refl _
  queues _ queue found := ⟨queue, found, .refl queue⟩
  names _ _ found := found
  declared _ _ found absent := by
    rw [absent] at found
    cases found

theorem Confined.trans {first second third : Fabric StableStore} (one : Confined first second)
    (two : Confined second third) : Confined first third where
  config := two.config.trans one.config
  epoch := two.epoch.trans one.epoch
  resources := one.resources.trans (fun _ _ _ => ResourceRecord.Requeued.trans) two.resources
  identities := two.identities.trans one.identities
  reservations := two.reservations.trans one.reservations
  journal := one.journal.trans two.journal
  queues id queue found := by
    obtain ⟨next, kept, same⟩ := one.queues id queue found
    obtain ⟨last, final, again⟩ := two.queues id next kept
    exact ⟨last, final, same.trans again⟩
  names key id found := two.names key id (one.names key id found)
  declared id queue found absent := by
    cases middle : second.findQueue id with
    | none =>
        obtain ⟨record, home⟩ := two.declared id queue found middle
        obtain ⟨old, earlier, same⟩ := one.resources.get? home
        exact ⟨old, earlier⟩
    | some next =>
        obtain ⟨last, final, same⟩ := two.queues id next middle
        rw [found, Option.some.injEq] at final
        rw [final, same.resource]
        exact one.declared id next middle absent

/-- What the tables say of it. -/
theorem confined_of_tables {before after : Fabric StableStore}
    (queues : Table.Related QueueRecord.Identical before.queues after.queues)
    (tables : after.tables = { before.tables with queues := after.queues })
    (reservations : after.reservations = before.reservations)
    (journal : Grown before.journal after.journal) : Confined before after where
  config := congrArg Tables.config tables
  epoch := congrArg Tables.epoch tables
  resources := by
    have same : after.resources = before.resources := congrArg Tables.resources tables
    rw [same]
    exact Table.related_refl ResourceRecord.Requeued.refl _
  identities := congrArg Tables.identities tables
  reservations := reservations
  journal := journal
  queues id queue found := queues.symm.get? found
  names key id found := by
    have same : after.queueNames = before.queueNames := congrArg Tables.queueNames tables
    rwa [same]
  declared id queue found absent := by
    obtain ⟨old, stored, _⟩ := queues.get? found
    rw [findQueue, stored] at absent
    cases absent

theorem confined_declared {before after : Fabric StableStore} {payload : DeclareQueuePayload}
    {resource : ResourceRecord} {record : QueueRecord}
    (found : before.findResource payload.resource = some resource)
    (origin : DeclaredFrom payload ⟨before.nextQueueId⟩ record)
    (tables : after.tables = declaredTables before.tables payload resource record)
    (reservations : after.reservations = before.reservations)
    (journal : Grown before.journal after.journal) : Confined before after where
  config := congrArg Tables.config tables
  epoch := congrArg Tables.epoch tables
  resources := by
    have same : after.resources = before.resources.insert payload.resource
      { resource with queueCount := resource.queueCount + 1 } := congrArg Tables.resources tables
    rw [same]
    exact Table.related_insert ResourceRecord.Requeued.refl found rfl
  identities := congrArg Tables.identities tables
  reservations := reservations
  journal := journal
  queues id queue stored := by
    have same : after.queues = before.queues.emplace ⟨before.nextQueueId⟩ record :=
      congrArg Tables.queues tables
    have held : before.queues.get? id = some queue := stored
    refine ⟨queue, ?_, .refl queue⟩
    rw [findQueue, same, Table.get?_emplace, held, Option.some_or]
  names key id held := by
    have same : after.queueNames = before.queueNames.emplace
      (nameKey payload.resource payload.name) ⟨before.nextQueueId⟩ :=
        congrArg Tables.queueNames tables
    rw [same, Table.get?_emplace, held, Option.some_or]
  declared id queue stored absent := by
    have same : after.queues = before.queues.emplace ⟨before.nextQueueId⟩ record :=
      congrArg Tables.queues tables
    have none : before.queues.get? id = none := absent
    rw [findQueue, same, Table.get?_emplace, none, Option.none_or] at stored
    split at stored
    · cases stored
      rw [origin.resource]
      exact ⟨resource, found⟩
    · cases stored

/-- Withdrawing evidence writes to no table but the queues. -/
theorem invalidateEvidence_tables (fabric : Fabric StableStore) (id : QueueId)
    (principal : OwnerId) (epoch : Epoch) (reason : Text) :
    (fabric.invalidateEvidence id principal epoch reason).fabric.tables =
      { fabric.tables with
        queues := (fabric.invalidateEvidence id principal epoch reason).fabric.queues } := by
  rw [invalidateEvidence]
  split
  · rfl
  · split
    · rfl
    · split <;> rfl

theorem confined_serve (fabric : Fabric StableStore) {call : Call} (permitted : call.ForPeers) :
    Confined fabric (fabric.serve call).fabric := by
  have living : call ≠ .recover := fun same => by
    rw [same] at permitted
    exact permitted
  have journal : Grown fabric.journal (fabric.serve call).fabric.journal := by
    have ended := serve_epoch fabric living
    generalize fabric.serve call = reply at ended
    cases ended with
    | follows follows => exact follows.journal
    | advanced => exact absurd permitted id
    | compacted => exact absurd permitted id
  cases call with
  | apply request =>
      have reservations : (fabric.serve (.apply request)).fabric.reservations =
          fabric.reservations := apply_reservations fabric request
      have ended := (applyAt_cases fabric.monotonicNow.2 request fabric.monotonicNow.1).labelCase
      have tables : (fabric.serve (.apply request)).fabric.tables =
          (fabric.monotonicNow.2.applyAt request fabric.monotonicNow.1).fabric.tables := rfl
      generalize (fabric.monotonicNow.2.applyAt request fabric.monotonicNow.1).fabric = inner
        at ended tables
      cases ended with
      | moved queues rest =>
          have same : (fabric.serve (.apply request)).fabric.queues = inner.queues :=
            congrArg Tables.queues tables
          refine confined_of_tables ?_ ?_ reservations journal
          · rw [same]
            exact queues
          · rw [tables, same, rest]
            rfl
      | lost payload resource declared valid declarable kept =>
          have same : (fabric.serve (.apply request)).fabric.tables = fabric.tables :=
            tables.trans kept
          have queues : (fabric.serve (.apply request)).fabric.queues = fabric.queues :=
            congrArg Tables.queues same
          refine confined_of_tables ?_ ?_ reservations journal
          · rw [queues]
            exact Table.related_refl QueueRecord.Identical.refl _
          · rw [same, queues]
            rfl
      | declared payload resource record declared valid declarable origin entered =>
          exact confined_declared declarable.found origin (tables.trans entered) reservations
            journal
  | invalidateEvidence queue principal epoch reason =>
      have reservations : (fabric.serve (.invalidateEvidence queue principal epoch
          reason)).fabric.reservations = fabric.reservations :=
        invalidateEvidence_reservations fabric queue principal epoch reason
      have related : Table.Related QueueRecord.Same fabric.queues
          (fabric.serve (.invalidateEvidence queue principal epoch reason)).fabric.queues :=
        (serve_cases fabric _).same (by simp) (by simp) (by simp)
      refine confined_of_tables (related.imp fun _ _ same => same.identical) ?_ reservations
        journal
      exact invalidateEvidence_tables fabric queue principal epoch reason
  | _ => exact absurd permitted id

end Fabric

namespace Coordinator

/-- Whatever peers connect and send, in any number of cycles, nothing administrative moves. -/
theorem peers_confined (coordinator : Coordinator StableStore)
    (cycles : List (Option TcpTransport)) :
    coordinator.fabric.Confined
      (coordinator.live (cycles.map Operation.cycle)).fabric := by
  induction cycles generalizing coordinator with
  | nil => exact .refl _
  | cons incoming later ih =>
      have first : coordinator.fabric.Confined (coordinator.runOnce incoming).2.fabric := by
        refine @Fabric.kept_of_uses StableStore _ _ (coordinator.fabric.Confined ·)
          (fun fabric clock kept => ?_) (fun fabric call permitted kept => ?_) _ _
          (coordinator.cycle_walks incoming).uses (.refl _)
        · exact ⟨kept.config, kept.epoch, kept.resources, kept.identities, kept.reservations,
            kept.journal, kept.queues, kept.names, kept.declared⟩
        · exact kept.trans (Fabric.confined_serve fabric permitted)
      exact first.trans (ih (coordinator.runOnce incoming).2)

end Coordinator

end QueueFabric
