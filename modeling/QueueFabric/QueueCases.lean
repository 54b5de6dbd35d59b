import QueueFabric.ServeCases

/-!
What calls do to queue records. Only an applied mutation, a declaration or a
recovery moves a queue; every other call leaves its definition, lifecycle, fence
and memo as they were.
-/

namespace QueueFabric

theorem Applicability.fenced_union_stale (value : Applicability) :
    (value.union .stale).hasFlag .fenced = value.hasFlag .fenced := by
  have each : ∀ bits : Fin 256, (union ⟨.ofFin bits⟩ .stale).hasFlag .fenced =
      hasFlag ⟨.ofFin bits⟩ .fenced := by decide +kernel
  exact each value.bits.toFin

namespace QueueRecord

/-- The part of a queue that only mutations and recoveries move. -/
structure Same (before after : QueueRecord) : Prop where
  definition : after.definition = before.definition
  lifecycle : after.lifecycle = before.lifecycle
  fence : after.fence = before.fence
  fenced : after.applicability.hasFlag .fenced = before.applicability.hasFlag .fenced
  memo : after.memo = before.memo

theorem Same.refl (queue : QueueRecord) : Same queue queue := ⟨rfl, rfl, rfl, rfl, rfl⟩

theorem Same.trans {first second third : QueueRecord} (one : Same first second)
    (two : Same second third) : Same first third :=
  ⟨two.definition.trans one.definition, two.lifecycle.trans one.lifecycle,
    two.fence.trans one.fence, two.fenced.trans one.fenced, two.memo.trans one.memo⟩

/-- The part of a queue that nothing moves once it is declared. -/
structure Identical (before after : QueueRecord) : Prop where
  id : after.definition.id = before.definition.id
  resource : after.definition.resource = before.definition.resource
  name : after.definition.name = before.definition.name
  declaredBy : after.definition.declaredBy = before.definition.declaredBy

theorem Identical.refl (queue : QueueRecord) : Identical queue queue := ⟨rfl, rfl, rfl, rfl⟩

theorem Identical.trans {first second third : QueueRecord} (one : Identical first second)
    (two : Identical second third) : Identical first third :=
  ⟨two.id.trans one.id, two.resource.trans one.resource, two.name.trans one.name,
    two.declaredBy.trans one.declaredBy⟩

theorem Same.identical {before after : QueueRecord} (same : Same before after) :
    Identical before after := by
  constructor <;> rw [same.definition]

theorem mem_replaceMemo {entry old : AttemptMemo} {memo replaced : List AttemptMemo}
    (found : replaceMemo entry memo = some replaced) (member : old ∈ replaced) :
    old ∈ memo ∨ old = entry := by
  induction memo generalizing replaced with
  | nil => simp [replaceMemo] at found
  | cons existing rest ih =>
      rw [replaceMemo] at found
      split at found
      · rw [Option.some.injEq] at found
        subst found
        rcases List.mem_cons.mp member with here | later
        · exact .inr here
        · exact .inl (List.mem_cons_of_mem existing later)
      · obtain ⟨updated, later, equal⟩ := Option.map_eq_some_iff.mp found
        subst equal
        rcases List.mem_cons.mp member with here | later'
        · exact .inl (here ▸ List.mem_cons_self)
        · exact (ih later later').imp_left (List.mem_cons_of_mem existing)

theorem replaceMemo_attempts {entry : AttemptMemo} {memo replaced : List AttemptMemo}
    (found : replaceMemo entry memo = some replaced) :
    replaced.map (·.attempt) = memo.map (·.attempt) := by
  induction memo generalizing replaced with
  | nil => cases found
  | cons existing rest ih =>
      rw [replaceMemo] at found
      split at found
      · rename_i same
        cases found
        rw [List.map_cons, List.map_cons, same]
      · obtain ⟨updated, later, rfl⟩ := Option.map_eq_some_iff.mp found
        rw [List.map_cons, List.map_cons, ih later]

theorem replaceMemo_absent {entry : AttemptMemo} {memo : List AttemptMemo}
    (absent : replaceMemo entry memo = none) : entry.attempt ∉ memo.map (·.attempt) := by
  induction memo with
  | nil => simp
  | cons existing rest ih =>
      rw [replaceMemo] at absent
      split at absent
      · cases absent
      · rename_i different
        rw [Option.map_eq_none_iff] at absent
        rw [List.map_cons, List.mem_cons, not_or]
        exact ⟨fun same => different same.symm, ih absent⟩

theorem mem_rememberIn {entry old : AttemptMemo} {memo : List AttemptMemo} {capacity : UInt64}
    (member : old ∈ rememberIn memo entry capacity) : old ∈ memo ∨ old = entry := by
  rw [rememberIn] at member
  split at member
  · exact .inl member
  split at member
  · rename_i replaced
    exact mem_replaceMemo replaced member
  · rw [List.mem_append, List.mem_singleton] at member
    refine member.imp_left fun kept => ?_
    split at kept
    · exact List.mem_of_mem_tail kept
    · exact kept

end QueueRecord

open QueueRecord

namespace Fabric

variable {J : Type}

/-! Updates that leave a queue the same. -/

theorem same_supersedeBinding (queue : QueueRecord) : Same queue (supersedeBinding queue) :=
  ⟨rfl, rfl, rfl, Applicability.fenced_union_stale _, rfl⟩

theorem same_invalidateQueue (queue : QueueRecord) : Same queue (invalidateQueue queue) :=
  ⟨rfl, rfl, rfl, Applicability.fenced_union_stale _, rfl⟩

theorem same_revalidateQueue (queue : QueueRecord) : Same queue (revalidateQueue queue) :=
  ⟨rfl, rfl, rfl, Applicability.fenced_union_stale _, rfl⟩

theorem same_markUnfinished (queue : QueueRecord) : Same queue (markUnfinished queue) :=
  ⟨rfl, rfl, rfl, Applicability.fenced_union_stale _, rfl⟩

theorem same_supersedeEpoch (queue : QueueRecord) : Same queue (supersedeEpoch queue) := by
  rw [supersedeEpoch]
  split <;> split <;> constructor <;> simp [Applicability.fenced_union_stale]

theorem same_restoreQueue (queue : QueueRecord) : Same queue (Scan.restoreQueue queue) := by
  rw [Scan.restoreQueue]
  split <;> split <;> split <;> constructor <;> simp [Applicability.fenced_union_stale]

theorem same_refreshQueueLocked (config : FabricConfig) (queue : QueueRecord) (now : Nanos) :
    Same queue (refreshQueueLocked config queue now) := by
  rw [refreshQueueLocked]
  simp only []
  split <;> exact ⟨rfl, rfl, rfl, rfl, rfl⟩

/-! Updates that keep the identity of a queue. -/

theorem KindCase.identical {fabric : Fabric J} {target : QueueRecord} {request : MutationRequest}
    {now : Nanos} {applied : KindApplied} (ended : KindCase fabric target request now applied) :
    Identical target applied.target ∧ applied.target.memo = target.memo := by
  cases ended <;> exact ⟨⟨rfl, rfl, rfl, rfl⟩, rfl⟩

theorem identical_rejectQueue (config : FabricConfig) (queue : QueueRecord)
    (request : MutationRequest) (refusal : Refusal) :
    Identical queue (rejectQueue config queue request refusal) := ⟨rfl, rfl, rfl, rfl⟩

theorem identical_publishQueue (fabric : Fabric J) (queue : QueueRecord)
    (request : MutationRequest) (applied : KindApplied) (durable : Bool) :
    Identical applied.target (fabric.publishQueue queue request applied durable) := by
  rw [publishQueue]
  split <;> exact ⟨rfl, rfl, rfl, rfl⟩

variable [IJournal J]

theorem related_of_eq {queues after : Table QueueId QueueRecord} (equal : after = queues) :
    Table.Related Same queues after := equal ▸ Table.related_refl Same.refl queues

theorem Recorded.same {α : Type} {before lost kept : Fabric J} {type : JournalRecordType}
    {payload : Bytes} {value : α} {reply : Reply J α}
    (recorded : Recorded before type payload lost kept value reply)
    (onLost : lost.queues = before.queues) (onKept : Table.Related Same before.queues kept.queues) :
    Table.Related Same before.queues reply.fabric.queues := by
  cases recorded with
  | lost status events after touch written => exact related_of_eq (touch.queues.trans onLost)
  | kept events after touch written =>
      rw [touch.queues]
      exact onKept

/-- A call that applies no mutation and recovers nothing leaves every queue the same. -/
theorem ServeCase.same {fabric : Fabric J} {call : Call} {reply : Reply J Answer}
    (ended : ServeCase fabric call reply) (living : call ≠ .recover)
    (quiet : ∀ request, call ≠ .apply request)
    (idle : ∀ plan applied provenance, call ≠ .commitBackendApply plan applied provenance) :
    Table.Related Same fabric.queues reply.fabric.queues := by
  cases ended with
  | refused refused => exact related_of_eq refused.queues
  | recovered => exact absurd rfl living
  | stopped touch journal => exact related_of_eq touch.queues
  | edited lost kept updated value spent issued edit recorded => exact recorded.same rfl (related_of_eq rfl)
  | classed resource name priority qos principal epoch provenance record cls classes nextClassId
      generation found declared recorded =>
      refine recorded.same rfl (Table.related_mapValues _ fun key queue => ?_)
      split
      · exact same_supersedeBinding queue
      · exact .refl queue
  | advanced principal provenance epoch payload minted recorded =>
      exact recorded.same rfl (Table.related_mapValues _ fun _ queue => same_supersedeEpoch queue)
  | invalidated id principal epoch reason queue events after found touch journal =>
      rw [touch.queues]
      exact Table.related_insert Same.refl found (same_invalidateQueue queue)
  | applied request now inner events after ended touch journal => exact absurd rfl (quiet request)
  | gated id expected principal provenance accepted refused =>
      exact related_of_eq refused.queues
  | planned id expected principal provenance plan accepted recorded =>
      exact recorded.same rfl (related_of_eq rfl)
  | committed plan applied provenance queue inner found ended =>
      exact absurd rfl (idle plan applied provenance)
  | aborted plan reason recorded => exact recorded.same rfl (related_of_eq rfl)
  | explained id principal touch journal => exact related_of_eq touch.queues
  | refreshed now touch journal =>
      rw [touch.queues]
      exact Table.related_mapValues _ fun _ queue => same_refreshQueueLocked _ queue now
  | compacted journal present touch rewritten => exact related_of_eq touch.queues

omit [IJournal J] in
theorem noteUnfinished_same (fabric : Fabric J) (outstanding : List MutationRequest) :
    Table.Related Same fabric.queues (outstanding.foldl noteUnfinished fabric).queues := by
  induction outstanding generalizing fabric with
  | nil => exact related_of_eq rfl
  | cons request rest ih =>
      refine .trans (fun _ _ _ => Same.trans) ?_ (ih (fabric.noteUnfinished request))
      rw [noteUnfinished]
      cases found : fabric.findQueue request.queue with
      | none => exact related_of_eq rfl
      | some queue => exact Table.related_insert Same.refl found (same_markUnfinished queue)

omit [IJournal J] in
theorem revalidateAll_same (fabric : Fabric J) (outstanding : List MutationRequest) :
    Table.Related Same fabric.queues (fabric.revalidateAll outstanding).queues := by
  have marked : Table.Related Same fabric.queues
      (fabric.queues.mapValues fun _ queue => revalidateQueue queue) :=
    Table.related_mapValues _ fun _ queue => same_revalidateQueue queue
  refine marked.trans (fun _ _ _ => Same.trans) ?_
  exact noteUnfinished_same { fabric with
    queues := fabric.queues.mapValues fun _ queue => revalidateQueue queue
    recovery := { fabric.recovery with
      queuesRevalidated := fabric.recovery.queuesRevalidated + fabric.queues.size } } outstanding

end Fabric

end QueueFabric
