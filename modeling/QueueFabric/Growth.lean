import QueueFabric.RecoveryCases

/-!
What a call leaves of the store, the epoch and the health of a fabric. Only a
compaction takes records away, only an advance or a recovery enters an epoch, and
only a recovery makes a failing fabric healthy.
-/

namespace QueueFabric

namespace StableStore

/-- No record is lost and the store is as open as before. -/
structure Grows (before after : StableStore) : Prop where
  synced : before.synced ⊆ after.synced
  contents : before.contents ⊆ after.contents
  opened : after.opened = before.opened

theorem Grows.refl (store : StableStore) : Grows store store :=
  ⟨List.Subset.refl _, List.Subset.refl _, rfl⟩

theorem Grows.trans {first second third : StableStore} (one : Grows first second)
    (two : Grows second third) : Grows first third :=
  ⟨List.Subset.trans one.synced two.synced, List.Subset.trans one.contents two.contents,
    two.opened.trans one.opened⟩

theorem grows_append (store : StableStore) (type : JournalRecordType) (payload : Bytes) :
    store.Grows (store.append type payload).2 := by
  rw [append]
  split
  · exact .refl store
  split
  · refine ⟨List.Subset.refl _, ?_, rfl⟩
    simp only [contents, advance, ← List.append_assoc]
    exact List.subset_append_left _ _
  · exact ⟨List.Subset.refl _, List.Subset.refl _, rfl⟩

theorem grows_sync (store : StableStore) : store.Grows store.sync.2 := by
  rw [sync]
  split
  · exact .refl store
  split
  · refine ⟨List.subset_append_left _ _, ?_, rfl⟩
    simp only [contents, List.append_nil]
    exact List.Subset.refl _
  · exact ⟨List.Subset.refl _, List.Subset.refl _, rfl⟩

theorem grows_commitRecords (store : StableStore) (encoded : Bytes) :
    store.Grows (Fabric.commitRecords store encoded).2 := by
  have begun := grows_append store .beginAttempt encoded
  have committed := begun.trans (grows_append _ .commitMutation encoded)
  simp only [Fabric.commitRecords]
  split
  · exact begun
  split
  · exact committed
  split
  · exact committed.trans (grows_sync _)
  · exact committed.trans (grows_sync _)

/-- The journal of a fabric keeps its records; a fabric without one gets none. -/
inductive Grown : Option StableStore → Option StableStore → Prop
  | absent : Grown none none
  | grown {before after : StableStore} (grows : before.Grows after) :
      Grown (some before) (some after)

theorem Grown.refl (journal : Option StableStore) : Grown journal journal := by
  cases journal with
  | none => exact .absent
  | some store => exact .grown (.refl store)

theorem Grown.trans {first second third : Option StableStore} (one : Grown first second)
    (two : Grown second third) : Grown first third := by
  cases one with
  | absent => exact two
  | grown grows =>
      cases two with
      | grown more => exact .grown (grows.trans more)

theorem Grown.present {before after : Option StableStore} (grown : Grown before after)
    (present : before.isSome = true) : after.isSome = true := by
  cases grown with
  | absent => exact present
  | grown grows => rfl

end StableStore

open StableStore (Grown)

namespace Fabric

/-! What a call leaves of the epoch, the health and the records of a fabric. -/

theorem Written.grown {type : JournalRecordType} {payload : Bytes}
    {before after : Option StableStore} {ok : Bool}
    (written : Written type payload before ok after) : Grown before after := by
  cases written with
  | unjournaled => exact .absent
  | required => exact .absent
  | appendFailed journal failed => exact .grown (StableStore.grows_append journal type payload)
  | syncFailed journal appended failed =>
      exact .grown ((StableStore.grows_append journal type payload).trans
        (StableStore.grows_sync _))
  | synced journal appended flushed =>
      exact .grown ((StableStore.grows_append journal type payload).trans
        (StableStore.grows_sync _))

theorem Committed.grown {encoded : Bytes} {before after : Option StableStore} {ok : Bool}
    (committed : Committed encoded before ok after) : Grown before after := by
  cases committed with
  | unjournaled => exact .absent
  | required => exact .absent
  | unencoded journal empty => exact .refl _
  | offered journal ok nonempty status =>
      exact .grown (StableStore.grows_commitRecords journal encoded)

/-- The epoch stands, no record is lost and no failing fabric turns healthy. -/
structure Follows (before after : Fabric StableStore) : Prop where
  epoch : after.epoch = before.epoch
  healthy : after.healthy = true → before.healthy = true
  journal : Grown before.journal after.journal

theorem Follows.trans {first second third : Fabric StableStore} (one : Follows first second)
    (two : Follows second third) : Follows first third :=
  ⟨two.epoch.trans one.epoch, one.healthy ∘ two.healthy, one.journal.trans two.journal⟩

theorem Touch.follows {before after : Fabric StableStore} (touch : Touch before after)
    (journal : Grown before.journal after.journal) : Follows before after :=
  ⟨touch.epoch, touch.healthy, journal⟩

theorem Touch.follows_of_eq {before after : Fabric StableStore} (touch : Touch before after)
    (journal : after.journal = before.journal) : Follows before after :=
  touch.follows (journal ▸ .refl _)

theorem Refused.follows {α : Type} {before : Fabric StableStore} {reply : Reply StableStore α}
    (refused : Refused before reply) : Follows before reply.fabric := by
  refine ⟨refused.touch.epoch, refused.touch.healthy, ?_⟩
  rw [refused.journal]
  exact .refl _

theorem Recorded.follows {α : Type} {before lost kept : Fabric StableStore}
    {type : JournalRecordType} {payload : Bytes} {value : α} {reply : Reply StableStore α}
    (recorded : Recorded before type payload lost kept value reply)
    (epoch : lost.epoch = before.epoch ∧ kept.epoch = before.epoch)
    (healthy : lost.healthy = before.healthy ∧ kept.healthy = before.healthy) :
    Follows before reply.fabric := by
  cases recorded with
  | lost status events after touch written =>
      exact ⟨touch.epoch.trans epoch.1, fun well => healthy.1 ▸ touch.healthy well, written.grown⟩
  | kept events after touch written =>
      exact ⟨touch.epoch.trans epoch.2, fun well => healthy.2 ▸ touch.healthy well, written.grown⟩

theorem commitDurably_follows {fabric after : Fabric StableStore} {request : MutationRequest}
    {refusal : Option Refusal} (committed : fabric.commitDurably request = (refusal, after)) :
    Follows fabric after :=
  (commitDurably_touch committed).follows (commitDurably_committed committed).grown

theorem ExistingCase.follows {fabric : Fabric StableStore} {key : QueueId} {queue : QueueRecord}
    {request : MutationRequest} {now : Nanos} {reply : Reply StableStore MutationOutcome}
    (ended : ExistingCase fabric key queue request now reply) : Follows fabric reply.fabric := by
  cases ended with
  | answered memo recorded =>
      rw [answerFromMemo]
      split
      · exact ⟨rfl, id, .refl _⟩
      split <;> exact ⟨rfl, id, .refl _⟩
  | refused tracker refusal unseen gate real => exact ⟨rfl, id, .refl _⟩
  | undurable tracker applied refusal after admitted durable failed real =>
      have follows := commitDurably_follows failed
      exact ⟨follows.epoch, follows.healthy, follows.journal⟩
  | published tracker applied after admitted committed =>
      split at committed
      · have follows := commitDurably_follows committed
        exact ⟨follows.epoch, follows.healthy, follows.journal⟩
      · subst committed
        exact ⟨rfl, id, .refl _⟩

theorem DeclareCase.follows {fabric : Fabric StableStore} {request : MutationRequest}
    {payload : DeclareQueuePayload} {now : Nanos} {reply : Reply StableStore MutationOutcome}
    (ended : DeclareCase fabric request payload now reply) : Follows fabric reply.fabric := by
  cases ended with
  | refused refusal => exact ⟨rfl, id, .refl _⟩
  | answered taker taken =>
      rw [answerDeclared]
      split
      · exact ⟨rfl, id, .refl _⟩
      split <;> exact ⟨rfl, id, .refl _⟩
  | undurable resource refusal after declarable failed =>
      have follows := commitDurably_follows failed
      exact ⟨follows.epoch, follows.healthy, follows.journal⟩
  | committed resource after declarable written =>
      have follows := commitDurably_follows written
      rw [admitDeclared]
      split
      · exact ⟨follows.epoch, follows.healthy, follows.journal⟩
      simp only []
      split <;> exact ⟨follows.epoch, follows.healthy, follows.journal⟩

theorem ApplyCase.follows {fabric : Fabric StableStore} {request : MutationRequest} {now : Nanos}
    {reply : Reply StableStore MutationOutcome} (ended : ApplyCase fabric request now reply) :
    Follows fabric reply.fabric := by
  cases ended with
  | stopped stopping => exact ⟨rfl, id, .refl _⟩
  | unbound refusal => exact ⟨rfl, id, .refl _⟩
  | declare payload _ valid kind carried ended => exact ended.follows
  | existing queue _ valid kind found ended => exact ended.follows

theorem CommitCase.follows {fabric : Fabric StableStore} {plan : BackendPlan} {queue : QueueRecord}
    {request : MutationRequest} {reply : Reply StableStore MutationOutcome}
    (ended : CommitCase fabric plan queue request reply) : Follows fabric reply.fabric := by
  cases ended with
  | refused refused => exact refused.follows
  | lost status events after touch written => exact touch.follows written.grown
  | served middle now inner events after touch written ended final journal =>
      exact ((touch.follows written.grown).trans ended.follows).trans (final.follows_of_eq journal)

end Fabric

def Call.advances : Call → Bool
  | .advanceEpoch _ _ => true
  | _ => false

namespace Fabric

theorem Refused.not_done {α : Type} {before : Fabric StableStore} {reply : Reply StableStore α}
    (refused : Refused before reply) : reply.result.isOk = false := by
  obtain ⟨status, failed⟩ := refused.failed
  rw [failed]
  rfl

/-- What a call does to the epoch and the records, apart from a recovery. -/
inductive EpochCase (fabric : Fabric StableStore) : Call → Reply StableStore Answer → Prop
  | follows {call : Call} {reply : Reply StableStore Answer} (follows : Follows fabric reply.fabric)
      (idle : call.advances = true → reply.result.isOk = false) : EpochCase fabric call reply
  | advanced {reply : Reply StableStore Answer} (principal : OwnerId) (provenance : Provenance)
      (epoch : Epoch) (minted : fabric.epoch.next = .ok epoch) (healthy : fabric.healthy = true)
      (entered : reply.fabric.epoch = epoch)
      (written : Written .epochState
        (encodeEpochState ⟨fabric.boot, epoch, fabric.coordinatorIncarnation⟩) fabric.journal true
        reply.fabric.journal) :
      EpochCase fabric (.advanceEpoch principal provenance) reply
  | compacted {reply : Reply StableStore Answer} (store : StableStore)
      (present : fabric.journal = some store) (touch : Touch fabric reply.fabric)
      (rewritten : reply.fabric.journal = some (store.rewrite fabric.buildSnapshotLocked).2) :
      EpochCase fabric .compact reply

theorem serve_epoch (fabric : Fabric StableStore) {call : Call} (living : call ≠ .recover) :
    EpochCase fabric call (fabric.serve call) := by
  have ended := serve_cases fabric call
  generalize fabric.serve call = reply at ended
  cases ended with
  | refused refused => exact .follows refused.follows fun _ => refused.not_done
  | recovered => exact absurd rfl living
  | stopped touch journal =>
      refine .follows (touch.follows ?_) (fun advances => by cases advances)
      rcases journal with same | synced
      · rw [same]
        exact .refl _
      · rw [synced]
        cases fabric.journal with
        | none => exact .absent
        | some store => exact .grown (StableStore.grows_sync store)
  | edited lost kept updated value spent issued edit recorded =>
      refine .follows (recorded.follows ⟨rfl, rfl⟩ ⟨rfl, rfl⟩) fun advances => ?_
      cases edit <;> cases advances
  | classed resource name priority qos principal epoch provenance record cls classes nextClassId
      generation found declared recorded =>
      exact .follows (recorded.follows ⟨rfl, rfl⟩ ⟨rfl, rfl⟩) fun advances => by cases advances
  | advanced principal provenance epoch payload minted recorded healthy named =>
      subst named
      cases recorded with
      | lost status events after touch written =>
          exact .follows (touch.follows written.grown) fun _ => rfl
      | kept events after touch written =>
          exact .advanced principal provenance epoch minted healthy touch.epoch written
  | invalidated queue principal epoch reason record events after found touch journal =>
      refine .follows ⟨touch.epoch, touch.healthy, ?_⟩ (fun advances => by cases advances)
      rw [journal]
      exact .refl _
  | applied request now inner events after ended touch journal =>
      exact .follows (((monotonicNow_touch fabric).follows_of_eq rfl).trans
        (ended.follows.trans (touch.follows_of_eq journal))) fun advances => by cases advances
  | gated queue expected principal provenance accepted refused =>
      have follows := refused.follows
      exact .follows ⟨follows.epoch, follows.healthy, follows.journal⟩
        fun advances => by cases advances
  | planned queue expected principal provenance plan accepted recorded =>
      have follows := recorded.follows ⟨rfl, rfl⟩ ⟨rfl, rfl⟩
      exact .follows ⟨follows.epoch, follows.healthy, follows.journal⟩
        fun advances => by cases advances
  | committed plan applied provenance queue inner found ended =>
      exact .follows ended.follows fun advances => by cases advances
  | aborted plan reason recorded =>
      exact .follows (recorded.follows ⟨rfl, rfl⟩ ⟨rfl, rfl⟩) fun advances => by cases advances
  | explained queue principal touch journal =>
      exact .follows (touch.follows_of_eq journal) fun advances => by cases advances
  | refreshed now touch journal =>
      refine .follows ⟨touch.epoch, touch.healthy, ?_⟩ (fun advances => by cases advances)
      rw [journal]
      exact .refl _
  | compacted store present touch rewritten => exact .compacted store present touch rewritten

theorem replayAll_follows (fabric : Fabric StableStore) (requests : List MutationRequest) :
    Follows fabric (fabric.replayAll requests) := by
  induction requests generalizing fabric with
  | nil => exact ⟨rfl, id, .refl _⟩
  | cons request rest ih =>
      refine Follows.trans ?_ (ih (fabric.replayOne request))
      obtain ⟨now, reply, ended, touch, journal⟩ := replayOne_cases fabric request
      have follows := ended.follows
      refine ⟨touch.epoch.trans follows.epoch, follows.healthy ∘ touch.healthy, ?_⟩
      rw [journal]
      exact follows.journal

theorem opened_of_openStore {store : StableStore} (opened : store.openStore.1.isOk = true) :
    store.openStore.2.opened = true ∧ store.openStore.2.synced = store.contents := by
  rw [StableStore.openStore] at opened ⊢
  split
  · exact ⟨rfl, rfl⟩
  · rename_i failed
    rw [if_neg failed] at opened
    cases opened

theorem closed_of_openStore {store : StableStore} (failed : store.openStore.1.isOk = false) :
    store.openStore.2.opened = false ∧ store.openStore.2.synced = store.synced := by
  rw [StableStore.openStore] at failed ⊢
  split
  · rename_i opened
    rw [if_pos opened] at failed
    cases failed
  · exact ⟨rfl, rfl⟩

theorem Written.mem_synced {type : JournalRecordType} {payload : Bytes} {before : StableStore}
    {after : Option StableStore} (written : Written type payload (some before) true after) :
    ∃ store, after = some store ∧ ⟨type, payload⟩ ∈ store.synced := by
  cases written with
  | synced journal appended flushed =>
      refine ⟨_, rfl, ?_⟩
      change (before.append type payload).1.isOk = true at appended
      change (before.append type payload).2.sync.1.isOk = true at flushed
      change _ ∈ (before.append type payload).2.sync.2.synced
      have listed : ⟨type, payload⟩ ∈ (before.append type payload).2.pending := by
        rw [StableStore.append] at appended ⊢
        split
        · rename_i closed
          rw [if_pos closed] at appended
          cases appended
        · rename_i opened
          rw [if_neg opened] at appended
          split
          · simp
          · rename_i failing
            rw [if_neg failing] at appended
            cases appended
      rw [StableStore.sync] at flushed ⊢
      split
      · rename_i closed
        rw [if_pos closed] at flushed
        cases flushed
      · rename_i opened
        rw [if_neg opened] at flushed
        split
        · exact List.mem_append_right _ listed
        · rename_i failing
          rw [if_neg failing] at flushed
          cases flushed

end Fabric

end QueueFabric
