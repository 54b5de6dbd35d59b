import QueueFabric.ServeCases

/-!
What the calls do to a stable store: which records it can hold afterwards.
-/

namespace QueueFabric

namespace StableStore

/-- Everything the next open may return. -/
def contents (store : StableStore) : List JournalRecord := store.synced ++ store.pending

theorem contents_append (store : StableStore) (type : JournalRecordType) (payload : Bytes) :
    (store.append type payload).2.contents = store.contents ∨
      (store.append type payload).2.contents = store.contents ++ [⟨type, payload⟩] := by
  rw [append]
  split
  · exact .inl rfl
  split
  · exact .inr (by simp [contents, advance])
  · exact .inl rfl

theorem contents_sync (store : StableStore) : store.sync.2.contents = store.contents := by
  rw [sync]
  split
  · rfl
  split
  · simp [contents]
  · rfl

theorem contents_rewrite (store : StableStore) (records : List JournalRecord) :
    (store.rewrite records).2.contents = store.contents ∨
      (store.rewrite records).2.contents = records := by
  rw [rewrite]
  split
  · exact .inl rfl
  split
  · exact .inr (by simp [contents])
  · exact .inl rfl

theorem contents_openStore (store : StableStore) :
    store.openStore.2.contents = store.contents := by
  rw [openStore]
  split
  · simp [contents]
  · rfl

theorem mem_contents_crash {store : StableStore} {survivors : Nat} {record : JournalRecord}
    (kept : record ∈ (store.crash survivors).contents) : record ∈ store.contents := by
  simp only [contents, crash, List.append_nil, List.mem_append] at kept ⊢
  exact kept.imp_right List.mem_of_mem_take

theorem mem_contents_append {store : StableStore} {type : JournalRecordType} {payload : Bytes}
    {record : JournalRecord} (member : record ∈ (store.append type payload).2.contents) :
    record ∈ store.contents ∨ record = ⟨type, payload⟩ := by
  rcases contents_append store type payload with same | longer
  · exact .inl (same ▸ member)
  · rw [longer, List.mem_append, List.mem_singleton] at member
    exact member

theorem mem_contents_written {store : StableStore} {type : JournalRecordType} {payload : Bytes}
    {record : JournalRecord}
    (member : record ∈ (store.append type payload).2.sync.2.contents) :
    record ∈ store.contents ∨ record = ⟨type, payload⟩ := by
  rw [contents_sync] at member
  exact mem_contents_append member

theorem mem_contents_commitRecords {store : StableStore} {encoded : Bytes} {record : JournalRecord}
    (member : record ∈ (Fabric.commitRecords store encoded).2.contents) :
    record ∈ store.contents ∨ record = ⟨.beginAttempt, encoded⟩ ∨
      record = ⟨.commitMutation, encoded⟩ := by
  simp only [Fabric.commitRecords] at member
  have begun : ∀ {record}, record ∈ (IJournal.append store .beginAttempt encoded).2.contents →
      record ∈ store.contents ∨ record = ⟨.beginAttempt, encoded⟩ :=
    fun member => mem_contents_append member
  have committed : ∀ {record}, record ∈ (IJournal.append
      (IJournal.append store .beginAttempt encoded).2 .commitMutation encoded).2.contents →
      record ∈ store.contents ∨ record = ⟨.beginAttempt, encoded⟩ ∨
        record = ⟨.commitMutation, encoded⟩ := by
    intro record member
    rcases mem_contents_append member with earlier | last
    · exact (begun earlier).imp_right .inl
    · exact .inr (.inr last)
  split at member
  · exact (begun member).imp_right .inl
  split at member
  · exact committed member
  split at member
  · exact committed (contents_sync _ ▸ member)
  · exact committed (contents_sync _ ▸ member)

end StableStore

namespace Fabric

/-- The store behind a fabric; a fabric without a journal has an empty one. -/
def store (fabric : Fabric StableStore) : StableStore := fabric.journal.getD {}

theorem Written.mem_contents {type : JournalRecordType} {payload : Bytes}
    {before after : Option StableStore} {ok : Bool}
    (written : Written type payload before ok after) {record : JournalRecord}
    (member : record ∈ (after.getD {}).contents) :
    record ∈ (before.getD {}).contents ∨ record = ⟨type, payload⟩ := by
  cases written with
  | unjournaled => exact .inl member
  | required => exact .inl member
  | appendFailed journal failed => exact StableStore.mem_contents_append member
  | syncFailed journal appended failed => exact StableStore.mem_contents_written member
  | synced journal appended flushed => exact StableStore.mem_contents_written member

theorem Committed.mem_contents {encoded : Bytes} {before after : Option StableStore} {ok : Bool}
    (committed : Committed encoded before ok after) {record : JournalRecord}
    (member : record ∈ (after.getD {}).contents) :
    record ∈ (before.getD {}).contents ∨ record = ⟨.beginAttempt, encoded⟩ ∨
      record = ⟨.commitMutation, encoded⟩ := by
  cases committed with
  | unjournaled => exact .inl member
  | required => exact .inl member
  | unencoded journal empty => exact .inl member
  | offered journal ok nonempty status => exact StableStore.mem_contents_commitRecords member

end Fabric

end QueueFabric
