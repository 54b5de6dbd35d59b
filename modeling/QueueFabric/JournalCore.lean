import QueueFabric.SerializeCore

/-!
The durable record store of `journal.hpp`: the interface a fabric writes
through, and a store that keeps exactly what that interface promises.
-/

namespace QueueFabric

/-- `IJournal`. Every call returns its status and the store afterwards. -/
class IJournal (J : Type) where
  openJournal : J → Status × J
  records : J → List JournalRecord
  recovery : J → RecoveryReport
  append : J → JournalRecordType → Bytes → Status × J
  sync : J → Status × J
  rewrite : J → List JournalRecord → Status × J
  writeHeader : J → BootId → Epoch → Status × J
  truncateToValidPrefix : J → Status × J

/-!
`StableStore` returns, in order, every record whose append and sync returned ok.
Nothing else is promised: `script` decides which of its calls fail, and a crash
keeps any prefix of the records that were appended and never synced.
-/

structure StableStore where
  synced : List JournalRecord := []
  pending : List JournalRecord := []
  opened : Bool := false
  script : List Bool := []

namespace StableStore

/-- The outcome of the next call; a finished script reports success. -/
def outcome (store : StableStore) : Bool := store.script.headD true

def advance (store : StableStore) : StableStore := { store with script := store.script.tail }

def notOpen : Status := ⟨.internal, "journal is not open"⟩

def openStore (store : StableStore) : Status × StableStore :=
  if store.outcome then
    (.success, { store.advance with
      synced := store.synced ++ store.pending
      pending := []
      opened := true })
  else (⟨.internal, "cannot open journal file"⟩, { store.advance with opened := false })

def append (store : StableStore) (type : JournalRecordType) (payload : Bytes) :
    Status × StableStore :=
  if !store.opened then (notOpen, store)
  else if store.outcome then
    (.success, { store.advance with pending := store.pending ++ [⟨type, payload⟩] })
  else (⟨.internal, "cannot append journal record payload"⟩, store.advance)

def sync (store : StableStore) : Status × StableStore :=
  if !store.opened then (notOpen, store)
  else if store.outcome then
    (.success, { store.advance with
      synced := store.synced ++ store.pending
      pending := [] })
  else (⟨.notDurable, "fsync failed"⟩, store.advance)

def rewrite (store : StableStore) (records : List JournalRecord) : Status × StableStore :=
  if !store.opened then (notOpen, store)
  else if store.outcome then
    (.success, { store.advance with
      synced := records
      pending := [] })
  else (⟨.notDurable, "compaction failed; original journal retained"⟩, store.advance)

def report : RecoveryReport := { journalPresent := true, headerValid := true, formatVersion := 1 }

/-- What a crash leaves behind: the synced records and the first `survivors` unsynced ones. -/
def crash (store : StableStore) (survivors : Nat) : StableStore :=
  { store with
    synced := store.synced ++ store.pending.take survivors
    pending := []
    opened := false }

end StableStore

instance : IJournal StableStore where
  openJournal := StableStore.openStore
  records store := store.synced ++ store.pending
  recovery _ := StableStore.report
  append := StableStore.append
  sync := StableStore.sync
  rewrite := StableStore.rewrite
  writeHeader store _ _ := (.success, store)
  truncateToValidPrefix store := (.success, store)

end QueueFabric
