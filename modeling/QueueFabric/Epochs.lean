import QueueFabric.Lib.Runs
import QueueFabric.SerializeRoundTrip
import QueueFabric.Growth

/-!
Epochs across process lives. An epoch is durable before a recovery or an advance
reports it, every later recovery starts above what the store has durable, and only
a compaction can take a record away.
-/

namespace QueueFabric

open Wire in
theorem feeds_epochState (state : EpochState) :
    Feeds True 0 (fun writer => ByteWriter.putU64 (ByteWriter.putU64 (ByteWriter.putU64
      (ByteWriter.putU64 writer state.boot.hi) state.boot.lo) state.epoch.value)
      state.coordinatorIncarnation.value) (pure (.ok state)) getEpochState := by
  have fed := feeds_start getEpochState
  have fed := fed.u64 state.boot.hi
  have fed := fed.u64 state.boot.lo
  have fed := fed.counter state.epoch
  exact fed.counter state.coordinatorIncarnation

open Wire in
theorem encodeEpochState_finish (state : EpochState) :
    encodeEpochState state = (ByteWriter.putU64 (ByteWriter.putU64 (ByteWriter.putU64
      (ByteWriter.putU64 (Writer.fresh 256) state.boot.hi) state.boot.lo) state.epoch.value)
      state.coordinatorIncarnation.value).finish := by
  simp [encodeEpochState, ByteWriter.putU64, Writer.putUInt, Writer.putRaw, Writer.fresh,
    Writer.finish, leBytes]

theorem decodeEpochState_encodeEpochState (state : EpochState) :
    decodeEpochState (encodeEpochState state) = .ok state := by
  have written := Fabric.encodeEpochState_ne_nil state
  rw [encodeEpochState_finish] at written ⊢
  have read := ((feeds_epochState state).finish 256 (by decide) written).1 trivial
  rw [decodeEpochState, decodeWhole, read]
  rfl
/-- The epochs the records of a store name. -/
def recordedEpochs (records : List JournalRecord) : List Epoch :=
  records.filterMap fun record =>
    match record.type, decodeEpochState record.payload with
    | .epochState, .ok state => some state.epoch
    | _, _ => none

theorem mem_recordedEpochs {records : List JournalRecord} {epoch : Epoch} :
    epoch ∈ recordedEpochs records ↔ ∃ payload state, ⟨.epochState, payload⟩ ∈ records ∧
      decodeEpochState payload = .ok state ∧ state.epoch = epoch := by
  simp only [recordedEpochs, List.mem_filterMap]
  constructor
  · rintro ⟨⟨type, payload⟩, listed, named⟩
    cases type with
    | epochState =>
        cases decoded : decodeEpochState payload with
        | error status => simp [decoded] at named
        | ok state =>
            simp only [decoded, Option.some.injEq] at named
            exact ⟨payload, state, listed, decoded, named⟩
    | _ => simp at named
  · rintro ⟨payload, state, listed, decoded, rfl⟩
    exact ⟨_, listed, by simp [decoded]⟩

theorem recordedEpochs_mono {fewer more : List JournalRecord} (subset : fewer ⊆ more) :
    recordedEpochs fewer ⊆ recordedEpochs more := by
  intro epoch named
  obtain ⟨payload, state, listed, decoded, rfl⟩ := mem_recordedEpochs.mp named
  exact mem_recordedEpochs.mpr ⟨payload, state, subset listed, decoded, rfl⟩

theorem mem_recordedEpochs_of_record {records : List JournalRecord} {state : EpochState}
    (listed : ⟨.epochState, encodeEpochState state⟩ ∈ records) :
    state.epoch ∈ recordedEpochs records :=
  mem_recordedEpochs.mpr ⟨_, state, listed, decodeEpochState_encodeEpochState state, rfl⟩

/-! Minting. -/

theorem Counter.next_cases {tag : CounterTag} {counter successor : Counter tag}
    (minted : counter.next = .ok successor) :
    successor.value.toNat = counter.value.toNat + 1 := by
  rw [Counter.next] at minted
  split at minted
  · cases minted
  · rename_i below
    have bound := counter.value.toNat_lt
    have small : counter.value.toNat ≠ 0xFFFFFFFFFFFFFFFF := fun full => below (UInt64.toNat_inj.mp full)
    cases minted
    simp only [UInt64.toNat_add, UInt64.toNat_one]
    omega

namespace Scan

theorem le_previousEpoch_addRecord (scan : Scan) (record : JournalRecord) :
    scan.previousEpoch.value ≤ (scan.addRecord record).previousEpoch.value := by
  have added := addRecord_cases scan record
  generalize scan.addRecord record = next at added
  cases added with
  | epoch state type decoded =>
      simp only [addEpoch]
      split
      · rename_i above
        exact UInt64.le_of_lt above
      · exact UInt64.le_refl _
  | _ => exact UInt64.le_refl _

theorem le_previousEpoch (scan : Scan) (records : List JournalRecord) :
    scan.previousEpoch.value ≤ (scan.addRecords records).previousEpoch.value := by
  induction records generalizing scan with
  | nil => exact UInt64.le_refl _
  | cons record rest ih =>
      exact UInt64.le_trans (le_previousEpoch_addRecord scan record) (ih (scan.addRecord record))

theorem recorded_le_previousEpoch {scan : Scan} {records : List JournalRecord} {epoch : Epoch}
    (named : epoch ∈ recordedEpochs records) :
    epoch.value ≤ (scan.addRecords records).previousEpoch.value := by
  obtain ⟨payload, state, listed, decoded, rfl⟩ := mem_recordedEpochs.mp named
  clear named
  induction records generalizing scan with
  | nil => cases listed
  | cons record rest ih =>
      rcases List.mem_cons.mp listed with rfl | later
      · refine UInt64.le_trans ?_ (le_previousEpoch _ rest)
        simp only [addRecord, decoded, addEpoch]
        split
        · exact UInt64.le_refl _
        · rename_i below
          exact UInt64.not_lt.mp below
      · exact ih later

theorem previousEpoch_addRecords (scan : Scan) (records : List JournalRecord) :
    (scan.addRecords records).previousEpoch = scan.previousEpoch ∨
      (scan.addRecords records).previousEpoch ∈ recordedEpochs records := by
  induction records generalizing scan with
  | nil => exact .inl rfl
  | cons record rest ih =>
      have grows := recordedEpochs_mono (List.subset_cons_self record rest)
      rcases ih (scan.addRecord record) with same | named
      · have added := addRecord_cases scan record
        change ((scan.addRecord record).addRecords rest).previousEpoch = _ ∨
          ((scan.addRecord record).addRecords rest).previousEpoch ∈ _
        rw [same]
        generalize scan.addRecord record = next at added
        cases added with
        | epoch state type decoded =>
            simp only [addEpoch]
            split
            · exact .inr (mem_recordedEpochs.mpr ⟨record.payload, state,
                mem_of_type type rest, decoded, rfl⟩)
            · exact .inl rfl
        | _ => exact .inl rfl
      · exact .inr (grows named)

theorem lt_of_mintEpoch {scan : Scan} {epoch : Epoch} (minted : scan.mintEpoch = .ok epoch) :
    scan.previousEpoch.value < epoch.value := by
  rw [mintEpoch] at minted
  split at minted
  · have step := Counter.next_cases minted
    exact UInt64.lt_iff_toNat_lt.mpr (by omega)
  · rename_i invalid
    cases minted
    simp only [Counter.valid, bne_iff_ne, ne_eq, not_not] at invalid
    rw [invalid]
    decide

theorem ceiling_of_mintEpoch {scan : Scan} {status : Status}
    (minted : scan.mintEpoch = .error status) : scan.previousEpoch.value = 0xFFFFFFFFFFFFFFFF := by
  rw [mintEpoch] at minted
  split at minted
  · rw [Counter.next] at minted
    split at minted
    · assumption
    · cases minted
  · cases minted

end Scan

open StableStore (Grown)

namespace Fabric

/-! Recoveries. -/

theorem revalidateAll_epoch {J : Type} (fabric : Fabric J) (outstanding : List MutationRequest) :
    (fabric.revalidateAll outstanding).epoch = fabric.epoch := by
  have noted : ∀ start : Fabric J,
      (outstanding.foldl noteUnfinished start).epoch = start.epoch := by
    induction outstanding with
    | nil => exact fun _ => rfl
    | cons request rest ih => exact fun start => ih (start.noteUnfinished request)
  exact noted _

/-- The journal names an epoch more than one above the fabric's own: the fabric did not get to
mint its epoch. -/
def Lags (fabric : Fabric StableStore) : Prop :=
  ∃ mark ∈ recordedEpochs fabric.store.contents,
    fabric.epoch.value.toNat + 1 < mark.value.toNat

instance (fabric : Fabric StableStore) : Decidable fabric.Lags := by
  unfold Lags
  infer_instance

/-- The journal of a fabric keeps a record at or above `epoch`. -/
def Remembers (fabric : Fabric StableStore) (epoch : Epoch) : Prop :=
  ∃ store, fabric.journal = some store ∧
    ∃ mark ∈ recordedEpochs store.synced, epoch.value ≤ mark.value

/-- What keeps `epoch` from being minted again. -/
structure Surpasses (fabric : Fabric StableStore) (epoch : Epoch) : Prop where
  remembers : fabric.Remembers epoch
  current : fabric.healthy = true → epoch.value ≤ fabric.epoch.value
  opened : fabric.store.opened = true → epoch.value ≤ fabric.epoch.value ∨ fabric.Lags

theorem Remembers.grown {before after : Fabric StableStore} {epoch : Epoch}
    (remembers : before.Remembers epoch) (grown : Grown before.journal after.journal) :
    after.Remembers epoch := by
  obtain ⟨store, present, mark, named, below⟩ := remembers
  rw [present] at grown
  generalize later : after.journal = journal at grown
  cases grown with
  | grown grows => exact ⟨_, later, mark, recordedEpochs_mono grows.synced named, below⟩

theorem Surpasses.follows {before after : Fabric StableStore} {epoch : Epoch}
    (surpasses : before.Surpasses epoch) (follows : Follows before after) :
    after.Surpasses epoch := by
  refine ⟨surpasses.remembers.grown follows.journal, fun well => ?_, fun opened => ?_⟩
  · rw [follows.epoch]
    exact surpasses.current (follows.healthy well)
  · have grown := follows.journal
    obtain ⟨store, present, _⟩ := surpasses.remembers
    simp only [Lags, Fabric.store, follows.epoch] at opened ⊢
    rw [present] at grown
    generalize after.journal = journal at grown opened
    cases grown with
    | grown grows =>
        have before := surpasses.opened
        simp only [Lags, Fabric.store, present, Option.getD_some] at before opened ⊢
        refine (before (grows.opened ▸ opened)).imp_right ?_
        rintro ⟨mark, named, lags⟩
        exact ⟨mark, recordedEpochs_mono grows.contents named, lags⟩

theorem recorded_le_scanJournal (fabric : Fabric StableStore) {store : StableStore} {epoch : Epoch}
    (named : epoch ∈ recordedEpochs store.contents) :
    epoch.value ≤ (fabric.beginRecovery.scanJournal store.openStore.2).previousEpoch.value := by
  refine Scan.recorded_le_previousEpoch ?_
  change epoch ∈ recordedEpochs store.openStore.2.contents
  rw [StableStore.contents_openStore]
  exact named

theorem previousEpoch_scanJournal (fabric : Fabric StableStore) (store : StableStore) :
    (fabric.beginRecovery.scanJournal store.openStore.2).previousEpoch = default ∨
      (fabric.beginRecovery.scanJournal store.openStore.2).previousEpoch ∈
        recordedEpochs store.contents := by
  rw [← StableStore.contents_openStore]
  exact Scan.previousEpoch_addRecords _ _

/-- A recovery that succeeds is above every epoch its store remembered, and the store remembers
it. -/
theorem RecoverCase.surpasses {fabric : Fabric StableStore} {reply : Reply StableStore Unit}
    (ended : RecoverCase fabric reply) {epoch : Epoch} (remembers : fabric.Remembers epoch) :
    reply.fabric.Surpasses epoch ∧
      (reply.result.isOk = true → epoch.value < reply.fabric.epoch.value) := by
  obtain ⟨known, found, mark, named, below⟩ := remembers
  cases ended with
  | unjournaled absent result touch journal =>
      rw [found] at absent
      cases absent
  | unopened store present failed result touch journal failing =>
      rw [found, Option.some.injEq] at present
      subst present
      obtain ⟨closed, kept⟩ := closed_of_openStore failed
      refine ⟨⟨⟨_, journal, mark, kept ▸ named, below⟩, fun well => ?_, fun opened => ?_⟩, ?_⟩
      · rw [failing] at well
        cases well
      · simp only [Fabric.store, journal, Option.getD_some, closed] at opened
        cases opened
      · intro done
        rw [result] at done
        cases done
  | exhausted store scan status present opened scanned minted result touch journal failing =>
      rw [found, Option.some.injEq] at present
      subst present
      obtain ⟨_, kept⟩ := opened_of_openStore opened
      have listed := recordedEpochs_mono (List.subset_append_left known.synced known.pending) named
      refine ⟨⟨⟨_, journal, mark, ?_, below⟩, fun well => ?_, fun opened => .inr ?_⟩, ?_⟩
      · rw [kept]
        exact listed
      · rw [failing] at well
        cases well
      · -- the scan stopped at the ceiling, so a record of the store names it
        have ceiling := Scan.ceiling_of_mintEpoch minted
        rcases previousEpoch_scanJournal fabric known with zero | top
        · rw [scanned, zero] at ceiling
          cases ceiling
        · refine ⟨scan.previousEpoch, ?_, ?_⟩
          · rw [Fabric.store, journal, Option.getD_some, StableStore.contents_openStore, scanned]
            exact top
          · have lowest : reply.fabric.epoch = ⟨1⟩ := touch.epoch
            rw [ceiling, lowest]
            decide
      · intro done
        rw [result] at done
        cases done
  | replayed store last scan minted replayed payload present opened scanned mint installed kept
      touch written name =>
      rw [found, Option.some.injEq] at present
      subst present
      obtain ⟨_, synced⟩ := opened_of_openStore opened
      have follows := replayAll_follows ((fabric.beginRecovery.adoptScan known.openStore.2
        scan).installScan scan minted) scan.replayOrder
      rw [← installed] at follows
      have entered : reply.fabric.epoch = minted :=
        touch.epoch.trans ((revalidateAll_epoch replayed _).trans follows.epoch)
      have listed := recordedEpochs_mono (List.subset_append_left known.synced known.pending) named
      have above : mark.value < minted.value := by
        refine UInt64.lt_of_le_of_lt ?_ (Scan.lt_of_mintEpoch mint)
        rw [scanned]
        exact recorded_le_scanJournal fabric listed
      have reached : epoch.value < reply.fabric.epoch.value := by
        rw [entered]
        exact UInt64.lt_of_le_of_lt below above
      refine ⟨⟨?_, fun _ => UInt64.le_of_lt reached, fun _ => .inl (UInt64.le_of_lt reached)⟩,
        fun _ => reached⟩
      have grown : Grown (some known.openStore.2) reply.fabric.journal :=
        follows.journal.trans (kept ▸ written.grown)
      have opening : Remembers ((fabric.beginRecovery.adoptScan known.openStore.2
          scan).installScan scan minted) epoch := ⟨_, rfl, mark, synced ▸ listed, below⟩
      exact opening.grown grown

theorem RecoverCase.remembers {fabric : Fabric StableStore} {reply : Reply StableStore Unit}
    (ended : RecoverCase fabric reply) (present : fabric.journal.isSome = true)
    (done : reply.result.isOk = true) : reply.fabric.Surpasses reply.fabric.epoch := by
  refine ⟨?_, fun _ => UInt64.le_refl _, fun _ => .inl (UInt64.le_refl _)⟩
  cases ended with
  | unjournaled absent result touch journal =>
      rw [absent] at present
      cases present
  | unopened store present failed result touch journal failing =>
      rw [result] at done
      cases done
  | exhausted store scan status present opened scanned minted result touch journal failing =>
      rw [result] at done
      cases done
  | replayed store last scan minted replayed payload present opened scanned mint installed kept
      touch written named =>
      rw [done] at written
      obtain ⟨store, saved, listed⟩ := written.mem_synced
      rw [named, epochPayload] at listed
      refine ⟨store, saved, _, mem_recordedEpochs_of_record listed, ?_⟩
      rw [touch.epoch]
      exact UInt64.le_refl _

end Fabric

/-- The operations that install an epoch. -/
def Step.installs : Step → Bool
  | .call .recover _ => true
  | .call operation _ => operation.advances
  | .restart _ _ _ _ => true

namespace System

/-- The step is a recovery or an advance that succeeds and leaves the fabric in `epoch`. -/
structure Installs (system : System) (input : Step) (epoch : Epoch) : Prop where
  installs : Step.installs input = true
  succeeds : (system.step input).result.isOk = true
  installed : (system.step input).fabric.epoch = epoch

/-- A compaction over an open journal that names an epoch the fabric did not get to. -/
def Rewinds (system : System) (input : Step) : Prop :=
  ∃ script, input = .call .compact script ∧ system.fabric.store.opened = true ∧ system.fabric.Lags

theorem surpasses_withScript {fabric : Fabric StableStore} {epoch : Epoch}
    (surpasses : fabric.Surpasses epoch) (script : List Bool) :
    (withScript fabric script).Surpasses epoch := by
  obtain ⟨⟨store, present, mark, named, below⟩, current, opened⟩ := surpasses
  simp only [Fabric.Lags, Fabric.store, present, Option.getD_some] at opened
  refine ⟨⟨{ store with script }, ?_, mark, named, below⟩, current, ?_⟩
  · simp [withScript, present]
  · simp only [Fabric.Lags, Fabric.store, withScript, present, Option.map_some, Option.getD_some]
    exact opened

/-- A compaction that does not rewind keeps the epochs of the store below the fabric's. -/
theorem surpasses_compact {fabric after : Fabric StableStore} {store : StableStore} {epoch : Epoch}
    (surpasses : fabric.Surpasses epoch) (present : fabric.journal = some store)
    (touch : Fabric.Touch fabric after)
    (rewritten : after.journal = some (store.rewrite fabric.buildSnapshotLocked).2)
    (kept : store.opened = true → ¬ fabric.Lags) : after.Surpasses epoch := by
  have opened := surpasses.opened
  rw [Fabric.store, present, Option.getD_some] at opened
  rw [StableStore.rewrite] at rewritten
  split at rewritten
  · exact surpasses.follows (touch.follows_of_eq (rewritten.trans present.symm))
  rename_i open'
  have reached : epoch.value ≤ fabric.epoch.value :=
    (opened (by simpa using open')).resolve_right (kept (by simpa using open'))
  split at rewritten
  · have listed : ⟨.epochState, fabric.epochPayload⟩ ∈ fabric.buildSnapshotLocked := by
      simp [Fabric.buildSnapshotLocked, Fabric.epochPayload]
    refine ⟨⟨_, rewritten, fabric.epoch, mem_recordedEpochs_of_record listed, reached⟩, ?_, ?_⟩
    · intro _
      rw [touch.epoch]
      exact reached
    · intro _
      rw [touch.epoch]
      exact .inl reached
  · refine surpasses.follows (touch.follows ?_)
    rw [rewritten, present]
    exact .grown ⟨List.Subset.refl _, List.Subset.refl _, rfl⟩

/-- What a step that does not rewind does to an epoch that was installed before it. -/
theorem surpasses_step {system : System} {input : Step} {epoch : Epoch}
    (surpasses : system.fabric.Surpasses epoch) (kept : ¬ Rewinds system input) :
    (system.step input).fabric.Surpasses epoch ∧
      ∀ later, Installs system input later → epoch.value < later.value := by
  have recovered : ∀ fabric : Fabric StableStore, fabric.Remembers epoch →
      system.step input = ⟨fabric.recover.fabric, fabric.recover.result.map fun _ => .done⟩ →
      (system.step input).fabric.Surpasses epoch ∧
        ∀ later, Installs system input later → epoch.value < later.value := by
    intro fabric remembers same
    obtain ⟨still, above⟩ := (Fabric.recover_cases fabric).surpasses remembers
    rw [same]
    refine ⟨still, fun later installs => ?_⟩
    have done := installs.succeeds
    rw [same] at done
    rw [← installs.installed, same]
    refine above ?_
    cases ended : fabric.recover.result with
    | error status => simp [ended, Except.map, Except.isOk, Except.toBool] at done
    | ok value => rfl
  cases input with
  | restart survivors clock seed script =>
      obtain ⟨store, present, mark, named, below⟩ := surpasses.remembers
      refine recovered _ ⟨{ store.crash survivors with script }, ?_, mark, ?_, below⟩ rfl
      · simp [withScript, Fabric.create, present]
      · exact recordedEpochs_mono (List.subset_append_left _ _) named
  | call call script =>
      have here := surpasses_withScript surpasses script
      by_cases living : call = .recover
      · subst living
        exact recovered _ here.remembers rfl
      · have ended := Fabric.serve_epoch (withScript system.fabric script) living
        have served : (system.step (.call call script)).fabric =
            ((withScript system.fabric script).serve call).fabric := rfl
        rw [served]
        generalize replied : (withScript system.fabric script).serve call = reply at ended ⊢
        have installing : ∀ later, Installs system (.call call script) later →
            call.advances = true ∧ reply.result.isOk = true ∧ reply.fabric.epoch = later := by
          intro later installs
          have succeeds : ((withScript system.fabric script).serve call).result.isOk = true :=
            installs.succeeds
          have installed : ((withScript system.fabric script).serve call).fabric.epoch = later :=
            installs.installed
          rw [replied] at succeeds installed
          refine ⟨?_, succeeds, installed⟩
          have flagged := installs.installs
          cases call with
          | recover => exact absurd rfl living
          | _ => exact flagged
        cases ended with
        | follows follows idle =>
            refine ⟨here.follows follows, fun later installs => ?_⟩
            obtain ⟨advances, succeeds, _⟩ := installing later installs
            rw [idle advances] at succeeds
            cases succeeds
        | advanced principal provenance next minted healthy entered written =>
            have reached : epoch.value < next.value := by
              have step := Counter.next_cases minted
              have current := here.current healthy
              rw [UInt64.le_iff_toNat_le] at current
              rw [UInt64.lt_iff_toNat_lt]
              omega
            refine ⟨⟨here.remembers.grown written.grown, ?_, ?_⟩, fun later installs => ?_⟩
            · intro _
              rw [entered]
              exact UInt64.le_of_lt reached
            · intro _
              rw [entered]
              exact .inl (UInt64.le_of_lt reached)
            · obtain ⟨_, _, rfl⟩ := installing later installs
              rw [entered]
              exact reached
        | compacted store present touch rewritten =>
            refine ⟨surpasses_compact here present touch rewritten fun opened lags => ?_,
              fun later installs => ?_⟩
            · refine kept ⟨script, rfl, ?_, ?_⟩
              · simp only [withScript, Option.map_eq_some_iff] at present
                obtain ⟨held, found, rfl⟩ := present
                rw [Fabric.store, found]
                exact opened
              · rw [Fabric.Lags, contents_withScript] at lags
                exact lags
            · obtain ⟨advances, _⟩ := installing later installs
              cases advances

/-! The journal is there throughout. -/

theorem present_recover {fabric : Fabric StableStore} (present : fabric.journal.isSome = true) :
    fabric.recover.fabric.journal.isSome = true := by
  have ended := Fabric.recover_cases fabric
  generalize fabric.recover = reply at ended
  cases ended with
  | unjournaled absent result touch journal =>
      rw [absent] at present
      cases present
  | unopened store present failed result touch journal failing => rw [journal]; rfl
  | exhausted store scan status present opened scanned minted result touch journal failing =>
      rw [journal]
      rfl
  | replayed store last scan minted replayed payload present opened scanned mint installed kept
      touch written named =>
      have grown := written.grown
      generalize reply.fabric.journal = journal at grown
      cases grown with
      | grown grows => rfl

theorem present_step {system : System} (input : Step)
    (present : system.fabric.journal.isSome = true) :
    (system.step input).fabric.journal.isSome = true := by
  cases input with
  | restart survivors clock seed script =>
      refine present_recover ?_
      simpa [withScript, Fabric.create] using present
  | call call script =>
      have here : (withScript system.fabric script).journal.isSome = true := by
        simpa [withScript] using present
      by_cases living : call = .recover
      · subst living
        exact present_recover here
      · have ended := Fabric.serve_epoch (withScript system.fabric script) living
        change ((withScript system.fabric script).serve call).fabric.journal.isSome = true
        generalize (withScript system.fabric script).serve call = reply at ended
        cases ended with
        | follows follows idle => exact follows.journal.present here
        | advanced principal provenance next minted healthy entered written =>
            exact written.grown.present here
        | compacted store held touch rewritten =>
            rw [rewritten]
            rfl

theorem Installs.surpasses {system : System} {input : Step} {epoch : Epoch}
    (installs : Installs system input epoch) (present : system.fabric.journal.isSome = true) :
    (system.step input).fabric.Surpasses epoch := by
  obtain ⟨flagged, succeeds, rfl⟩ := installs
  have recovered : ∀ fabric : Fabric StableStore, fabric.journal.isSome = true →
      (fabric.recover.result.map fun _ => Answer.done).isOk = true →
      fabric.recover.fabric.Surpasses fabric.recover.fabric.epoch := by
    intro fabric present done
    refine (Fabric.recover_cases fabric).remembers present ?_
    cases ended : fabric.recover.result with
    | error status => simp [ended, Except.map, Except.isOk, Except.toBool] at done
    | ok value => rfl
  cases input with
  | restart survivors clock seed script =>
      refine recovered _ ?_ succeeds
      simpa [withScript, Fabric.create] using present
  | call call script =>
      have here : (withScript system.fabric script).journal.isSome = true := by
        simpa [withScript] using present
      by_cases living : call = .recover
      · subst living
        exact recovered _ here succeeds
      · have advances : call.advances = true := by
          cases call with
          | recover => exact absurd rfl living
          | _ => exact flagged
        have ended := Fabric.serve_epoch (withScript system.fabric script) living
        change ((withScript system.fabric script).serve call).result.isOk = true at succeeds
        change ((withScript system.fabric script).serve call).fabric.Surpasses
          ((withScript system.fabric script).serve call).fabric.epoch
        generalize (withScript system.fabric script).serve call = reply at ended succeeds
        refine ⟨?_, fun _ => UInt64.le_refl _, fun _ => .inl (UInt64.le_refl _)⟩
        cases ended with
        | follows follows idle =>
            rw [idle advances] at succeeds
            cases succeeds
        | advanced principal provenance next minted healthy entered written =>
            obtain ⟨before, held⟩ := Option.isSome_iff_exists.mp here
            rw [held] at written
            obtain ⟨store, saved, listed⟩ := written.mem_synced
            refine ⟨store, saved, next, mem_recordedEpochs_of_record listed, ?_⟩
            rw [entered]
            exact UInt64.le_refl _
        | compacted store held touch rewritten => cases advances

/-- The epoch a step would install lies past the ceiling of the counter. -/
inductive AtCeiling (system : System) : Step → Prop
  | recovers (input : Step) (fabric : Fabric StableStore)
      (started : system.recovering input = some fabric)
      (named : ⟨0xFFFFFFFFFFFFFFFF⟩ ∈ recordedEpochs fabric.store.contents) :
      AtCeiling system input
  | advances (principal : OwnerId) (provenance : Provenance) (script : List Bool)
      (reached : system.fabric.epoch.value = 0xFFFFFFFFFFFFFFFF) :
      AtCeiling system (.call (.advanceEpoch principal provenance) script)

theorem AtCeiling.fails {system : System} {input : Step} (ceiling : AtCeiling system input) :
    (system.step input).result.isOk = false := by
  cases ceiling with
  | recovers _ fabric started named =>
      have stepped : (system.step input).result =
          fabric.recover.result.map fun _ => Answer.done := by
        cases input with
        | restart survivors clock seed script =>
            cases started
            rfl
        | call call script =>
            cases call with
            | recover =>
                cases started
                rfl
            | _ => cases started
      rw [stepped]
      have ended := Fabric.recover_cases fabric
      generalize fabric.recover = reply at ended
      cases ended with
      | unjournaled absent result touch journal =>
          simp [Fabric.store, absent, StableStore.contents, recordedEpochs] at named
      | unopened store present failed result touch journal failing => rw [result]; rfl
      | exhausted store scan status present opened scanned minted result touch journal failing =>
          rw [result]
          rfl
      | replayed store last scan minted replayed payload present opened scanned mint installed kept
          touch written named' =>
          rw [Fabric.store, present] at named
          have above := Fabric.recorded_le_scanJournal fabric named
          have below := Scan.lt_of_mintEpoch mint
          rw [scanned] at below
          have reached := UInt64.lt_of_le_of_lt above below
          have bound := minted.value.toNat_lt
          rw [UInt64.lt_iff_toNat_lt] at reached
          change 0xFFFFFFFFFFFFFFFF < minted.value.toNat at reached
          omega
  | advances principal provenance script reached =>
      have living : Call.advanceEpoch principal provenance ≠ .recover := by simp
      have ended := Fabric.serve_epoch (withScript system.fabric script) living
      change ((withScript system.fabric script).serve _).result.isOk = false
      generalize (withScript system.fabric script).serve _ = reply at ended
      cases ended with
      | follows follows idle => exact idle rfl
      | advanced _ _ next minted healthy entered written =>
          have stuck : (withScript system.fabric script).epoch.next =
              .error ⟨.capacityExceeded, "counter exhausted"⟩ := by
            rw [Counter.next, if_pos]
            exact reached
          rw [stuck] at minted
          cases minted

/-- A fabric over a journal, before its first recovery. -/
def newborn (config : FabricConfig) (store : StableStore) (clock : Clock) (seed : UInt64) :
    System := ⟨Fabric.create config clock (some store) seed, .ok .done⟩

theorem surpasses_run {system : System} {epoch : Epoch} (surpasses : system.fabric.Surpasses epoch)
    {steps : List Step}
    (kept : Runs.Along step (fun system input => ¬ Rewinds system input) system steps) :
    (system.run steps).fabric.Surpasses epoch := by
  refine @Runs.invariant _ _ step _ (fun system => system.fabric.Surpasses epoch) ?_ _ surpasses _
    kept
  exact fun _ _ held allowed => (surpasses_step held allowed).1

theorem present_run {system : System} (present : system.fabric.journal.isSome = true)
    (steps : List Step) : (system.run steps).fabric.journal.isSome = true := by
  refine @Runs.invariant _ _ step (fun _ _ => True)
    (fun system => system.fabric.journal.isSome = true) ?_ _ present _
    (Runs.along_of_all (fun _ _ => trivial) system steps)
  exact fun _ input held _ => present_step input held

/-- Epochs are never reused unless a compaction rewinds the journal, and never wrap. -/
theorem epochs_ascend (config : FabricConfig) (store : StableStore) (clock : Clock) (seed : UInt64)
    (steps : List Step)
    (kept : Runs.Along step (fun system input => ¬ Rewinds system input)
      (newborn config store clock seed) steps) :
    (∀ first early second late third old new, steps = first ++ early :: second ++ late :: third →
      Installs ((newborn config store clock seed).run first) early old →
      Installs ((newborn config store clock seed).run (first ++ early :: second)) late new →
      old.value < new.value) ∧
    ∀ first input rest, steps = first ++ input :: rest →
      AtCeiling ((newborn config store clock seed).run first) input →
      (((newborn config store clock seed).run first).step input).result.isOk = false := by
  refine ⟨?_, fun first input rest _ ceiling => ceiling.fails⟩
  rintro first early second late third old new rfl earlier later
  have present : (newborn config store clock seed).fabric.journal.isSome = true := rfl
  generalize newborn config store clock seed = start at kept earlier later present
  obtain ⟨before, last, _⟩ := (Runs.along_append _ _ _).mp kept
  obtain ⟨_, _, between⟩ := (Runs.along_append _ _ _).mp before
  have reached : start.run (first ++ early :: second) =
      ((start.run first).step early).run second := by
    simp [run]
  have surpasses := surpasses_run (earlier.surpasses (present_run present first)) between
  rw [reached] at later
  change ¬ Rewinds (start.run (first ++ early :: second)) late at last
  rw [reached] at last
  exact (surpasses_step surpasses last).2 new later

/-! An advance, a compaction and a restart; and the compaction of a fabric at the ceiling. -/

def epochClock : Clock := ⟨fun _ => 1000, 0⟩

def advancing : Step :=
  .call (.advanceEpoch ⟨5⟩ { publisher := ⟨9⟩, node := ⟨1⟩, incarnation := ⟨1⟩, epoch := ⟨1⟩,
                             sequence := ⟨1⟩, boot := ⟨1, 1⟩ }) []

def epochSteps : List Step := [
  .call .recover [],
  advancing,
  .call .compact [],
  .restart 0 epochClock 7 []]

theorem epochSteps_kept : Runs.Along step (fun system input => ¬ Rewinds system input)
    (newborn {} {} epochClock 7) epochSteps := by
  refine ⟨?_, ?_, ?_, ?_, trivial⟩
  · rintro ⟨_, same, _⟩
    cases same
  · rintro ⟨_, same, _⟩
    cases same
  · rintro ⟨_, _, _, lags⟩
    revert lags
    decide +kernel
  · rintro ⟨_, same, _⟩
    cases same

theorem epochs_ascend_once : ∃ old new,
    Installs (newborn {} {} epochClock 7) (.call .recover []) old ∧
    Installs ((newborn {} {} epochClock 7).run (epochSteps.take 3)) (.restart 0 epochClock 7 []) new ∧
      old.value < new.value := by
  have first : Installs (newborn {} {} epochClock 7) (.call .recover []) ⟨1⟩ :=
    ⟨rfl, by decide +kernel, by decide +kernel⟩
  have last : Installs ((newborn {} {} epochClock 7).run (epochSteps.take 3))
      (.restart 0 epochClock 7 []) ⟨3⟩ := ⟨rfl, by decide +kernel, by decide +kernel⟩
  exact ⟨⟨1⟩, ⟨3⟩, first, last, (epochs_ascend {} {} epochClock 7 epochSteps epochSteps_kept).1 []
    (.call .recover []) (epochSteps.tail.take 2) (.restart 0 epochClock 7 []) [] ⟨1⟩ ⟨3⟩ rfl first
    last⟩

/-- A journal whose last epoch is two below the ceiling. -/
def spentStore : StableStore :=
  { synced := [⟨.epochState, encodeEpochState ⟨⟨1, 1⟩, ⟨0xFFFFFFFFFFFFFFFD⟩, ⟨1⟩⟩⟩] }

/-- The first life advances to the last epoch, the second cannot recover but still compacts, and
the third is back at epoch 2. -/
theorem exhausted_compaction_rewinds :
    ¬ ∀ (config : FabricConfig) (store : StableStore) (clock : Clock) (seed : UInt64)
      (first : List Step) (early : Step) (second : List Step) (late : Step) (old new : Epoch),
      Installs ((newborn config store clock seed).run first) early old →
      Installs ((newborn config store clock seed).run (first ++ early :: second)) late new →
      old.value < new.value := by
  intro ascending
  have first : Installs ((newborn {} spentStore epochClock 7).run [.call .recover []]) advancing
      ⟨0xFFFFFFFFFFFFFFFF⟩ := ⟨rfl, by decide +kernel, by decide +kernel⟩
  have last : Installs ((newborn {} spentStore epochClock 7).run [.call .recover [], advancing,
      .restart 0 epochClock 7 [], .call .compact []]) (.restart 0 epochClock 7 []) ⟨2⟩ :=
    ⟨rfl, by decide +kernel, by decide +kernel⟩
  have reused := ascending {} spentStore epochClock 7 [.call .recover []] advancing
    [.restart 0 epochClock 7 [], .call .compact []] _ _ _ first last
  revert reused
  decide

end System

end QueueFabric
