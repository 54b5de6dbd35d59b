import QueueFabric.SerializeCore

/-!
Round trips of the durable encodings. Each lemma names one field or field group
and moves a `Feeds` past it; the record lemmas list their fields in order.
-/

namespace QueueFabric

/-! Stored enumerations. -/

theorem Code.ofRaw_toRaw (code : Code) : Code.ofRaw code.toRaw = code := by
  cases code with
  | unlisted offset =>
      have bound := offset.isLt
      have raw : (unlisted offset).toRaw.toNat = offset.val + 29 :=
        UInt16.toNat_ofNat_of_lt' (by simp only [UInt16.size]; omega)
      rw [ofRaw, dif_neg (by omega)]
      exact congrArg unlisted (Fin.ext (by simp only [raw]; omega))
  | _ => rfl

theorem MutationKind.ofRaw_toRaw (kind : MutationKind) : MutationKind.ofRaw kind.toRaw = kind := by
  cases kind with
  | unlisted offset =>
      have bound := offset.isLt
      have raw : (unlisted offset).toRaw.toNat = offset.val + 19 :=
        UInt16.toNat_ofNat_of_lt' (by simp only [UInt16.size]; omega)
      rw [ofRaw, dif_neg (by omega)]
      exact congrArg unlisted (Fin.ext (by simp only [raw]; omega))
  | _ => rfl

theorem Lifecycle.ofRaw_toRaw (lifecycle : Lifecycle) :
    Lifecycle.ofRaw lifecycle.toRaw = lifecycle := by
  cases lifecycle with
  | unlisted offset =>
      have bound := offset.isLt
      have raw : (unlisted offset).toRaw.toNat = offset.val + 7 :=
        UInt8.toNat_ofNat_of_lt' (by simp only [UInt8.size]; omega)
      rw [ofRaw, dif_neg (by omega)]
      exact congrArg unlisted (Fin.ext (by simp only [raw]; omega))
  | _ => rfl

theorem Freshness.ofRaw_toRaw (freshness : Freshness) :
    Freshness.ofRaw freshness.toRaw = freshness := by
  cases freshness with
  | unlisted offset =>
      have bound := offset.isLt
      have raw : (unlisted offset).toRaw.toNat = offset.val + 8 :=
        UInt8.toNat_ofNat_of_lt' (by simp only [UInt8.size]; omega)
      rw [ofRaw, dif_neg (by omega)]
      exact congrArg unlisted (Fin.ext (by simp only [raw]; omega))
  | _ => rfl

theorem DrainPhase.ofRaw_toRaw (phase : DrainPhase) : DrainPhase.ofRaw phase.toRaw = phase := by
  cases phase with
  | unlisted offset =>
      have bound := offset.isLt
      have raw : (unlisted offset).toRaw.toNat = offset.val + 4 :=
        UInt8.toNat_ofNat_of_lt' (by simp only [UInt8.size]; omega)
      rw [ofRaw, dif_neg (by omega)]
      exact congrArg unlisted (Fin.ext (by simp only [raw]; omega))
  | _ => rfl

end QueueFabric

namespace Wire.Feeds

open QueueFabric

variable {ε α : Type} {fits : Prop} {size : Nat} {put : Wire.Writer → Wire.Writer}
  {get : Get (Except ε α)}

/-! Scalars. -/

theorem u64_sized {next : UInt64 → Get (Except ε α)}
    (fed : Feeds fits size put (getU64 >>= next) get) (value : UInt64) :
    Feeds fits (size + 8) (fun writer => ByteWriter.putU64 (put writer) value) (next value) get := by
  simp only [getU64, bind_assoc, pure_bind] at fed
  have read := fed.uint value.toNat
  have small : value.toNat % 256 ^ 8 = value.toNat := Nat.mod_eq_of_lt value.toNat_lt
  rwa [small, UInt64.ofNat_toNat] at read

theorem u64 {next : UInt64 → Get (Except ε α)}
    (fed : Feeds fits size put (getU64 >>= next) get) (value : UInt64) :
    Feeds fits size (fun writer => ByteWriter.putU64 (put writer) value) (next value) get :=
  (fed.u64_sized value).weaken (by omega)

theorem u32 {next : UInt32 → Get (Except ε α)}
    (fed : Feeds fits size put (getU32 >>= next) get) (value : UInt32) :
    Feeds fits size (fun writer => ByteWriter.putU32 (put writer) value) (next value) get := by
  simp only [getU32, bind_assoc, pure_bind] at fed
  have read := (fed.uint value.toNat).weaken (Nat.le_add_right size 4)
  have small : value.toNat % 256 ^ 4 = value.toNat := Nat.mod_eq_of_lt value.toNat_lt
  rwa [small, UInt32.ofNat_toNat] at read

theorem u16 {next : UInt16 → Get (Except ε α)}
    (fed : Feeds fits size put (getU16 >>= next) get) (value : UInt16) :
    Feeds fits size (fun writer => ByteWriter.putU16 (put writer) value) (next value) get := by
  simp only [getU16, bind_assoc, pure_bind] at fed
  have read := (fed.uint value.toNat).weaken (Nat.le_add_right size 2)
  have small : value.toNat % 256 ^ 2 = value.toNat := Nat.mod_eq_of_lt value.toNat_lt
  rwa [small, UInt16.ofNat_toNat] at read

theorem u8 {next : UInt8 → Get (Except ε α)}
    (fed : Feeds fits size put (getU8 >>= next) get) (value : UInt8) :
    Feeds fits size (fun writer => ByteWriter.putU8 (put writer) value) (next value) get := by
  simp only [getU8, bind_assoc, pure_bind] at fed
  have read := (fed.uint value.toNat).weaken (Nat.le_add_right size 1)
  have small : value.toNat % 256 ^ 1 = value.toNat := Nat.mod_eq_of_lt value.toNat_lt
  rwa [small, UInt8.ofNat_toNat] at read

theorem bool {next : Bool → Get (Except ε α)}
    (fed : Feeds fits size put (getBool >>= next) get) (value : Bool) :
    Feeds fits size (fun writer => ByteWriter.putBool (put writer) value) (next value) get := by
  simp only [getBool, bind_assoc, pure_bind] at fed
  have read := fed.u8 (if value then 1 else 0)
  cases value <;> exact read

theorem i64 {next : Int64 → Get (Except ε α)}
    (fed : Feeds fits size put (getI64 >>= next) get) (value : Int64) :
    Feeds fits size (fun writer => ByteWriter.putI64 (put writer) value) (next value) get := by
  simp only [getI64, bind_assoc, pure_bind] at fed
  have read := fed.u64 value.toUInt64
  rwa [Int64.toInt64_toUInt64] at read

theorem ident {tag : IdTag} {next : Ident tag → Get (Except ε α)}
    (fed : Feeds fits size put (getIdent tag >>= next) get) (value : Ident tag) :
    Feeds fits size (fun writer => ByteWriter.putU64 (put writer) value.value) (next value) get := by
  simp only [getIdent, bind_assoc, pure_bind] at fed
  exact fed.u64 value.value

theorem ident_sized {tag : IdTag} {next : Ident tag → Get (Except ε α)}
    (fed : Feeds fits size put (getIdent tag >>= next) get) (value : Ident tag) :
    Feeds fits (size + 1) (fun writer => ByteWriter.putU64 (put writer) value.value)
      (next value) get := by
  simp only [getIdent, bind_assoc, pure_bind] at fed
  exact (fed.u64_sized value.value).weaken (by omega)

theorem counter {tag : CounterTag} {next : Counter tag → Get (Except ε α)}
    (fed : Feeds fits size put (getCounter tag >>= next) get) (value : Counter tag) :
    Feeds fits size (fun writer => ByteWriter.putU64 (put writer) value.value) (next value) get := by
  simp only [getCounter, bind_assoc, pure_bind] at fed
  exact fed.u64 value.value

/-! Strings. -/

theorem putString_ok {writer : Wire.Writer} {value : Text}
    (ok : (ByteWriter.putString writer value).failed = false) :
    value.length ≤ Limits.maxNameChars := by
  by_contra long
  rw [ByteWriter.putString, if_pos (by omega)] at ok
  simp at ok

theorem string_length {limit : Nat} {next : Text → Get (Except ε α)}
    (fed : Feeds fits size put (getString limit >>= next) get) (value : Text)
    (short : value.length ≤ Limits.maxNameChars) :
    Feeds fits size (fun writer => ByteWriter.putU16 (put writer) (UInt16.ofNat value.length))
      (if value.length > limit then latch >>= fun _ => next []
        else getRaw value.length >>= next) get := by
  simp only [Limits.maxNameChars] at short
  have counted : (UInt16.ofNat value.length).toNat = value.length :=
    UInt16.toNat_ofNat_of_lt' (by simp only [UInt16.size]; omega)
  simp only [getString, bind_assoc] at fed
  have checked := (fed.u16 (UInt16.ofNat value.length)).failing
  rw [counted] at checked
  simp only [Bool.false_or, decide_eq_true_eq] at checked
  by_cases long : value.length > limit
  · simpa only [long, ↓reduceIte, bind_assoc, pure_bind] using checked
  · simpa only [long, ↓reduceIte] using checked

theorem limit_putString (writer : Wire.Writer) (value : Text) :
    (ByteWriter.putString writer value).limit = writer.limit := by
  rw [ByteWriter.putString]
  split
  · rfl
  · exact (limit_putRaw _ _).trans (limit_putRaw _ _)

theorem putString_eq {value : Text} (short : value.length ≤ Limits.maxNameChars)
    (writer : Wire.Writer) : ByteWriter.putString writer value =
      (ByteWriter.putU16 writer (UInt16.ofNat value.length)).putRaw value := by
  rw [ByteWriter.putString, if_neg (by omega)]

/-- A string is read back when the reader allows its length, and latches the reader otherwise. -/
theorem string {limit : Nat} {next : Text → Get (Except ε α)}
    (fed : Feeds fits size put (getString limit >>= next) get) (value : Text)
    (latched : ∀ value, Latches (next value)) :
    Feeds (fits ∧ value.length ≤ limit) size
      (fun writer => ByteWriter.putString (put writer) value) (next value) get := by
  refine ⟨fun writer => (limit_putString _ value).trans (fed.limit writer),
    fun writer narrow ok => ?_⟩
  have short := putString_ok ok
  have passed := ((fed.string_length value short).check fun reader result last read => by
    have stuck := (latches_latch.bind fun _ => latched []) ⟨reader.rest, true⟩ rfl
    have same : (latch >>= fun _ => next []) reader =
      (latch >>= fun _ => next []) ⟨reader.rest, true⟩ := rfl
    rwa [← same, read] at stuck).raw value rfl
  simp only [putString_eq short, not_lt] at passed ok ⊢
  exact (passed.weaken (Nat.le_add_right _ _)).fed writer narrow ok

theorem name {next : Text → Get (Except ε α)}
    (fed : Feeds fits size put (getString Limits.maxNameChars >>= next) get) (value : Text) :
    Feeds fits size (fun writer => ByteWriter.putString (put writer) value) (next value) get := by
  refine ⟨fun writer => (limit_putString _ value).trans (fed.limit writer),
    fun writer narrow ok => ?_⟩
  have short := putString_ok ok
  have counted := fed.string_length value short
  rw [if_neg (by omega)] at counted
  have read := counted.raw value rfl
  simp only [putString_eq short] at ok ⊢
  exact (read.weaken (Nat.le_add_right _ _)).fed writer narrow ok

/-! Field groups. -/

theorem provenance {next : Provenance → Get (Except ε α)}
    (fed : Feeds fits size put (getProvenance >>= next) get) (value : Provenance) :
    Feeds fits size (fun writer => putProvenance (put writer) value) (next value) get := by
  simp only [getProvenance, bind_assoc, pure_bind] at fed
  exact ((((((fed.ident _).ident _).counter _).counter _).counter _).u64 _).u64 _

theorem attempt {next : AttemptId → Get (Except ε α)}
    (fed : Feeds fits size put (getAttempt >>= next) get) (value : AttemptId) :
    Feeds fits size (fun writer => putAttempt (put writer) value) (next value) get := by
  simp only [getAttempt, bind_assoc, pure_bind] at fed
  exact (fed.ident _).u64 _

theorem thresholds {next : Thresholds → Get (Except ε α)}
    (fed : Feeds fits size put (getThresholds >>= next) get) (value : Thresholds) :
    Feeds fits size (fun writer => putThresholds (put writer) value) (next value) get := by
  simp only [getThresholds, bind_assoc, pure_bind] at fed
  exact ((((fed.u64 _).u64 _).u64 _).u64 _).i64 _

theorem classBinding {next : ClassBinding → Get (Except ε α)}
    (fed : Feeds fits size put (getClassBinding >>= next) get) (value : ClassBinding) :
    Feeds fits size (fun writer => putClassBinding (put writer) value) (next value) get := by
  simp only [getClassBinding, bind_assoc, pure_bind] at fed
  exact (fed.ident _).counter _

theorem poolRef {next : PoolRef → Get (Except ε α)}
    (fed : Feeds fits size put (getPoolRef >>= next) get) (value : PoolRef) :
    Feeds fits size (fun writer => putPoolRef (put writer) value) (next value) get := by
  simp only [getPoolRef, bind_assoc, pure_bind] at fed
  exact ((fed.ident _).counter _).u64 _

theorem occupancyState {next : OccupancyState → Get (Except ε α)}
    (fed : Feeds fits size put (getOccupancyState >>= next) get) (value : OccupancyState) :
    Feeds fits size (fun writer => putOccupancyState (put writer) value) (next value) get := by
  simp only [getOccupancyState, bind_assoc, pure_bind] at fed
  have observed := (((((fed.bool value.present).u64 value.bytes).u64 value.packets).i64
    value.observedAt).counter value.sequence).counter value.epoch
  have read := (((observed.provenance value.provenance).counter value.queueGeneration).u8
    value.freshness.toRaw).i64 value.age
  rwa [Freshness.ofRaw_toRaw] at read

theorem evidenceBody {next : DrainEvidence → Get (Except ε α)} (value : DrainEvidence)
    (fed : Feeds fits size put (getEvidenceBody value.records >>= next) get) :
    Feeds fits size (fun writer => putEvidenceBody (put writer) value) (next value) get := by
  simp only [getEvidenceBody, bind_assoc, pure_bind] at fed
  have backend := ((((((fed.bool value.backend.requestAccepted).bool
    value.backend.reportedDrained).ident value.backend.backend).counter
    value.backend.backendIncarnation).counter value.backend.epoch).counter
    value.backend.sequence).i64 value.backend.observedAt
  exact (((backend.bool value.occupancyZeroObserved).i64 value.zeroObservedAt).counter
    value.zeroSequence).bool value.revalidated

theorem backendApplied {next : BackendApplied → Get (Except ε α)}
    (fed : Feeds fits size put (getBackendApplied >>= next) get) (value : BackendApplied) :
    Feeds fits size (fun writer => putBackendApplied (put writer) value) (next value) get := by
  simp only [getBackendApplied, bind_assoc, pure_bind] at fed
  have head := (((((fed.bool value.known).ident value.backend).counter
    value.backendIncarnation).counter value.epoch).counter value.sequence).i64 value.appliedAt
  exact (((head.classBinding value.appliedClass).counter value.queueGeneration).u64
    value.appliedHighWatermarkBytes).u64 value.appliedMaxOccupancyBytes

theorem occupancySample {next : OccupancySample → Get (Except ε α)}
    (fed : Feeds fits size put (getOccupancySample >>= next) get) (value : OccupancySample) :
    Feeds fits size (fun writer => putOccupancySample (put writer) value) (next value) get := by
  simp only [getOccupancySample, bind_assoc, pure_bind] at fed
  have head := ((((((fed.ident value.queue).counter value.queueGeneration).u64 value.bytes).u64
    value.packets).counter value.epoch).counter value.sequence).i64 value.observedAt
  exact head.provenance value.provenance

theorem declare {next : DeclareQueuePayload → Get (Except ε α)}
    (fed : Feeds fits size put (getDeclare >>= next) get) (value : DeclareQueuePayload) :
    Feeds fits size (fun writer => putDeclare (put writer) value) (next value) get := by
  simp only [getDeclare, bind_assoc, pure_bind] at fed
  have head := ((fed.ident value.resource).name value.name).u32 value.depth
  exact ((head.classBinding value.cls).poolRef value.pool).thresholds value.thresholds

/-! Counted sections. -/

/-- Writing an item feeds reading one, and writes something. -/
def Item {β : Type} (putItem : Wire.Writer → β → Wire.Writer) (item : Get β) : Prop :=
  ∀ {ε α : Type} {fits : Prop} {get : Get (Except ε α)} (value : β)
    (put : Wire.Writer → Wire.Writer) (size : Nat) (next : β → Get (Except ε α)),
    Feeds fits size put (item >>= next) get →
      Feeds fits (size + 1) (fun writer => putItem (put writer) value) (next value) get

theorem Item.many {β : Type} {putItem : Wire.Writer → β → Wire.Writer} {item : Get β}
    (each : Item putItem item) (items : List β) :
    Feeds True (0 + items.length) (fun writer => Wire.Writer.putMany putItem writer items)
      (pure (.ok ())) (getMany item items.length >>= fun _ => pure (.ok ()) :
        Get (Except Unit Unit)) := by
  have start : Feeds True 0 id (getMany item items.length >>= fun _ => pure (.ok ()))
      (getMany item items.length >>= fun _ => pure (.ok ()) : Get (Except Unit Unit)) :=
    feeds_start _
  exact start.many items fun value put size next => each value put size next

theorem Item.count_lt {β : Type} {putItem : Wire.Writer → β → Wire.Writer} {item : Get β}
    (each : Item putItem item) (items : List β) (writer : Wire.Writer)
    (narrow : writer.limit < 2 ^ 32)
    (ok : (Wire.Writer.putMany putItem writer items).failed = false) : items.length < 2 ^ 32 := by
  obtain ⟨_, data, fed⟩ := (each.many items).fed writer narrow ok
  have long := fed.long
  rcases fed.bounded with empty | bounded
  · simp only [empty, List.length_nil] at long
    omega
  · omega

theorem counted {β : Type} {putItem : Wire.Writer → β → Wire.Writer} {item : Get β}
    {limit : Nat} {outOfRange : String} {next : List β → Get (Except Status α)}
    {get : Get (Except Status α)}
    (fed : Feeds fits size put (getSection item limit outOfRange next) get) (items : List β)
    (each : Item putItem item) :
    Feeds (fits ∧ items.length ≤ limit) size
      (fun writer => putSection putItem (put writer) items) (next items) get := by
  refine ⟨fun writer => ?_, fun writer narrow ok => ?_⟩
  · refine ((each.many items).limit _).trans ?_
    exact (limit_putRaw _ _).trans (fed.limit writer)
  have limited : (ByteWriter.putU32 (put writer) (UInt32.ofNat items.length)).limit < 2 ^ 32 := by
    rw [ByteWriter.putU32, Wire.Writer.putUInt, limit_putRaw, fed.limit]
    exact narrow
  have counted : (UInt32.ofNat items.length).toNat = items.length :=
    UInt32.toNat_ofNat_of_lt' (each.count_lt items _ limited ok)
  simp only [getSection] at fed
  have checked := (fed.u32 (UInt32.ofNat items.length)).failing
  rw [counted] at checked
  simp only [Bool.false_or, decide_eq_true_eq] at checked
  have passed := checked.check (refuses_error _)
  have read := passed.many items fun value put size next => each value put size next
  simp only [not_lt] at read
  exact (read.weaken (Nat.le_add_right _ _)).fed writer narrow ok

/-! The items of the stored sections. -/

theorem item_grant : Item putGrant getGrant := by
  intro ε α fits get value put size next fed
  simp only [getGrant, bind_assoc, pure_bind] at fed
  exact (fed.ident_sized value.owner).u32 value.capabilities

theorem item_classDef : Item putClassDef getClassDef := by
  intro ε α fits get value put size next fed
  simp only [getClassDef, bind_assoc, pure_bind] at fed
  have head := (((fed.ident_sized value.id).ident value.resource).name value.name).u32
    value.priority
  have qos := ((head.u32 value.qos.priorityCode).u32 value.qos.trafficClass).name value.qos.group
  exact (qos.counter value.generation).provenance value.declaredBy

theorem item_poolDef : Item putPoolDef getPoolDef := by
  intro ε α fits get value put size next fed
  simp only [getPoolDef, bind_assoc, pure_bind] at fed
  have head := ((fed.ident_sized value.id).ident value.resource).name value.name
  exact ((head.u64 value.capacityBytes).counter value.generation).provenance value.declaredBy

theorem item_backend : Item putBackend getBackend := by
  intro ε α fits get value put size next fed
  simp only [getBackend, bind_assoc, pure_bind] at fed
  exact (((((fed.ident_sized value.backend).ident value.resource).counter
    value.incarnation).counter value.epoch).i64 value.registeredAt).bool value.alive

theorem item_memo : Item putMemo getMemo := by
  intro ε α fits get value put size next fed
  simp only [getMemo, getAttempt, bind_assoc, pure_bind] at fed
  have head := ((fed.ident_sized value.attempt.publisher).u64 value.attempt.counter).u64
    value.fingerprint
  have read := (((head.u16 value.kind.toRaw).u16 value.outcome.toRaw).counter
    value.generation).bool value.durable
  rwa [MutationKind.ofRaw_toRaw, Code.ofRaw_toRaw] at read

end Wire.Feeds

namespace QueueFabric

open Wire

/-- A whole record is accepted exactly when it fits, and then read back. -/
theorem decodeWhole_finish {α : Type} {fits : Prop} {size : Nat} {put : Wire.Writer → Wire.Writer}
    {get : Get (Except Status α)} {value : α} (fed : Feeds fits size put (pure (.ok value)) get)
    (malformed : String) (written : (put ByteWriter.make).finish ≠ []) :
    (fits → decodeWhole get (put ByteWriter.make).finish malformed = .ok value) ∧
      ∀ result, decodeWhole get (put ByteWriter.make).finish malformed = .ok result →
        fits ∧ result = value := by
  obtain ⟨reads, accepts⟩ := fed.finish Limits.maxJournalRecordBytes (by decide) written
  refine ⟨fun fit => ?_, fun result decoded => ?_⟩
  · rw [decodeWhole, ByteWriter.make, reads fit]
    rfl
  · rw [decodeWhole, ByteWriter.make] at decoded
    split at decoded
    · simp at decoded
    · rename_i value' reader read
      split at decoded
      · simp at decoded
      · rename_i clean
        simp only [Bool.or_eq_true, not_or, Bool.not_eq_true] at clean
        rw [Except.ok.injEq] at decoded
        exact accepts result reader (decoded ▸ read) clean.1

/-! Mutations. -/

/-- The reader's own bounds on what a request carries. -/
def MutationRequest.Readable (request : MutationRequest) : Prop :=
  match request.payload with
  | .fence payload => payload.reason.length ≤ Limits.maxReasonChars
  | .drainEvidence evidence => evidence.records.toNat ≤ Limits.maxDrainEvidenceRecords
  | _ => True

theorem feeds_payload (request : MutationRequest) {size : Nat} {put : Wire.Writer → Wire.Writer}
    {get : Get (Except Status MutationRequest)}
    {finish : MutationPayload → MutationRequest}
    (fed : Feeds True size put (getPayload (tagOf request.payload) >>= fun payload =>
      pure (payload.map finish)) get) :
    Feeds request.Readable size (fun writer => putPayload (put writer) request.payload)
      (pure (.ok (finish request.payload))) get := by
  rw [MutationRequest.Readable]
  cases carried : request.payload with
  | monostate =>
      rw [carried] at fed
      exact fed
  | declareQueue declare =>
      simp only [carried, tagOf, getPayload, UInt8.reduceToNat, bind_assoc, pure_bind] at fed
      exact fed.declare declare
  | rebindClass cls =>
      simp only [carried, tagOf, getPayload, UInt8.reduceToNat, bind_assoc, pure_bind] at fed
      exact fed.classBinding cls
  | thresholds thresholds =>
      simp only [carried, tagOf, getPayload, UInt8.reduceToNat, bind_assoc, pure_bind] at fed
      exact fed.thresholds thresholds
  | ownership owner =>
      simp only [carried, tagOf, getPayload, UInt8.reduceToNat, bind_assoc, pure_bind] at fed
      exact fed.ident owner
  | occupancy sample =>
      simp only [carried, tagOf, getPayload, UInt8.reduceToNat, bind_assoc, pure_bind] at fed
      exact fed.occupancySample sample
  | drainEvidence evidence =>
      simp only [carried, tagOf, getPayload, UInt8.reduceToNat, bind_assoc, pure_bind,
        getDrainEvidence] at fed
      have counted := (fed.u32 evidence.records).failing
      simp only [Bool.false_or, decide_eq_true_eq] at counted
      rw [apply_ite (fun read => read >>= _)] at counted
      have checked := counted.check (refuses_error _)
      simp only [bind_assoc] at checked
      have read := (checked.evidenceBody evidence).failing
      rw [true_and, not_lt] at read
      exact read
  | fence payload =>
      simp only [carried, tagOf, getPayload, UInt8.reduceToNat, bind_assoc, pure_bind] at fed
      have read := (fed.bool payload.fence).string payload.reason fun _ => latches_pure _
      rw [true_and] at read
      exact read
  | backendAck applied =>
      simp only [carried, tagOf, getPayload, UInt8.reduceToNat, bind_assoc, pure_bind] at fed
      exact fed.backendApplied applied
  | backendRegistration payload =>
      simp only [carried, tagOf, getPayload, UInt8.reduceToNat, bind_assoc, pure_bind] at fed
      exact ((fed.ident payload.backend).ident payload.resource).counter payload.incarnation

theorem feeds_mutation (request : MutationRequest) :
    Feeds request.Readable 0 (fun writer => putMutation writer request)
      (pure (.ok request)) getMutation := by
  have start := feeds_start getMutation
  unfold getMutation at start
  have head := (((((start.attempt request.attempt).u16 request.kind.toRaw).ident
    request.queue).counter request.expectedGeneration).counter request.expectedEpoch).ident
    request.principal
  have tagged := ((head.provenance request.provenance).u8 (tagOf request.payload)).failing
  rw [MutationKind.ofRaw_toRaw] at tagged
  exact feeds_payload request tagged

theorem decodeMutation_nil : decodeMutation [] = .error ⟨.malformedInput, "mutation record is truncated"⟩ := rfl

theorem decodeMutation_encodeMutation (request : MutationRequest) (readable : request.Readable)
    (written : encodeMutation request ≠ []) :
    decodeMutation (encodeMutation request) = .ok request :=
  (decodeWhole_finish (feeds_mutation request) _ written).1 readable

theorem eq_of_decodeMutation {request result : MutationRequest}
    (decoded : decodeMutation (encodeMutation request) = .ok result) :
    request.Readable ∧ result = request := by
  by_cases written : encodeMutation request = []
  · rw [written, decodeMutation_nil] at decoded
    simp at decoded
  · exact (decodeWhole_finish (feeds_mutation request) _ written).2 result decoded

/-! Resources. -/

/-- A record as its encoding keeps it: the authority's copy of the resource identity is not
stored. -/
def ResourceRecord.stored (resource : ResourceRecord) : ResourceRecord :=
  { resource with authority := { resource.authority with resource := default } }

def ResourceRecord.Readable (resource : ResourceRecord) : Prop :=
  (((True ∧ resource.authority.grants.length ≤ Limits.maxGrantsPerResource) ∧
    resource.classes.length ≤ Limits.maxClassesPerResource) ∧
    resource.pools.length ≤ Limits.maxPoolsPerResource) ∧
    resource.backends.length ≤ Limits.maxResources

theorem feeds_resourceState (resource : ResourceRecord) :
    Feeds resource.Readable 0 (fun writer => putResourceState writer resource)
      (pure (.ok resource.stored)) getResourceState := by
  have start := feeds_start getResourceState
  unfold getResourceState at start
  have head := ((((((start.ident resource.id).name resource.name).ident resource.owner).counter
    resource.generation).counter resource.epoch).ident resource.authority.owner).counter
    resource.authority.epoch
  have sections := (((head.counted resource.authority.grants Feeds.item_grant).counted
    resource.classes Feeds.item_classDef).counted resource.pools Feeds.item_poolDef).counted
    resource.backends Feeds.item_backend
  exact (((sections.u8 resource.applicability.bits).provenance resource.declaredBy).i64
    resource.declaredAt).u64 resource.queueCount

theorem decodeResourceState_nil : decodeResourceState [] =
    .error ⟨.malformedInput, "resource grants are out of range"⟩ := rfl

theorem eq_of_decodeResourceState {resource result : ResourceRecord}
    (decoded : decodeResourceState (encodeResourceState resource) = .ok result) :
    result = resource.stored := by
  by_cases written : encodeResourceState resource = []
  · rw [written, decodeResourceState_nil] at decoded
    simp at decoded
  · exact ((decodeWhole_finish (feeds_resourceState resource) _ written).2 result decoded).2

/-! Queues. -/

theorem steady_getU8 : Steady getU8 := (steady_getUInt 1).bind fun _ => steady_pure _

theorem steady_getBool : Steady getBool := steady_getU8.bind fun _ => steady_pure _

theorem steady_getU16 : Steady getU16 := (steady_getUInt 2).bind fun _ => steady_pure _

theorem steady_getU32 : Steady getU32 := (steady_getUInt 4).bind fun _ => steady_pure _

theorem steady_getU64 : Steady getU64 := (steady_getUInt 8).bind fun _ => steady_pure _

theorem steady_getI64 : Steady getI64 := steady_getU64.bind fun _ => steady_pure _

theorem steady_getIdent (tag : IdTag) : Steady (getIdent tag) :=
  steady_getU64.bind fun _ => steady_pure _

theorem steady_getCounter (tag : CounterTag) : Steady (getCounter tag) :=
  steady_getU64.bind fun _ => steady_pure _

theorem steady_getString (limit : Nat) : Steady (getString limit) := by
  refine steady_getU16.bind fun length => steady_failing.bind fun failed => ?_
  split
  · exact steady_latch.bind fun _ => steady_pure _
  · exact steady_getRaw _

theorem steady_getAttempt : Steady getAttempt :=
  (steady_getIdent _).bind fun _ => steady_getU64.bind fun _ => steady_pure _

theorem steady_getProvenance : Steady getProvenance := by
  refine (steady_getIdent _).bind fun _ => (steady_getIdent _).bind fun _ => ?_
  refine (steady_getCounter _).bind fun _ => (steady_getCounter _).bind fun _ => ?_
  refine (steady_getCounter _).bind fun _ => steady_getU64.bind fun _ => ?_
  exact steady_getU64.bind fun _ => steady_pure _

theorem steady_getOccupancyState : Steady getOccupancyState := by
  refine steady_getBool.bind fun _ => steady_getU64.bind fun _ => ?_
  refine steady_getU64.bind fun _ => steady_getI64.bind fun _ => ?_
  refine (steady_getCounter _).bind fun _ => (steady_getCounter _).bind fun _ => ?_
  refine steady_getProvenance.bind fun _ => (steady_getCounter _).bind fun _ => ?_
  exact steady_getU8.bind fun _ => steady_getI64.bind fun _ => steady_pure _

theorem steady_getFenceState : Steady getFenceState := by
  refine steady_getBool.bind fun _ => steady_getU64.bind fun _ => ?_
  refine (steady_getCounter _).bind fun _ => (steady_getIdent _).bind fun _ => ?_
  exact (steady_getString _).bind fun _ => steady_getI64.bind fun _ => steady_pure _

theorem steady_getEvidenceBody (records : UInt32) : Steady (getEvidenceBody records) := by
  refine steady_getBool.bind fun _ => steady_getBool.bind fun _ => ?_
  refine (steady_getIdent _).bind fun _ => (steady_getCounter _).bind fun _ => ?_
  refine (steady_getCounter _).bind fun _ => (steady_getCounter _).bind fun _ => ?_
  refine steady_getI64.bind fun _ => steady_getBool.bind fun _ => ?_
  refine steady_getI64.bind fun _ => (steady_getCounter _).bind fun _ => ?_
  exact steady_getBool.bind fun _ => steady_pure _

theorem steady_getDrainState : Steady getDrainState := by
  refine steady_getU8.bind fun _ => steady_getAttempt.bind fun _ => ?_
  refine steady_getI64.bind fun _ => steady_getProvenance.bind fun _ => ?_
  refine steady_getU32.bind fun _ => steady_failing.bind fun _ => ?_
  split
  · exact steady_pure _
  · exact (steady_getEvidenceBody _).bind fun _ => steady_pure _

theorem steady_getBackendApplied : Steady getBackendApplied := by
  refine steady_getBool.bind fun _ => (steady_getIdent _).bind fun _ => ?_
  refine (steady_getCounter _).bind fun _ => (steady_getCounter _).bind fun _ => ?_
  refine (steady_getCounter _).bind fun _ => steady_getI64.bind fun _ => ?_
  refine ((steady_getIdent _).bind fun _ => (steady_getCounter _).bind fun _ =>
    steady_pure _).bind fun _ => (steady_getCounter _).bind fun _ => ?_
  exact steady_getU64.bind fun _ => steady_getU64.bind fun _ => steady_pure _

theorem steady_getMemo : Steady getMemo := by
  refine steady_getAttempt.bind fun _ => steady_getU64.bind fun _ => ?_
  refine steady_getU16.bind fun _ => steady_getU16.bind fun _ => ?_
  exact (steady_getCounter _).bind fun _ => steady_getBool.bind fun _ => steady_pure _

theorem steady_getSection {α β : Type} {item : Get α} (each : Steady item) (limit : Nat)
    (outOfRange : String) {next : List α → Get (Except Status β)}
    (after : ∀ items, Steady (next items)) :
    Steady (getSection item limit outOfRange next) := by
  refine steady_getU32.bind fun _ => steady_failing.bind fun _ => ?_
  split
  · exact steady_pure _
  · exact (steady_getMany each _).bind after

end QueueFabric

namespace Wire.Feeds

open QueueFabric

variable {ε α : Type} {fits : Prop} {size : Nat} {put : Wire.Writer → Wire.Writer}
  {get : Get (Except ε α)}

theorem definition {next : QueueDefinition → Get (Except ε α)}
    (fed : Feeds fits size put (getDefinition >>= next) get) (value : QueueDefinition) :
    Feeds fits size (fun writer => putDefinition (put writer) value) (next value) get := by
  simp only [getDefinition, bind_assoc, pure_bind] at fed
  have head := (((fed.ident value.id).ident value.resource).name value.name).u32 value.depth
  have bound := ((head.classBinding value.cls).poolRef value.pool).thresholds value.thresholds
  exact (((bound.ident value.owner).counter value.generation).provenance
    value.declaredBy).i64 value.declaredAt

theorem fenceState {next : FenceState → Get (Except ε α)}
    (fed : Feeds fits size put (getFenceState >>= next) get) (value : FenceState)
    (latched : ∀ value, Latches (next value)) :
    Feeds (fits ∧ value.reason.length ≤ Limits.maxReasonChars) size
      (fun writer => putFenceState (put writer) value) (next value) get := by
  simp only [getFenceState, bind_assoc, pure_bind] at fed
  have head := (((fed.bool value.fenced).u64 value.token).counter value.epoch).ident
    value.fencedBy
  exact (head.string value.reason fun _ => steady_getI64.latches.bind fun _ => latched _).i64
    value.fencedAt

theorem drainState {next : DrainState → Get (Except ε α)}
    (fed : Feeds fits size put (getDrainState >>= next) get) (value : DrainState)
    (few : value.evidence.records.toNat ≤ Limits.maxDrainEvidenceRecords) :
    Feeds fits size (fun writer => putDrainState (put writer) value) (next value) get := by
  simp only [getDrainState, bind_assoc] at fed
  have head := (((fed.u8 value.phase.toRaw).attempt value.attempt).i64 value.requestedAt).provenance
    value.requestedBy
  have counted := (head.u32 value.evidence.records).failing
  rw [DrainPhase.ofRaw_toRaw, if_neg (by simp; omega)] at counted
  simp only [bind_assoc, pure_bind] at counted
  exact counted.evidenceBody value.evidence

end Wire.Feeds

namespace QueueFabric

open Wire

/-- A record as its encoding keeps it: the last status and rule are not stored. -/
def QueueRecord.stored (queue : QueueRecord) : QueueRecord :=
  { queue with lastStatus := .success, lastRule := "unset" }

def QueueRecord.Readable (queue : QueueRecord) : Prop :=
  ((True ∧ queue.failureReason.length ≤ Limits.maxReasonChars) ∧
    queue.fence.reason.length ≤ Limits.maxReasonChars) ∧
    queue.memo.length ≤ Limits.maxAttemptMemoPerQueue

theorem steady_queueTail {β : Type}
    (finish : DrainState → BackendApplied → UInt64 → UInt64 → UInt64 → UInt64 → UInt64 →
      AttemptId → List AttemptMemo → Except Status β) :
    Steady (do
      let drain ← getDrainState
      let applied ← getBackendApplied
      let mutationCount ← getU64
      let replayedCount ← getU64
      let rejectedCount ← getU64
      let overflowEvents ← getU64
      let stalenessEvents ← getU64
      let lastAttempt ← getAttempt
      getSection getMemo Limits.maxAttemptMemoPerQueue "queue memo is out of range" fun memo =>
        pure (finish drain applied mutationCount replayedCount rejectedCount overflowEvents
          stalenessEvents lastAttempt memo)) := by
  refine steady_getDrainState.bind fun _ => steady_getBackendApplied.bind fun _ => ?_
  refine steady_getU64.bind fun _ => steady_getU64.bind fun _ => ?_
  refine steady_getU64.bind fun _ => steady_getU64.bind fun _ => ?_
  refine steady_getU64.bind fun _ => steady_getAttempt.bind fun _ => ?_
  exact steady_getSection steady_getMemo _ _ fun _ => steady_pure _

theorem feeds_queueHead (queue : QueueRecord) :
    Feeds (True ∧ queue.failureReason.length ≤ Limits.maxReasonChars) 0
      (fun writer => putOccupancyState (ByteWriter.putString (ByteWriter.putU8 (ByteWriter.putU8
        (putDefinition writer queue.definition) queue.lifecycle.toRaw) queue.applicability.bits)
        queue.failureReason) queue.occupancy)
      (do
        let fence ← getFenceState
        let drain ← getDrainState
        let applied ← getBackendApplied
        let mutationCount ← getU64
        let replayedCount ← getU64
        let rejectedCount ← getU64
        let overflowEvents ← getU64
        let stalenessEvents ← getU64
        let lastAttempt ← getAttempt
        getSection getMemo Limits.maxAttemptMemoPerQueue "queue memo is out of range" fun memo =>
          pure (.ok { queue.stored with
            fence, drain, applied, mutationCount, replayedCount, rejectedCount, overflowEvents,
            stalenessEvents, lastAttempt, memo }))
      getQueueState := by
  have start := feeds_start getQueueState
  unfold getQueueState at start
  have head := ((start.definition queue.definition).u8 queue.lifecycle.toRaw).u8
    queue.applicability.bits
  rw [Lifecycle.ofRaw_toRaw] at head
  have named := head.string queue.failureReason fun _ =>
    (steady_getOccupancyState.bind fun _ => steady_getFenceState.bind fun _ =>
      steady_queueTail _).latches
  exact named.occupancyState queue.occupancy

theorem feeds_queueState (queue : QueueRecord)
    (few : queue.drain.evidence.records.toNat ≤ Limits.maxDrainEvidenceRecords) :
    Feeds queue.Readable 0 (fun writer => putQueueState writer queue)
      (pure (.ok queue.stored)) getQueueState := by
  have fenced := (feeds_queueHead queue).fenceState queue.fence fun _ => (steady_queueTail _).latches
  have applied := (fenced.drainState queue.drain few).backendApplied queue.applied
  have counters := ((((applied.u64 queue.mutationCount).u64 queue.replayedCount).u64
    queue.rejectedCount).u64 queue.overflowEvents).u64 queue.stalenessEvents
  exact (counters.attempt queue.lastAttempt).counted queue.memo Feeds.item_memo

theorem decodeQueueState_nil : decodeQueueState [] =
    .error ⟨.malformedInput, "queue memo is out of range"⟩ := rfl

/-- A queue record with bounded evidence is read back as it was written or not at all. -/
theorem eq_of_decodeQueueState {queue result : QueueRecord}
    (few : queue.drain.evidence.records.toNat ≤ Limits.maxDrainEvidenceRecords)
    (decoded : decodeQueueState (encodeQueueState queue) = .ok result) :
    result = queue.stored := by
  by_cases written : encodeQueueState queue = []
  · rw [written, decodeQueueState_nil] at decoded
    simp at decoded
  · exact ((decodeWhole_finish (feeds_queueState queue few) _ written).2 result decoded).2

/-- What of an accepted queue record is as it was written, however much evidence it holds. -/
structure QueueRecord.ReadBack (queue result : QueueRecord) : Prop where
  definition : result.definition = queue.definition
  lifecycle : result.lifecycle = queue.lifecycle
  applicability : result.applicability = queue.applicability
  occupancy : result.occupancy = queue.occupancy
  fence : result.fence = queue.fence
  phase : result.drain.phase = queue.drain.phase
  requestedAt : result.drain.requestedAt = queue.drain.requestedAt

theorem readBack_of_decodeQueueState {queue result : QueueRecord}
    (decoded : decodeQueueState (encodeQueueState queue) = .ok result) :
    queue.ReadBack result := by
  by_cases written : encodeQueueState queue = []
  · rw [written, decodeQueueState_nil] at decoded
    simp at decoded
  have start := feeds_start (do
    let records ← getU32
    let _ ← getEvidenceBody records
    let _ ← getBackendApplied
    let _ ← getU64
    let _ ← getU64
    let _ ← getU64
    let _ ← getU64
    let _ ← getU64
    let _ ← getAttempt
    getSection getMemo Limits.maxAttemptMemoPerQueue "queue memo is out of range" fun _ =>
      pure (.ok ()) : Get (Except Status Unit))
  have applied := ((start.u32 queue.drain.evidence.records).evidenceBody
    queue.drain.evidence).backendApplied queue.applied
  have counters := ((((applied.u64 queue.mutationCount).u64 queue.replayedCount).u64
    queue.rejectedCount).u64 queue.overflowEvents).u64 queue.stalenessEvents
  have tail := (counters.attempt queue.lastAttempt).counted queue.memo Feeds.item_memo
  have fenced := (feeds_queueHead queue).fenceState queue.fence fun _ => (steady_queueTail _).latches
  simp only [getDrainState, bind_assoc] at fenced
  have drained := (((fenced.u8 queue.drain.phase.toRaw).attempt queue.drain.attempt).i64
    queue.drain.requestedAt).provenance queue.drain.requestedBy
  rw [DrainPhase.ofRaw_toRaw] at drained
  rw [decodeQueueState, decodeWhole] at decoded
  split at decoded
  · simp at decoded
  rename_i value reader read
  split at decoded
  · simp at decoded
  rename_i clean
  simp only [Bool.or_eq_true, not_or, Bool.not_eq_true] at clean
  rw [Except.ok.injEq] at decoded
  subst decoded
  refine drained.finish_yields (queue.ReadBack ·) ?_ tail Limits.maxJournalRecordBytes (by decide)
    written read clean.1
  -- neither the evidence nor what follows it can change the head
  have rest : ∀ evidence : DrainEvidence, ∀ drain : DrainState,
      drain = ⟨queue.drain.phase, queue.drain.attempt, queue.drain.requestedAt,
        queue.drain.requestedBy, evidence⟩ →
      Yields (queue.ReadBack ·) (do
        let applied ← getBackendApplied
        let mutationCount ← getU64
        let replayedCount ← getU64
        let rejectedCount ← getU64
        let overflowEvents ← getU64
        let stalenessEvents ← getU64
        let lastAttempt ← getAttempt
        getSection getMemo Limits.maxAttemptMemoPerQueue "queue memo is out of range" fun memo =>
          pure (.ok { queue.stored with
            fence := queue.fence
            drain, applied, mutationCount, replayedCount, rejectedCount, overflowEvents,
            stalenessEvents, lastAttempt, memo })) := by
    rintro evidence drain rfl
    refine Yields.bind fun _ => Yields.bind fun _ => Yields.bind fun _ => Yields.bind fun _ => ?_
    refine Yields.bind fun _ => Yields.bind fun _ => Yields.bind fun _ => Yields.bind fun _ => ?_
    refine Yields.bind fun _ => ?_
    split
    · exact yields_error _
    · exact Yields.bind fun _ => yields_pure ⟨rfl, rfl, rfl, rfl, rfl, rfl, rfl⟩
  refine Yields.bind fun _ => Yields.bind fun _ => ?_
  split
  · exact rest _ _ rfl
  · simp only [bind_assoc, pure_bind]
    exact Yields.bind fun evidence => rest evidence _ rfl

theorem identity_of_decodeQueueState {queue result : QueueRecord}
    (decoded : decodeQueueState (encodeQueueState queue) = .ok result) :
    result.definition = queue.definition ∧ result.occupancy = queue.occupancy :=
  ⟨(readBack_of_decodeQueueState decoded).definition,
    (readBack_of_decodeQueueState decoded).occupancy⟩

end QueueFabric
