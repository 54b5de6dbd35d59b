import QueueFabric.Encodings
import QueueFabric.ProtocolCore

/-!
Round trips of messages. The writer bounds every string by the name limit; the
reader bounds each field by its own limit, above or below it.
-/

namespace QueueFabric

open Wire

/-! Mutations. -/

/-- What reader and writer ask of a payload. -/
def MutationPayload.Kept (payload : MutationPayload) : Prop :=
  ∀ request : MutationRequest, request.payload = payload → request.Readable ∧ request.Short

theorem kept_of_plain {payload : MutationPayload}
    (plain : match payload with
      | .declareQueue declare => declare.name.length ≤ Limits.maxNameChars
      | .fence fence => fence.reason.length ≤ Limits.maxReasonChars
      | .drainEvidence evidence => evidence.records.toNat ≤ Limits.maxDrainEvidenceRecords
      | _ => True) : payload.Kept := by
  rintro request rfl
  rw [MutationRequest.Readable, MutationRequest.Short]
  cases carried : request.payload with
  | declareQueue declare =>
      rw [carried] at plain
      exact ⟨trivial, plain⟩
  | fence fence =>
      rw [carried] at plain
      refine ⟨plain, ?_⟩
      simp only [Limits.maxReasonChars, Limits.maxNameChars] at plain ⊢
      omega
  | drainEvidence evidence =>
      rw [carried] at plain
      exact ⟨plain, trivial⟩
  | _ => exact ⟨trivial, trivial⟩

theorem gives_getEvidenceBody (records : UInt32) :
    Gives (fun evidence => evidence.records = records) (getEvidenceBody records) := by
  refine Gives.after fun _ => Gives.after fun _ => Gives.after fun _ => Gives.after fun _ => ?_
  refine Gives.after fun _ => Gives.after fun _ => Gives.after fun _ => Gives.after fun _ => ?_
  exact Gives.after fun _ => Gives.after fun _ => Gives.after fun _ => gives_pure rfl

theorem yields_getDrainEvidence :
    Yields (fun evidence => evidence.records.toNat ≤ Limits.maxDrainEvidenceRecords)
      getDrainEvidence := by
  refine Yields.bind fun records => Yields.bind fun failed => ?_
  split
  · exact yields_error _
  · rename_i few
    simp only [Bool.or_eq_true, decide_eq_true_eq, not_or, not_lt] at few
    refine Yields.given (gives_getEvidenceBody records) fun evidence counted => ?_
    refine Yields.bind fun failed => ?_
    split
    · exact yields_error _
    · exact yields_pure (counted ▸ few.2)

theorem yields_getPayload (tag : UInt8) : Yields MutationPayload.Kept (getPayload tag) := by
  rw [getPayload]
  split
  · exact yields_pure (kept_of_plain trivial)
  · have named : Gives (fun declare : DeclareQueuePayload =>
        declare.name.length ≤ Limits.maxNameChars) getDeclare := by
      refine Gives.after fun _ => (gives_getString _).bind fun name short => ?_
      refine Gives.after fun _ => Gives.after fun _ => Gives.after fun _ => Gives.after fun _ => ?_
      exact gives_pure short
    exact Yields.given named fun declare short => yields_pure (kept_of_plain short)
  · exact Yields.bind fun _ => yields_pure (kept_of_plain trivial)
  · exact Yields.bind fun _ => yields_pure (kept_of_plain trivial)
  · exact Yields.bind fun _ => yields_pure (kept_of_plain trivial)
  · exact Yields.bind fun _ => yields_pure (kept_of_plain trivial)
  · exact yields_getDrainEvidence.map fun evidence few => kept_of_plain few
  · refine Yields.bind fun _ => Yields.given (gives_getString _) fun reason short => ?_
    exact yields_pure (kept_of_plain short)
  · exact Yields.bind fun _ => yields_pure (kept_of_plain trivial)
  · refine Yields.bind fun _ => Yields.bind fun _ => Yields.bind fun _ => ?_
    exact yields_pure (kept_of_plain trivial)
  · exact yields_error _

/-- Whatever bytes a request was read from, it can be written and read again. -/
theorem kept_of_decodeMutation {data : Bytes} {request : MutationRequest}
    (decoded : decodeMutation data = .ok request) : request.Readable ∧ request.Short := by
  have yields : Yields (fun request : MutationRequest => request.Readable ∧ request.Short)
      getMutation := by
    refine Yields.bind fun _ => Yields.bind fun _ => Yields.bind fun _ => Yields.bind fun _ => ?_
    refine Yields.bind fun _ => Yields.bind fun _ => Yields.bind fun _ => Yields.bind fun tag => ?_
    refine Yields.bind fun failed => ?_
    split
    · exact yields_error _
    · exact (yields_getPayload tag).map fun payload kept => kept _ rfl
  exact decodeWhole_yields yields decoded

/-! Stored enumerations. -/

theorem Role.ofRaw_toRaw (role : Role) : Role.ofRaw role.toRaw = role := by
  cases role with
  | unlisted offset =>
      have bound := offset.isLt
      by_cases zero : offset.val = 0
      · have raw : (unlisted offset).toRaw = 0 := by simp [toRaw, zero]
        rw [raw]
        exact congrArg unlisted (Fin.ext zero.symm)
      · have raw : (unlisted offset).toRaw.toNat = offset.val + 2 := by
          simp only [toRaw, if_neg zero]
          exact UInt8.toNat_ofNat_of_lt' (by simp only [UInt8.size]; omega)
        have other : ∀ value : UInt8, value.toNat ≤ 2 → (unlisted offset).toRaw ≠ value := by
          rintro value small rfl
          omega
        rw [ofRaw, if_neg (other 1 (by decide)), if_neg (other 2 (by decide))]
        exact congrArg unlisted (Fin.ext (by simp only [raw]; omega))
  | _ => rfl

theorem MessageType.ofRaw_toRaw (type : MessageType) : MessageType.ofRaw type.toRaw = type := by
  cases type with
  | unlisted offset =>
      have bound := offset.isLt
      have raw : (unlisted offset).toRaw.toNat = offset.val + 13 :=
        UInt16.toNat_ofNat_of_lt' (by simp only [UInt16.size]; omega)
      rw [ofRaw, dif_neg (by omega)]
      exact congrArg unlisted (Fin.ext (by simp only [raw]; omega))
  | _ => rfl

end QueueFabric

namespace Wire.Feeds

open QueueFabric

variable {ε α : Type} {fits : Prop} {size : Nat} {put : Wire.Writer → Wire.Writer}
  {get : Get (Except ε α)}

theorem bytes {limit : Nat} {next : Bytes → Get (Except ε α)}
    (fed : Feeds fits size put (getBytes limit >>= next) get) (value : Bytes)
    (short : value.length ≤ limit) (narrow : value.length < 2 ^ 32) :
    Feeds fits size (fun writer => ByteWriter.putBytes (put writer) value) (next value) get := by
  have counted : (UInt32.ofNat value.length).toNat = value.length :=
    UInt32.toNat_ofNat_of_lt' narrow
  simp only [getBytes, bind_assoc] at fed
  have checked := (fed.u32 (UInt32.ofNat value.length)).failing
  rw [counted, if_neg (by simp; omega)] at checked
  exact (checked.raw value rfl).weaken (Nat.le_add_right _ _)

theorem hello {next : Hello → Get (Except ε α)}
    (fed : Feeds fits size put (getHello >>= next) get) (value : Hello) :
    Feeds fits size (fun writer => putHello (put writer) value) (next value) get := by
  simp only [getHello, bind_assoc, pure_bind] at fed
  have read := (((((fed.u8 value.role.toRaw).ident value.node).counter value.incarnation).u64
    value.boot.hi).u64 value.boot.lo).counter value.epoch
  rw [Role.ofRaw_toRaw] at read
  exact read.name value.name

theorem helloAck {next : HelloAck → Get (Except ε α)}
    (fed : Feeds fits size put (getHelloAck >>= next) get) (value : HelloAck)
    (latched : ∀ value, Latches (next value)) :
    Feeds (fits ∧ value.message.length ≤ Limits.maxMessageChars) size
      (fun writer => putHelloAck (put writer) value) (next value) get := by
  simp only [getHelloAck, bind_assoc, pure_bind] at fed
  have head := (fed.bool value.accepted).u16 value.code.toRaw
  rw [Code.ofRaw_toRaw] at head
  have named := head.string value.message fun _ =>
    ((steady_getCounter _).latches.bind fun _ =>
      (steady_getCounter _).latches.bind fun _ => latched _)
  exact (named.counter value.coordinatorEpoch).counter value.coordinatorIncarnation

theorem mutationResponse {next : MutationResponse → Get (Except ε α)}
    (fed : Feeds fits size put (getMutationResponse >>= next) get) (value : MutationResponse)
    (latched : ∀ value, Latches (next value)) :
    Feeds (fits ∧ value.message.length ≤ Limits.maxMessageChars) size
      (fun writer => putMutationResponse (put writer) value) (next value) get := by
  simp only [getMutationResponse, bind_assoc, pure_bind] at fed
  have head := ((fed.attempt value.attempt).ident value.queue).u16 value.code.toRaw
  rw [Code.ofRaw_toRaw] at head
  have named := head.string value.message fun _ =>
    (steady_getCounter _).latches.bind fun _ => steady_getBool.latches.bind fun _ => latched _
  exact (named.counter value.generation).bool value.replayed

theorem fenceNotice {next : FenceNotice → Get (Except ε α)}
    (fed : Feeds fits size put (getFenceNotice >>= next) get) (value : FenceNotice)
    (latched : ∀ value, Latches (next value)) :
    Feeds (fits ∧ value.reason.length ≤ Limits.maxReasonChars) size
      (fun writer => putFenceNotice (put writer) value) (next value) get := by
  simp only [getFenceNotice, bind_assoc, pure_bind] at fed
  have head := ((fed.ident value.queue).counter value.generation).u64 value.token
  exact head.string value.reason fun _ => latched _

theorem errorMessage {next : ErrorMessage → Get (Except ε α)}
    (fed : Feeds fits size put (getErrorMessage >>= next) get) (value : ErrorMessage)
    (latched : ∀ value, Latches (next value)) :
    Feeds (fits ∧ value.message.length ≤ Limits.maxMessageChars) size
      (fun writer => putErrorMessage (put writer) value) (next value) get := by
  simp only [getErrorMessage, bind_assoc, pure_bind] at fed
  have head := fed.u16 value.code.toRaw
  rw [Code.ofRaw_toRaw] at head
  exact head.string value.message fun _ => latched _

theorem stats {next : CoordinatorStats → Get (Except ε α)}
    (fed : Feeds fits size put (getStats >>= next) get) (value : CoordinatorStats) :
    Feeds fits size (fun writer => putStats (put writer) value) (next value) get := by
  simp only [getStats, bind_assoc, pure_bind] at fed
  have population := ((((((fed.counter value.epoch).counter value.coordinatorIncarnation).u64
    value.workers).u64 value.queues).u64 value.occupancyAccepted).u64
    value.occupancyRejected).u64 value.occupancyOverflow
  have outcomes := ((((((population.u64 value.mutationsApplied).u64 value.mutationsReplayed).u64
    value.mutationsRejected).u64 value.staleEpochRejections).u64
    value.staleIncarnationRejections).u64 value.revalidationsRequired).u64 value.ambiguousAttempts
  exact ((((((outcomes.u64 value.framesReceived).u64 value.framesRejected).u64
    value.connectionsAccepted).u64 value.connectionsLost).u64 value.livenessExpirations).u64
    value.recoveries).u64 value.durableRecords

theorem item_occupancySample : Item putOccupancySample getOccupancySample := by
  intro ε α fits get value put size next fed
  simp only [getOccupancySample, bind_assoc, pure_bind] at fed
  have head := ((((((fed.ident_sized value.queue).counter value.queueGeneration).u64
    value.bytes).u64 value.packets).counter value.epoch).counter value.sequence).i64
    value.observedAt
  exact head.provenance value.provenance

end Wire.Feeds

namespace QueueFabric

open Wire

/-! Messages. -/

namespace Message

/-- The fields of its type. -/
def relevant (message : Message) : Message :=
  match message with
  | { type := .hello, sequence, hello, .. } => { type := .hello, sequence, hello }
  | { type := .helloAck, sequence, helloAck, .. } => { type := .helloAck, sequence, helloAck }
  | { type := .heartbeat, sequence, heartbeat, .. } => { type := .heartbeat, sequence, heartbeat }
  | { type := .occupancyBatch, sequence, occupancy, .. } =>
      { type := .occupancyBatch, sequence, occupancy }
  | { type := .mutation, sequence, mutation, .. } => { type := .mutation, sequence, mutation }
  | { type := .mutationResponse, sequence, mutationResponse, .. } =>
      { type := .mutationResponse, sequence, mutationResponse }
  | { type := .epochAdvance, sequence, epoch, .. } => { type := .epochAdvance, sequence, epoch }
  | { type := .fenceNotice, sequence, fence, .. } => { type := .fenceNotice, sequence, fence }
  | { type := .statsResponse, sequence, stats, .. } => { type := .statsResponse, sequence, stats }
  | { type := .shutdown, sequence, text, .. } => { type := .shutdown, sequence, text }
  | { type := .errorMessage, sequence, error, .. } => { type := .errorMessage, sequence, error }
  | { type, sequence, .. } => { type, sequence }

/-- What the reader asks of a message beyond the writer. -/
def Readable (message : Message) : Prop :=
  match message.type with
  | .hello => message.hello.role = .worker ∨ message.hello.role = .monitor
  | .mutation => message.mutation.Readable
  | .fenceNotice => message.fence.reason.length ≤ Limits.maxReasonChars
  | _ => True

/-- What the writer asks of a message beyond the reader. -/
def Writable (message : Message) : Prop :=
  match message.type with
  | .helloAck => message.helloAck.message.length ≤ Limits.maxNameChars
  | .mutationResponse => message.mutationResponse.message.length ≤ Limits.maxNameChars
  | .shutdown => message.text.length ≤ Limits.maxNameChars
  | .errorMessage => message.error.message.length ≤ Limits.maxNameChars
  | _ => True

/-- The writer's bound on every string. -/
def Short (message : Message) : Prop :=
  match message.type with
  | .hello => message.hello.name.length ≤ Limits.maxNameChars
  | .fenceNotice => message.fence.reason.length ≤ Limits.maxNameChars
  | _ => message.Writable

/-- What writer and reader both ask. -/
def Listed (message : Message) : Prop :=
  match message.type with
  | .none => False
  | .unlisted _ => False
  | .occupancyBatch => message.occupancy.length ≤ Limits.maxOccupancyBatch
  | .mutation => message.mutation.Short
  | _ => True

/-- The fields that follow the head. -/
def putBody (writer : ByteWriter) (message : Message) : ByteWriter :=
  match message.type with
  | .hello => putHello writer message.hello
  | .helloAck => putHelloAck writer message.helloAck
  | .heartbeat => putHeartbeat writer message.heartbeat
  | .occupancyBatch => putSection putOccupancySample writer message.occupancy
  | .mutation => writer.putBytes (encodeMutation message.mutation)
  | .mutationResponse => putMutationResponse writer message.mutationResponse
  | .epochAdvance => writer.putU64 message.epoch.value
  | .fenceNotice => putFenceNotice writer message.fence
  | .statsResponse => putStats writer message.stats
  | .shutdown => writer.putString message.text
  | .errorMessage => putErrorMessage writer message.error
  | _ => writer

def encodedSize (message : Message) : Nat :=
  6 + match message.type with
    | .hello => 43 + message.hello.name.length
    | .helloAck => 21 + message.helloAck.message.length
    | .heartbeat => 16
    | .occupancyBatch => 4 + 112 * message.occupancy.length
    | .mutation => 4 + message.mutation.encodedSize
    | .mutationResponse => 37 + message.mutationResponse.message.length
    | .epochAdvance => 8
    | .fenceNotice => 26 + message.fence.reason.length
    | .statsResponse => 168
    | .shutdown => 2 + message.text.length
    | .errorMessage => 4 + message.error.message.length
    | _ => 0

end Message

theorem encodeMessage_eq {message : Message} (listed : message.Listed) (maxBytes : Nat) :
    encodeMessage message maxBytes =
      (message.putBody (putMessageHead (Wire.Writer.fresh maxBytes) message)).finish := by
  rw [Message.Listed] at listed
  rw [encodeMessage, Message.putBody]
  cases type : message.type with
  | none => simp only [type] at listed
  | unlisted offset => simp only [type] at listed
  | occupancyBatch =>
      simp only [type] at listed
      exact if_neg (by omega)
  | mutation =>
      simp only [type] at listed
      exact if_neg ((encodeMutation_ne_nil_iff _).mpr listed)
  | _ => rfl

theorem encodeMessage_unlisted {message : Message} (unlisted : ¬ message.Listed)
    (maxBytes : Nat) : encodeMessage message maxBytes = [] := by
  rw [Message.Listed] at unlisted
  rw [encodeMessage]
  cases type : message.type with
  | none => rfl
  | unlisted offset => rfl
  | occupancyBatch =>
      simp only [type] at unlisted
      exact if_pos (by omega)
  | mutation =>
      simp only [type] at unlisted
      rw [← encodeMutation_ne_nil_iff, not_not] at unlisted
      exact if_pos unlisted
  | _ => simp [type] at unlisted

theorem length_encodeMutation {request : MutationRequest} (short : request.Short) :
    (encodeMutation request).length = request.encodedSize := by
  have written := (encodeMutation_ne_nil_iff request).mpr short
  have room : (ByteWriter.make).buffer.length ≤ (ByteWriter.make).limit := Nat.zero_le _
  have alive : (putMutation ByteWriter.make request).failed = false := by
    by_contra failed
    exact written (if_pos (by simpa using failed))
  have length := (puts_mutation request).length ByteWriter.make room alive
  rw [encodeMutation, Wire.Writer.finish, if_neg (by simp [alive]), length]
  exact Nat.zero_add _

theorem puts_message {message : Message} (listed : message.Listed) :
    Puts message.Short message.encodedSize
      fun writer => message.putBody (putMessageHead writer message) := by
  have head := (puts_start.u16 message.type.toRaw).u32 message.sequence
  rw [Message.Listed] at listed
  simp only [Message.Short, Message.Writable, Message.encodedSize, Message.putBody]
  cases type : message.type with
  | none => simp only [type] at listed
  | unlisted offset => simp only [type] at listed
  | hello =>
      have fixed := (((((head.u8 message.hello.role.toRaw).u64 message.hello.node.value).u64
        message.hello.incarnation.value).u64 message.hello.boot.hi).u64
        message.hello.boot.lo).u64 message.hello.epoch.value
      exact (fixed.string message.hello.name).cast (by rw [true_and]) (by dsimp only; omega)
  | helloAck =>
      have named := ((head.bool message.helloAck.accepted).u16
        message.helloAck.code.toRaw).string message.helloAck.message
      exact ((named.u64 message.helloAck.coordinatorEpoch.value).u64
        message.helloAck.coordinatorIncarnation.value).cast (by rw [true_and]) (by dsimp only; omega)
  | heartbeat =>
      exact (head.u64 message.heartbeat.sequence.value).u64 message.heartbeat.epoch.value
  | occupancyBatch =>
      refine (head.counted message.occupancy fun sample =>
        puts_start.occupancySample sample).cast (by simp) ?_
      simp only [List.map_const', List.sum_replicate, smul_eq_mul]
      omega
  | mutation =>
      simp only [type] at listed
      have length := length_encodeMutation listed
      exact ((head.u32 _).field (puts_raw (encodeMutation message.mutation))).cast .rfl (by dsimp only; omega)
  | mutationResponse =>
      have named := (((head.attempt message.mutationResponse.attempt).u64
        message.mutationResponse.queue.value).u16
        message.mutationResponse.code.toRaw).string message.mutationResponse.message
      exact ((named.u64 message.mutationResponse.generation.value).bool
        message.mutationResponse.replayed).cast (by rw [true_and]) (by dsimp only; omega)
  | epochAdvance => exact head.u64 message.epoch.value
  | fenceNotice =>
      have fixed := ((head.u64 message.fence.queue.value).u64
        message.fence.generation.value).u64 message.fence.token
      exact (fixed.string message.fence.reason).cast (by rw [true_and]) (by dsimp only; omega)
  | statsRequest => exact head
  | statsResponse =>
      have population := ((((((head.u64 message.stats.epoch.value).u64
        message.stats.coordinatorIncarnation.value).u64 message.stats.workers).u64
        message.stats.queues).u64 message.stats.occupancyAccepted).u64
        message.stats.occupancyRejected).u64 message.stats.occupancyOverflow
      have outcomes := ((((((population.u64 message.stats.mutationsApplied).u64
        message.stats.mutationsReplayed).u64 message.stats.mutationsRejected).u64
        message.stats.staleEpochRejections).u64 message.stats.staleIncarnationRejections).u64
        message.stats.revalidationsRequired).u64 message.stats.ambiguousAttempts
      exact ((((((outcomes.u64 message.stats.framesReceived).u64
        message.stats.framesRejected).u64 message.stats.connectionsAccepted).u64
        message.stats.connectionsLost).u64 message.stats.livenessExpirations).u64
        message.stats.recoveries).u64 message.stats.durableRecords
  | shutdown => exact (head.string message.text).cast (by rw [true_and]) rfl
  | errorMessage =>
      exact ((head.u16 message.error.code.toRaw).string message.error.message).cast
        (by rw [true_and]) (by dsimp only; omega)

theorem Message.Short.writable {message : Message} (short : message.Short) :
    message.Writable := by
  rw [Short] at short
  cases type : message.type with
  | hello => simp only [Writable, type]
  | fenceNotice => simp only [Writable, type]
  | _ => simpa only [type] using short

theorem Message.Short.small {message : Message} (short : message.Short)
    (listed : message.Listed) : message.encodedSize ≤ Limits.maxFramePayloadBytes := by
  rw [Short, Writable] at short
  rw [Listed] at listed
  rw [encodedSize, Limits.maxFramePayloadBytes]
  cases type : message.type with
  | none => simp only [type] at listed
  | unlisted offset => simp only [type] at listed
  | mutation =>
      simp only [type] at listed ⊢
      have small := listed.small
      omega
  | _ =>
      simp only [type, Limits.maxNameChars, Limits.maxOccupancyBatch] at short listed ⊢
      omega

/-- A message has an encoding exactly when it is listed and its strings are short. -/
theorem encodeMessage_ne_nil_iff (message : Message) :
    encodeMessage message ≠ [] ↔ message.Listed ∧ message.Short := by
  by_cases listed : message.Listed
  · have positive : 0 < message.encodedSize := by
      rw [Message.encodedSize]
      omega
    rw [encodeMessage_eq listed, (puts_message listed).finish Limits.maxFramePayloadBytes positive]
    exact ⟨fun fits => ⟨listed, fits.1⟩, fun sound => ⟨sound.2, sound.2.small listed⟩⟩
  · rw [encodeMessage_unlisted listed]
    exact ⟨fun some => absurd rfl some, fun sound => absurd sound.1 listed⟩

theorem feeds_message {message : Message} (listed : message.Listed) (short : message.Short) :
    Feeds message.Readable 0 (fun writer => message.putBody (putMessageHead writer message))
      (pure (.ok message.relevant)) getMessage := by
  have start := feeds_start getMessage
  unfold getMessage at start
  have head := ((start.u16 message.type.toRaw).u32 message.sequence).failing
  rw [MessageType.ofRaw_toRaw] at head
  simp only [Bool.false_eq_true, ↓reduceIte] at head
  obtain ⟨type, sequence, hello, helloAck, heartbeat, occupancy, mutation, mutationResponse, epoch,
    fence, stats, error, text⟩ := message
  unfold Message.Listed at listed
  unfold Message.Short Message.Writable at short
  unfold Message.Readable Message.relevant Message.putBody
  cases type with
  | none => cases listed
  | unlisted offset => cases listed
  | hello =>
      refine ((head.hello hello).check (refuses_error _)).cast ?_
      simp only [true_and, not_and_or, not_not]
  | helloAck =>
      refine (head.helloAck helloAck fun _ => latches_pure _).cast ?_
      simp only [Limits.maxNameChars, Limits.maxMessageChars, true_and, iff_true] at short ⊢
      omega
  | heartbeat =>
      simp only [getMessageBody, getHeartbeat, bind_assoc, pure_bind] at head
      exact (head.counter heartbeat.sequence).counter heartbeat.epoch
  | occupancyBatch =>
      refine (head.counted occupancy Feeds.item_occupancySample).cast ?_
      simpa using listed
  | mutation =>
      have length : (encodeMutation mutation).length = mutation.encodedSize :=
        length_encodeMutation listed
      have small : mutation.encodedSize ≤ 329 := listed.small
      have blob := (head.bytes (encodeMutation mutation)
        (by rw [length, Limits.maxFramePayloadBytes]; omega) (by omega)).failing
      simp only [Bool.false_eq_true, ↓reduceIte] at blob
      by_cases readable : mutation.Readable
      · rw [decodeMutation_encodeMutation mutation readable
          ((encodeMutation_ne_nil_iff mutation).mpr listed)] at blob
        exact blob.cast (iff_of_true trivial readable)
      · cases decoded : decodeMutation (encodeMutation mutation) with
        | ok result => exact absurd (eq_of_decodeMutation decoded).1 readable
        | error status =>
            rw [decoded] at blob
            have refused : Feeds True 0 _ (pure (.error status)) getMessage := blob
            exact refused.refused.cast (iff_of_false id readable)
  | mutationResponse =>
      refine (head.mutationResponse mutationResponse fun _ => latches_pure _).cast ?_
      simp only [Limits.maxNameChars, Limits.maxMessageChars, true_and, iff_true] at short ⊢
      omega
  | epochAdvance => exact head.counter epoch
  | fenceNotice =>
      exact (head.fenceNotice fence fun _ => latches_pure _).cast (by rw [true_and])
  | statsRequest => exact head
  | statsResponse => exact head.stats stats
  | shutdown =>
      refine (head.string text fun _ => latches_pure _).cast ?_
      simp only [Limits.maxNameChars, Limits.maxMessageChars, true_and, iff_true] at short ⊢
      omega
  | errorMessage =>
      refine (head.errorMessage error fun _ => latches_pure _).cast ?_
      simp only [Limits.maxNameChars, Limits.maxMessageChars, true_and, iff_true] at short ⊢
      omega

/-- What an accepted message satisfies, whatever bytes it was read from. -/
structure Message.Accepted (message : Message) : Prop where
  relevant : message.relevant = message
  listed : message.Listed
  readable : message.Readable
  short : message.Writable → message.Short

theorem yields_getMessageBody (type : MessageType) (sequence : UInt32) :
    Yields Message.Accepted (getMessageBody type sequence) := by
  cases type with
  | none => exact yields_error _
  | unlisted offset => exact yields_error _
  | hello =>
      have named : Gives (fun hello : Hello => hello.name.length ≤ Limits.maxNameChars)
          getHello := by
        refine Gives.after fun _ => Gives.after fun _ => Gives.after fun _ => Gives.after fun _ => ?_
        refine Gives.after fun _ => Gives.after fun _ => ?_
        exact (gives_getString _).bind fun name short => gives_pure short
      refine Yields.given named fun hello short => ?_
      split
      · exact yields_error _
      · rename_i known
        rw [not_and_or, not_not, not_not] at known
        exact yields_pure ⟨rfl, trivial, known, fun _ => short⟩
  | occupancyBatch =>
      refine Yields.bind fun count => Yields.bind fun failed => ?_
      split
      · exact yields_error _
      · rename_i few
        simp only [Bool.or_eq_true, decide_eq_true_eq, not_or, not_lt] at few
        refine Yields.given ((gives_any _).many _) fun samples counted => ?_
        exact yields_pure ⟨rfl, (Nat.le_of_eq counted.1).trans few.2, trivial, id⟩
  | mutation =>
      refine Yields.bind fun blob => Yields.bind fun failed => ?_
      split
      · exact yields_error _
      · cases decoded : decodeMutation blob with
        | error status => exact yields_error _
        | ok request =>
            obtain ⟨readable, short⟩ := kept_of_decodeMutation decoded
            exact yields_pure ⟨rfl, short, readable, id⟩
  | fenceNotice =>
      have named : Gives (fun fence : FenceNotice =>
          fence.reason.length ≤ Limits.maxReasonChars) getFenceNotice := by
        refine Gives.after fun _ => Gives.after fun _ => Gives.after fun _ => ?_
        exact (gives_getString _).bind fun reason short => gives_pure short
      refine Yields.given named fun fence short => yields_pure ⟨rfl, trivial, short, fun _ => ?_⟩
      change fence.reason.length ≤ Limits.maxNameChars
      simp only [Limits.maxReasonChars, Limits.maxNameChars] at short ⊢
      omega
  | statsRequest => exact yields_pure ⟨rfl, trivial, trivial, id⟩
  | _ => exact Yields.bind fun _ => yields_pure ⟨rfl, trivial, trivial, id⟩

theorem accepted_of_decodeMessage {data : Bytes} {message : Message}
    (decoded : decodeMessage data = .ok message) : message.Accepted := by
  refine decodeWhole_yields (Yields.bind fun type => Yields.bind fun sequence =>
    Yields.bind fun failed => ?_) decoded
  split
  · exact yields_error _
  · exact yields_getMessageBody _ _

/-- An encoded message is accepted exactly when it is readable, and then read back. -/
theorem decodeMessage_encodeMessage {message : Message} (written : encodeMessage message ≠ []) :
    (message.Readable → decodeMessage (encodeMessage message) = .ok message.relevant) ∧
      ∀ result, decodeMessage (encodeMessage message) = .ok result → message.Readable := by
  obtain ⟨listed, short⟩ := (encodeMessage_ne_nil_iff message).mp written
  rw [encodeMessage_eq listed] at written ⊢
  obtain ⟨reads, accepts⟩ := (feeds_message listed short).finish Limits.maxFramePayloadBytes
    (by decide) written
  refine ⟨fun readable => ?_, fun result decoded => ?_⟩
  · rw [decodeMessage, decodeWhole, reads readable]
    rfl
  · rw [decodeMessage, decodeWhole] at decoded
    split at decoded
    · cases decoded
    · rename_i value reader read
      split at decoded
      · cases decoded
      · rename_i clean
        simp only [Bool.or_eq_true, not_or, Bool.not_eq_true] at clean
        exact (accepts value reader read clean.1).1

theorem message_round_trip_iff (message : Message) :
    (encodeMessage message ≠ [] →
      ((∃ result, decodeMessage (encodeMessage message) = .ok result ∧
        result.relevant = message.relevant) ↔ message.Readable)) ∧
    ∀ data : Bytes, decodeMessage data = .ok message →
      ((encodeMessage message ≠ [] ∧
        decodeMessage (encodeMessage message) = .ok message) ↔ message.Writable) := by
  constructor
  · intro written
    obtain ⟨reads, accepts⟩ := decodeMessage_encodeMessage written
    constructor
    · rintro ⟨result, decoded, -⟩
      exact accepts result decoded
    · intro readable
      refine ⟨_, reads readable, ?_⟩
      exact (accepted_of_decodeMessage (reads readable)).relevant
  · intro data decoded
    obtain ⟨relevant, listed, readable, short⟩ := accepted_of_decodeMessage decoded
    constructor
    · rintro ⟨written, -⟩
      exact ((encodeMessage_ne_nil_iff message).mp written).2.writable
    · intro writable
      have written := (encodeMessage_ne_nil_iff message).mpr ⟨listed, short writable⟩
      have reads := (decodeMessage_encodeMessage written).1 readable
      rw [relevant] at reads
      exact ⟨written, reads⟩

/-- A fence notice whose reason has the given length. -/
def fenceNotice (length : Nat) : Message :=
  { type := .fenceNotice, fence := { reason := List.replicate length 0x78 } }

/-- The bytes of a shutdown with a text of 129 characters. -/
def longShutdown : Bytes := [11, 0, 0, 0, 0, 0, 129, 0] ++ List.replicate 129 0x78

theorem message_round_trip_once :
    ∃ result, decodeMessage (encodeMessage (fenceNotice 96)) = .ok result ∧
      result.relevant = (fenceNotice 96).relevant := by
  refine ((message_round_trip_iff (fenceNotice 96)).1 (by decide +kernel)).mpr ?_
  change 96 ≤ 96
  exact Nat.le_refl 96

/-- A reason of 97 characters is sent and not accepted; a text of 129 is accepted and cannot be
sent on. -/
theorem message_limits_differ :
    (encodeMessage (fenceNotice 97) ≠ [] ∧
      ¬ ∃ result, decodeMessage (encodeMessage (fenceNotice 97)) = .ok result) ∧
    ∃ message, decodeMessage longShutdown = .ok message ∧ encodeMessage message = [] := by
  refine ⟨⟨by decide +kernel, ?_⟩, ?_⟩
  · rintro ⟨result, decoded⟩
    have refused : (decodeMessage (encodeMessage (fenceNotice 97))).toOption.isSome = false := by
      decide +kernel
    rw [decoded] at refused
    cases refused
  · refine ⟨{ type := .shutdown, text := List.replicate 129 0x78 }, ?_, by decide +kernel⟩
    decide +kernel

end QueueFabric
