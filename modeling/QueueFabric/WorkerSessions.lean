import QueueFabric.Conversations
import QueueFabric.WorkerCore

/-!
What a worker client writes and reads. Each operation writes at most one message
and takes frames off the stream of the coordinator; one that returns a response
passed over every frame before it.
-/

namespace QueueFabric

open Streaming

/-- The frame does not end a wait for the expected message. -/
def Frame.Passed (expected : MessageType) (frame : Frame) : Prop :=
  ∀ message, decodeMessage frame.payload = .ok message → message.type ≠ expected ∧
    ¬ (message.type = .errorMessage ∧ message.error.code ≠ .ok)

/-- How a wait goes with the frames it takes. -/
inductive Awaits (expected : MessageType) :
    List Frame → Option (Except ClientStatus Message) → Prop
  | waiting {frames : List Frame} (passed : ∀ frame ∈ frames, frame.Passed expected) :
      Awaits expected frames none
  | failed (frames : List Frame) (status : ClientStatus) :
      Awaits expected frames (some (.error status))
  | found {skipped : List Frame} {frame : Frame} {message : Message}
      (passed : ∀ frame ∈ skipped, frame.Passed expected)
      (decoded : decodeMessage frame.payload = .ok message) (typed : message.type = expected) :
      Awaits expected (skipped ++ [frame]) (some (.ok message))

theorem Awaits.after {expected : MessageType} {early later : List Frame}
    {result : Option (Except ClientStatus Message)} (awaits : Awaits expected later result)
    (passed : ∀ frame ∈ early, frame.Passed expected) : Awaits expected (early ++ later) result := by
  cases awaits with
  | waiting passed' =>
      refine .waiting fun frame listed => ?_
      rcases List.mem_append.mp listed with first | second
      · exact passed frame first
      · exact passed' frame second
  | failed frames status => exact .failed _ status
  | found passed' decoded typed =>
      rw [← List.append_assoc]
      refine .found (fun frame listed => ?_) decoded typed
      rcases List.mem_append.mp listed with first | second
      · exact passed frame first
      · exact passed' frame second

/-! Announcements of the epoch of the coordinator. -/

def Message.announced (message : Message) : Option Epoch :=
  match message.type with
  | .helloAck => some message.helloAck.coordinatorEpoch
  | .epochAdvance => some message.epoch
  | _ => none

def Frame.announced (frame : Frame) : Option Epoch :=
  match decodeMessage frame.payload with
  | .error _ => none
  | .ok message => message.announced

/-- The client knows the epoch it knew before or the last of some that the frames announce. -/
def WorkerClient.Learned (before : WorkerClient) (frames : List Frame) (after : WorkerClient) :
    Prop :=
  ∃ epochs : List Epoch, epochs.Sublist (frames.filterMap Frame.announced) ∧
    after.coordinatorEpoch = epochs.foldl (fun _ epoch => epoch) before.coordinatorEpoch

namespace WorkerClient

theorem learned_nothing {before after : WorkerClient}
    (same : after.coordinatorEpoch = before.coordinatorEpoch) (frames : List Frame) :
    Learned before frames after := ⟨[], List.nil_sublist _, same⟩

theorem learned_announced {before after : WorkerClient} {frame : Frame} {epoch : Epoch}
    (announced : frame.announced = some epoch) (known : after.coordinatorEpoch = epoch)
    (skipped : List Frame) : Learned before (skipped ++ [frame]) after := by
  refine ⟨[epoch], ?_, known⟩
  rw [List.filterMap_append, List.filterMap_cons_some announced]
  exact List.sublist_append_right _ _

theorem Learned.trans {first second third : WorkerClient} {early later : List Frame}
    (one : Learned first early second) (two : Learned second later third) :
    Learned first (early ++ later) third := by
  obtain ⟨epochs, listed, known⟩ := one
  obtain ⟨more, added, newest⟩ := two
  refine ⟨epochs ++ more, ?_, ?_⟩
  · rw [List.filterMap_append]
    exact listed.append added
  · rw [newest, known, List.foldl_append]

end WorkerClient

/-! Transports. -/

namespace TcpTransport

theorem stream_arrive (transport : TcpTransport) :
    transport.arrive.stream = transport.stream ∧ transport.arrive.sent = transport.sent := by
  rw [arrive]
  split
  · exact ⟨rfl, rfl⟩
  · rename_i arrival later listed
    simp [stream, listed]

theorem stream_settle (later : Nat) (transport : TcpTransport) :
    (transport.settle later).stream = transport.stream ∧
      (transport.settle later).sent = transport.sent := by
  induction later generalizing transport with
  | zero => exact ⟨rfl, rfl⟩
  | succ later ih =>
      rw [settle]
      split
      · exact ⟨rfl, rfl⟩
      · obtain ⟨stream, sent⟩ := transport.stream_arrive
        exact ⟨(ih _).1.trans stream, (ih _).2.trans sent⟩

end TcpTransport

namespace WorkerClient

/-- The client made `taken` of what the coordinator sends. -/
def Listens (origin : Bytes) (taken : List Frame) (client : WorkerClient) : Prop :=
  client.decoder.Follows origin taken client.transport.stream

variable {origin : Bytes} {taken : List Frame} {client : WorkerClient}

theorem Listens.moved {after : WorkerClient} (listens : Listens origin taken client)
    (decoder : after.decoder = client.decoder)
    (stream : after.transport.stream = client.transport.stream) : Listens origin taken after := by
  rw [Listens, decoder, stream]
  exact listens

/-- What a loop of the client leaves behind: some frames were taken, nothing was written. -/
structure Took (origin : Bytes) (taken : List Frame) (expected : MessageType)
    (client : WorkerClient) (result : Option (Except ClientStatus Message) × WorkerClient) :
    Prop where
  frames : ∃ frames, Awaits expected frames result.1 ∧
    Listens origin (taken ++ frames) result.2 ∧ Learned client frames result.2
  sent : result.2.transport.sent = client.transport.sent
  config : result.2.config = client.config

theorem took_nothing {expected : MessageType} {after : WorkerClient}
    {result : Option (Except ClientStatus Message)} (awaits : Awaits expected [] result)
    (listens : Listens origin taken after) (sent : after.transport.sent = client.transport.sent)
    (config : after.config = client.config)
    (epoch : after.coordinatorEpoch = client.coordinatorEpoch) :
    Took origin taken expected client (result, after) :=
  ⟨⟨[], awaits, by rwa [List.append_nil], learned_nothing epoch []⟩, sent, config⟩

/-- A loop that passed some frames over and went on. -/
theorem Took.following {expected : MessageType} {middle : WorkerClient} {frames : List Frame}
    {result : Option (Except ClientStatus Message) × WorkerClient}
    (later : Took origin (taken ++ frames) expected middle result)
    (passed : ∀ frame ∈ frames, frame.Passed expected)
    (sent : middle.transport.sent = client.transport.sent)
    (config : middle.config = client.config) (learned : Learned client frames middle) :
    Took origin taken expected client result := by
  obtain ⟨⟨more, awaits, listens, newer⟩, kept, same⟩ := later
  refine ⟨⟨frames ++ more, awaits.after passed, ?_, learned.trans newer⟩, kept.trans sent,
    same.trans config⟩
  rwa [← List.append_assoc]

theorem handleNotice_kept (client : WorkerClient) (message : Message) :
    (client.handleNotice message).2.decoder = client.decoder ∧
      (client.handleNotice message).2.transport = client.transport ∧
      (client.handleNotice message).2.config = client.config := by
  simp only [handleNotice]
  split <;> exact ⟨rfl, rfl, rfl⟩

theorem handleNotice_learned (client : WorkerClient) {message : Message} {frame : Frame}
    (decoded : decodeMessage frame.payload = .ok message) :
    Learned client [frame] (client.handleNotice message).2 := by
  cases kind : message.type with
  | epochAdvance =>
      have announced : frame.announced = some message.epoch := by
        simp [Frame.announced, decoded, Message.announced, kind]
      have known : (client.handleNotice message).2.coordinatorEpoch = message.epoch := by
        simp [handleNotice, kind]
      exact learned_announced announced known []
  | _ => exact learned_nothing (by simp [handleNotice, kind]) [frame]

/-- A notice fails exactly when it brings an error. -/
theorem handleNotice_fails (client : WorkerClient) (message : Message) :
    (!(client.handleNotice message).1.isOk && message.type = .errorMessage) =
      (message.type = .errorMessage && message.error.code ≠ .ok) := by
  simp only [handleNotice]
  split
  · rename_i kind
    simp [kind]
  · rename_i kind
    simp [kind, ClientStatus.isOk]
  · rename_i other
    have kind : message.type ≠ .errorMessage := other
    simp [kind]

theorem decodeFor_took (expected : MessageType) (fuel : Nat)
    (listens : Listens origin taken client) :
    Took origin taken expected client (client.decodeFor expected fuel) := by
  induction fuel generalizing client taken with
  | zero => exact took_nothing (.waiting (by simp)) listens rfl rfl rfl
  | succ fuel ih =>
      simp only [decodeFor]
      cases outcome : client.decoder.next.1 with
      | error status =>
          have stuck := listens.stuck outcome
          simp only []
          split
          · exact took_nothing (.waiting (by simp)) stuck rfl rfl rfl
          · exact took_nothing (.failed [] _) stuck rfl rfl rfl
      | ok frame =>
          have advanced {later : WorkerClient} (decoder : later.decoder = client.decoder.next.2)
              (transport : later.transport = client.transport) :
              Listens origin (taken ++ [frame]) later := by
            rw [Listens, decoder, transport]
            exact listens.next outcome
          simp only []
          cases decoded : decodeMessage frame.payload with
          | error status =>
              refine Took.following (ih (advanced rfl rfl)) ?_ rfl rfl (learned_nothing rfl _)
              intro other listed message found
              rw [List.mem_singleton.mp listed, decoded] at found
              cases found
          | ok message =>
              simp only []
              by_cases typed : message.type = expected
              · rw [if_pos typed]
                exact ⟨⟨[frame], @Awaits.found expected [] frame message (by simp) decoded typed,
                  advanced rfl rfl, learned_nothing rfl _⟩, rfl, rfl⟩
              · rw [if_neg typed]
                generalize heard_eq : ({ client with
                  decoder := client.decoder.next.2
                  framesReceived := client.framesReceived + 1 } : WorkerClient) = heard
                have same : heard.decoder = client.decoder.next.2 ∧
                    heard.transport = client.transport ∧ heard.config = client.config := by
                  rw [← heard_eq]
                  exact ⟨rfl, rfl, rfl⟩
                have learned : Learned client [frame] (heard.handleNotice message).2 := by
                  have unaware : Learned client [] heard := learned_nothing (by rw [← heard_eq]) []
                  exact unaware.trans (heard.handleNotice_learned decoded)
                obtain ⟨decoder, kept, config⟩ := heard.handleNotice_kept message
                have fails := heard.handleNotice_fails message
                have noticed := advanced (decoder.trans same.1) (kept.trans same.2.1)
                have unsent : (heard.handleNotice message).2.transport.sent =
                    client.transport.sent := by rw [kept, same.2.1]
                split
                · exact ⟨⟨[frame], .failed _ _, noticed, learned⟩, unsent, config.trans same.2.2⟩
                · rename_i harmless
                  refine (ih noticed).following ?_ unsent (config.trans same.2.2) learned
                  intro other listed found known
                  rw [List.mem_singleton.mp listed, decoded, Except.ok.injEq] at known
                  rw [fails] at harmless
                  rw [← known]
                  refine ⟨typed, fun error => harmless ?_⟩
                  simp [error.1, error.2]

theorem awaitFor_took (expected : MessageType) (fuel : Nat)
    (listens : Listens origin taken client) :
    Took origin taken expected client (client.awaitFor expected fuel) := by
  induction fuel generalizing client taken with
  | zero => exact took_nothing (.waiting (by simp)) listens rfl rfl rfl
  | succ fuel ih =>
      simp only [awaitFor]
      split
      · exact took_nothing (.failed [] _) listens rfl rfl rfl
      obtain ⟨settled, unsent⟩ :=
        client.transport.stream_settle client.transport.arrivals.length
      generalize client.transport.settle client.transport.arrivals.length = transport
        at settled unsent
      split
      · exact took_nothing (.waiting (by simp)) (listens.moved rfl settled) unsent rfl rfl
      obtain ⟨chunked, failed, sent⟩ :=
        @TcpTransport.stream_receive transport client.config.receiveBufferBytes
      generalize transport.receive client.config.receiveBufferBytes = received
        at chunked failed sent
      have same : received.2.sent = client.transport.sent := sent.trans unsent
      cases outcome : received.1 with
      | error status =>
          have stream := (failed status outcome).trans settled
          exact took_nothing (.failed [] _) (listens.moved rfl stream) same rfl rfl
      | ok chunk =>
          have stream : client.transport.stream = chunk ++ received.2.stream :=
            settled.symm.trans (chunked chunk outcome)
          simp only []
          cases empty : chunk.isEmpty with
          | true =>
              rw [List.isEmpty_iff] at empty
              rw [empty, List.nil_append] at stream
              exact took_nothing (.failed [] _) (listens.moved rfl stream.symm) same rfl rfl
          | false =>
              have pushed : Listens origin taken { client with
                  transport := received.2
                  decoder := (client.decoder.push chunk).2 } :=
                FrameDecoder.Follows.push (stream ▸ (listens : client.decoder.Follows _ _ _))
              simp only [Bool.false_eq_true, ↓reduceIte]
              cases (client.decoder.push chunk).1.isOk with
              | false => exact took_nothing (.failed [] _) pushed same rfl rfl
              | true =>
                  simp only [Bool.not_true, Bool.false_eq_true, ↓reduceIte]
                  have decoded := decodeFor_took expected
                    ((client.decoder.push chunk).2.buffered + 1) pushed
                  generalize decodeFor expected _ _ = result at decoded ⊢
                  obtain ⟨⟨frames, awaits, listens', heard⟩, kept, config⟩ := decoded
                  have learned : Learned client frames result.2 := heard
                  cases ended : result.1 with
                  | some answer =>
                      rw [ended] at awaits
                      exact ⟨⟨frames, awaits, listens', learned⟩, kept.trans same, config⟩
                  | none =>
                      rw [ended] at awaits
                      cases awaits with
                      | waiting passed =>
                          exact (ih listens').following passed (kept.trans same) config learned

theorem await_took (expected : MessageType) (listens : Listens origin taken client) :
    Took origin taken expected client (client.await expected) :=
  awaitFor_took expected _ listens

/-- What sending leaves behind. -/
structure Wrote (client : WorkerClient) (message : Message) (result : Status × WorkerClient) :
    Prop where
  status : result.1.isOk = client.transport.takes message
  sent : result.2.transport.sent = client.transport.sent ++ client.transport.transmitted message
  decoder : result.2.decoder = client.decoder
  stream : result.2.transport.stream = client.transport.stream
  config : result.2.config = client.config
  epoch : result.2.coordinatorEpoch = client.coordinatorEpoch

theorem send_wrote (client : WorkerClient) (message : Message) :
    Wrote client message (client.send message) := by
  simp only [send]
  split
  · rename_i unencoded
    rw [List.isEmpty_iff] at unencoded
    have silent : message.wire = [] := if_pos unencoded
    exact ⟨by simp [TcpTransport.takes, silent, Status.isOk],
      by simp [TcpTransport.transmitted, TcpTransport.takes, silent], rfl, rfl, rfl, rfl⟩
  rename_i encoded
  rw [List.isEmpty_iff] at encoded
  have wire : message.wire = encodeFrame message.frame (UInt64.ofNat Limits.maxFramePayloadBytes) :=
    if_neg encoded
  rw [Message.frame] at wire
  rw [← wire]
  split
  · rename_i large
    rw [List.isEmpty_iff] at large
    exact ⟨by simp [TcpTransport.takes, large, Status.isOk],
      by simp [TcpTransport.transmitted, TcpTransport.takes, large], rfl, rfl, rfl, rfl⟩
  rename_i fits
  obtain ⟨status, sent⟩ := send_spec client.transport message.wire
  have takes : client.transport.takes message = client.transport.reaches := by
    simp [TcpTransport.takes, fits]
  have stream : (client.transport.send message.wire).2.stream = client.transport.stream := by
    simp only [TcpTransport.send]
    split
    · rfl
    split <;> rfl
  rw [← takes] at status sent
  split
  · exact ⟨status, sent, rfl, stream, rfl, rfl⟩
  · exact ⟨status, sent, rfl, stream, rfl, rfl⟩

end WorkerClient

/-! Turns. -/

/-- The operation sends the message and waits for no answer. -/
inductive WorkerCall.Posts : WorkerCall → Message → Prop
  | publish (samples : List OccupancySample) (sequence : UInt32) :
      Posts (.publish samples) { type := .occupancyBatch, sequence, occupancy := samples }
  | sendHeartbeat (sequence : UInt32) (heartbeat : Heartbeat) :
      Posts .sendHeartbeat { type := .heartbeat, sequence, heartbeat }
  | sendShutdown (reason : Text) (sequence : UInt32) :
      Posts (.sendShutdown reason) {
        type := .shutdown
        sequence
        text := reason.take Limits.maxMessageChars }

/-- The operation of a client of this role sends the request and returns what it makes of the
response. -/
inductive WorkerCall.Asks (role : Role) :
    WorkerCall → Message → MessageType → (Message → WorkerAnswer) → Prop
  | handshake (sequence : UInt32) (hello : Hello) (same : hello.role = role) :
      Asks role .handshake { type := .hello, sequence, hello } .helloAck
        fun response => .hello response.helloAck
  | sendMutation (request : MutationRequest) (sequence : UInt32) :
      Asks role (.sendMutation request) { type := .mutation, sequence, mutation := request }
        .mutationResponse fun response => .mutation response.mutationResponse
  | requestStats (sequence : UInt32) :
      Asks role .requestStats { type := .statsRequest, sequence } .statsResponse
        fun response => .stats response.stats

/-- An operation that returned, with what it wrote and read. -/
structure Turn where
  call : WorkerCall
  answer : WorkerAnswer
  posted : List Message
  taken : List Frame

/-- How an operation goes. -/
inductive Turn.Valid (role : Role) : Turn → Prop
  | failed (call : WorkerCall) (status : ClientStatus) (posted : List Message)
      (taken : List Frame) : Valid role ⟨call, .failed status, posted, taken⟩
  | counted (number : Sequence) : Valid role ⟨.nextSequence, .sequence number, [], []⟩
  | posted {call : WorkerCall} {message : Message} (posts : call.Posts message) :
      Valid role ⟨call, .sent, [message], []⟩
  | answered {call : WorkerCall} {request : Message} {expected : MessageType}
      {accept : Message → WorkerAnswer} {skipped : List Frame} {frame : Frame}
      {response : Message} (asks : call.Asks role request expected accept)
      (passed : ∀ frame ∈ skipped, frame.Passed expected)
      (decoded : decodeMessage frame.payload = .ok response) (typed : response.type = expected) :
      Valid role ⟨call, accept response, [request], skipped ++ [frame]⟩

namespace WorkerClient

variable {origin : Bytes} {taken : List Frame} {client : WorkerClient}

/-- What an operation leaves behind: the messages it posted and the frames it took. -/
structure Turned (origin : Bytes) (taken : List Frame) (client : WorkerClient) (call : WorkerCall)
    (result : Option WorkerAnswer × WorkerClient) (posted : List Message) (frames : List Frame) :
    Prop where
  valid : ∀ answer, result.1 = some answer →
    Turn.Valid client.config.role ⟨call, answer, posted, frames⟩
  written : ∀ message ∈ posted, message.wire ≠ []
  sent : result.2.transport.sent = client.transport.sent ++ posted.flatMap Message.wire
  listens : Listens origin (taken ++ frames) result.2
  config : result.2.config = client.config
  learned : Learned client frames result.2

theorem takes_wire {transport : TcpTransport} {message : Message}
    (takes : transport.takes message = true) :
    message.wire ≠ [] ∧ transport.transmitted message = message.wire := by
  refine ⟨?_, by rw [TcpTransport.transmitted, if_pos takes]⟩
  rw [TcpTransport.takes, Bool.and_eq_true] at takes
  simpa using takes.1

/-- A message that could not be sent, and a refusal before sending. -/
theorem turned_failed {call : WorkerCall} {after : WorkerClient} (status : ClientStatus)
    (listens : Listens origin taken after) (sent : after.transport.sent = client.transport.sent)
    (config : after.config = client.config)
    (epoch : after.coordinatorEpoch = client.coordinatorEpoch) :
    Turned origin taken client call (some (.failed status), after) [] [] where
  valid answer same := by
    cases same
    exact .failed call status [] []
  written := by simp
  sent := by
    rw [List.flatMap_nil, List.append_nil]
    exact sent
  listens := by rwa [List.append_nil]
  config := config
  learned := learned_nothing epoch []

/-- Sending fails and writes nothing, or writes the message. -/
theorem send_cases (client : WorkerClient) (message : Message) :
    (client.send message).1.isOk = false ∧
        (client.send message).2.transport.sent = client.transport.sent ∨
      (client.send message).1.isOk = true ∧ message.wire ≠ [] ∧
        (client.send message).2.transport.sent =
          client.transport.sent ++ [message].flatMap Message.wire := by
  have wrote := client.send_wrote message
  rw [wrote.status, wrote.sent]
  cases takes : client.transport.takes message with
  | false =>
      refine .inl ⟨rfl, ?_⟩
      rw [TcpTransport.transmitted, takes, if_neg (by decide), List.append_nil]
  | true =>
      obtain ⟨written, whole⟩ := takes_wire takes
      exact .inr ⟨rfl, written, by simp [whole]⟩

theorem post_turned {call : WorkerCall} {message : Message} (posts : call.Posts message)
    (listens : Listens origin taken client) :
    ∃ posted frames, Turned origin taken client call (client.post message) posted frames := by
  have wrote := client.send_wrote message
  have kept := listens.moved wrote.decoder wrote.stream
  simp only [post]
  rcases client.send_cases message with ⟨failed, sent⟩ | ⟨ok, written, sent⟩
  · rw [failed]
    exact ⟨[], [], turned_failed _ kept sent wrote.config wrote.epoch⟩
  · rw [ok]
    refine ⟨[message], [], fun answer same => ?_, by simpa using written, sent,
      by rwa [List.append_nil], wrote.config, learned_nothing wrote.epoch []⟩
    cases same
    exact .posted posts

theorem exchange_turned {call : WorkerCall} {request : Message} {expected : MessageType}
    {accept : Message → WorkerAnswer} (asks : call.Asks client.config.role request expected accept)
    (listens : Listens origin taken client) :
    ∃ posted frames,
      Turned origin taken client call (client.exchange request expected accept) posted frames := by
  have wrote := client.send_wrote request
  have kept := listens.moved wrote.decoder wrote.stream
  simp only [exchange]
  rcases client.send_cases request with ⟨failed, sent⟩ | ⟨ok, written, sent⟩
  · rw [failed]
    exact ⟨[], [], turned_failed _ kept sent wrote.config wrote.epoch⟩
  · simp only [ok, Bool.not_true, Bool.false_eq_true, ↓reduceIte]
    obtain ⟨⟨frames, awaits, listens', learned⟩, unsent, config⟩ := await_took expected kept
    generalize (client.send request).2.await expected = result
      at awaits listens' learned unsent config ⊢
    have known : Learned client frames result.2 := by
      rw [← List.nil_append frames]
      exact (learned_nothing wrote.epoch []).trans learned
    refine ⟨[request], frames, fun answer same => ?_, by simpa using written,
      unsent.trans sent, listens', config.trans wrote.config, known⟩
    generalize result.1 = outcome at awaits same
    cases awaits with
    | waiting passed => cases same
    | failed frames status =>
        cases same
        exact .failed _ _ _ _
    | found passed decoded typed =>
        cases same
        exact .answered asks passed decoded typed

theorem handshake_turned (listens : Listens origin taken client) :
    ∃ posted frames,
      Turned origin taken client .handshake client.handshake posted frames := by
  have asks : WorkerCall.Asks client.config.role .handshake client.hello .helloAck
      fun response => .hello response.helloAck := .handshake client.number client.hello.hello rfl
  obtain ⟨posted, frames, turned⟩ := exchange_turned asks listens
  refine ⟨posted, frames, ?_⟩
  rw [handshake]
  generalize client.exchange client.hello .helloAck (fun response => .hello response.helloAck) =
    greeted at turned ⊢
  simp only []
  split
  · rename_i ack answered
    refine ⟨turned.valid, turned.written, turned.sent, turned.listens, turned.config, ?_⟩
    have valid := turned.valid _ answered
    generalize answered_eq : WorkerAnswer.hello ack = answer at valid
    cases valid with
    | failed call status posted taken => cases answered_eq
    | posted posts => cases posts
    | @answered call request expected accept skipped frame response asks passed decoded typed =>
        cases asks with
        | handshake sequence hello same =>
            cases answered_eq
            have announced : frame.announced = some response.helloAck.coordinatorEpoch := by
              simp [Frame.announced, decoded, Message.announced, typed]
            exact learned_announced announced rfl skipped
  · exact turned

theorem call_turned (call : WorkerCall) (listens : Listens origin taken client) :
    ∃ posted frames, Turned origin taken client call (client.call call) posted frames := by
  cases call with
  | handshake => exact handshake_turned listens
  | publish samples =>
      simp only [WorkerClient.call, publish]
      split
      · exact ⟨[], [], turned_failed _ listens rfl rfl rfl⟩
      split
      · exact ⟨[], [], turned_failed _ listens rfl rfl rfl⟩
      · exact post_turned (.publish samples _) listens
  | sendHeartbeat => exact post_turned (.sendHeartbeat _ _) listens
  | sendMutation request => exact exchange_turned (.sendMutation request _) listens
  | requestStats => exact exchange_turned (.requestStats _) listens
  | sendShutdown reason => exact post_turned (.sendShutdown reason _) listens
  | nextSequence =>
      have kept : client.nextSequence.2.decoder = client.decoder ∧
          client.nextSequence.2.transport = client.transport ∧
          client.nextSequence.2.config = client.config ∧
          client.nextSequence.2.coordinatorEpoch = client.coordinatorEpoch := by
        rw [nextSequence]
        split <;> exact ⟨rfl, rfl, rfl, rfl⟩
      refine ⟨[], [], fun answer same => ?_, by simp, ?_, ?_, kept.2.2.1,
        learned_nothing kept.2.2.2 []⟩
      · cases same
        exact .counted _
      · rw [List.flatMap_nil, List.append_nil]
        exact congrArg TcpTransport.sent kept.2.1
      · rw [List.append_nil]
        exact listens.moved kept.1 (congrArg TcpTransport.stream kept.2.1)

/-- A session is the turns of the operations that returned, and what the last one wrote and read
that did not. -/
structure Sessions (origin : Bytes) (taken : List Frame) (client : WorkerClient)
    (result : List (WorkerCall × WorkerAnswer) × WorkerClient) (turns : List Turn)
    (posted : List Message) (frames : List Frame) : Prop where
  valid : ∀ turn ∈ turns, turn.Valid client.config.role
  results : result.1 = turns.map fun turn => (turn.call, turn.answer)
  written : ∀ message ∈ turns.flatMap Turn.posted ++ posted, message.wire ≠ []
  sent : result.2.transport.sent =
    client.transport.sent ++ (turns.flatMap Turn.posted ++ posted).flatMap Message.wire
  listens : Listens origin (taken ++ (turns.flatMap Turn.taken ++ frames)) result.2
  config : result.2.config = client.config
  learned : Learned client (turns.flatMap Turn.taken ++ frames) result.2

theorem session_turns (calls : List WorkerCall) (listens : Listens origin taken client) :
    ∃ turns posted frames,
      Sessions origin taken client (client.session calls) turns posted frames ∧
        (turns.length = calls.length → posted = [] ∧ frames = []) := by
  induction calls generalizing client taken with
  | nil =>
      refine ⟨[], [], [], ⟨by simp, rfl, by simp, by simp [session], ?_, rfl,
        learned_nothing rfl _⟩, fun _ => ⟨rfl, rfl⟩⟩
      simpa [session] using listens
  | cons call later ih =>
      obtain ⟨posted, frames, turned⟩ := call_turned call listens
      have valid := turned.valid
      simp only [session]
      cases returned : (client.call call).1 with
      | none =>
          exact ⟨[], posted, frames,
            ⟨by simp, rfl, turned.written, turned.sent, turned.listens, turned.config,
              turned.learned⟩, fun all => by cases all⟩
      | some answer =>
          obtain ⟨turns, more, rest, whole, ended⟩ := ih turned.listens
          refine ⟨⟨call, answer, posted, frames⟩ :: turns, more, rest, ⟨?_, ?_, ?_, ?_, ?_,
            whole.config.trans turned.config, ?_⟩, fun all => ended (Nat.succ.inj all)⟩
          · intro turn listed
            rcases List.mem_cons.mp listed with rfl | other
            · exact valid answer returned
            · rw [← turned.config]
              exact whole.valid turn other
          · rw [List.map_cons, ← whole.results]
          · intro message listed
            rw [List.flatMap_cons, List.append_assoc, List.mem_append] at listed
            exact listed.elim (turned.written message) (whole.written message)
          · rw [List.flatMap_cons, List.append_assoc, List.flatMap_append, ← List.append_assoc,
              ← turned.sent]
            exact whole.sent
          · rw [List.flatMap_cons, List.append_assoc, ← List.append_assoc taken]
            exact whole.listens
          · rw [List.flatMap_cons, List.append_assoc]
            exact turned.learned.trans whole.learned

end WorkerClient

end QueueFabric
