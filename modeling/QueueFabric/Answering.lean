import QueueFabric.Exchanges

/-!
A worker that waits. A wait that does not end has received and read everything
there was, so once a coordinator has handled everything a worker sent and its
answers have arrived, no operation of the worker is left waiting.
-/

namespace QueueFabric

open Streaming

/-! Reading everything. -/

namespace FrameDecoder

/-- No frame can be taken before more is pushed. -/
def Waiting (decoder : FrameDecoder) : Prop :=
  decoder.failed = false ∧ framing decoder.unread = .short

theorem refused_found {maxPayload : UInt64} {raw : Bytes} {status : Status}
    (refused : frameAttempt maxPayload raw = .refused status) : status.code ≠ .notFound := by
  simp only [frameAttempt] at refused
  split at refused
  · cases refused
  split at refused
  · cases refused
    decide
  split at refused
  · cases refused
    decide
  split at refused
  · cases refused
    decide
  split at refused
  · cases refused
  split at refused
  · cases refused
    decide
  · cases refused

variable {stream ahead : Bytes} {taken : List Frame} {decoder : FrameDecoder}

/-- A decoder that finds no frame waits for more. -/
theorem Follows.waiting (follows : Follows stream taken ahead decoder)
    (alive : decoder.failed = false) {status : Status} (error : decoder.next.1 = .error status)
    (none : status.code = .notFound) : decoder.next.2.Waiting := by
  have ended := next_cases follows.sound alive
  generalize decoder.next = result at error ended
  cases ended with
  | short status attempted =>
      rw [follows.limit] at attempted
      exact ⟨alive, attempted⟩
  | refused status attempted =>
      cases error
      exact absurd none (refused_found attempted)
  | read frame after sound attempted alive same => cases error

theorem push_alive {chunk : Bytes} (alive : decoder.failed = false)
    (ok : (decoder.push chunk).1.isOk = true) : (decoder.push chunk).2.failed = false := by
  simp only [push, alive, Bool.false_eq_true, ↓reduceIte] at ok ⊢
  split at ok
  · rename_i empty
    rw [if_pos empty, alive]
  split at ok
  · cases ok
  · rename_i some fits
    rw [if_neg some, if_neg fits]

/-- A frame takes bytes from the decoder. -/
theorem Follows.shrinks (follows : Follows stream taken ahead decoder)
    (alive : decoder.failed = false) {frame : Frame} (ok : decoder.next.1 = .ok frame) :
    decoder.next.2.failed = false ∧ decoder.next.2.buffered < decoder.buffered := by
  have ended := next_cases follows.sound alive
  generalize decoder.next = result at ok ended ⊢
  cases ended with
  | short status attempted => cases ok
  | refused status attempted => cases ok
  | read frame after sound attempted alive same =>
      have shorter := (frameAttempt_steady _).shrinks attempted
      rw [length_unread, length_unread] at shorter
      exact ⟨alive, shorter⟩

end FrameDecoder

namespace TcpTransport

theorem settle_kept (later : Nat) (transport : TcpTransport) :
    (transport.settle later).pending = transport.pending ∧
      (transport.settle later).connected = transport.connected := by
  induction later generalizing transport with
  | zero => exact ⟨rfl, rfl⟩
  | succ later ih =>
      rw [settle]
      split
      · exact ⟨rfl, rfl⟩
      · exact ⟨(ih _).1.trans transport.pending_arrive, (ih _).2.trans transport.arrive_connected⟩

/-- A transport that never becomes ready has nothing left to receive. -/
theorem settle_stream {later : Nat} {transport : TcpTransport}
    (enough : transport.arrivals.length ≤ later)
    (waits : (transport.settle later).ready = false) :
    (transport.settle later).stream = [] := by
  induction later generalizing transport with
  | zero =>
      have none := List.eq_nil_of_length_eq_zero (Nat.le_zero.mp enough)
      rw [settle, ready, Bool.or_eq_false_iff, Bool.or_eq_false_iff] at waits
      rw [settle, stream, none, List.flatMap_nil, List.append_nil]
      simpa using waits.1.1
  | succ later ih =>
      rw [settle] at waits ⊢
      split at waits
      · rename_i ready
        rw [ready] at waits
        cases waits
      · rename_i idle
        rw [if_neg idle]
        refine ih ?_ waits
        rw [arrive]
        split
        · rename_i none
          simp [none]
        · rename_i arrival others listed
          rw [listed, List.length_cons] at enough
          exact Nat.le_of_succ_le_succ enough

end TcpTransport

namespace WorkerClient

variable {origin : Bytes} {taken : List Frame} {client : WorkerClient}

/-- The decode loop of a wait that goes on found no further frame. -/
theorem decodeFor_waits {expected : MessageType} {fuel : Nat} (listens : Listens origin taken client)
    (alive : client.decoder.failed = false) (enough : client.decoder.buffered < fuel)
    (waits : (client.decodeFor expected fuel).1 = none) :
    (client.decodeFor expected fuel).2.decoder.Waiting ∧
      (client.decodeFor expected fuel).2.transport = client.transport := by
  induction fuel generalizing client taken with
  | zero => exact absurd enough (Nat.not_lt_zero _)
  | succ fuel ih =>
      simp only [decodeFor] at waits ⊢
      cases outcome : client.decoder.next.1 with
      | error status =>
          simp only [outcome] at waits ⊢
          split at waits
          · rename_i missing
            rw [if_pos missing]
            exact ⟨listens.waiting alive outcome missing, rfl⟩
          · cases waits
      | ok frame =>
          obtain ⟨still, shorter⟩ := listens.shrinks alive outcome
          have room : client.decoder.next.2.buffered < fuel := by omega
          simp only [outcome] at waits ⊢
          have advanced {later : WorkerClient} (decoder : later.decoder = client.decoder.next.2)
              (transport : later.transport = client.transport)
              (waits : (later.decodeFor expected fuel).1 = none) :
              (later.decodeFor expected fuel).2.decoder.Waiting ∧
                (later.decodeFor expected fuel).2.transport = client.transport := by
            have next : Listens origin (taken ++ [frame]) later := by
              rw [Listens, decoder, transport]
              exact listens.next outcome
            rw [← transport]
            exact ih next (decoder ▸ still) (decoder ▸ room) waits
          cases decoded : decodeMessage frame.payload with
          | error status =>
              simp only [decoded] at waits ⊢
              exact advanced rfl rfl waits
          | ok message =>
              simp only [decoded] at waits ⊢
              split at waits
              · cases waits
              rename_i other
              rw [if_neg other]
              split at waits
              · cases waits
              rename_i harmless
              rw [if_neg harmless]
              obtain ⟨decoder, transport, _⟩ := handleNotice_kept _ message
              exact advanced decoder transport waits

/-- The receive loop of a wait that does not end received and read everything. -/
theorem awaitFor_waits {expected : MessageType} {fuel : Nat} (listens : Listens origin taken client)
    (caught : client.decoder.Waiting) (enough : client.transport.pending < fuel)
    (waits : (client.awaitFor expected fuel).1 = none) :
    (client.awaitFor expected fuel).2.decoder.Waiting ∧
      (client.awaitFor expected fuel).2.transport.stream = [] := by
  induction fuel generalizing client taken with
  | zero => exact absurd enough (Nat.not_lt_zero _)
  | succ fuel ih =>
      simp only [awaitFor] at waits ⊢
      split at waits
      · cases waits
      rename_i connected
      rw [if_neg connected]
      obtain ⟨settled, _⟩ := client.transport.stream_settle client.transport.arrivals.length
      obtain ⟨pending, _⟩ := client.transport.settle_kept client.transport.arrivals.length
      have emptied := @TcpTransport.settle_stream client.transport.arrivals.length client.transport
        (Nat.le_refl _)
      generalize client.transport.settle client.transport.arrivals.length = transport
        at waits settled pending emptied ⊢
      split at waits
      · rename_i idle
        rw [if_pos idle]
        exact ⟨caught, emptied (by simpa using idle.2)⟩
      rename_i ready
      rw [if_neg ready]
      obtain ⟨chunked, _, _⟩ :=
        @TcpTransport.stream_receive transport client.config.receiveBufferBytes
      have shorter {chunk : Bytes} := @TcpTransport.pending_receive transport
        client.config.receiveBufferBytes chunk
      generalize transport.receive client.config.receiveBufferBytes = received
        at waits chunked shorter ⊢
      cases outcome : received.1 with
      | error status =>
          simp only [outcome] at waits
          cases waits
      | ok chunk =>
          simp only [outcome] at waits ⊢
          split at waits
          · cases waits
          rename_i some
          rw [if_neg some]
          split at waits
          · cases waits
          rename_i accepted
          rw [if_neg accepted]
          have stream : client.transport.stream = chunk ++ received.2.stream :=
            settled.symm.trans (chunked chunk outcome)
          have pushed : Listens origin taken { client with
              transport := received.2
              decoder := (client.decoder.push chunk).2 } :=
            FrameDecoder.Follows.push (stream ▸ (listens : client.decoder.Follows _ _ _))
          have alive := FrameDecoder.push_alive caught.1 (by simpa using accepted)
          have drained := @decodeFor_waits _ _ _ expected
            ((client.decoder.push chunk).2.buffered + 1) pushed alive (Nat.lt_succ_self _)
          obtain ⟨frames, _, listens', _⟩ :=
            (decodeFor_took expected ((client.decoder.push chunk).2.buffered + 1) pushed).frames
          generalize decodeFor expected _ _ = decoded at waits drained listens' ⊢
          cases ended : decoded.1 with
          | some result =>
              simp only [ended] at waits
              cases waits
          | none =>
              simp only [ended] at waits ⊢
              obtain ⟨waiting, kept⟩ := drained ended
              have fewer : received.2.pending < transport.pending :=
                shorter outcome (by simpa using some)
              have left : decoded.2.transport.pending = received.2.pending := by rw [kept]
              exact ih listens' waiting (by omega) waits

/-- An operation that does not return has sent its request and read everything there was: none of it
was the response. -/
structure Waits (origin : Bytes) (taken : List Frame) (client : WorkerClient) (call : WorkerCall)
    (request : Message) (expected : MessageType) (accept : Message → WorkerAnswer)
    (frames : List Frame) : Prop where
  asks : call.Asks client.config.role request expected accept
  written : request.wire ≠ []
  sent : (client.call call).2.transport.sent = client.transport.sent ++ request.wire
  passed : ∀ frame ∈ frames, frame.Passed expected
  read : ∃ rest, Reads framing origin (taken ++ frames) rest ∧ framing rest = .short

theorem exchange_waits {call : WorkerCall} {request : Message} {expected : MessageType}
    {accept : Message → WorkerAnswer} (asks : call.Asks client.config.role request expected accept)
    (listens : Listens origin taken client) (caught : client.decoder.Waiting)
    (waits : (client.exchange request expected accept).1 = none)
    (same : (client.exchange request expected accept).2.transport.sent =
      (client.call call).2.transport.sent) :
    ∃ frames, Waits origin taken client call request expected accept frames := by
  have wrote := client.send_wrote request
  have kept := listens.moved wrote.decoder wrote.stream
  simp only [exchange] at waits same
  rcases client.send_cases request with ⟨failed, _⟩ | ⟨ok, written, sent⟩
  · simp [failed] at waits
  simp only [ok, Bool.not_true, Bool.false_eq_true, ↓reduceIte, Option.map_eq_none_iff]
    at waits same
  have decoder := wrote.decoder ▸ caught
  obtain ⟨waiting, emptied⟩ := awaitFor_waits kept decoder (Nat.lt_succ_self _) waits
  obtain ⟨⟨frames, awaits, listens', _⟩, unsent, config⟩ := await_took expected kept
  rw [waits] at awaits
  cases awaits with
  | waiting passed =>
      have reading := FrameDecoder.Follows.reading listens' waiting.1
      rw [await, emptied, List.append_nil] at reading
      refine ⟨frames, asks, written, ?_, passed, _, reading, waiting.2⟩
      rw [← same, unsent, sent, List.flatMap_cons, List.flatMap_nil, List.append_nil]

theorem call_waits {call : WorkerCall} (listens : Listens origin taken client)
    (caught : client.decoder.Waiting) (waits : (client.call call).1 = none) :
    ∃ request expected accept frames,
      Waits origin taken client call request expected accept frames := by
  cases call with
  | handshake =>
      have silent : (client.exchange client.hello .helloAck
          fun response => .hello response.helloAck).1 = none := by
        simp only [WorkerClient.call, handshake] at waits
        split at waits
        · rename_i ack greeted
          rw [greeted] at waits
          cases waits
        · exact waits
      have same : client.call .handshake = client.exchange client.hello .helloAck
          fun response => .hello response.helloAck := by
        simp only [WorkerClient.call, handshake, silent]
      obtain ⟨frames, result⟩ := exchange_waits (.handshake _ client.hello.hello rfl) listens caught
        silent (by rw [same]; rfl)
      exact ⟨_, _, _, frames, result⟩
  | publish samples =>
      simp only [WorkerClient.call, publish] at waits
      split at waits
      · cases waits
      split at waits
      · cases waits
      · cases waits
  | sendHeartbeat => cases waits
  | sendMutation request =>
      obtain ⟨frames, result⟩ := exchange_waits (.sendMutation request _) listens caught waits rfl
      exact ⟨_, _, _, frames, result⟩
  | requestStats =>
      obtain ⟨frames, result⟩ := exchange_waits (.requestStats _) listens caught waits rfl
      exact ⟨_, _, _, frames, result⟩
  | sendShutdown reason => cases waits
  | nextSequence => cases waits

end WorkerClient

theorem reads_wire {messages : List Message} (written : ∀ message ∈ messages, message.wire ≠ []) :
    Reads framing (messages.flatMap Message.wire) (messages.map Message.frame) [] := by
  induction messages with
  | nil => exact .done []
  | cons message rest ih =>
      have wire := written message List.mem_cons_self
      rw [List.flatMap_cons, List.map_cons, wire_eq wire]
      exact .item (framing_wire wire _)
        (ih fun other listed => written other (List.mem_cons_of_mem _ listed))

namespace Coordinator

variable {J : Type} [IJournal J]

/-- When every frame a worker sent was handled and answered and all the answers have arrived, none of
its operations is left waiting. -/
theorem answered_calls_return (config : CoordinatorConfig) (fabric : Fabric J)
    (cycles : List (Option TcpTransport)) (id : Nat) {client : WorkerClient}
    (calls : List WorkerCall) (call : WorkerCall)
    (known : client.config.role = .worker ∨ client.config.role = .monitor)
    (fresh : client.decoder = {}) (silent : client.transport.sent = [])
    (readable : ∀ request, .sendMutation request ∈ calls ++ [call] → request.Readable)
    (returned : (client.session calls).1.length = calls.length)
    (succeeded : ∀ turn ∈ (client.session calls).1, turn.2.succeeded)
    (caught : (client.session calls).2.decoder.Waiting)
    (arrived : client.transport.stream =
      (told id ((serving config fabric).deliveries cycles)).flatMap Message.wire)
    (handled : Reads framing ((client.session calls).2.call call).2.transport.sent
      (heard id ((serving config fabric).deliveries cycles)) [])
    (answered : ∀ delivery ∈ deliveriesOn id ((serving config fabric).deliveries cycles),
      delivery.failed = false) :
    ((client.session calls).2.call call).1 ≠ none := by
  intro waits
  have talks := run_talks (serving_talks config fabric) cycles
  rw [List.nil_append, List.nil_append] at talks
  generalize (serving config fabric).deliveries cycles = past at talks arrived handled answered
  obtain ⟨turns, posted, frames, session, whole⟩ :=
    WorkerClient.session_turns calls (WorkerClient.listens_fresh fresh)
  rw [session.results, List.length_map] at returned
  obtain ⟨rfl, rfl⟩ := whole returned
  have middle := session.listens
  rw [List.nil_append, List.append_nil] at middle
  obtain ⟨request, expected, accept, frames, waiting⟩ := WorkerClient.call_waits middle caught waits
  obtain ⟨rest, read, short⟩ := waiting.read
  -- everything told was taken, and everything posted was handled
  rw [arrived] at read
  have given := read.agree short (reads_wire told_written) framing_empty
  have posts : ∀ message ∈ turns.flatMap Turn.posted ++ [request], message.wire ≠ [] := by
    intro message listed
    rcases List.mem_append.mp listed with earlier | last
    · exact session.written message (by rwa [List.append_nil])
    · rw [List.mem_singleton.mp last]
      exact waiting.written
  have sent : ((client.session calls).2.call call).2.transport.sent =
      (turns.flatMap Turn.posted ++ [request]).flatMap Message.wire := by
    rw [waiting.sent, session.sent, silent, List.nil_append, List.append_nil, List.flatMap_append,
      List.flatMap_cons, List.flatMap_nil, List.append_nil]
  rw [sent] at handled
  have taken := handled.agree framing_empty (reads_wire posts) framing_empty
  have fine : ∀ turn ∈ turns, ∀ status, turn.answer ≠ .failed status := by
    intro turn member status same
    have fine := succeeded (turn.call, turn.answer) (by
      rw [session.results]
      exact List.mem_map_of_mem member)
    rw [same] at fine
    cases fine
  have legible : ∀ turn ∈ turns, ∀ request, turn.call = .sendMutation request →
      request.Readable := by
    intro turn member request same
    exact readable request (List.mem_append_left _ (same ▸ session.listed turn member))
  have early : ∀ message ∈ turns.flatMap Turn.posted, message.wire ≠ [] :=
    fun message listed => posts message (List.mem_append_left _ listed)
  obtain ⟨done, left, pending, matched⟩ := @turns_match J _ client.config.role known turns
    (deliveriesOn id past) [] [request] frames session.valid fine legible early (by simp)
    (taken ▸ List.prefix_rfl) given (quiet_deliveriesOn id talks.quiet)
  obtain ⟨delivery, last, own⟩ : ∃ delivery, left = [delivery] ∧
      delivery.frame = request.frame := by
    have count := congrArg List.length taken
    have fewer := matched.handled.length_le
    have extra := matched.extra
    rw [heard, matched.split] at count
    simp only [List.length_map, List.length_append, List.length_singleton] at count fewer
    cases left with
    | nil =>
        rw [List.length_nil] at count
        omega
    | cons delivery others =>
        obtain ⟨same, nothing⟩ := List.cons_prefix_cons.mp extra
        rw [List.map_eq_nil_iff.mp (List.prefix_nil.mp nothing)]
        exact ⟨delivery, rfl, same⟩
  have asks := waiting.asks
  rw [session.config] at asks
  obtain ⟨plain, _⟩ := asks.plain known fun mutation same =>
    readable mutation (List.mem_append_right _ (List.mem_singleton.mpr same.symm))
  have brought := Delivery.message_of_frame plain waiting.written own
  obtain ⟨reply, replies, ends⟩ := Service.reply_asks delivery.handler asks
  have replied : delivery.reply = some reply := by
    rw [Delivery.reply, brought]
    exact replies
  have told : delivery.told = some reply := by
    cases told : delivery.told with
    | none =>
        have failed := answered delivery (by simp [matched.split, last])
        rw [Delivery.failed_of_untold brought replied told] at failed
        cases failed
    | some other =>
        rw [← replied]
        exact (Delivery.told_eq_some told).1.symm
  obtain ⟨_, carries, read⟩ := Delivery.told_eq_some told
  have passed := waiting.passed reply.frame (by
    rw [matched.more, last, List.filterMap_cons_some told]
    simp)
  obtain ⟨different, harmless⟩ := passed reply (read.carried carries)
  exact ends.elim different harmless

theorem answered_calls_return_validated :
    ((validatedClient.session [.handshake]).2.call (.sendMutation validation)).1 ≠ none := by
  have readable (request : MutationRequest) (listed : WorkerCall.sendMutation request ∈
      [WorkerCall.handshake] ++ [.sendMutation validation]) : request.Readable := by
    simp only [List.cons_append, List.nil_append, List.mem_cons, reduceCtorEq,
      WorkerCall.sendMutation.injEq, List.not_mem_nil, or_false, false_or] at listed
    rw [listed]
    trivial
  obtain ⟨returned, succeeded, alive, empty, sent, frames, answered⟩ :
      (validatedClient.session [.handshake]).1.length = 1 ∧
      (∀ turn ∈ (validatedClient.session [.handshake]).1, turn.2.succeeded) ∧
      (validatedClient.session [.handshake]).2.decoder.failed = false ∧
      (validatedClient.session [.handshake]).2.decoder.unread = [] ∧
      ((validatedClient.session [.handshake]).2.call
        (.sendMutation validation)).2.transport.sent =
        validationMessages.flatMap Message.wire ∧
      heard 1 validated = validationMessages.map Message.frame ∧
      ∀ delivery ∈ deliveriesOn 1 validated, delivery.failed = false := by decide +kernel
  have caught : (validatedClient.session [.handshake]).2.decoder.Waiting := by
    refine ⟨alive, ?_⟩
    rw [empty]
    exact framing_empty
  have handled : Reads framing ((validatedClient.session [.handshake]).2.call
      (.sendMutation validation)).2.transport.sent (heard 1 validated) [] := by
    rw [sent, frames]
    exact reads_wire (by decide +kernel)
  exact answered_calls_return {} System.sampleSystem.fabric [some validator, none] 1 [.handshake]
    (.sendMutation validation) (.inl rfl) rfl rfl readable returned succeeded caught
    validated_arrives handled answered

end Coordinator

end QueueFabric
