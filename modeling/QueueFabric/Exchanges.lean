import QueueFabric.WorkerSessions

/-!
A worker and its coordinator. Each sees some first part of what the other wrote;
whatever the parts, a response the worker was given is the answer of the
coordinator to a request on that connection, and as long as no operation failed
it is the answer to the very request.
-/

namespace QueueFabric

open Streaming

/-! Messages on the wire. -/

/-- The message is read back as it is. -/
structure Message.Plain (message : Message) : Prop where
  relevant : message.relevant = message
  readable : message.Readable

theorem Message.Plain.carried {message : Message} (plain : message.Plain)
    (written : message.wire ≠ []) : decodeMessage message.frame.payload = .ok message := by
  have encoded : encodeMessage message ≠ [] := fun empty => written (if_pos empty)
  have decoded := (decodeMessage_encodeMessage encoded).1 plain.readable
  rwa [plain.relevant] at decoded

theorem wire_eq {message : Message} (written : message.wire ≠ []) :
    message.wire = encodeFrame message.frame (UInt64.ofNat Limits.maxFramePayloadBytes) := by
  rw [Message.wire] at written ⊢
  split
  · rename_i unencoded
    simp [unencoded] at written
  · rfl

theorem framing_wire {message : Message} (written : message.wire ≠ []) (rest : Bytes) :
    framing (encodeFrame message.frame (UInt64.ofNat Limits.maxFramePayloadBytes) ++ rest) =
      .read message.frame rest := by
  have small : message.frame.payload.length ≤ Limits.maxFramePayloadBytes := by
    rw [wire_eq written, encodeFrame] at written
    by_contra large
    rw [if_pos (.inr (Nat.lt_of_not_le large))] at written
    exact written rfl
  exact frameAttempt_encodeFrame small small small rest

theorem framing_empty : framing [] = .short := rfl

/-- Who reads the first part of what was written took the first of the frames. -/
theorem frames_of_wire {messages : List Message} (written : ∀ message ∈ messages, message.wire ≠ [])
    {input rest : Bytes} {taken : List Frame} (reads : Reads framing input taken rest)
    (part : input <+: messages.flatMap Message.wire) : taken <+: messages.map Message.frame := by
  have writes : ∀ frame ∈ messages.map Message.frame, ∀ later,
      framing (encodeFrame frame (UInt64.ofNat Limits.maxFramePayloadBytes) ++ later) =
        .read frame later := by
    intro frame listed later
    obtain ⟨message, member, rfl⟩ := List.mem_map.mp listed
    exact framing_wire (written message member) later
  have same : (messages.map Message.frame).flatMap (fun frame =>
      encodeFrame frame (UInt64.ofNat Limits.maxFramePayloadBytes)) =
      messages.flatMap Message.wire := by
    rw [List.flatMap_map]
    exact List.flatMap_congr fun message member => (wire_eq (written message member)).symm
  exact reads.written (frameAttempt_steady _) framing_empty writes (same ▸ part)

/-! Replies. -/

/-- The response a message carries. -/
def Message.response (message : Message) : Option MutationResponse :=
  if message.type = .mutationResponse then some message.mutationResponse else none

/-- The message ends the wait of a client with an error. -/
def Message.Fails (message : Message) : Prop :=
  message.type = .errorMessage ∧ message.error.code ≠ .ok

namespace Service

variable {J : Type} [IJournal J]

/-- Replies are read back as they are. -/
theorem reply_plain {service : Service J} {message reply : Message}
    (replied : service.reply message = some reply) : reply.Plain := by
  rw [Service.reply] at replied
  split at replied
  · cases replied
    exact ⟨rfl, trivial⟩
  split at replied
  · cases replied
    rw [helloReply]
    split <;> exact ⟨rfl, trivial⟩
  · split at replied
    · cases replied
      exact ⟨rfl, trivial⟩
    · cases replied
  · cases replied
  · cases replied
    exact ⟨rfl, trivial⟩
  · cases replied
    exact ⟨rfl, trivial⟩
  · cases replied
  · cases replied
    exact ⟨rfl, trivial⟩

omit [IJournal J] in
theorem errorReply_fails (service : Service J) {code : Code} (bad : code ≠ .ok) (line : String) :
    (service.errorReply code line).Fails := ⟨rfl, bad⟩

/-- A message that asks for nothing is answered with an error, if at all. -/
theorem reply_posts {service : Service J} {call : WorkerCall} {message reply : Message}
    (posts : call.Posts message) (replied : service.reply message = some reply) : reply.Fails := by
  rw [Service.reply] at replied
  split at replied
  · cases replied
    exact errorReply_fails service (by decide) _
  cases posts with
  | publish samples sequence => cases replied
  | sendHeartbeat sequence heartbeat =>
      simp only [] at replied
      split at replied
      · cases replied
        exact errorReply_fails service (by decide) _
      · cases replied
  | sendShutdown reason sequence => cases replied

/-- A request is answered with the expected message or an error. -/
theorem reply_asks {role : Role} {call : WorkerCall} {request : Message} {expected : MessageType}
    {accept : Message → WorkerAnswer} (service : Service J)
    (asks : call.Asks role request expected accept) :
    ∃ reply, service.reply request = some reply ∧ (reply.type = expected ∨ reply.Fails) := by
  rw [Service.reply]
  split
  · exact ⟨_, rfl, .inr (errorReply_fails service (by decide) _)⟩
  cases asks with
  | handshake sequence hello same =>
      refine ⟨_, rfl, .inl ?_⟩
      simp only [helloReply]
      split <;> rfl
  | sendMutation request sequence => exact ⟨_, rfl, .inl rfl⟩
  | requestStats sequence => exact ⟨_, rfl, .inl rfl⟩

/-- A mutation response carries what the fabric made of the request. -/
theorem reply_mutation {service : Service J} {message reply : Message}
    (kind : message.type = .mutation) (replied : service.reply message = some reply)
    (typed : reply.type = .mutationResponse) :
    reply.mutationResponse = (mutationResponse 0 message.mutation.attempt
      (service.coordinator.fabric.apply message.mutation).result).mutationResponse := by
  rw [Service.reply, kind] at replied
  split at replied
  · cases replied
    cases typed
  · cases replied
    rfl

theorem mutation_of_response {service : Service J} {message reply : Message}
    (replied : service.reply message = some reply) (typed : reply.type = .mutationResponse) :
    message.type = .mutation := by
  rw [Service.reply] at replied
  split at replied
  · cases replied
    cases typed
  split at replied
  · cases replied
    rw [helloReply] at typed
    split at typed <;> cases typed
  · split at replied
    · cases replied
      cases typed
    · cases replied
  · cases replied
  · assumption
  · cases replied
    cases typed
  · cases replied
  · cases replied
    cases typed

end Service

namespace Delivery

variable {J : Type}

theorem message_of_frame {delivery : Delivery J} {message : Message} (plain : message.Plain)
    (written : message.wire ≠ []) (same : delivery.frame = message.frame) :
    delivery.message = some message := by
  rw [Delivery.message, same, plain.carried written]
  exact if_pos rfl

variable [IJournal J]

/-- What is told is an answer the peer reads back. -/
theorem told_eq_some {delivery : Delivery J} {message : Message}
    (told : delivery.told = some message) : delivery.reply = some message ∧ message.wire ≠ [] ∧
      message.Plain := by
  rw [Delivery.told, Option.filter_eq_some_iff] at told
  obtain ⟨replied, takes⟩ := told
  refine ⟨replied, (WorkerClient.takes_wire takes).1, ?_⟩
  rw [Delivery.reply] at replied
  split at replied
  · cases replied
    exact ⟨rfl, trivial⟩
  · exact Service.reply_plain replied

/-- An answer that is not told was refused by the transport. -/
theorem failed_of_untold {delivery : Delivery J} {message reply : Message}
    (brought : delivery.message = some message) (replied : delivery.reply = some reply)
    (untold : delivery.told = none) : delivery.failed = true := by
  rw [Delivery.told, replied, Option.filter_some] at untold
  rw [failed, brought, replied]
  split at untold
  · cases untold
  · rename_i refused
    simpa using refused

/-- A request handled on a connection with the response the peer was given. -/
def exchange (delivery : Delivery J) : Option (MutationRequest × MutationResponse) :=
  match delivery.message, delivery.told with
  | some message, some reply =>
      if message.type = .mutation ∧ reply.type = .mutationResponse then
        some (message.mutation, reply.mutationResponse)
      else none
  | _, _ => none

/-- The response is what the fabric made of the request. -/
theorem exchange_applied {delivery : Delivery J} {request : MutationRequest}
    {response : MutationResponse} (exchanged : delivery.exchange = some (request, response)) :
    response = (Service.mutationResponse 0 request.attempt
      (delivery.handler.coordinator.fabric.apply request).result).mutationResponse := by
  rw [exchange] at exchanged
  split at exchanged
  · rename_i message reply brought told
    split at exchanged
    · rename_i kinds
      have replied := (told_eq_some told).1
      rw [Delivery.reply, brought] at replied
      cases exchanged
      exact Service.reply_mutation kinds.1 replied kinds.2
    · cases exchanged
  · cases exchanged

/-- Only a mutation is answered with a mutation response. -/
theorem exchange_of_response {delivery : Delivery J} {reply : Message}
    (told : delivery.told = some reply) :
    delivery.exchange.map Prod.snd = reply.response := by
  have replied := (told_eq_some told).1
  rw [Delivery.reply] at replied
  cases brought : delivery.message with
  | none =>
      rw [brought] at replied
      cases replied
      rw [exchange, brought]
      rfl
  | some message =>
      rw [brought] at replied
      rw [exchange, brought, told, Message.response]
      by_cases typed : reply.type = .mutationResponse
      · simp [typed, Service.mutation_of_response replied typed]
      · simp [typed]

theorem exchange_untold {delivery : Delivery J} (untold : delivery.told = none) :
    delivery.exchange = none := by
  rw [exchange, untold]
  split
  · rename_i told
    cases told
  · rfl

end Delivery

/-- The request and the response of an operation that was given one. -/
def exchangeOf : WorkerCall × WorkerAnswer → Option (MutationRequest × MutationResponse)
  | (.sendMutation request, .mutation response) => some (request, response)
  | _ => none

def Turn.exchange (turn : Turn) : Option (MutationRequest × MutationResponse) :=
  exchangeOf (turn.call, turn.answer)

/-- The response an operation was given. -/
def WorkerAnswer.response : WorkerAnswer → Option MutationResponse
  | .mutation response => some response
  | _ => none

def Turn.response (turn : Turn) : Option MutationResponse := turn.answer.response

/-! Matching. -/

theorem WorkerCall.Posts.plain {call : WorkerCall} {message : Message}
    (posts : call.Posts message) : message.Plain ∧ message.type ≠ .mutation := by
  cases posts <;> exact ⟨⟨rfl, trivial⟩, by simp⟩

theorem WorkerCall.Asks.plain {role : Role} (known : role = .worker ∨ role = .monitor)
    {call : WorkerCall} {request : Message} {expected : MessageType}
    {accept : Message → WorkerAnswer} (asks : call.Asks role request expected accept)
    (readable : ∀ mutation, call = .sendMutation mutation → mutation.Readable) :
    request.Plain ∧ expected ≠ .errorMessage := by
  cases asks with
  | handshake sequence hello same =>
      subst same
      exact ⟨⟨rfl, known⟩, by decide⟩
  | sendMutation mutation sequence => exact ⟨⟨rfl, readable mutation rfl⟩, by decide⟩
  | requestStats sequence => exact ⟨⟨rfl, trivial⟩, by decide⟩

/-- A wait that was answered was answered by the first message to come. -/
theorem head_answers {expected : MessageType} {skipped more : List Frame} {frame : Frame}
    {response head : Message} {tail : List Message}
    (passed : ∀ frame ∈ skipped, frame.Passed expected)
    (decoded : decodeMessage frame.payload = .ok response)
    (carried : decodeMessage head.frame.payload = .ok head)
    (ends : head.type = expected ∨ head.Fails)
    (whole : skipped ++ [frame] ++ more = (head :: tail).map Message.frame) :
    response = head ∧ more = tail.map Message.frame := by
  cases skipped with
  | nil =>
      obtain ⟨same, rest⟩ := List.cons.inj whole
      rw [same, carried, Except.ok.injEq] at decoded
      exact ⟨decoded.symm, rest⟩
  | cons first others =>
      obtain ⟨same, rest⟩ := List.cons.inj whole
      obtain ⟨different, harmless⟩ := passed first List.mem_cons_self head (same ▸ carried)
      exact ends.elim (absurd · different) (absurd · harmless)

/-- The frames a turn took hold the response it was given. -/
theorem Turn.response_taken {role : Role} {turn : Turn} {messages : List Message}
    (valid : turn.Valid role) (taken : turn.taken = messages.map Message.frame)
    (carried : ∀ message ∈ messages, decodeMessage message.frame.payload = .ok message) :
    (turn.response.toList).Sublist (messages.filterMap Message.response) := by
  cases valid with
  | failed call status posted taken => exact List.nil_sublist _
  | counted number => exact List.nil_sublist _
  | posted posts => exact List.nil_sublist _
  | @answered call request expected accept skipped frame response asks passed decoded typed =>
      obtain ⟨before, last, rfl, _, ends⟩ := List.map_eq_append_iff.mp taken.symm
      obtain ⟨message, rfl, same⟩ := List.map_eq_singleton_iff.mp ends
      have read := carried message (by simp)
      rw [same, decoded, Except.ok.injEq] at read
      subst read
      rw [List.filterMap_append]
      cases asks with
      | handshake sequence hello same => exact List.nil_sublist _
      | requestStats sequence => exact List.nil_sublist _
      | sendMutation request sequence =>
          have given : response.response = some response.mutationResponse := if_pos typed
          rw [List.filterMap_cons_some given]
          exact List.sublist_append_right _ _

/-- Responses are taken in the order they were told, none of them twice. -/
theorem turns_responses {role : Role} {turns : List Turn} {messages : List Message}
    (valid : ∀ turn ∈ turns, turn.Valid role)
    (carried : ∀ message ∈ messages, decodeMessage message.frame.payload = .ok message)
    (part : turns.flatMap Turn.taken <+: messages.map Message.frame) :
    (turns.filterMap Turn.response).Sublist (messages.filterMap Message.response) := by
  induction turns generalizing messages with
  | nil => exact List.nil_sublist _
  | cons turn rest ih =>
      obtain ⟨more, whole⟩ := part
      rw [List.flatMap_cons, List.append_assoc] at whole
      obtain ⟨first, second, rfl, taken, remaining⟩ := List.map_eq_append_iff.mp whole.symm
      have now := Turn.response_taken (valid turn List.mem_cons_self) taken.symm
        fun message listed => carried message (List.mem_append_left _ listed)
      have later := ih (fun other listed => valid other (List.mem_cons_of_mem _ listed))
        (fun message listed => carried message (List.mem_append_right _ listed))
        ⟨more, remaining.symm⟩
      have split : (turn :: rest).filterMap Turn.response =
          turn.response.toList ++ rest.filterMap Turn.response := by
        cases given : turn.response with
        | none => rw [List.filterMap_cons_none given]; rfl
        | some response => rw [List.filterMap_cons_some given]; rfl
      rw [split, List.filterMap_append]
      exact now.append later

section Matching

variable {J : Type} [IJournal J]

/-- Once an answer was refused, nothing more is told on the connection. -/
def Quiet (deliveries : List (Delivery J)) : Prop :=
  deliveries.Pairwise fun earlier later => earlier.failed → later.told = none

theorem Quiet.untold {delivery : Delivery J} {deliveries : List (Delivery J)}
    (quiet : Quiet (delivery :: deliveries)) (failed : delivery.failed = true) :
    deliveries.filterMap Delivery.told = [] := by
  rw [List.filterMap_eq_nil_iff]
  intro later listed
  exact (List.pairwise_cons.mp quiet).1 later listed failed

/-- Operations of a worker without failures, against the deliveries of its connection: those done
and the rest, with the errors that are still to come. -/
structure Matched (turns : List Turn) (deliveries : List (Delivery J)) (extra : List Message)
    (more : List Frame) (done rest : List (Delivery J)) (pending : List Message) : Prop where
  split : deliveries = done ++ rest
  exchanges : turns.filterMap Turn.exchange <+: done.filterMap Delivery.exchange
  handled : done.map Delivery.frame <+: (turns.flatMap Turn.posted).map Message.frame
  extra : rest.map Delivery.frame <+: extra.map Message.frame
  errors : ∀ message ∈ pending, message.Fails ∧
    decodeMessage message.frame.payload = .ok message
  more : more = (pending ++ rest.filterMap Delivery.told).map Message.frame

/-- A turn at which nothing was handled. -/
theorem Matched.skip {turn : Turn} {turns : List Turn} {deliveries done rest : List (Delivery J)}
    {extra pending : List Message} {more : List Frame}
    (matched : Matched turns deliveries extra more done rest pending)
    (none : turn.exchange = none) (idle : done = [] ∨ turn.posted = []) :
    Matched (turn :: turns) deliveries extra more done rest pending where
  split := matched.split
  exchanges := by
    rw [List.filterMap_cons_none none]
    exact matched.exchanges
  handled := by
    rcases idle with empty | silent
    · rw [empty]
      exact List.nil_prefix
    · rw [List.flatMap_cons, silent]
      exact matched.handled
  extra := matched.extra
  errors := matched.errors
  more := matched.more

/-- A turn whose message was handled. -/
theorem Matched.step {turn : Turn} {turns : List Turn} {delivery : Delivery J}
    {deliveries done rest : List (Delivery J)} {extra pending : List Message} {more : List Frame}
    (matched : Matched turns deliveries extra more done rest pending) {message : Message}
    (posted : turn.posted = [message]) (same : delivery.frame = message.frame)
    (exchange : turn.exchange = delivery.exchange) :
    Matched (turn :: turns) (delivery :: deliveries) extra more (delivery :: done) rest
      pending where
  split := by rw [matched.split, List.cons_append]
  exchanges := by
    cases found : delivery.exchange with
    | none =>
        rw [List.filterMap_cons_none found, List.filterMap_cons_none (exchange.trans found)]
        exact matched.exchanges
    | some pair =>
        rw [List.filterMap_cons_some found, List.filterMap_cons_some (exchange.trans found)]
        exact List.cons_prefix_cons.mpr ⟨rfl, matched.exchanges⟩
  handled := by
    rw [List.flatMap_cons, posted]
    exact List.cons_prefix_cons.mpr ⟨same, matched.handled⟩
  extra := matched.extra
  errors := matched.errors
  more := matched.more

theorem turns_match {role : Role} (known : role = .worker ∨ role = .monitor) {turns : List Turn}
    {deliveries : List (Delivery J)} {pending extra : List Message} {more : List Frame}
    (valid : ∀ turn ∈ turns, turn.Valid role)
    (succeeded : ∀ turn ∈ turns, ∀ status, turn.answer ≠ .failed status)
    (readable : ∀ turn ∈ turns, ∀ request, turn.call = .sendMutation request → request.Readable)
    (written : ∀ message ∈ turns.flatMap Turn.posted, message.wire ≠ [])
    (errors : ∀ message ∈ pending, message.Fails ∧
      decodeMessage message.frame.payload = .ok message)
    (upstream : deliveries.map Delivery.frame <+:
      (turns.flatMap Turn.posted ++ extra).map Message.frame)
    (downstream : turns.flatMap Turn.taken ++ more =
      (pending ++ deliveries.filterMap Delivery.told).map Message.frame)
    (quiet : Quiet deliveries) :
    ∃ done rest pending, Matched turns deliveries extra more done rest pending := by
  induction turns generalizing deliveries pending with
  | nil => exact ⟨[], deliveries, pending, rfl, List.nil_prefix, List.nil_prefix, upstream, errors,
      downstream⟩
  | cons turn rest ih =>
      have later {deliveries : List (Delivery J)} {pending : List Message} :=
        @ih deliveries pending (fun other listed => valid other (.tail _ listed))
          (fun other listed => succeeded other (.tail _ listed))
          (fun other listed => readable other (.tail _ listed))
          (fun message listed => written message (by
            rw [List.flatMap_cons, List.mem_append]
            exact .inr listed))
      have turned := valid turn List.mem_cons_self
      have fine := succeeded turn List.mem_cons_self
      have legible := readable turn List.mem_cons_self
      cases turned with
      | failed call status posted taken => exact absurd rfl (fine status)
      | counted number =>
          obtain ⟨done, left, pending', matched⟩ := later errors upstream downstream quiet
          exact ⟨done, left, pending', matched.skip rfl (.inr rfl)⟩
      | @posted call message posts =>
          obtain ⟨plain, kind⟩ := posts.plain
          have wire : message.wire ≠ [] := written message (by simp)
          have none : Turn.exchange ⟨call, .sent, [message], []⟩ = none := by cases posts <;> rfl
          cases deliveries with
          | nil =>
              obtain ⟨done, left, pending', matched⟩ :=
                @later [] pending errors List.nil_prefix downstream quiet
              have empty := List.append_eq_nil_iff.mp matched.split.symm
              exact ⟨done, left, pending', matched.skip none (.inl empty.1)⟩
          | cons delivery deliveries =>
              obtain ⟨same, upstream⟩ := List.cons_prefix_cons.mp upstream
              have brought := Delivery.message_of_frame plain wire same
              have silent : delivery.exchange = Option.none := by
                rw [Delivery.exchange, brought]
                cases delivery.told with
                | none => rfl
                | some reply => exact if_neg fun both => kind both.1
              have quiet' := (List.pairwise_cons.mp quiet).2
              cases told : delivery.told with
              | none =>
                  rw [List.filterMap_cons_none told] at downstream
                  obtain ⟨done, left, pending', matched⟩ := later errors upstream downstream quiet'
                  exact ⟨_, left, pending', matched.step rfl same (none.trans silent.symm)⟩
              | some reply =>
                  obtain ⟨replied, carries, read⟩ := Delivery.told_eq_some told
                  rw [Delivery.reply, brought] at replied
                  have moved : pending ++ reply :: deliveries.filterMap Delivery.told =
                      (pending ++ [reply]) ++ deliveries.filterMap Delivery.told := by simp
                  rw [List.filterMap_cons_some told, moved] at downstream
                  have grown : ∀ message ∈ pending ++ [reply], message.Fails ∧
                      decodeMessage message.frame.payload = .ok message := by
                    intro other listed
                    rcases List.mem_append.mp listed with earlier | last
                    · exact errors other earlier
                    · rw [List.mem_singleton.mp last]
                      exact ⟨Service.reply_posts posts replied, read.carried carries⟩
                  obtain ⟨done, left, pending', matched⟩ := later grown upstream downstream quiet'
                  exact ⟨_, left, pending', matched.step rfl same (none.trans silent.symm)⟩
      | @answered call request expected accept skipped frame response asks passed decoded typed =>
          obtain ⟨plain, special⟩ := asks.plain known legible
          have wire : request.wire ≠ [] := written request (by simp)
          rw [List.flatMap_cons, List.append_assoc] at downstream
          cases pending with
          | cons error others =>
              obtain ⟨fails, carried⟩ := errors error List.mem_cons_self
              obtain ⟨same, _⟩ := head_answers passed decoded carried (.inr fails) downstream
              rw [same, fails.1] at typed
              exact absurd typed.symm special
          | nil =>
              cases deliveries with
              | nil => simp at downstream
              | cons delivery deliveries =>
                  obtain ⟨same, upstream⟩ := List.cons_prefix_cons.mp upstream
                  have brought := Delivery.message_of_frame plain wire same
                  have quiet' := (List.pairwise_cons.mp quiet).2
                  obtain ⟨reply, answered, ends⟩ := Service.reply_asks delivery.handler asks
                  have replied : delivery.reply = some reply := by
                    rw [Delivery.reply, brought]
                    exact answered
                  cases told : delivery.told with
                  | none =>
                      have failed := Delivery.failed_of_untold brought replied told
                      rw [List.nil_append, List.filterMap_cons_none told,
                        quiet.untold failed] at downstream
                      simp at downstream
                  | some other =>
                      obtain ⟨replied', carries, read⟩ := Delivery.told_eq_some told
                      rw [replied, Option.some.injEq] at replied'
                      subst replied'
                      rw [List.nil_append, List.filterMap_cons_some told] at downstream
                      obtain ⟨equal, remaining⟩ := head_answers passed decoded
                        (read.carried carries) ends downstream
                      subst equal
                      have exchanged : Turn.exchange
                          ⟨call, accept response, [request], skipped ++ [frame]⟩ =
                          delivery.exchange := by
                        rw [Delivery.exchange, brought, told]
                        cases asks with
                        | handshake sequence hello same => exact (if_neg (by simp)).symm
                        | sendMutation mutation sequence => exact (if_pos ⟨rfl, typed⟩).symm
                        | requestStats sequence => exact (if_neg (by simp)).symm
                      obtain ⟨done, left, pending', matched⟩ :=
                        @later deliveries [] (by simp) upstream remaining quiet'
                      exact ⟨_, left, pending', matched.step rfl same exchanged⟩

/-- On one connection of a run, nothing is told after an answer was refused. -/
theorem quiet_deliveriesOn {past : List (Delivery J)} (id : Nat)
    (all : Runs.Throughout (fun past (delivery : Delivery J) =>
      (deliveriesOn delivery.service.connection.id past).any Delivery.failed →
        delivery.told = none) past) : Quiet (deliveriesOn id past) := by
  refine @Runs.throughout_invariant _ _ (fun past => Quiet (deliveriesOn id past)) .nil ?_ _ all
  intro past delivery quiet silent
  by_cases own : delivery.service.connection.id = id
  · have grown : deliveriesOn id (past ++ [delivery]) = deliveriesOn id past ++ [delivery] := by
      simp [deliveriesOn, own]
    rw [grown, Quiet, List.pairwise_append]
    refine ⟨quiet, List.pairwise_singleton _ _, fun earlier listed later last failed => ?_⟩
    rw [List.mem_singleton.mp last]
    refine silent (List.any_eq_true.mpr ⟨earlier, ?_, failed⟩)
    rwa [own]
  · have same : deliveriesOn id (past ++ [delivery]) = deliveriesOn id past := by
      simp [deliveriesOn, own]
    rwa [same]

end Matching

/-! A session. -/

theorem WorkerClient.session_calls (client : WorkerClient) (calls : List WorkerCall) :
    (client.session calls).1.map Prod.fst <+: calls := by
  induction calls generalizing client with
  | nil => exact List.prefix_rfl
  | cons call later ih =>
      simp only [session]
      split
      · exact List.nil_prefix
      · exact List.cons_prefix_cons.mpr ⟨rfl, ih _⟩

def WorkerAnswer.succeeded : WorkerAnswer → Bool
  | .failed _ => false
  | _ => true

variable {J : Type} [IJournal J]

theorem WorkerClient.Sessions.listed {origin : Bytes} {taken : List Frame} {client : WorkerClient}
    {calls : List WorkerCall} {turns : List Turn} {posted : List Message} {frames : List Frame}
    (session : Sessions origin taken client (client.session calls) turns posted frames) :
    ∀ turn ∈ turns, turn.call ∈ calls := by
  intro turn member
  refine (client.session_calls calls).subset ?_
  rw [session.results, List.map_map]
  exact List.mem_map_of_mem member

theorem WorkerClient.listens_fresh {client : WorkerClient} (fresh : client.decoder = {}) :
    client.Listens client.transport.stream [] := by
  rw [Listens, fresh]
  exact FrameDecoder.follows_fresh _

theorem told_written {id : Nat} {past : List (Delivery J)} :
    ∀ message ∈ told id past, message.wire ≠ [] := by
  intro message listed
  obtain ⟨delivery, _, told⟩ := List.mem_filterMap.mp listed
  exact (Delivery.told_eq_some told).2.1

/-- A client that starts with nothing read takes the first of the messages told to it. -/
theorem WorkerClient.session_told {id : Nat} {past : List (Delivery J)} {client : WorkerClient}
    (calls : List WorkerCall) (fresh : client.decoder = {})
    (downstream : client.transport.stream <+: (told id past).flatMap Message.wire) :
    ∃ turns posted frames,
      Sessions client.transport.stream [] client (client.session calls) turns posted frames ∧
        turns.flatMap Turn.taken ++ frames <+: (told id past).map Message.frame := by
  obtain ⟨turns, posted, frames, session, _⟩ := session_turns calls (listens_fresh fresh)
  obtain ⟨left, took⟩ := session.listens.read
  exact ⟨turns, posted, frames, session, frames_of_wire told_written took downstream⟩

/-- The responses of a session are responses that were told to it. -/
theorem WorkerClient.session_responses {id : Nat} {past : List (Delivery J)} {client : WorkerClient}
    (calls : List WorkerCall) (fresh : client.decoder = {})
    (downstream : client.transport.stream <+: (told id past).flatMap Message.wire) :
    ((client.session calls).1.filterMap fun turn => turn.2.response).Sublist
      (((deliveriesOn id past).filterMap Delivery.exchange).map Prod.snd) := by
  obtain ⟨turns, posted, frames, session, given⟩ := client.session_told calls fresh downstream
  have carried : ∀ message ∈ told id past,
      decodeMessage message.frame.payload = .ok message := by
    intro message listed
    obtain ⟨delivery, _, told⟩ := List.mem_filterMap.mp listed
    obtain ⟨_, written, plain⟩ := Delivery.told_eq_some told
    exact plain.carried written
  have exchanged : ((deliveriesOn id past).filterMap Delivery.exchange).map Prod.snd =
      (told id past).filterMap Message.response := by
    rw [told, List.filterMap_filterMap, List.map_filterMap]
    refine List.filterMap_congr fun delivery _ => ?_
    cases told : delivery.told with
    | none => rw [Delivery.exchange_untold told]; rfl
    | some reply => exact Delivery.exchange_of_response told
  rw [exchanged, session.results, List.filterMap_map]
  exact turns_responses session.valid carried ((List.prefix_append _ _).trans given)

namespace Coordinator

/-- Whatever reached each side so far, until an operation of the worker fails its mutations are the
first ones its coordinator answered on that connection, each with its own answer. -/
theorem responses_match_requests (config : CoordinatorConfig) (fabric : Fabric J)
    (cycles : List (Option TcpTransport)) {id : Nat} {origin : TcpTransport}
    (welcomed : (id, origin) ∈ (serving config fabric).accepted cycles) {client : WorkerClient}
    (calls : List WorkerCall) (known : client.config.role = .worker ∨ client.config.role = .monitor)
    (fresh : client.decoder = {}) (silent : client.transport.sent = [])
    (readable : ∀ request, .sendMutation request ∈ calls → request.Readable)
    (upstream : origin.stream <+: (client.session calls).2.transport.sent)
    (downstream : client.transport.stream <+:
      (told id ((serving config fabric).deliveries cycles)).flatMap Message.wire) :
    let handled := deliveriesOn id ((serving config fabric).deliveries cycles)
    ((client.session calls).1.takeWhile fun turn => turn.2.succeeded).filterMap exchangeOf <+:
        handled.filterMap Delivery.exchange ∧
      ∀ delivery ∈ handled, ∀ request response,
        delivery.exchange = some (request, response) →
          response = (Service.mutationResponse 0 request.attempt
            (delivery.handler.coordinator.fabric.apply request).result).mutationResponse := by
  refine ⟨?_, fun delivery _ request response => Delivery.exchange_applied⟩
  have talks := run_talks (serving_talks config fabric) cycles
  rw [List.nil_append, List.nil_append] at talks
  generalize (serving config fabric).deliveries cycles = past at talks downstream ⊢
  obtain ⟨rest, heard⟩ := talks.read _ welcomed
  obtain ⟨turns, posted, frames, session, given⟩ := client.session_told calls fresh downstream
  rw [session.sent, silent, List.nil_append] at upstream
  have handled := frames_of_wire session.written heard upstream
  have listed := session.listed
  rw [session.results, List.takeWhile_map, List.filterMap_map]
  generalize fine_eq : (fun turn : WorkerCall × WorkerAnswer => turn.2.succeeded) ∘
    (fun turn : Turn => (turn.call, turn.answer)) = fine
  have whole : turns.takeWhile fine ++ turns.dropWhile fine = turns :=
    List.takeWhile_append_dropWhile
  have succeeded : ∀ turn ∈ turns.takeWhile fine, turn.answer.succeeded = true := by
    intro turn member
    have fine := List.mem_takeWhile_imp member
    rwa [← fine_eq] at fine
  generalize turns.takeWhile fine = early at whole succeeded ⊢
  generalize turns.dropWhile fine = late at whole
  rw [← whole] at handled given listed
  rw [List.flatMap_append, List.append_assoc] at handled
  rw [List.flatMap_append, List.append_assoc] at given
  have within : ∀ turn ∈ early, turn ∈ turns := by
    intro turn member
    rw [← whole]
    exact List.mem_append_left _ member
  have fine : ∀ turn ∈ early, ∀ status, turn.answer ≠ .failed status := by
    intro turn member status same
    have fine := succeeded turn member
    rw [same] at fine
    cases fine
  have legible : ∀ turn ∈ early, ∀ request, turn.call = .sendMutation request →
      request.Readable := by
    intro turn member request same
    exact readable request (same ▸ listed turn (List.mem_append_left _ member))
  have written : ∀ message ∈ early.flatMap Turn.posted, message.wire ≠ [] := by
    intro message member
    obtain ⟨turn, member, post⟩ := List.mem_flatMap.mp member
    exact session.written message
      (List.mem_append_left _ (List.mem_flatMap.mpr ⟨turn, within turn member, post⟩))
  obtain ⟨tail, given⟩ := given
  rw [List.append_assoc] at given
  obtain ⟨done, left, pending, matched⟩ := @turns_match J _ client.config.role known early
    (deliveriesOn id past) [] _ _ (fun turn member => session.valid turn (within turn member)) fine
    legible written (by simp) handled given (quiet_deliveriesOn id talks.quiet)
  rw [matched.split, List.filterMap_append]
  exact matched.exchanges.trans (List.prefix_append _ _)

/-! A worker that greets the coordinator and has its queue validated. -/

def validation : MutationRequest := System.sampleRequest 2 .validateQueue .monostate

def validating (arrivals : List Arrival) : WorkerClient where
  config := { node := ⟨1⟩, incarnation := ⟨1⟩, boot := ⟨1, 1⟩, epoch := ⟨1⟩ }
  transport := { arrivals }

def validationMessages : List Message :=
  [(validating []).hello, { type := .mutation, sequence := 1, mutation := validation }]

def validator : TcpTransport :=
  { arrivals := validationMessages.map fun message => { bytes := message.wire } }

def validated : List (Delivery StableStore) :=
  (serving {} System.sampleSystem.fabric).deliveries [some validator, none]

/-- The client, when every answer arrives by itself. -/
def validatedClient : WorkerClient :=
  validating ((told 1 validated).map fun message => { bytes := message.wire })

theorem validated_arrives :
    validatedClient.transport.stream = (told 1 validated).flatMap Message.wire := by
  simp only [validatedClient, validating, TcpTransport.stream, List.nil_append, List.flatMap_map]

theorem responses_match_requests_validated :
    let turns := (validatedClient.session [.handshake, .sendMutation validation]).1.takeWhile
      fun turn => turn.2.succeeded
    (turns.filterMap exchangeOf).length = 1 ∧
      turns.filterMap exchangeOf <+: (deliveriesOn 1 validated).filterMap Delivery.exchange := by
  have welcomed : (1, validator) ∈ (serving {} System.sampleSystem.fabric).accepted
      [some validator, none] := List.mem_append_left _ List.mem_cons_self
  have readable (request : MutationRequest) (listed : WorkerCall.sendMutation request ∈
      [WorkerCall.handshake, .sendMutation validation]) : request.Readable := by
    simp only [List.mem_cons, reduceCtorEq, WorkerCall.sendMutation.injEq, List.not_mem_nil,
      or_false, false_or] at listed
    rw [listed]
    trivial
  obtain ⟨one, upstream⟩ :
      (((validatedClient.session [.handshake, .sendMutation validation]).1.takeWhile fun turn =>
        turn.2.succeeded).filterMap exchangeOf).length = 1 ∧
      validator.stream <+: (validatedClient.session
        [.handshake, .sendMutation validation]).2.transport.sent := by decide +kernel
  exact ⟨one, (responses_match_requests {} System.sampleSystem.fabric [some validator, none]
    welcomed [.handshake, .sendMutation validation] (.inl rfl) rfl rfl readable upstream
    (validated_arrives ▸ List.prefix_rfl)).1⟩

/-- Whatever a worker does, fails at or was sent, the responses it is given are responses of its
coordinator to mutations handled on that connection, in order and none of them twice. -/
theorem responses_authentic (config : CoordinatorConfig) (fabric : Fabric J)
    (cycles : List (Option TcpTransport)) (id : Nat) (client : WorkerClient)
    (calls : List WorkerCall) (fresh : client.decoder = {})
    (downstream : client.transport.stream <+:
      (told id ((serving config fabric).deliveries cycles)).flatMap Message.wire) :
    ((client.session calls).1.filterMap fun turn => turn.2.response).Sublist
      (((deliveriesOn id ((serving config fabric).deliveries cycles)).filterMap
        Delivery.exchange).map Prod.snd) :=
  client.session_responses calls fresh downstream

theorem responses_authentic_validated :
    ((validatedClient.session [.handshake, .sendMutation validation]).1.filterMap fun turn =>
        turn.2.response) ≠ [] ∧
      ((validatedClient.session [.handshake, .sendMutation validation]).1.filterMap fun turn =>
        turn.2.response).Sublist
        (((deliveriesOn 1 validated).filterMap Delivery.exchange).map Prod.snd) :=
  ⟨by decide +kernel, responses_authentic {} System.sampleSystem.fabric [some validator, none] 1
    validatedClient [.handshake, .sendMutation validation] rfl (validated_arrives ▸ List.prefix_rfl)⟩

end Coordinator

end QueueFabric
