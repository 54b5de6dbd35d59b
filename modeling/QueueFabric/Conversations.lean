import QueueFabric.Framing
import QueueFabric.Lib.Reading
import QueueFabric.Replies

/-!
Conversations of a coordinator with its peers. On every connection the frames
handled are the first frames of what the peer sends, and what is written is the
answers to them, in order; the connections do not mix.
-/

namespace QueueFabric

open Streaming

variable {J : Type}

/-! Streams. -/

/-- What the bytes of a peer start with. -/
abbrev framing : Bytes → Attempt UInt8 Frame Status :=
  frameAttempt (UInt64.ofNat Limits.maxFramePayloadBytes)

namespace TcpTransport

/-- Everything the peer has sent and will send. -/
def stream (transport : TcpTransport) : Bytes :=
  transport.unread ++ transport.arrivals.flatMap Arrival.bytes

theorem stream_readable (transport : TcpTransport) :
    transport.readable.2.stream = transport.stream ∧
      transport.readable.2.sent = transport.sent := by
  simp only [readable]
  split
  · exact ⟨rfl, rfl⟩
  rw [arrive]
  split
  · exact ⟨rfl, rfl⟩
  · rename_i arrival later listed
    simp [stream, listed]

/-- A chunk is the first part of the stream. -/
theorem stream_receive {transport : TcpTransport} {capacity : Nat} :
    (∀ chunk, (transport.receive capacity).1 = .ok chunk →
      transport.stream = chunk ++ (transport.receive capacity).2.stream) ∧
      (∀ status, (transport.receive capacity).1 = .error status →
        (transport.receive capacity).2.stream = transport.stream) ∧
      (transport.receive capacity).2.sent = transport.sent := by
  simp only [receive]
  split
  · simp
  split
  · simp
  split
  · simp
  · simp [stream, ← List.append_assoc]

end TcpTransport

/-! Decoders. -/

namespace FrameDecoder

/-- The decoder made `taken` of a stream; `ahead` of it is not yet pushed. -/
structure Follows (stream : Bytes) (taken : List Frame) (ahead : Bytes)
    (decoder : FrameDecoder) : Prop where
  sound : decoder.Sound
  limit : decoder.maxPayload = UInt64.ofNat Limits.maxFramePayloadBytes
  reading : decoder.failed = false → Reads framing stream taken (decoder.unread ++ ahead)
  read : ∃ rest, Reads framing stream taken rest

theorem follows_fresh (stream : Bytes) : Follows stream [] stream {} :=
  ⟨⟨Nat.le_refl 0, fun _ => rfl⟩, rfl, fun _ => .done _, ⟨_, .done _⟩⟩

variable {stream ahead : Bytes} {taken : List Frame} {decoder : FrameDecoder}

/-- A chunk is pushed whole, or the decoder fails. -/
theorem Follows.push {chunk : Bytes} (follows : Follows stream taken (chunk ++ ahead) decoder) :
    Follows stream taken ahead (decoder.push chunk).2 := by
  have reading := follows.reading
  have sound := follows.sound
  simp only [FrameDecoder.push]
  split
  · rename_i failed
    exact ⟨sound, follows.limit, fun alive => absurd (failed.symm.trans alive) (by decide),
      follows.read⟩
  split
  · rename_i empty
    rw [List.isEmpty_iff] at empty
    rw [empty, List.nil_append] at reading
    exact ⟨sound, follows.limit, reading, follows.read⟩
  split
  · exact ⟨⟨sound.inside, fun clean => by cases clean⟩, follows.limit,
      fun alive => (by cases alive), follows.read⟩
  · have extended : ({ decoder with buffer := decoder.buffer ++ chunk } : FrameDecoder).unread =
        decoder.unread ++ chunk := List.drop_append_of_le_length sound.inside
    refine ⟨⟨?_, sound.clean⟩, follows.limit, fun alive => ?_, follows.read⟩
    · simp only [List.length_append]
      exact Nat.le_add_right_of_le sound.inside
    · rw [extended, List.append_assoc]
      exact reading alive

/-- A decoder that yields no frame keeps what it read, or fails. -/
theorem Follows.stuck (follows : Follows stream taken ahead decoder) {status : Status}
    (error : decoder.next.1 = .error status) : Follows stream taken ahead decoder.next.2 := by
  cases failed : decoder.failed with
  | true =>
      have same : decoder.next.2 = decoder := by simp [FrameDecoder.next, failed]
      rw [same]
      exact follows
  | false =>
      have ended := next_cases follows.sound failed
      generalize decoder.next = result at error ended
      cases ended with
      | short status attempted => exact follows
      | refused status attempted =>
          exact ⟨⟨follows.sound.inside, fun clean => by cases clean⟩, follows.limit,
            fun alive => (by cases alive), follows.read⟩
      | read frame after sound attempted alive same => cases error

/-- A frame is the next one of the stream. -/
theorem Follows.next (follows : Follows stream taken ahead decoder) {frame : Frame}
    (ok : decoder.next.1 = .ok frame) :
    Follows stream (taken ++ [frame]) ahead decoder.next.2 := by
  have alive : decoder.failed = false := by
    cases failed : decoder.failed with
    | false => rfl
    | true => simp [FrameDecoder.next, failed] at ok
  have reading := follows.reading alive
  have ended := next_cases follows.sound alive
  generalize decoder.next = result at ok ended ⊢
  cases ended with
  | short status attempted => cases ok
  | refused status attempted => cases ok
  | read found after sound attempted alive' same =>
      cases ok
      rw [follows.limit] at attempted
      have grown := reading.concat ((frameAttempt_steady _).read ahead attempted)
      exact ⟨sound, same.trans follows.limit, fun _ => grown, ⟨_, grown⟩⟩

end FrameDecoder

/-! The deliveries of one connection. -/

variable [IJournal J]

def deliveriesOn (id : Nat) (past : List (Delivery J)) : List (Delivery J) :=
  past.filter fun delivery => delivery.service.connection.id = id

omit [IJournal J] in
/-- The frames handled on a connection. -/
def heard (id : Nat) (past : List (Delivery J)) : List Frame :=
  (deliveriesOn id past).map Delivery.frame

/-- The messages written to a connection. -/
def told (id : Nat) (past : List (Delivery J)) : List Message :=
  (deliveriesOn id past).filterMap Delivery.told

omit [IJournal J] in
theorem heard_concat (id : Nat) (past : List (Delivery J)) (delivery : Delivery J) :
    heard id (past ++ [delivery]) =
      if delivery.service.connection.id = id then heard id past ++ [delivery.frame]
      else heard id past := by
  simp only [heard, deliveriesOn, List.filter_append, List.map_append]
  split
  · rename_i own
    simp [own]
  · rename_i other
    simp [other]

/-! Mail: the messages written, each with the connection it was written to. -/

/-- What is written to the peer for the frame. -/
def Delivery.letter (delivery : Delivery J) : Option (Nat × Message) :=
  delivery.told.map fun message => (delivery.service.connection.id, message)

def mailTo (id : Nat) (mail : List (Nat × Message)) : List Message :=
  mail.filterMap fun letter => if letter.1 = id then some letter.2 else none

theorem mailTo_append (id : Nat) (first second : List (Nat × Message)) :
    mailTo id (first ++ second) = mailTo id first ++ mailTo id second :=
  List.filterMap_append

theorem mailTo_fresh {id : Nat} {mail : List (Nat × Message)}
    (fresh : ∀ letter ∈ mail, letter.1 ≠ id) : mailTo id mail = [] := by
  rw [mailTo, List.filterMap_eq_nil_iff]
  intro letter listed
  exact if_neg (fresh letter listed)

theorem mailTo_letter (id : Nat) (delivery : Delivery J) :
    mailTo id ([delivery].filterMap Delivery.letter) =
      if delivery.service.connection.id = id then delivery.told.toList else [] := by
  cases told : delivery.told with
  | none => simp [mailTo, Delivery.letter, told]
  | some message =>
      by_cases own : delivery.service.connection.id = id
      · simp [mailTo, Delivery.letter, told, own]
      · simp [mailTo, Delivery.letter, told, own]

theorem told_eq_mailTo (id : Nat) (past : List (Delivery J)) :
    told id past = mailTo id (past.filterMap Delivery.letter) := by
  induction past with
  | nil => rfl
  | cons delivery rest ih =>
      have split : (delivery :: rest).filterMap Delivery.letter =
          [delivery].filterMap Delivery.letter ++ rest.filterMap Delivery.letter := by
        rw [← List.filterMap_append, List.singleton_append]
      rw [split, mailTo_append, ← ih, mailTo_letter, told, deliveriesOn, List.filter_cons]
      by_cases own : delivery.service.connection.id = id
      · simp only [own, decide_true, ↓reduceIte, List.filterMap_cons]
        cases delivery.told <;> rfl
      · simp only [own, decide_false, Bool.false_eq_true, ↓reduceIte]
        rfl

theorem written_eq_wire (delivery : Delivery J) :
    delivery.written = delivery.told.toList.flatMap Message.wire := by
  rw [Delivery.written]
  cases delivery.told <;> simp

omit [IJournal J] in
theorem deliveriesOn_fresh {id : Nat} {past : List (Delivery J)}
    (fresh : ∀ delivery ∈ past, delivery.service.connection.id ≠ id) :
    deliveriesOn id past = [] := by
  rw [deliveriesOn, List.filter_eq_nil_iff]
  intro delivery listed
  simpa using fresh delivery listed

/-! One conversation. -/

/-- Where a connection stands in the conversation that began with `origin`. -/
structure Converses (origin : TcpTransport) (past : List (Delivery J))
    (mail : List (Nat × Message)) (connection : Connection) : Prop where
  paired : connection.Paired
  follows : connection.decoder.Follows origin.stream (heard connection.id past)
    connection.transport.stream
  sent : connection.transport.sent =
    origin.sent ++ (mailTo connection.id mail).flatMap Message.wire
  shut : (deliveriesOn connection.id past).any Delivery.failed →
    connection.transport.connected = false

variable {origin : TcpTransport} {past : List (Delivery J)} {mail : List (Nat × Message)}

/-- The transport and the decoder change, in step. -/
theorem Converses.moved {before after : Connection} (converses : Converses origin past mail before)
    (id : after.id = before.id) (closing : after.closing = before.closing)
    (connected : after.transport.connected = before.transport.connected)
    (follows : after.decoder.Follows origin.stream (heard before.id past) after.transport.stream)
    (sent : after.transport.sent = before.transport.sent) : Converses origin past mail after where
  paired := by
    rw [Connection.Paired, closing, connected]
    exact converses.paired
  follows := by
    rw [id]
    exact follows
  sent := by
    rw [sent, id]
    exact converses.sent
  shut := by
    rw [connected, id]
    exact converses.shut

theorem Converses.disconnected {service : Service J}
    (converses : Converses origin past mail service.connection) (reason : String) (room : Nat) :
    Converses origin past mail (service.handleDisconnect reason room).connection := by
  have serves := Service.serves_handleDisconnect service reason room
  have stream : (service.handleDisconnect reason room).connection.transport.stream =
      service.connection.transport.stream := by
    rw [TcpTransport.stream, serves.unread, serves.arrivals]
    rfl
  refine ⟨serves.paired converses.paired, ?_, ?_, fun _ =>
    Service.handleDisconnect_closed converses.paired reason room⟩
  · rw [serves.decoder, serves.id, stream]
    exact converses.follows
  · rw [Service.sent_handleDisconnect, serves.id]
    exact converses.sent

/-- A frame taken off the stream and handled. -/
theorem Converses.delivered {service taken : Service J}
    (converses : Converses origin past mail service.connection) {frame : Frame}
    (ok : service.connection.decoder.next.1 = .ok frame)
    (same : taken.connection = { service.connection with
      decoder := service.connection.decoder.next.2 }) (room : Nat) :
    Converses origin (past ++ [⟨taken, frame⟩])
      (mail ++ [⟨taken, frame⟩].filterMap Delivery.letter)
      (taken.handleFrame frame room).connection := by
  have serves := Service.serves_handleFrame taken frame room
  have own : taken.connection.id = service.connection.id := by rw [same]
  have id : (taken.handleFrame frame room).connection.id = service.connection.id :=
    serves.id.trans own
  have paired : taken.connection.Paired := by
    rw [same]
    exact converses.paired
  have stream : (taken.handleFrame frame room).connection.transport.stream =
      service.connection.transport.stream := by
    rw [TcpTransport.stream, serves.unread, serves.arrivals, same]
    rfl
  refine ⟨serves.paired paired, ?_, ?_, fun lost => ?_⟩
  · rw [id, stream, serves.decoder, same, heard_concat, if_pos own]
    exact converses.follows.next ok
  · rw [id, Service.sent_handleFrame, mailTo_append, mailTo_letter, if_pos own,
      List.flatMap_append, written_eq_wire, same, ← List.append_assoc]
    exact congrArg (· ++ _) converses.sent
  · rw [id, deliveriesOn, List.filter_append, List.any_append, Bool.or_eq_true] at lost
    rcases lost with earlier | now
    · refine serves.shut ?_
      rw [same]
      exact converses.shut earlier
    · simp only [List.filter_cons, own, decide_true, ↓reduceIte, List.filter_nil, List.any_cons,
        List.any_nil, Bool.or_false] at now
      exact Service.handleFrame_failed paired now room

/-! All conversations. -/

/-- Every listed connection is in conversation with the peer it was accepted from, and what was
handled on any connection was read off the stream of its peer. -/
structure Talk (welcomed : List (Nat × TcpTransport)) (past : List (Delivery J))
    (mail : List (Nat × Message)) (connections : List Connection) (next : Nat) : Prop
    extends Chronicled past connections next where
  listed : ∀ connection ∈ connections, ∃ origin, (connection.id, origin) ∈ welcomed ∧
    Converses origin past mail connection
  read : ∀ entry ∈ welcomed, ∃ rest, Reads framing entry.2.stream (heard entry.1 past) rest
  once : (welcomed.map Prod.fst).Nodup
  recent : ∀ entry ∈ welcomed, entry.1 < next
  posted : ∀ letter ∈ mail, letter.1 < next
  quiet : Runs.Throughout (fun past (delivery : Delivery J) =>
    (deliveriesOn delivery.service.connection.id past).any Delivery.failed →
      delivery.told = none) past

variable {welcomed : List (Nat × TcpTransport)}

theorem Talk.perm {connections reordered : List Connection} {next : Nat}
    (talk : Talk welcomed past mail connections next) (perm : connections.Perm reordered) :
    Talk welcomed past mail reordered next where
  toRoster := talk.toRoster.perm perm
  every := talk.every
  listed connection member := talk.listed connection (perm.mem_iff.mpr member)
  read := talk.read
  once := talk.once
  recent := talk.recent
  posted := talk.posted
  quiet := talk.quiet

theorem Talk.sublist {connections kept : List Connection} {next : Nat}
    (talk : Talk welcomed past mail connections next) (fewer : kept.Sublist connections) :
    Talk welcomed past mail kept next where
  toRoster := talk.toRoster.sublist fewer
  every := talk.every
  listed connection member := talk.listed connection (fewer.subset member)
  read := talk.read
  once := talk.once
  recent := talk.recent
  posted := talk.posted
  quiet := talk.quiet

namespace Service

/-- The conversations of the served connection and `others`, the rest of the list. -/
structure Talks (welcomed : List (Nat × TcpTransport)) (past : List (Delivery J))
    (mail : List (Nat × Message)) (others : List Connection) (service : Service J) : Prop where
  remaining : service.coordinator.connections = others
  talk : Talk welcomed past mail (service.connection :: others) service.coordinator.nextConnectionId

variable {others : List Connection} {service : Service J}

theorem Talks.chronicled (talks : service.Talks welcomed past mail others) :
    service.Chronicled past others := ⟨talks.remaining, talks.talk.toChronicled⟩

/-- A step without a delivery keeps the conversations if it keeps the served one. -/
theorem Talks.moved {after : Service J} (talks : service.Talks welcomed past mail others)
    (connections : after.coordinator.connections = service.coordinator.connections)
    (next : after.coordinator.nextConnectionId = service.coordinator.nextConnectionId)
    (id : after.connection.id = service.connection.id)
    (identity : after.connection.identity = service.connection.identity)
    (own : ∀ origin, Converses origin past mail service.connection →
      Converses origin past mail after.connection) : after.Talks welcomed past mail others := by
  refine ⟨connections.trans talks.remaining,
    (talks.chronicled.moved connections next id identity).listed, fun connection member => ?_,
    talks.talk.read, talks.talk.once, fun entry member => ?_, fun letter member => ?_,
    talks.talk.quiet⟩
  · rcases List.mem_cons.mp member with rfl | other
    · obtain ⟨origin, entered, converses⟩ := talks.talk.listed _ List.mem_cons_self
      exact ⟨origin, id ▸ entered, own origin converses⟩
    · exact talks.talk.listed connection (List.mem_cons_of_mem _ other)
  · rw [next]
    exact talks.talk.recent entry member
  · rw [next]
    exact talks.talk.posted letter member

theorem Talks.disconnected (talks : service.Talks welcomed past mail others) (reason : String)
    (room : Nat) : (service.handleDisconnect reason room).Talks welcomed past mail others := by
  have serves := serves_handleDisconnect service reason room
  exact talks.moved serves.connections serves.nextConnectionId serves.id
    (identity_handleDisconnect service reason room)
    fun origin converses => converses.disconnected reason room

theorem Talks.delivered (talks : service.Talks welcomed past mail others) {frame : Frame}
    (ok : service.connection.decoder.next.1 = .ok frame) {taken : Service J}
    (taken_eq : taken = ({ service with connection := { service.connection with
      decoder := service.connection.decoder.next.2 } } : Service J).note (.took service.connection))
    (room : Nat) :
    (taken.handleFrame frame room).Talks welcomed (past ++ [⟨taken, frame⟩])
      (mail ++ [⟨taken, frame⟩].filterMap Delivery.letter) others := by
  have serves := serves_handleFrame taken frame room
  have start : taken.Chronicled past others := by
    rw [taken_eq]
    exact talks.chronicled.moved rfl rfl rfl rfl
  have same : taken.connection = { service.connection with
      decoder := service.connection.decoder.next.2 } := by
    rw [taken_eq]
    rfl
  have id : (taken.handleFrame frame room).connection.id = service.connection.id := by
    rw [serves.id, same]
  have chronicled := start.delivered frame room
  have distinct := talks.talk.distinct
  rw [List.map_cons, List.nodup_cons] at distinct
  obtain ⟨origin, entered, converses⟩ := talks.talk.listed _ List.mem_cons_self
  have heardOn (other : Nat) (different : service.connection.id ≠ other) :
      heard other (past ++ [⟨taken, frame⟩]) = heard other past := by
    rw [heard_concat, if_neg]
    rwa [same]
  have own := converses.delivered ok same room
  refine ⟨chronicled.remaining, chronicled.listed, fun connection member => ?_,
    fun entry member => ?_, talks.talk.once, fun entry member => ?_, fun letter member => ?_,
    Runs.throughout_concat.mpr ⟨talks.talk.quiet, fun lost => ?_⟩⟩
  · rcases List.mem_cons.mp member with rfl | other
    · exact ⟨origin, id ▸ entered, own⟩
    · obtain ⟨source, welcome, keeps⟩ := talks.talk.listed connection (List.mem_cons_of_mem _ other)
      have different : service.connection.id ≠ connection.id :=
        fun equal => distinct.1 (List.mem_map.mpr ⟨connection, other, equal.symm⟩)
      have apart : deliveriesOn connection.id (past ++ [⟨taken, frame⟩]) =
          deliveriesOn connection.id past := by
        rw [deliveriesOn, List.filter_append, List.filter_cons_of_neg, List.filter_nil,
          List.append_nil, deliveriesOn]
        simpa [same] using different
      have unwritten : mailTo connection.id (mail ++ [⟨taken, frame⟩].filterMap Delivery.letter) =
          mailTo connection.id mail := by
        rw [mailTo_append, mailTo_letter, if_neg (by rwa [same]), List.append_nil]
      refine ⟨source, welcome, keeps.paired, ?_, ?_, ?_⟩
      · rw [heard, apart]
        exact keeps.follows
      · rw [unwritten]
        exact keeps.sent
      · rw [apart]
        exact keeps.shut
  · by_cases ours : entry.1 = service.connection.id
    · have source : entry = (service.connection.id, origin) :=
        List.inj_on_of_nodup_map talks.talk.once member entered ours
      rw [source, ← id]
      exact own.follows.read
    · rw [heardOn _ fun equal => ours equal.symm]
      exact talks.talk.read entry member
  · rw [serves.nextConnectionId, taken_eq]
    exact talks.talk.recent entry member
  · rw [serves.nextConnectionId, taken_eq]
    rcases List.mem_append.mp member with earlier | now
    · exact talks.talk.posted letter earlier
    · obtain ⟨delivery, single, written⟩ := List.mem_filterMap.mp now
      rw [List.mem_singleton.mp single, Delivery.letter, Option.map_eq_some_iff] at written
      obtain ⟨message, _, rfl⟩ := written
      simp only [same]
      exact talks.talk.below _ List.mem_cons_self
  · refine told_closed ?_
    rw [same] at lost ⊢
    exact converses.shut lost

theorem decodeFrames_talks (room : Nat) (talks : service.Talks welcomed past mail others) :
    (decodeFrames room service).2.Talks welcomed (past ++ decodeDeliveries room service)
      (mail ++ (decodeDeliveries room service).filterMap Delivery.letter) others := by
  induction room generalizing past mail service with
  | zero =>
      simpa only [decodeFrames, decodeDeliveries, List.filterMap_nil, List.append_nil] using talks
  | succ room ih =>
      simp only [decodeFrames, decodeDeliveries]
      cases outcome : service.connection.decoder.next.1 with
      | ok frame =>
          have later := ih (talks.delivered outcome rfl room)
          rwa [List.append_assoc, List.append_assoc, ← List.filterMap_append] at later
      | error status =>
          have decoded : Talks welcomed past mail others { service with
              connection := { service.connection with
                decoder := service.connection.decoder.next.2 } } :=
            talks.moved rfl rfl rfl rfl fun origin converses =>
              converses.moved rfl rfl rfl (converses.follows.stuck outcome) rfl
          simp only [List.filterMap_nil, List.append_nil]
          split
          · exact decoded
          · refine Talks.disconnected ?_ _ _
            exact decoded.moved rfl rfl rfl rfl fun origin converses =>
              converses.moved rfl rfl rfl converses.follows rfl

theorem receiveChunks_talks (fuel room : Nat) (talks : service.Talks welcomed past mail others) :
    (receiveChunks fuel room service).2.Talks welcomed
      (past ++ receiveDeliveries fuel room service)
      (mail ++ (receiveDeliveries fuel room service).filterMap Delivery.letter) others := by
  induction fuel generalizing room past mail service with
  | zero =>
      simpa only [receiveChunks, receiveDeliveries, List.filterMap_nil, List.append_nil] using talks
  | succ fuel ih =>
      simp only [receiveChunks, receiveDeliveries]
      by_cases spent : room = 0
      · simpa only [spent, ↓reduceIte, List.filterMap_nil, List.append_nil] using talks
      simp only [spent, ↓reduceIte]
      have ready := service.connection.transport.stream_readable
      have waited := readable_connected service.connection.transport
      cases service.connection.transport.readable.1 with
      | false =>
          simp only [Bool.not_false, ↓reduceIte, List.filterMap_nil, List.append_nil]
          exact talks.moved rfl rfl rfl rfl fun origin converses =>
            converses.moved rfl rfl waited (ready.1.symm ▸ converses.follows) ready.2
      | true =>
          simp only [Bool.not_true, Bool.false_eq_true, ↓reduceIte]
          generalize service.connection.transport.readable.2 = transport at ready waited
          obtain ⟨chunked, failed, sent⟩ := @TcpTransport.stream_receive transport
            service.coordinator.config.receiveBufferBytes
          have connected := (transport.receive_connected
            service.coordinator.config.receiveBufferBytes).trans waited
          generalize transport.receive service.coordinator.config.receiveBufferBytes = received
            at chunked failed sent connected
          have same : received.2.sent = service.connection.transport.sent := sent.trans ready.2
          have kept (whole : received.2.stream = service.connection.transport.stream) :
              (service.fed received.2 service.connection.decoder).Talks welcomed past mail others :=
            talks.moved rfl rfl rfl rfl fun origin converses =>
              converses.moved rfl rfl connected (whole.symm ▸ converses.follows) same
          cases outcome : received.1 with
          | error status =>
              simp only [List.filterMap_nil, List.append_nil]
              exact (kept ((failed status outcome).trans ready.1)).disconnected _ _
          | ok chunk =>
              have stream : service.connection.transport.stream = chunk ++ received.2.stream :=
                ready.1.symm.trans (chunked chunk outcome)
              simp only []
              cases empty : chunk.isEmpty with
              | true =>
                  simp only [Bool.true_or, ↓reduceIte, List.filterMap_nil, List.append_nil]
                  rw [List.isEmpty_iff] at empty
                  rw [empty, List.nil_append] at stream
                  exact (kept stream.symm).disconnected _ _
              | false =>
                  have pushed : (service.fed received.2
                      (service.connection.decoder.push chunk).2).Talks welcomed past mail others :=
                    talks.moved rfl rfl rfl rfl fun origin converses =>
                      converses.moved rfl rfl connected
                        (FrameDecoder.Follows.push (stream ▸ converses.follows)) same
                  simp only [Bool.false_or, Bool.false_eq_true, ↓reduceIte]
                  cases (service.connection.decoder.push chunk).1.isOk with
                  | false =>
                      simp only [Bool.not_false, ↓reduceIte, List.filterMap_nil, List.append_nil]
                      refine Talks.disconnected ?_ _ _
                      exact pushed.moved rfl rfl rfl rfl fun origin converses =>
                        converses.moved rfl rfl rfl converses.follows rfl
                  | true =>
                      simp only [Bool.not_true, Bool.false_eq_true, ↓reduceIte]
                      rw [List.filterMap_append, ← List.append_assoc, ← List.append_assoc]
                      exact ih _ (decodeFrames_talks room pushed)

theorem serve_talks (talks : service.Talks welcomed past mail others) :
    service.serve.Talks welcomed (past ++ service.serveDeliveries)
      (mail ++ service.serveDeliveries.filterMap Delivery.letter) others := by
  simp only [serve, serveDeliveries]
  split
  · rwa [List.filterMap_nil, List.append_nil, List.append_nil]
  · exact receiveChunks_talks _ _ talks

theorem expire_talks (talks : service.Talks welcomed past mail others) (now : Nanos) :
    (service.expire now).Talks welcomed past mail others := by
  simp only [expire]
  split
  · exact talks
  split
  · refine Talks.disconnected ?_ _ _
    exact talks.moved rfl rfl rfl rfl fun origin converses =>
      converses.moved rfl rfl rfl converses.follows rfl
  · exact talks

end Service

namespace Coordinator

/-- The connection a cycle accepts, if it accepts one. -/
def welcomes (coordinator : Coordinator J) (incoming : Option TcpTransport) :
    Option (Nat × TcpTransport) :=
  if !coordinator.stopped ∧ coordinator.listening ∧
      coordinator.connections.length < coordinator.config.maxConnections then
    incoming.map fun transport => (coordinator.nextConnectionId, transport)
  else none

/-- The connections accepted in a run, each with the transport of its peer. -/
def accepted : Coordinator J → List (Option TcpTransport) → List (Nat × TcpTransport)
  | _, [] => []
  | coordinator, incoming :: later =>
      (coordinator.welcomes incoming).toList ++ accepted (coordinator.runOnce incoming).2 later

def Talks (welcomed : List (Nat × TcpTransport)) (past : List (Delivery J))
    (mail : List (Nat × Message)) (coordinator : Coordinator J) : Prop :=
  Talk welcomed past mail coordinator.connections coordinator.nextConnectionId

theorem talk_iff {served rest : List Connection} {connection : Connection} {next : Nat} :
    Talk welcomed past mail (served ++ connection :: rest) next ↔
      Talk welcomed past mail (connection :: (served ++ rest)) next := by
  have perm : (served ++ connection :: rest).Perm (connection :: (served ++ rest)) :=
    List.perm_middle
  exact ⟨fun talk => talk.perm perm, fun talk => talk.perm perm.symm⟩

/-- A new conversation has nothing said yet. -/
theorem Talk.welcome {connections : List Connection} {next : Nat}
    (talk : Talk welcomed past mail connections next) {origin : TcpTransport} {connection : Connection}
    (id : connection.id = next) (unknown : connection.identity = none)
    (paired : connection.Paired) (decoder : connection.decoder = {})
    (stream : connection.transport.stream = origin.stream)
    (sent : connection.transport.sent = origin.sent) :
    Talk (welcomed ++ [(next, origin)]) past mail (connections ++ [connection]) (next + 1) := by
  have silent : deliveriesOn next past = [] := by
    refine deliveriesOn_fresh fun delivery handled same => ?_
    have older := talk.known delivery handled
    omega
  have unwritten : mailTo next mail = [] :=
    mailTo_fresh fun letter listed => Nat.ne_of_lt (talk.posted letter listed)
  have nothing := FrameDecoder.follows_fresh origin.stream
  refine ⟨⟨talk.toRoster.arrival id unknown, talk.every⟩, fun other member => ?_,
    fun entry member => ?_, ?_, fun entry member => ?_,
    fun letter member => Nat.lt_succ_of_lt (talk.posted letter member), talk.quiet⟩
  · rcases List.mem_append.mp member with known | new
    · obtain ⟨source, entered, converses⟩ := talk.listed other known
      exact ⟨source, List.mem_append_left _ entered, converses⟩
    · rw [List.mem_singleton.mp new]
      refine ⟨origin, by simp [id], paired, ?_, ?_, ?_⟩
      · rw [heard, id, silent, decoder, stream]
        exact nothing
      · rw [id, unwritten, sent]
        exact (List.append_nil _).symm
      · rw [id, silent]
        simp
  · rcases List.mem_append.mp member with known | new
    · exact talk.read entry known
    · rw [List.mem_singleton.mp new, heard, silent]
      exact nothing.read
  · rw [List.map_append, List.nodup_append]
    refine ⟨talk.once, by simp, fun older listed newer own => ?_⟩
    obtain ⟨entry, known, rfl⟩ := List.mem_map.mp listed
    have below := talk.recent entry known
    simp only [List.map_cons, List.map_nil, List.mem_singleton] at own
    omega
  · rcases List.mem_append.mp member with known | new
    · exact Nat.lt_succ_of_lt (talk.recent entry known)
    · rw [List.mem_singleton.mp new]
      exact Nat.lt_succ_self next

theorem accept_talks {coordinator : Coordinator J} (talks : coordinator.Talks welcomed past mail)
    (running : coordinator.stopped = false) (incoming : Option TcpTransport) :
    (coordinator.accept incoming).Talks (welcomed ++ (coordinator.welcomes incoming).toList)
      past mail := by
  simp only [accept, welcomes, running, Bool.not_false, true_and]
  split
  · cases incoming with
    | none => simpa using talks
    | some transport => exact Talk.welcome talks rfl rfl rfl rfl rfl rfl
  · simpa using talks

theorem expired_talks {coordinator : Coordinator J} (talks : coordinator.Talks welcomed past mail)
    (now : Nanos) :
    (eachConnection (Service.expire now) [] coordinator.connections coordinator).Talks welcomed
      past mail := by
  have kept := @eachConnection_holds J (Service.expire now)
    (fun served rest middle => Talk welcomed past mail (served ++ rest) middle.nextConnectionId) ?_
    [] coordinator.connections coordinator talks
  · obtain ⟨all, last, kept, same⟩ := kept
    rw [same]
    rwa [List.append_nil] at kept
  · intro served connection rest middle talk
    have start : Service.Talks welcomed past mail (served ++ rest)
        ⟨{ middle with connections := served ++ rest }, connection⟩ := ⟨rfl, talk_iff.mp talk⟩
    rw [List.append_assoc, List.singleton_append]
    exact talk_iff.mpr (Service.expire_talks start now).talk

theorem served_talks {served rest : List Connection} {coordinator : Coordinator J}
    (talk : Talk welcomed past mail (served ++ rest) coordinator.nextConnectionId) :
    (eachConnection Service.serve served rest coordinator).Talks welcomed
      (past ++ eachDeliveries served rest coordinator)
      (mail ++ (eachDeliveries served rest coordinator).filterMap Delivery.letter) := by
  induction rest generalizing past mail served coordinator with
  | nil =>
      rw [eachDeliveries, List.filterMap_nil, List.append_nil, List.append_nil]
      rwa [List.append_nil] at talk
  | cons connection rest ih =>
      have start : Service.Talks welcomed past mail (served ++ rest)
          ⟨{ coordinator with connections := served ++ rest }, connection⟩ :=
        ⟨rfl, talk_iff.mp talk⟩
      have kept := talk_iff.mpr (Service.serve_talks start).talk
      simp only [eachConnection, eachDeliveries]
      rw [List.filterMap_append, ← List.append_assoc, ← List.append_assoc]
      refine ih ?_
      rwa [List.append_assoc, List.singleton_append]

theorem runOnce_talks {coordinator : Coordinator J} (talks : coordinator.Talks welcomed past mail)
    (incoming : Option TcpTransport) :
    (coordinator.runOnce incoming).2.Talks (welcomed ++ (coordinator.welcomes incoming).toList)
      (past ++ coordinator.cycleDeliveries incoming)
      (mail ++ (coordinator.cycleDeliveries incoming).filterMap Delivery.letter) := by
  simp only [runOnce, cycleDeliveries]
  cases stopped : coordinator.stopped with
  | true =>
      simp only [welcomes, stopped]
      simpa using talks
  | false =>
      have noted : (coordinator.note .began).Talks welcomed past mail := talks
      have welcome : (coordinator.note .began).welcomes incoming = coordinator.welcomes incoming :=
        rfl
      have entered := accept_talks noted stopped incoming
      rw [welcome] at entered
      have served := @served_talks J _ _ _ _ [] _ _ entered
      have read : (nowNanos (eachConnection Service.serve []
          ((coordinator.note .began).accept incoming).connections
          ((coordinator.note .began).accept incoming))).2.Talks _ _ _ := served
      exact (expired_talks read _).sublist List.filter_sublist

theorem run_talks {coordinator : Coordinator J} (talks : coordinator.Talks welcomed past mail)
    (cycles : List (Option TcpTransport)) :
    (coordinator.run cycles).Talks (welcomed ++ coordinator.accepted cycles)
      (past ++ coordinator.deliveries cycles)
      (mail ++ (coordinator.deliveries cycles).filterMap Delivery.letter) := by
  induction cycles generalizing welcomed past mail coordinator with
  | nil =>
      simpa only [run, List.foldl_nil, accepted, deliveries, List.filterMap_nil, List.append_nil]
        using talks
  | cons incoming later ih =>
      rw [deliveries, accepted, List.filterMap_append, ← List.append_assoc, ← List.append_assoc,
        ← List.append_assoc]
      exact ih (runOnce_talks talks incoming)

theorem serving_talks (config : CoordinatorConfig) (fabric : Fabric J) :
    (serving config fabric).Talks [] [] [] where
  identity := by simp [serving]
  distinct := by simp [serving]
  below := by simp [serving]
  known := by simp
  every := Runs.throughout_nil _
  listed := by simp [serving]
  read := by simp
  once := by simp
  recent := by simp
  posted := by simp
  quiet := Runs.throughout_nil _

end Coordinator

end QueueFabric
