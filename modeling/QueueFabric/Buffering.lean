import QueueFabric.Lib.Runs
import QueueFabric.ServiceSteps

/-!
Frames left in a decoder. The receive loop empties the decoder of every
connection it enters, up to the frame budget; a connection with nothing to read
is not entered, so what an exhausted budget left behind stays there.
-/

namespace QueueFabric

open Relation

/-- The decoder would yield a frame. -/
def FrameDecoder.holdsFrame (decoder : FrameDecoder) : Bool :=
  match decoder.next.1 with
  | .ok _ => true
  | .error _ => false

namespace FrameDecoder

theorem next_waiting {decoder : FrameDecoder} {status : Status}
    (error : decoder.next.1 = .error status) (waiting : status.code = .notFound) :
    decoder.next.2 = decoder := by
  revert error
  simp only [next]
  split
  · exact fun _ => rfl
  split
  · exact fun _ => rfl
  split
  · rintro same
    cases same
    cases waiting
  split
  · rintro same
    cases same
    cases waiting
  split
  · rintro same
    cases same
    cases waiting
  split
  · exact fun _ => rfl
  split
  · rintro same
    cases same
    cases waiting
  · rintro same
    cases same

theorem holdsFrame_of_error {decoder : FrameDecoder} {status : Status}
    (error : decoder.next.1 = .error status) : decoder.holdsFrame = false := by
  rw [holdsFrame, error]

end FrameDecoder

/-- The frames taken from a connection since the cycle began. -/
def takenIn {J : Type} (id : Nat) : List (Activity J) → Nat
  | [] => 0
  | .began :: _ => 0
  | .took connection :: older => takenIn id older + if connection.id = id then 1 else 0
  | _ :: older => takenIn id older

theorem takenIn_quiet {J : Type} (id : Nat) {newer older : List (Activity J)}
    (quiet : ∀ activity ∈ newer, activity.Quiet) :
    takenIn id (newer ++ older) = takenIn id older := by
  induction newer with
  | nil => rfl
  | cons activity rest ih =>
      have later := ih fun other listed => quiet other (List.mem_cons_of_mem activity listed)
      have now := quiet activity List.mem_cons_self
      cases activity with
      | began => exact now.elim
      | took connection => exact now.elim
      | _ => exact later

/-! Transports. -/

namespace TcpTransport

theorem pending_arrive (transport : TcpTransport) : transport.arrive.pending = transport.pending := by
  rw [arrive]
  split
  · rfl
  · rename_i arrival later same
    simp only [pending, same, List.length_append, List.map_cons, List.sum_cons]
    omega

theorem readable_eq {transport : TcpTransport} (connected : transport.connected = true) :
    transport.readable.2 = transport.arrive := by
  simp [readable, connected]

theorem arrive_connected (transport : TcpTransport) :
    transport.arrive.connected = transport.connected := by
  rw [arrive]
  split <;> rfl

theorem pending_receive {transport : TcpTransport} {capacity : Nat} {chunk : Bytes}
    (ok : (transport.receive capacity).1 = .ok chunk) (some : chunk.isEmpty = false) :
    (transport.receive capacity).2.pending < transport.pending := by
  have received : (transport.receive capacity).2 =
      { transport with unread := transport.unread.drop capacity } ∧
      chunk = transport.unread.take capacity := by
    simp only [receive] at ok ⊢
    split at ok
    · cases ok
    · rename_i opened
      rw [if_neg opened]
      split at ok
      · cases ok
        simp at some
      · rename_i room
        rw [if_neg room]
        split at ok
        · cases ok
        · rename_i whole
          rw [if_neg whole]
          cases ok
          exact ⟨rfl, rfl⟩
  rw [received.1]
  rw [received.2, List.isEmpty_eq_false_iff_exists_mem] at some
  obtain ⟨byte, listed⟩ := some
  have taken := List.length_pos_of_mem listed
  simp only [List.length_take] at taken
  simp only [pending, List.length_drop]
  omega

theorem receive_connected (transport : TcpTransport) (capacity : Nat) :
    (transport.receive capacity).2.connected = transport.connected := by
  simp only [receive]
  split
  · rfl
  split
  · rfl
  split <;> rfl

end TcpTransport

namespace Service

variable {J : Type} [IJournal J]

/-! The decode loop. -/

/-- What the decode loop leaves behind when it may take `room` frames. -/
structure Decoded (room : Nat) (before : Service J) (after : Nat × Service J) : Prop where
  config : after.2.coordinator.config = before.coordinator.config
  connections : after.2.coordinator.connections = before.coordinator.connections
  id : after.2.connection.id = before.connection.id
  pending : after.2.connection.transport.pending = before.connection.transport.pending
  paired : after.2.connection.Paired
  taken : takenIn before.connection.id after.2.coordinator.log + after.1 =
    takenIn before.connection.id before.coordinator.log + room
  others : ∀ id, takenIn id before.coordinator.log ≤ takenIn id after.2.coordinator.log
  drained : 0 < after.1 → after.2.connection.transport.connected = true →
    after.2.connection.decoder.holdsFrame = false

omit [IJournal J] in
theorem Serves.pending {before after : Service J} (serves : Serves before after) :
    after.connection.transport.pending = before.connection.transport.pending := by
  rw [TcpTransport.pending, serves.unread, serves.arrivals]
  rfl

omit [IJournal J] in
theorem Serves.taken {before after : Service J} (serves : Serves before after) (id : Nat) :
    takenIn id after.coordinator.log = takenIn id before.coordinator.log := by
  obtain ⟨newer, same, quiet⟩ := serves.log
  rw [same, takenIn_quiet id quiet]

omit [IJournal J] in
theorem Decoded.after {room : Nat} {before middle : Service J} {after : Nat × Service J}
    (serves : Serves before middle) (decoded : Decoded room middle after) :
    Decoded room before after where
  config := decoded.config.trans serves.config
  connections := decoded.connections.trans serves.connections
  id := decoded.id.trans serves.id
  pending := decoded.pending.trans serves.pending
  paired := decoded.paired
  taken := by
    have taken := decoded.taken
    rwa [serves.id, serves.taken] at taken
  others id := serves.taken id ▸ decoded.others id
  drained := decoded.drained

omit [IJournal J] in
theorem decoded_of_serves {room : Nat} {before after : Service J} (serves : Serves before after)
    (paired : before.connection.Paired)
    (drained : after.connection.transport.connected = true →
      after.connection.decoder.holdsFrame = false) : Decoded room before (room, after) where
  config := serves.config
  connections := serves.connections
  id := serves.id
  pending := serves.pending
  paired := serves.paired paired
  taken := by rw [serves.taken]
  others id := (serves.taken id).ge
  drained _ := drained

theorem decodeFrames_decoded (room : Nat) (service : Service J)
    (paired : service.connection.Paired) : Decoded room service (decodeFrames room service) := by
  induction room generalizing service with
  | zero =>
      refine ⟨rfl, rfl, rfl, rfl, paired, rfl, fun _ => le_rfl, fun positive => ?_⟩
      simp [decodeFrames] at positive
  | succ room ih =>
      simp only [decodeFrames]
      generalize following : service.connection.decoder.next.2 = decoder
      cases outcome : service.connection.decoder.next.1 with
      | ok frame =>
          simp only []
          generalize taken_eq : ({ service with
            connection := { service.connection with decoder } }.note
              (.took service.connection)) = taken
          have log (id : Nat) : takenIn id taken.coordinator.log =
              takenIn id service.coordinator.log + if service.connection.id = id then 1 else 0 := by
            rw [← taken_eq]
            rfl
          have start : taken.coordinator.config = service.coordinator.config ∧
              taken.coordinator.connections = service.coordinator.connections ∧
              taken.connection = { service.connection with decoder } := by
            rw [← taken_eq]
            exact ⟨rfl, rfl, rfl⟩
          have id : taken.connection.id = service.connection.id := by rw [start.2.2]
          have serves := serves_handleFrame taken frame room
          have same : taken.connection.Paired := by
            rw [start.2.2]
            exact paired
          have served := (ih _ (serves.paired same)).after serves
          refine ⟨served.config.trans start.1, served.connections.trans start.2.1, ?_, ?_,
            served.paired, ?_, fun id => ?_, served.drained⟩
          · rw [served.id, id]
          · rw [served.pending, start.2.2]
          · have counted := served.taken
            rw [id, log, if_pos rfl] at counted
            omega
          · have grown := served.others id
            rw [log] at grown
            omega
      | error status =>
          simp only []
          split
          · rename_i waiting
            rw [← following, FrameDecoder.next_waiting outcome waiting]
            exact decoded_of_serves (.refl service) paired fun _ =>
              FrameDecoder.holdsFrame_of_error outcome
          · generalize failed_eq : ({ service with
              connection := { service.connection with decoder } } : Service J) = failed
            have same : failed.connection.Paired := by
              rw [← failed_eq]
              exact paired
            have serves := ((books_rejectFrame failed).trans
              (books_countStats _ countFrameRejected)).serves
            have closed := handleDisconnect_closed (serves.paired same) "frame-decoder-failed" 0
            have dropped := @decoded_of_serves J (room + 1) _ _
              (serves.trans (serves_handleDisconnect _ "frame-decoder-failed" 0)) same
              fun connected => absurd (closed.symm.trans connected) Bool.false_ne_true
            subst failed_eq
            exact ⟨dropped.config, dropped.connections, dropped.id, dropped.pending,
              dropped.paired, dropped.taken, dropped.others, dropped.drained⟩

/-! The receive loop. -/

/-- What a cycle's service leaves behind when it may take `room` frames. -/
structure Received (room : Nat) (before : Service J) (after : Nat × Service J) : Prop where
  config : after.2.coordinator.config = before.coordinator.config
  connections : after.2.coordinator.connections = before.coordinator.connections
  id : after.2.connection.id = before.connection.id
  paired : after.2.connection.Paired
  taken : takenIn before.connection.id after.2.coordinator.log + after.1 =
    takenIn before.connection.id before.coordinator.log + room
  others : ∀ id, takenIn id before.coordinator.log ≤ takenIn id after.2.coordinator.log
  drained : 0 < after.1 → after.2.connection.transport.connected = true →
    after.2.connection.decoder.holdsFrame = false ∨
      before.connection.transport.readable.1 = false ∧
        after.2.connection.decoder = before.connection.decoder

/-- The service with another transport and decoder. -/
def fed (service : Service J) (transport : TcpTransport) (decoder : FrameDecoder) : Service J :=
  { service with connection := { service.connection with transport, decoder } }

omit [IJournal J] in
theorem received_of_closed {room : Nat} {service lost : Service J} {transport : TcpTransport}
    {decoder : FrameDecoder} (serves : Serves (service.fed transport decoder) lost)
    (paired : (service.fed transport decoder).connection.Paired)
    (closed : lost.connection.transport.connected = false) : Received room service (room, lost) where
  config := serves.config
  connections := serves.connections
  id := serves.id
  paired := serves.paired paired
  taken := congrArg (· + room) (serves.taken service.connection.id)
  others id := (serves.taken id).ge
  drained _ connected := absurd (closed.symm.trans connected) Bool.false_ne_true

theorem connected_of_unreadable {transport : TcpTransport} (idle : transport.readable.1 = false) :
    transport.connected = true := by
  cases connected : transport.connected with
  | true => rfl
  | false => simp [TcpTransport.readable, connected] at idle

theorem pending_readable (transport : TcpTransport) :
    transport.readable.2.pending = transport.pending := by
  simp only [TcpTransport.readable]
  split
  · rfl
  · exact transport.pending_arrive

theorem readable_connected (transport : TcpTransport) :
    transport.readable.2.connected = transport.connected := by
  simp only [TcpTransport.readable]
  split
  · rfl
  · exact transport.arrive_connected

omit [IJournal J] in
/-- A round of the receive loop that decoded what it received, and the rounds after it. -/
theorem Received.following {room : Nat} {service : Service J} {transport : TcpTransport}
    {decoder : FrameDecoder} {middle after : Nat × Service J}
    (later : Received middle.1 middle.2 after)
    (decoded : Decoded room (service.fed transport decoder) middle) :
    Received room service after where
  config := later.config.trans decoded.config
  connections := later.connections.trans decoded.connections
  id := later.id.trans decoded.id
  paired := later.paired
  taken := by
    have first := decoded.taken
    have second := later.taken
    rw [decoded.id] at second
    change takenIn service.connection.id _ + _ = takenIn service.connection.id _ + _ at first second
    change takenIn service.connection.id _ + _ = _ at first
    exact second.trans first
  others id := (decoded.others id).trans (later.others id)
  drained positive connected := by
    rcases later.drained positive connected with empty | ⟨idle, same⟩
    · exact .inl empty
    · refine .inl ?_
      have left : 0 < middle.1 := by
        have taken := later.taken
        have grown := later.others middle.2.connection.id
        omega
      rw [same]
      exact decoded.drained left (connected_of_unreadable idle)

theorem receiveChunks_received (fuel room : Nat) (service : Service J)
    (enough : service.connection.transport.pending < fuel)
    (paired : service.connection.Paired) :
    Received room service (receiveChunks fuel room service) := by
  induction fuel generalizing room service with
  | zero => omega
  | succ fuel ih =>
      simp only [receiveChunks]
      have fed_paired {transport : TcpTransport} {decoder : FrameDecoder}
          (same : transport.connected = service.connection.transport.connected) :
          (service.fed transport decoder).connection.Paired := by
        rw [Connection.Paired, fed, same]
        exact paired
      by_cases spent : room = 0
      · rw [if_pos spent, spent]
        exact ⟨rfl, rfl, rfl, paired, rfl, fun _ => le_rfl, fun positive => by simp at positive⟩
      rw [if_neg spent]
      have waited := readable_connected service.connection.transport
      have bytes := pending_readable service.connection.transport
      cases ready : service.connection.transport.readable.1 with
      | false =>
          exact ⟨rfl, rfl, rfl, fed_paired waited, rfl, fun _ => le_rfl,
            fun _ _ => .inr ⟨ready, rfl⟩⟩
      | true =>
          simp only [Bool.not_true, Bool.false_eq_true, ↓reduceIte]
          generalize service.connection.transport.readable.2 = transport at waited bytes ⊢
          generalize capacity_eq : service.coordinator.config.receiveBufferBytes = capacity
          have kept := (transport.receive_connected capacity).trans waited
          have lose (service' : Service J) {decoder : FrameDecoder} (reason : String)
              (serves : Serves (service.fed (transport.receive capacity).2 decoder) service') :
              Received room service (room, service'.handleDisconnect reason 0) :=
            received_of_closed (serves.trans (serves_handleDisconnect service' reason 0))
              (fed_paired kept)
              (handleDisconnect_closed (serves.paired (fed_paired kept)) reason 0)
          cases outcome : (transport.receive capacity).1 with
          | error status => exact lose _ _ (.refl _)
          | ok chunk =>
              dsimp only
              cases empty : chunk.isEmpty with
              | true => exact lose _ _ (.refl _)
              | false =>
                  have fewer := transport.pending_receive outcome empty
                  generalize service.connection.decoder.push chunk = pushed
                  simp only [Bool.false_eq_true, ↓reduceIte]
                  cases failed : pushed.1.isOk with
                  | false =>
                      exact lose _ _ ((books_rejectFrame _).trans (books_countStats _ _)).serves
                  | true =>
                      simp only [Bool.not_true, Bool.false_eq_true, ↓reduceIte]
                      have decoded := decodeFrames_decoded room
                        (service.fed (transport.receive capacity).2 pushed.2) (fed_paired kept)
                      have fuelled : (transport.receive capacity).2.pending < fuel := by omega
                      have later := ih (decodeFrames room
                        (service.fed (transport.receive capacity).2 pushed.2)).1 _
                        (decoded.pending.symm ▸ fuelled) decoded.paired
                      exact later.following decoded

/-- What the service of one connection leaves behind. -/
structure Attended (before after : Service J) : Prop where
  config : after.coordinator.config = before.coordinator.config
  paired : after.connection.Paired
  others : ∀ id, takenIn id before.coordinator.log ≤ takenIn id after.coordinator.log
  drained : after.connection.transport.connected = true →
    takenIn after.connection.id after.coordinator.log <
      before.coordinator.config.maxFramesPerCycle →
    after.connection.decoder.holdsFrame = false ∨
      before.connection.transport.readable.1 = false ∧
        after.connection.decoder = before.connection.decoder

theorem serve_attended (service : Service J) (paired : service.connection.Paired) :
    Attended service service.serve := by
  rw [serve]
  cases connected : service.connection.transport.connected with
  | false =>
      refine ⟨rfl, paired, fun _ => le_rfl, fun still => ?_⟩
      exact absurd (connected.symm.trans still) Bool.false_ne_true
  | true =>
      have received := receiveChunks_received (service.connection.transport.pending + 1)
        service.coordinator.config.maxFramesPerCycle service (Nat.lt_succ_self _) paired
      refine ⟨received.config, received.paired, received.others, fun still few => ?_⟩
      refine received.drained ?_ still
      have taken := received.taken
      simp only [Bool.not_true, Bool.false_eq_true, ↓reduceIte, received.id] at few
      omega

/-- A connection with nothing to read keeps the frames its decoder holds. -/
theorem serve_strands (service : Service J)
    (connected : service.connection.transport.connected = true)
    (idle : service.connection.transport.readable.1 = false) :
    service.serve.connection.decoder = service.connection.decoder ∧
      service.serve.coordinator.log = service.coordinator.log := by
  simp only [serve, connected, receiveChunks, idle]
  simp only [Bool.not_true, Bool.false_eq_true, ↓reduceIte, Bool.not_false]
  split <;> exact ⟨rfl, rfl⟩

omit [IJournal J] in
theorem expire_serves (now : Nanos) (service : Service J) :
    Serves service (service.expire now) := by
  simp only [expire]
  split
  · exact .refl service
  split
  · exact (books_countStats service _).serves.trans (serves_handleDisconnect _ _ _)
  · exact .refl service

end Service

namespace Coordinator

variable {J : Type}

/-- What serving one connection preserves holds once all have been served. -/
theorem eachConnection_holds {serve : Service J → Service J}
    {holds : List Connection → List Connection → Coordinator J → Prop}
    (step : ∀ served connection rest coordinator, holds served (connection :: rest) coordinator →
      holds
        (served ++ [(serve ⟨{ coordinator with connections := served ++ rest },
          connection⟩).connection]) rest
        (serve ⟨{ coordinator with connections := served ++ rest }, connection⟩).coordinator)
    {served rest : List Connection} {coordinator : Coordinator J}
    (start : holds served rest coordinator) :
    ∃ all last, holds all [] last ∧
      eachConnection serve served rest coordinator = { last with connections := all } := by
  induction rest generalizing served coordinator with
  | nil => exact ⟨served, coordinator, start, rfl⟩
  | cons connection rest ih => exact ih (step served connection rest coordinator start)

/-- The coordinator once its listener is bound, over a recovered fabric. -/
def serving (config : CoordinatorConfig) (fabric : Fabric J) : Coordinator J where
  config := config
  fabric := fabric
  listening := true
  stats := {
    epoch := fabric.epoch
    coordinatorIncarnation := ⟨fabric.epoch.value⟩
    recoveries := 1 }

/-- No connection that is open, has nothing left to read and was not cut short by the frame budget
holds a complete frame. -/
def Drained (coordinator : Coordinator J) : Prop :=
  ∀ connection ∈ coordinator.connections, connection.transport.connected = true →
    connection.transport.unread = [] →
    takenIn connection.id coordinator.log < coordinator.config.maxFramesPerCycle →
    connection.decoder.holdsFrame = false

/-- Every connection that still holds a complete frame has something to read when it is served. -/
def Flows (coordinator : Coordinator J) : Prop :=
  0 < coordinator.config.maxFramesPerCycle → ∀ connection ∈ coordinator.connections,
    connection.decoder.holdsFrame = true → connection.transport.readable.1 = true

variable [IJournal J]

theorem start_serving (config : CoordinatorConfig) (fabric : Fabric J)
    (recovered : fabric.recover.result = .ok ()) :
    ({ config, fabric } : Coordinator J).start .success =
      (.success, serving config fabric.recover.fabric) := by
  rw [start, recovered]
  rfl

omit [IJournal J] in
/-- A connection that its decoder does not hold up, judged by `log`. -/
def Clear (budget : Nat) (log : List (Activity J)) (connection : Connection) : Prop :=
  connection.Paired ∧ (connection.transport.connected = true →
    takenIn connection.id log < budget → connection.decoder.holdsFrame = false)

omit [IJournal J] in
theorem Clear.later {budget : Nat} {log log' : List (Activity J)} {connection : Connection}
    (clear : Clear budget log connection)
    (grown : takenIn connection.id log ≤ takenIn connection.id log') :
    Clear budget log' connection :=
  ⟨clear.1, fun connected few => clear.2 connected (Nat.lt_of_le_of_lt grown few)⟩

/-- Serving every connection clears them, if none waits with a frame it holds already. -/
theorem serve_clears {coordinator : Coordinator J}
    (paired : ∀ connection ∈ coordinator.connections, connection.Paired)
    (flows : coordinator.Flows) :
    ∃ (all : List Connection) (last : Coordinator J), last.config = coordinator.config ∧
      (∀ connection ∈ all, Clear coordinator.config.maxFramesPerCycle last.log connection) ∧
      eachConnection Service.serve [] coordinator.connections coordinator =
        { last with connections := all } := by
  have cleared := @eachConnection_holds J Service.serve
    (fun served rest middle => middle.config = coordinator.config ∧
      (∀ connection ∈ served,
        Clear coordinator.config.maxFramesPerCycle middle.log connection) ∧
      ∀ connection ∈ rest, connection.Paired ∧
        (0 < coordinator.config.maxFramesPerCycle → connection.decoder.holdsFrame = true →
          connection.transport.readable.1 = true))
    ?_ [] coordinator.connections coordinator
    ⟨rfl, by simp, fun connection listed => ⟨paired connection listed,
      fun room held => flows room connection listed held⟩⟩
  · obtain ⟨all, last, ⟨config, clear, _⟩, same⟩ := cleared
    exact ⟨all, last, config, clear, same⟩
  · rintro served connection rest middle ⟨config, clear, waiting⟩
    obtain ⟨own, ready⟩ := waiting connection List.mem_cons_self
    have attended := Service.serve_attended
      ⟨{ middle with connections := served ++ rest }, connection⟩ own
    refine ⟨attended.config.trans config, fun other listed => ?_,
      fun other listed => waiting other (List.mem_cons_of_mem _ listed)⟩
    rcases List.mem_append.mp listed with earlier | last
    · exact (clear other earlier).later (attended.others _)
    · rw [List.mem_singleton.mp last]
      refine ⟨attended.paired, fun connected few => ?_⟩
      rw [← config] at few ready
      rcases attended.drained connected few with empty | ⟨idle, same⟩
      · exact empty
      · rw [same]
        by_contra held
        have room : 0 < middle.config.maxFramesPerCycle := by omega
        exact absurd (idle.symm.trans (ready room (by simpa using held))) Bool.false_ne_true

omit [IJournal J] in
theorem expire_clears {coordinator : Coordinator J} {budget : Nat} (now : Nanos)
    (clear : ∀ connection ∈ coordinator.connections, Clear budget coordinator.log connection) :
    ∃ (all : List Connection) (last : Coordinator J), last.config = coordinator.config ∧
      (∀ connection ∈ all, Clear budget last.log connection) ∧
      eachConnection (Service.expire now) [] coordinator.connections coordinator =
        { last with connections := all } := by
  have cleared := @eachConnection_holds J (Service.expire now)
    (fun served rest middle => middle.config = coordinator.config ∧
      ∀ connection ∈ served ++ rest, Clear budget middle.log connection)
    ?_ [] coordinator.connections coordinator ⟨rfl, clear⟩
  · obtain ⟨all, last, ⟨config, clear⟩, same⟩ := cleared
    exact ⟨all, last, config, by simpa using clear, same⟩
  · rintro served connection rest middle ⟨config, clear⟩
    have serves := Service.expire_serves now
      ⟨{ middle with connections := served ++ rest }, connection⟩
    refine ⟨serves.config.trans config, fun other listed => ?_⟩
    have kept (other : Connection) (listed : other ∈ served ++ connection :: rest) :=
      (clear other listed).later (serves.taken other.id).ge
    simp only [List.append_assoc, List.singleton_append, List.mem_append, List.mem_cons] at listed kept
    rcases listed with earlier | rfl | later
    · exact kept other (.inl earlier)
    · have own := kept connection (.inr (.inl rfl))
      refine ⟨serves.paired own.1, fun connected few => ?_⟩
      rw [serves.decoder]
      rw [serves.id] at few
      refine own.2 ?_ few
      by_contra shut
      exact absurd ((serves.shut (by simpa using shut)).symm.trans connected) Bool.false_ne_true
    · exact kept other (.inr (.inr later))

omit [IJournal J] in
theorem holdsFrame_fresh : ({} : FrameDecoder).holdsFrame = false := rfl

omit [IJournal J] in
/-- Accepting keeps the connections in order; the new one has an empty decoder. -/
theorem accept_spec (coordinator : Coordinator J) (incoming : Option TcpTransport) :
    (coordinator.accept incoming).config = coordinator.config ∧
      ((coordinator.accept incoming).connections = coordinator.connections ∨
        ∃ connection, connection.Paired ∧ connection.decoder.holdsFrame = false ∧
          (coordinator.accept incoming).connections = coordinator.connections ++ [connection]) := by
  unfold accept
  split
  · cases incoming with
    | none => exact ⟨rfl, .inl rfl⟩
    | some transport =>
        refine ⟨rfl, .inr ⟨_, ?_, ?_, rfl⟩⟩
        · exact Bool.not_true.symm
        · exact holdsFrame_fresh
  · exact ⟨rfl, .inl rfl⟩

/-- What a cycle needs of the state it starts in. -/
structure Steady (coordinator : Coordinator J) : Prop where
  paired : ∀ connection ∈ coordinator.connections, connection.Paired
  drained : coordinator.Drained

theorem runOnce_steady {coordinator : Coordinator J} (steady : Steady coordinator)
    (flows : coordinator.Flows) (incoming : Option TcpTransport) :
    Steady (coordinator.runOnce incoming).2 := by
  cases stopped : coordinator.stopped with
  | true =>
      rw [runOnce, stopped]
      exact steady
  | false =>
      simp only [runOnce, stopped, Bool.false_eq_true, ↓reduceIte]
      obtain ⟨config, kept⟩ := accept_spec (coordinator.note .began) incoming
      generalize (coordinator.note .began).accept incoming = accepted at config kept
      have entered : (∀ connection ∈ accepted.connections, connection.Paired) ∧
          accepted.Flows := by
        refine ⟨fun connection listed => ?_, fun room connection listed held => ?_⟩
        · rcases kept with same | ⟨fresh, paired, _, same⟩
          · exact steady.paired connection (same ▸ listed)
          · rw [same] at listed
            rcases List.mem_append.mp listed with old | new
            · exact steady.paired connection old
            · exact List.mem_singleton.mp new ▸ paired
        · rw [config] at room
          rcases kept with same | ⟨fresh, _, empty, same⟩
          · exact flows room connection (same ▸ listed) held
          · rw [same] at listed
            rcases List.mem_append.mp listed with old | new
            · exact flows room connection old held
            · rw [List.mem_singleton.mp new, empty] at held
              exact absurd held Bool.false_ne_true
      obtain ⟨all, last, config', clear, served⟩ := serve_clears entered.1 entered.2
      rw [served]
      obtain ⟨all', last', config'', clear', expired⟩ := @expire_clears J
        ({ last with connections := all } : Coordinator J).nowNanos.2 _
        ({ last with connections := all } : Coordinator J).nowNanos.1 clear
      rw [expired]
      refine ⟨fun connection listed => ?_, fun connection listed connected _ few => ?_⟩
      · exact (clear' connection (List.mem_of_mem_filter listed)).1
      · refine (clear' connection (List.mem_of_mem_filter listed)).2 connected ?_
        exact lt_of_lt_of_eq few (congrArg (·.maxFramesPerCycle) (config''.trans config'))

/-- Frames are stranded only where a connection with nothing to read still holds one. -/
theorem frames_drained (config : CoordinatorConfig) (fabric : Fabric J)
    (cycles : List (Option TcpTransport))
    (flows : Runs.Along (fun coordinator incoming => (runOnce coordinator incoming).2)
      (fun coordinator _ => coordinator.Flows) (serving config fabric) cycles) :
    ((serving config fabric).run cycles).Drained := by
  have steady := @Runs.invariant _ _ _ _ Steady
    (fun coordinator incoming steady flows => runOnce_steady steady flows incoming)
    _ ⟨by simp [serving], by simp [Drained, serving]⟩ _ flows
  exact steady.drained

/-! A burst of two frames against a budget of one frame a cycle. -/

def sampleFrame (message : Message) : Bytes :=
  encodeFrame ⟨message.type.toRaw, message.sequence, encodeMessage message⟩
    (UInt64.ofNat Limits.maxFramePayloadBytes)

def sampleHello : Message :=
  { type := .hello
    sequence := 1
    hello := { role := .worker, node := ⟨1⟩, incarnation := ⟨1⟩, boot := ⟨1, 1⟩, epoch := ⟨1⟩ } }

def sampleHeartbeat : Message := { type := .heartbeat, sequence := 2 }

def sampleBurst : TcpTransport :=
  { arrivals := [{ bytes := sampleFrame sampleHello ++ sampleFrame sampleHeartbeat }] }

instance (coordinator : Coordinator J) : Decidable coordinator.Flows :=
  inferInstanceAs (Decidable (0 < _ → ∀ connection ∈ coordinator.connections, _ → _))

instance (coordinator : Coordinator J) : Decidable coordinator.Drained :=
  inferInstanceAs (Decidable (∀ connection ∈ coordinator.connections, _ → _ → _ → _))

theorem frames_drained_sample :
    ((serving {} System.sampleStart.fabric).run [some sampleBurst, none]).Drained :=
  frames_drained {} System.sampleStart.fabric [some sampleBurst, none]
    ⟨by decide +kernel, by decide +kernel, trivial⟩

theorem frame_stranded :
    ¬ ∀ (config : CoordinatorConfig) (fabric : Fabric StableStore)
      (cycles : List (Option TcpTransport)), ((serving config fabric).run cycles).Drained := by
  intro all
  have drained := all { maxFramesPerCycle := 1 } System.sampleStart.fabric [some sampleBurst, none]
  revert drained
  decide +kernel

end Coordinator

end QueueFabric
