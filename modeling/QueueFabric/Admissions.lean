import QueueFabric.Buffering

/-!
Which hellos a coordinator admits in one life. A hello is compared with the
sessions of the connections that are listed at that moment and with nothing
else, so what keeps a superseded incarnation out is a connection that still
speaks for a later one.
-/

namespace QueueFabric

variable {J : Type}

/-- A frame with the service it is handed to. -/
structure Delivery (J : Type) where
  service : Service J
  frame : Frame

namespace Delivery

/-- The hello the frame brings, if it brings one. -/
def hello (delivery : Delivery J) : Option Hello :=
  match decodeMessage delivery.frame.payload with
  | .error _ => none
  | .ok message =>
      if message.type.toRaw = delivery.frame.type ∧ message.type = .hello then some message.hello
      else none

/-- The hello the frame brings, if it is admitted. -/
def admitted (delivery : Delivery J) : Option Hello :=
  delivery.hello.filter fun hello => (delivery.service.refuseHello hello).isNone

end Delivery

/-! The frames of a run. -/

namespace Service

variable [IJournal J]

/-- The frames `decodeFrames` hands on. -/
def decodeDeliveries : Nat → Service J → List (Delivery J)
  | 0, _ => []
  | room + 1, service =>
      let next := service.connection.decoder.next
      let decoded := { service with connection := { service.connection with decoder := next.2 } }
      match next.1 with
      | .error _ => []
      | .ok frame =>
          let taken := decoded.note (.took service.connection)
          ⟨taken, frame⟩ :: decodeDeliveries room (taken.handleFrame frame room)

/-- The frames `receiveChunks` hands on. -/
def receiveDeliveries : Nat → Nat → Service J → List (Delivery J)
  | 0, _, _ => []
  | fuel + 1, room, service =>
      if room = 0 then []
      else
        let ready := service.connection.transport.readable
        if !ready.1 then []
        else
          let received := ready.2.receive service.coordinator.config.receiveBufferBytes
          match received.1 with
          | .error _ => []
          | .ok chunk =>
              let pushed := service.connection.decoder.push chunk
              if chunk.isEmpty || !pushed.1.isOk then []
              else
                let service := service.fed received.2 pushed.2
                let decoded := decodeFrames room service
                decodeDeliveries room service ++ receiveDeliveries fuel decoded.1 decoded.2

def serveDeliveries (service : Service J) : List (Delivery J) :=
  if !service.connection.transport.connected then []
  else
    receiveDeliveries (service.connection.transport.pending + 1)
      service.coordinator.config.maxFramesPerCycle service

end Service

namespace Coordinator

variable [IJournal J]

def eachDeliveries : List Connection → List Connection → Coordinator J → List (Delivery J)
  | _, [], _ => []
  | served, connection :: rest, coordinator =>
      let service : Service J := ⟨{ coordinator with connections := served ++ rest }, connection⟩
      service.serveDeliveries ++
        eachDeliveries (served ++ [service.serve.connection]) rest service.serve.coordinator

/-- The frames handled in one cycle. -/
def cycleDeliveries (coordinator : Coordinator J) (incoming : Option TcpTransport) :
    List (Delivery J) :=
  if coordinator.stopped then []
  else
    let accepted := (coordinator.note .began).accept incoming
    eachDeliveries [] accepted.connections accepted

/-- The frames handled in a run, in order. -/
def deliveries : Coordinator J → List (Option TcpTransport) → List (Delivery J)
  | _, [] => []
  | coordinator, incoming :: later =>
      coordinator.cycleDeliveries incoming ++ deliveries (coordinator.runOnce incoming).2 later

end Coordinator

/-! Identities. -/

namespace Connection

/-- Whom the connection speaks for, once it is admitted. -/
def identity (connection : Connection) : Option (NodeId × Incarnation) :=
  if connection.session.handshaken then
    some (connection.session.node, connection.session.incarnation)
  else none

theorem identity_sendMessage (connection : Connection) (message : Message) :
    (connection.sendMessage message).2.identity = connection.identity := by
  simp only [sendMessage]
  split
  · rfl
  split
  · rfl
  split <;> rfl

theorem identity_subscribe (connection : Connection) (queue : QueueId) :
    (connection.subscribe queue).identity = connection.identity := by
  rw [subscribe_eq]
  rfl

end Connection

namespace Service

theorem identity_sendMessage (service : Service J) (message : Message) :
    (service.sendMessage message).2.connection.identity = service.connection.identity :=
  Connection.identity_sendMessage service.connection message

theorem identity_replyError (service : Service J) (code : Code) (line : String) :
    (service.replyError code line).2.connection.identity = service.connection.identity :=
  identity_sendMessage service.nextSequence.2 _

theorem identity_handleStats (service : Service J) :
    service.handleStats.2.connection.identity = service.connection.identity := by
  rw [handleStats]
  exact identity_sendMessage service.nextSequence.2 _

theorem identity_handleHeartbeat (service : Service J) (message : Message) :
    (service.handleHeartbeat message).2.connection.identity = service.connection.identity := by
  rw [handleHeartbeat]
  split
  · exact identity_replyError _ _ _
  · rfl

theorem identity_handleDisconnect (service : Service J) (reason : String) (room : Nat) :
    (service.handleDisconnect reason room).connection.identity = service.connection.identity := by
  cases closing : service.connection.closing with
  | true => rw [handleDisconnect, closing]; rfl
  | false => rw [handleDisconnect_eq closing]; rfl

/-- A refused hello leaves the session as it was, an admitted one names it anew. -/
theorem identity_handleHello (service : Service J) (message : Message) :
    (service.handleHello message).2.connection.identity =
      if (service.refuseHello message.hello).isNone then
        some (message.hello.node, message.hello.incarnation)
      else service.connection.identity := by
  have same : service.nextSequence.2.refuseHello message.hello =
    service.refuseHello message.hello := rfl
  simp only [handleHello, same]
  cases refused : service.refuseHello message.hello with
  | none =>
      simp only [Option.isNone_none, ↓reduceIte]
      exact Connection.identity_sendMessage _ _
  | some refusal =>
      simp only [Option.isNone_some, Bool.false_eq_true, ↓reduceIte]
      refine (Connection.identity_sendMessage _ _).trans ?_
      rw [countRefusedHello]
      split
      · rfl
      · split <;> rfl

variable [IJournal J]

theorem apply_connection (service : Service J) (request : MutationRequest) :
    (service.apply request).2.connection = service.connection := by
  have applied := apply_cases service request
  generalize service.apply request = outcome at applied
  cases applied <;> rfl

theorem identity_handleSample (service : Service J) (current : Epoch) (sample : OccupancySample) :
    (service.handleSample current sample).2.connection.identity = service.connection.identity := by
  simp only [handleSample]
  split
  · rfl
  split
  · rfl
  split
  · rfl
  have applied := apply_connection
    ⟨(service.coordinator.principalFor sample.queue).2, service.connection⟩
    (ingestRequest ⟨(service.coordinator.principalFor sample.queue).1, sample.provenance,
      current⟩ sample)
  split
  · rw [applied]
  · refine (Connection.identity_subscribe _ _).trans ?_
    rw [applied]

theorem identity_handleSamples (current : Epoch) (samples : List OccupancySample)
    (service : Service J) :
    (handleSamples current samples service).2.2.connection.identity =
      service.connection.identity := by
  induction samples generalizing service with
  | nil => rfl
  | cons sample rest ih =>
      have handled := (ih _).trans (identity_handleSample service current sample)
      simp only [handleSamples]
      split <;> exact handled

theorem identity_handleOccupancy (service : Service J) (message : Message) :
    (service.handleOccupancy message).2.connection.identity = service.connection.identity := by
  have handled := identity_handleSamples service.coordinator.fabric.epoch message.occupancy service
  simp only [handleOccupancy]
  split <;> exact handled

theorem identity_handleMutation (service : Service J) (message : Message) :
    (service.handleMutation message).2.connection.identity = service.connection.identity := by
  have applied := apply_connection service.nextSequence.2 message.mutation
  simp only [handleMutation]
  refine (Connection.identity_sendMessage _ _).trans ?_
  split
  · exact congrArg Connection.identity applied
  · split
    · exact (Connection.identity_subscribe _ _).trans (congrArg Connection.identity applied)
    · exact congrArg Connection.identity applied

theorem identity_handleMessage (service : Service J) (message : Message) :
    (service.handleMessage message).2.connection.identity =
      if message.type = .hello ∧ (service.refuseHello message.hello).isNone then
        some (message.hello.node, message.hello.incarnation)
      else service.connection.identity := by
  by_cases greeting : message.type = .hello
  · have same : service.touch.refuseHello message.hello = service.refuseHello message.hello := rfl
    simp only [handleMessage, greeting, ne_eq, not_true_eq_false, and_false, ↓reduceIte, true_and,
      ← same]
    exact identity_handleHello service.touch message
  · simp only [greeting, false_and, ↓reduceIte, handleMessage]
    split
    · exact identity_replyError _ _ _
    split
    · rename_i kind
      exact absurd kind greeting
    · exact identity_handleHeartbeat _ _
    · exact identity_handleOccupancy _ _
    · exact identity_handleMutation _ _
    · exact identity_handleStats _
    · rfl
    · exact identity_replyError _ _ _

theorem identity_handleFrame (service : Service J) (frame : Frame) (room : Nat) :
    (service.handleFrame frame room).connection.identity =
      match Delivery.admitted ⟨service, frame⟩ with
      | some hello => some (hello.node, hello.incarnation)
      | none => service.connection.identity := by
  have refused : service.countFrame.refuseFrame.connection.identity =
    service.connection.identity := identity_replyError _ _ _
  simp only [handleFrame, Delivery.admitted, Delivery.hello]
  cases decoded : decodeMessage frame.payload with
  | error status => exact refused
  | ok message =>
      simp only []
      by_cases typed : message.type.toRaw = frame.type
      · simp only [typed, ne_eq, not_true_eq_false, ↓reduceIte, true_and]
        have same : service.countFrame.refuseHello message.hello =
          service.refuseHello message.hello := rfl
        have handled := identity_handleMessage service.countFrame message
        rw [same] at handled
        have ended : (if (service.countFrame.handleMessage message).1.isOk then
            (service.countFrame.handleMessage message).2
          else (service.countFrame.handleMessage message).2.handleDisconnect
            "message-handling-failed" room).connection.identity =
            (service.countFrame.handleMessage message).2.connection.identity := by
          split
          · rfl
          · exact identity_handleDisconnect _ _ _
        rw [ended, handled]
        by_cases greeting : message.type = .hello
        · simp only [greeting, true_and, ↓reduceIte, Option.filter_some]
          split <;> rfl
        · simp only [greeting, false_and, ↓reduceIte, Option.filter_none]
          rfl
      · simp only [typed, ne_eq, not_false_eq_true, ↓reduceIte, false_and, Option.filter_none]
        exact refused

end Service

/-! What the listed connections remember. -/

/-- The hello a connection was last admitted with. -/
def lastHello (id : Nat) (past : List (Delivery J)) : Option Hello :=
  (past.filterMap fun delivery =>
    if delivery.service.connection.id = id then delivery.admitted else none).getLast?

theorem lastHello_concat (id : Nat) (past : List (Delivery J)) (delivery : Delivery J) :
    lastHello id (past ++ [delivery]) =
      if delivery.service.connection.id = id then delivery.admitted.or (lastHello id past)
      else lastHello id past := by
  simp only [lastHello, List.filterMap_append, List.filterMap_cons, List.filterMap_nil]
  by_cases own : delivery.service.connection.id = id
  · simp only [own, ↓reduceIte]
    cases delivery.admitted with
    | none => simp
    | some hello => simp
  · simp [own]

theorem lastHello_fresh {id : Nat} {past : List (Delivery J)}
    (fresh : ∀ delivery ∈ past, delivery.service.connection.id ≠ id) : lastHello id past = none := by
  induction past using List.reverseRecOn with
  | nil => rfl
  | append_singleton past delivery ih =>
      rw [lastHello_concat, if_neg (fresh delivery (by simp))]
      exact ih fun other listed => fresh other (by simp [listed])

/-- Every listed connection speaks for whom it last greeted. -/
structure Roster (past : List (Delivery J)) (connections : List Connection) (next : Nat) : Prop where
  identity : ∀ connection ∈ connections, connection.identity =
    (lastHello connection.id past).map fun hello => (hello.node, hello.incarnation)
  distinct : (connections.map Connection.id).Nodup
  below : ∀ connection ∈ connections, connection.id < next
  known : ∀ delivery ∈ past, delivery.service.connection.id < next

theorem Roster.perm {past : List (Delivery J)} {connections reordered : List Connection}
    {next : Nat} (roster : Roster past connections next) (perm : connections.Perm reordered) :
    Roster past reordered next where
  identity connection listed := roster.identity connection (perm.mem_iff.mpr listed)
  distinct := (perm.map Connection.id).nodup_iff.mp roster.distinct
  below connection listed := roster.below connection (perm.mem_iff.mpr listed)
  known := roster.known

theorem Roster.replace {past : List (Delivery J)} {connection after : Connection}
    {others : List Connection} {next : Nat} (roster : Roster past (connection :: others) next)
    (id : after.id = connection.id) (identity : after.identity = connection.identity) :
    Roster past (after :: others) next where
  identity other listed := by
    rcases List.mem_cons.mp listed with rfl | listed
    · rw [identity, id]
      exact roster.identity connection List.mem_cons_self
    · exact roster.identity other (List.mem_cons_of_mem _ listed)
  distinct := by
    rw [List.map_cons, id]
    exact roster.distinct
  below other listed := by
    rcases List.mem_cons.mp listed with rfl | listed
    · rw [id]
      exact roster.below connection List.mem_cons_self
    · exact roster.below other (List.mem_cons_of_mem _ listed)
  known := roster.known

theorem Roster.sublist {past : List (Delivery J)} {connections kept : List Connection} {next : Nat}
    (roster : Roster past connections next) (fewer : kept.Sublist connections) :
    Roster past kept next where
  identity connection listed := roster.identity connection (fewer.subset listed)
  distinct := (fewer.map Connection.id).nodup roster.distinct
  below connection listed := roster.below connection (fewer.subset listed)
  known := roster.known

theorem Roster.arrival {past : List (Delivery J)} {connections : List Connection} {next : Nat}
    (roster : Roster past connections next) {connection : Connection} (id : connection.id = next)
    (unknown : connection.identity = none) :
    Roster past (connections ++ [connection]) (next + 1) where
  identity other listed := by
    rcases List.mem_append.mp listed with listed | own
    · exact roster.identity other listed
    · rw [List.mem_singleton.mp own, unknown, lastHello_fresh]
      · rfl
      · intro delivery handled
        have older := roster.known delivery handled
        omega
  distinct := by
    rw [List.map_append, List.nodup_append]
    refine ⟨roster.distinct, by simp, fun older listed newer own => ?_⟩
    obtain ⟨other, known, rfl⟩ := List.mem_map.mp listed
    have below := roster.below other known
    simp only [List.map_cons, List.map_nil, List.mem_singleton] at own
    omega
  below other listed := by
    rcases List.mem_append.mp listed with listed | own
    · exact Nat.lt_succ_of_lt (roster.below other listed)
    · rw [List.mem_singleton.mp own]
      omega
  known delivery handled := Nat.lt_succ_of_lt (roster.known delivery handled)

/-- The roster held at every delivery so far, and holds. -/
structure Chronicled (past : List (Delivery J)) (connections : List Connection)
    (next : Nat) : Prop extends Roster past connections next where
  every : Runs.Throughout (fun past (delivery : Delivery J) =>
    Roster past delivery.service.sessions delivery.service.coordinator.nextConnectionId) past

namespace Service

/-- The roster of the served connection and `others`, the rest of the list. -/
structure Chronicled (past : List (Delivery J)) (others : List Connection)
    (service : Service J) : Prop where
  remaining : service.coordinator.connections = others
  listed : QueueFabric.Chronicled past (service.connection :: others)
    service.coordinator.nextConnectionId

theorem Chronicled.moved {past : List (Delivery J)} {others : List Connection}
    {before after : Service J} (chronicled : before.Chronicled past others)
    (connections : after.coordinator.connections = before.coordinator.connections)
    (next : after.coordinator.nextConnectionId = before.coordinator.nextConnectionId)
    (id : after.connection.id = before.connection.id)
    (identity : after.connection.identity = before.connection.identity) :
    after.Chronicled past others := by
  refine ⟨connections.trans chronicled.remaining, ?_, chronicled.listed.every⟩
  rw [next]
  exact chronicled.listed.toRoster.replace id identity

theorem Chronicled.disconnected {past : List (Delivery J)} {others : List Connection}
    {service : Service J} (chronicled : service.Chronicled past others) (reason : String)
    (room : Nat) : (service.handleDisconnect reason room).Chronicled past others := by
  have serves := serves_handleDisconnect service reason room
  exact chronicled.moved serves.connections serves.nextConnectionId serves.id
    (identity_handleDisconnect service reason room)

variable [IJournal J]

theorem Chronicled.delivered {past : List (Delivery J)} {others : List Connection}
    {service : Service J} (chronicled : service.Chronicled past others) (frame : Frame)
    (room : Nat) :
    (service.handleFrame frame room).Chronicled (past ++ [⟨service, frame⟩]) others := by
  have serves := serves_handleFrame service frame room
  have spoken := identity_handleFrame service frame room
  obtain ⟨rfl, roster, every⟩ := chronicled
  have distinct := roster.distinct
  rw [List.map_cons, List.nodup_cons] at distinct
  refine ⟨serves.connections, ⟨fun connection listed => ?_, ?_, fun connection listed => ?_,
    fun delivery handled => ?_⟩, Runs.throughout_concat.mpr ⟨every, roster⟩⟩
  · rw [lastHello_concat]
    rcases List.mem_cons.mp listed with rfl | other
    · rw [if_pos serves.id.symm, spoken, serves.id]
      cases admitted : Delivery.admitted ⟨service, frame⟩ with
      | none => exact roster.identity service.connection List.mem_cons_self
      | some hello => rfl
    · have different : service.connection.id ≠ connection.id := by
        intro same
        exact distinct.1 (List.mem_map.mpr ⟨connection, other, same.symm⟩)
      rw [if_neg different]
      exact roster.identity connection (List.mem_cons_of_mem _ other)
  · rw [List.map_cons, serves.id]
    exact roster.distinct
  · rw [serves.nextConnectionId]
    rcases List.mem_cons.mp listed with rfl | other
    · rw [serves.id]
      exact roster.below service.connection List.mem_cons_self
    · exact roster.below connection (List.mem_cons_of_mem _ other)
  · rw [serves.nextConnectionId]
    rcases List.mem_append.mp handled with earlier | last
    · exact roster.known delivery earlier
    · rw [List.mem_singleton.mp last]
      exact roster.below service.connection List.mem_cons_self

theorem decodeFrames_chronicled (room : Nat) {past : List (Delivery J)}
    {others : List Connection} {service : Service J} (chronicled : service.Chronicled past others) :
    (decodeFrames room service).2.Chronicled (past ++ decodeDeliveries room service) others := by
  induction room generalizing past service with
  | zero => simpa only [decodeFrames, decodeDeliveries, List.append_nil] using chronicled
  | succ room ih =>
      have decoded : Chronicled past others { service with
          connection := { service.connection with
            decoder := service.connection.decoder.next.2 } } :=
        chronicled.moved rfl rfl rfl rfl
      simp only [decodeFrames, decodeDeliveries]
      cases service.connection.decoder.next.1 with
      | ok frame =>
          have taken : Chronicled past others (note _ (.took service.connection)) :=
            decoded.moved rfl rfl rfl rfl
          have later := ih (taken.delivered frame room)
          rwa [List.append_assoc] at later
      | error status =>
          simp only [List.append_nil]
          split
          · exact decoded
          · refine Chronicled.disconnected ?_ _ _
            exact decoded.moved rfl rfl rfl rfl

theorem receiveChunks_chronicled (fuel room : Nat) {past : List (Delivery J)}
    {others : List Connection} {service : Service J} (chronicled : service.Chronicled past others) :
    (receiveChunks fuel room service).2.Chronicled
      (past ++ receiveDeliveries fuel room service) others := by
  induction fuel generalizing room past service with
  | zero => simpa only [receiveChunks, receiveDeliveries, List.append_nil] using chronicled
  | succ fuel ih =>
      simp only [receiveChunks, receiveDeliveries]
      by_cases spent : room = 0
      · simpa only [spent, ↓reduceIte, List.append_nil] using chronicled
      simp only [spent, ↓reduceIte]
      cases ready : service.connection.transport.readable.1 with
      | false =>
          simp only [Bool.not_false, ↓reduceIte, List.append_nil]
          exact chronicled.moved rfl rfl rfl rfl
      | true =>
          simp only [Bool.not_true, Bool.false_eq_true, ↓reduceIte]
          generalize service.connection.transport.readable.2.receive
            service.coordinator.config.receiveBufferBytes = received
          have fed (decoder : FrameDecoder) :
              (service.fed received.2 decoder).Chronicled past others :=
            chronicled.moved rfl rfl rfl rfl
          cases received.1 with
          | error status =>
              simp only [List.append_nil]
              exact (fed service.connection.decoder).disconnected _ _
          | ok chunk =>
              simp only []
              cases empty : chunk.isEmpty with
              | true =>
                  simp only [Bool.true_or, ↓reduceIte, List.append_nil]
                  exact (fed service.connection.decoder).disconnected _ _
              | false =>
                  simp only [Bool.false_or, Bool.false_eq_true, ↓reduceIte]
                  have pushed := fed (service.connection.decoder.push chunk).2
                  cases (service.connection.decoder.push chunk).1.isOk with
                  | false =>
                      simp only [Bool.not_false, ↓reduceIte, List.append_nil]
                      refine Chronicled.disconnected ?_ _ _
                      exact pushed.moved rfl rfl rfl rfl
                  | true =>
                      simp only [Bool.not_true, Bool.false_eq_true, ↓reduceIte]
                      rw [← List.append_assoc]
                      exact ih _ (decodeFrames_chronicled room pushed)

theorem serve_chronicled {past : List (Delivery J)} {others : List Connection}
    {service : Service J} (chronicled : service.Chronicled past others) :
    service.serve.Chronicled (past ++ service.serveDeliveries) others := by
  simp only [serve, serveDeliveries]
  split
  · rwa [List.append_nil]
  · exact receiveChunks_chronicled _ _ chronicled

omit [IJournal J] in
theorem expire_chronicled {past : List (Delivery J)} {others : List Connection}
    {service : Service J} (chronicled : service.Chronicled past others) (now : Nanos) :
    (service.expire now).Chronicled past others := by
  simp only [expire]
  split
  · exact chronicled
  split
  · refine Chronicled.disconnected ?_ _ _
    exact chronicled.moved rfl rfl rfl rfl
  · exact chronicled

end Service

namespace Coordinator

def Chronicled (past : List (Delivery J)) (coordinator : Coordinator J) : Prop :=
  QueueFabric.Chronicled past coordinator.connections coordinator.nextConnectionId

/-- The connection taken out of the list and the others are the whole list. -/
theorem chronicled_iff {past : List (Delivery J)} {served rest : List Connection}
    {connection : Connection} {next : Nat} :
    QueueFabric.Chronicled past (served ++ connection :: rest) next ↔
      QueueFabric.Chronicled past (connection :: (served ++ rest)) next := by
  have perm : (served ++ connection :: rest).Perm (connection :: (served ++ rest)) :=
    List.perm_middle
  constructor
  · intro chronicled
    exact ⟨chronicled.toRoster.perm perm, chronicled.every⟩
  · intro chronicled
    exact ⟨chronicled.toRoster.perm perm.symm, chronicled.every⟩

theorem accept_chronicled {past : List (Delivery J)} {coordinator : Coordinator J}
    (chronicled : coordinator.Chronicled past) (incoming : Option TcpTransport) :
    (coordinator.accept incoming).Chronicled past := by
  unfold accept
  split
  · cases incoming with
    | none => exact chronicled
    | some transport => exact ⟨chronicled.toRoster.arrival rfl rfl, chronicled.every⟩
  · exact chronicled

theorem expired_chronicled {past : List (Delivery J)} {coordinator : Coordinator J}
    (chronicled : coordinator.Chronicled past) (now : Nanos) :
    (eachConnection (Service.expire now) [] coordinator.connections coordinator).Chronicled
      past := by
  have kept := @eachConnection_holds J (Service.expire now)
    (fun served rest middle => QueueFabric.Chronicled past (served ++ rest)
      middle.nextConnectionId) ?_ [] coordinator.connections coordinator chronicled
  · obtain ⟨all, last, kept, same⟩ := kept
    rw [same]
    rwa [List.append_nil] at kept
  · intro served connection rest middle listed
    have start : Service.Chronicled past (served ++ rest)
        ⟨{ middle with connections := served ++ rest }, connection⟩ :=
      ⟨rfl, chronicled_iff.mp listed⟩
    rw [List.append_assoc, List.singleton_append]
    exact chronicled_iff.mpr (Service.expire_chronicled start now).listed

theorem reap_chronicled {past : List (Delivery J)} {coordinator : Coordinator J}
    (chronicled : coordinator.Chronicled past) : coordinator.reap.Chronicled past :=
  ⟨chronicled.toRoster.sublist List.filter_sublist, chronicled.every⟩

variable [IJournal J]

theorem served_chronicled {past : List (Delivery J)} {served rest : List Connection}
    {coordinator : Coordinator J}
    (chronicled : QueueFabric.Chronicled past (served ++ rest) coordinator.nextConnectionId) :
    (eachConnection Service.serve served rest coordinator).Chronicled
      (past ++ eachDeliveries served rest coordinator) := by
  induction rest generalizing past served coordinator with
  | nil =>
      rw [eachDeliveries, List.append_nil]
      rwa [List.append_nil] at chronicled
  | cons connection rest ih =>
      have start : Service.Chronicled past (served ++ rest)
          ⟨{ coordinator with connections := served ++ rest }, connection⟩ :=
        ⟨rfl, chronicled_iff.mp chronicled⟩
      have kept := chronicled_iff.mpr (Service.serve_chronicled start).listed
      simp only [eachConnection, eachDeliveries]
      rw [← List.append_assoc]
      refine ih ?_
      rwa [List.append_assoc, List.singleton_append]

theorem runOnce_chronicled {past : List (Delivery J)} {coordinator : Coordinator J}
    (chronicled : coordinator.Chronicled past) (incoming : Option TcpTransport) :
    (coordinator.runOnce incoming).2.Chronicled (past ++ coordinator.cycleDeliveries incoming) := by
  simp only [runOnce, cycleDeliveries]
  split
  · rwa [List.append_nil]
  · have noted : (coordinator.note .began).Chronicled past := chronicled
    have served := @served_chronicled J _ _ [] _ _ (accept_chronicled noted incoming)
    have read : (nowNanos (eachConnection Service.serve []
        ((coordinator.note .began).accept incoming).connections
        ((coordinator.note .began).accept incoming))).2.Chronicled _ := served
    exact reap_chronicled (expired_chronicled read _)

theorem run_chronicled {past : List (Delivery J)} {coordinator : Coordinator J}
    (chronicled : coordinator.Chronicled past) (cycles : List (Option TcpTransport)) :
    (coordinator.run cycles).Chronicled (past ++ coordinator.deliveries cycles) := by
  induction cycles generalizing past coordinator with
  | nil => simpa only [run, List.foldl_nil, deliveries, List.append_nil] using chronicled
  | cons incoming later ih =>
      rw [deliveries, ← List.append_assoc]
      exact ih (runOnce_chronicled chronicled incoming)

end Coordinator

/-! Superseded incarnations. -/

/-- No hello is admitted below an earlier one of its node. -/
def SupersededStayOut (deliveries : List (Delivery J)) : Prop :=
  (deliveries.filterMap Delivery.admitted).Pairwise fun earlier later =>
    later.node = earlier.node → earlier.incarnation.value ≤ later.incarnation.value

/-- An earlier hello of the node was admitted with a higher incarnation. -/
def Superseded (past : List (Delivery J)) (hello : Hello) : Prop :=
  ∃ earlier ∈ past.filterMap Delivery.admitted,
    earlier.node = hello.node ∧ hello.incarnation.value < earlier.incarnation.value

/-- The identity is whole, and a worker names the current epoch. -/
structure Eligible (service : Service J) (hello : Hello) : Prop where
  node : hello.node.valid = true
  incarnation : hello.incarnation.valid = true
  boot : hello.boot.valid = true
  epoch : hello.role = .worker →
    hello.epoch.valid = true ∧ hello.epoch = service.coordinator.fabric.epoch

/-- A connection is listed that last greeted for the node with a higher incarnation. -/
def HeldOff (past : List (Delivery J)) (service : Service J) (hello : Hello) : Prop :=
  ∃ connection ∈ service.sessions, ∃ newer, lastHello connection.id past = some newer ∧
    newer.node = hello.node ∧ hello.incarnation.value < newer.incarnation.value

/-- Every eligible hello of a superseded incarnation meets a connection that holds it off. -/
def HoldsOff (past : List (Delivery J)) (delivery : Delivery J) : Prop :=
  ∀ hello, delivery.hello = some hello → Eligible delivery.service hello →
    Superseded past hello → HeldOff past delivery.service hello

theorem unbeaten_iff {service : Service J} {hello : Hello} :
    (service.sessions.any fun existing => existing.session.handshaken &&
      existing.session.node = hello.node &&
      decide (hello.incarnation.value < existing.session.incarnation.value)) = false ↔
      ∀ connection ∈ service.sessions, ∀ incarnation,
        connection.identity = some (hello.node, incarnation) →
          ¬ hello.incarnation.value < incarnation.value := by
  rw [List.any_eq_false]
  refine forall₂_congr fun connection _ => ?_
  rw [Connection.identity]
  cases connection.session.handshaken with
  | false => simp
  | true =>
      constructor
      · intro unbeaten incarnation spoken above
        simp only [↓reduceIte, Option.some.injEq, Prod.mk.injEq] at spoken
        exact unbeaten (by simp [spoken.1, spoken.2, above])
      · intro unbeaten beaten
        simp only [Bool.true_and, Bool.and_eq_true, decide_eq_true_eq] at beaten
        exact unbeaten connection.session.incarnation (by simp [beaten.1]) beaten.2

theorem refuseHello_eq_none_iff {service : Service J} {hello : Hello} :
    service.refuseHello hello = none ↔ Eligible service hello ∧
      ∀ connection ∈ service.sessions, ∀ incarnation,
        connection.identity = some (hello.node, incarnation) →
          ¬ hello.incarnation.value < incarnation.value := by
  rw [← unbeaten_iff]
  simp only [Service.refuseHello]
  constructor
  · intro admitted
    split at admitted
    · cases admitted
    rename_i whole
    split at admitted
    · cases admitted
    rename_i presented
    split at admitted
    · cases admitted
    rename_i current
    split at admitted
    · cases admitted
    rename_i unbeaten
    simp only [Bool.not_eq_true', Bool.or_eq_true, not_or, Bool.not_eq_false] at whole
    refine ⟨⟨whole.1.1, whole.1.2, whole.2, fun worker => ⟨?_, ?_⟩⟩, by simpa using unbeaten⟩
    · simpa [worker] using presented
    · simpa [worker] using current
  · rintro ⟨⟨node, incarnation, boot, epoch⟩, unbeaten⟩
    by_cases worker : hello.role = .worker
    · obtain ⟨presented, current⟩ := epoch worker
      rw [current] at presented
      simp [node, incarnation, boot, presented, current, unbeaten]
    · simp [node, incarnation, boot, worker, unbeaten]

/-- Over a roster, the sessions that refuse a hello are the connections that hold it off. -/
theorem heldOff_iff {past : List (Delivery J)} {service : Service J} {hello : Hello}
    (roster : Roster past service.sessions service.coordinator.nextConnectionId) :
    HeldOff past service hello ↔ ∃ connection ∈ service.sessions, ∃ incarnation,
      connection.identity = some (hello.node, incarnation) ∧
        hello.incarnation.value < incarnation.value := by
  constructor
  · rintro ⟨connection, listed, newer, last, node, above⟩
    refine ⟨connection, listed, newer.incarnation, ?_, above⟩
    rw [roster.identity connection listed, last, ← node]
    rfl
  · rintro ⟨connection, listed, incarnation, spoken, above⟩
    rw [roster.identity connection listed, Option.map_eq_some_iff] at spoken
    obtain ⟨newer, last, same⟩ := spoken
    rw [Prod.mk.injEq] at same
    exact ⟨connection, listed, newer, last, same.1, same.2 ▸ above⟩

theorem admitted_iff {past : List (Delivery J)} {delivery : Delivery J} {hello : Hello}
    (roster : Roster past delivery.service.sessions
      delivery.service.coordinator.nextConnectionId) :
    delivery.admitted = some hello ↔ delivery.hello = some hello ∧
      Eligible delivery.service hello ∧ ¬ HeldOff past delivery.service hello := by
  rw [Delivery.admitted, Option.filter_eq_some_iff, Option.isNone_iff_eq_none,
    refuseHello_eq_none_iff, heldOff_iff roster]
  simp only [not_exists, not_and]

namespace Coordinator

variable [IJournal J]

/-- In every run, superseded incarnations stay out exactly as long as each of their hellos meets a
connection that holds it off. -/
theorem superseded_stay_out_iff (config : CoordinatorConfig) (fabric : Fabric J)
    (cycles : List (Option TcpTransport)) :
    SupersededStayOut ((serving config fabric).deliveries cycles) ↔
      Runs.Throughout HoldsOff ((serving config fabric).deliveries cycles) := by
  have start : (serving config fabric).Chronicled [] :=
    ⟨⟨by simp [serving], by simp [serving], by simp [serving], by simp⟩, Runs.throughout_nil _⟩
  have every := (run_chronicled start cycles).every
  rw [List.nil_append] at every
  rw [SupersededStayOut, Runs.pairwise_filterMap_iff]
  constructor
  · intro ordered past delivery rest split hello brought eligible superseded
    have roster := every past delivery rest split
    by_contra unheld
    obtain ⟨earlier, listed, node, above⟩ := superseded
    have admitted := (admitted_iff roster).mpr ⟨brought, eligible, unheld⟩
    have below := ordered past delivery rest split hello admitted earlier listed node.symm
    exact absurd (UInt64.lt_of_lt_of_le above below) (UInt64.lt_irrefl _)
  · intro held past delivery rest split hello admitted earlier listed node
    obtain ⟨brought, eligible, unheld⟩ :=
      (admitted_iff (every past delivery rest split)).mp admitted
    by_contra above
    refine unheld (held past delivery rest split hello brought eligible ?_)
    exact ⟨earlier, listed, node.symm, UInt64.not_le.mp above⟩

/-! A worker that reconnects with an older incarnation after the newer one is gone. -/

def helloOf (incarnation : UInt64) : Message :=
  { sampleHello with hello := { sampleHello.hello with incarnation := ⟨incarnation⟩ } }

def departing : TcpTransport :=
  { arrivals := [{ bytes := sampleFrame (helloOf 5) }, { closes := true }] }

def returning : TcpTransport :=
  { arrivals := [{ bytes := sampleFrame (helloOf 3) }] }

/-- The first connection is reaped at the end of its cycle, and nothing recalls its incarnation. -/
theorem superseded_admitted :
    ¬ ∀ (config : CoordinatorConfig) (fabric : Fabric StableStore)
      (cycles : List (Option TcpTransport)),
      SupersededStayOut ((serving config fabric).deliveries cycles) := by
  intro claimed
  have ordered := claimed {} System.sampleSystem.fabric [some departing, some returning]
  revert ordered
  rw [SupersededStayOut]
  decide +kernel

example : SupersededStayOut ((serving {} System.sampleSystem.fabric).deliveries
    [some { arrivals := [{ bytes := sampleFrame (helloOf 5) }] }, some returning]) := by
  rw [SupersededStayOut]
  decide +kernel

end Coordinator

end QueueFabric
