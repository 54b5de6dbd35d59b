import QueueFabric.ServerCore

/-!
The life of a coordinator. Cycles, epoch advances and messages sent on request
may come in any order: every frame handled is the next one of its peer, and
every connection carries the messages written to it, in order.
-/

namespace QueueFabric

open Streaming

/-- The connection once the letters that are meant for it are written. -/
structure Connection.Posted (letters : List (Nat × Message)) (before after : Connection) :
    Prop where
  alike : before.Alike after
  identity : after.identity = before.identity
  sent : after.transport.sent =
    before.transport.sent ++ (mailTo before.id letters).flatMap Message.wire

namespace Connection

theorem posted_nothing {letters : List (Nat × Message)} {connection : Connection}
    (none : mailTo connection.id letters = []) : Posted letters connection connection where
  alike := .refl connection
  identity := rfl
  sent := by rw [none, List.flatMap_nil, List.append_nil]

/-- Letters to others do not matter. -/
theorem Posted.congr {letters others : List (Nat × Message)} {before after : Connection}
    (posted : Posted letters before after)
    (same : mailTo before.id others = mailTo before.id letters) : Posted others before after where
  alike := posted.alike
  identity := posted.identity
  sent := by
    rw [same]
    exact posted.sent

/-- Sending writes the message or nothing. -/
theorem sendMessage_posted (connection : Connection) (message : Message) :
    Posted (if connection.transport.takes message then [(connection.id, message)] else [])
      connection (connection.sendMessage message).2 where
  alike := alike_sendMessage connection message
  identity := connection.identity_sendMessage message
  sent := by
    rw [(connection.sendMessage_spec message).2, TcpTransport.transmitted]
    split
    · simp [mailTo]
    · simp [mailTo]

end Connection

/-- Connections once the letters are written. -/
structure Mailed (letters : List (Nat × Message)) (before after : List Connection) : Prop where
  ids : after.map Connection.id = before.map Connection.id
  each : ∀ connection ∈ after, ∃ earlier ∈ before, earlier.Posted letters connection

theorem mailed_nothing (connections : List Connection) : Mailed [] connections connections where
  ids := rfl
  each connection listed := ⟨connection, listed, connection.posted_nothing rfl⟩

/-- One more connection, with the letters meant for it. -/
theorem Mailed.cons {own letters : List (Nat × Message)} {before after : Connection}
    {connections others : List Connection} (mailed : Mailed letters connections others)
    (posted : before.Posted own after) (mine : ∀ letter ∈ own, letter.1 = before.id)
    (theirs : ∀ letter ∈ letters, letter.1 ≠ before.id)
    (fresh : before.id ∉ connections.map Connection.id) :
    Mailed (own ++ letters) (before :: connections) (after :: others) where
  ids := by rw [List.map_cons, List.map_cons, mailed.ids, posted.alike.id]
  each connection listed := by
    rcases List.mem_cons.mp listed with rfl | other
    · refine ⟨before, List.mem_cons_self, posted.congr ?_⟩
      rw [mailTo_append, mailTo_fresh theirs, List.append_nil]
    · obtain ⟨earlier, known, posted⟩ := mailed.each connection other
      refine ⟨earlier, List.mem_cons_of_mem _ known, posted.congr ?_⟩
      have apart : mailTo earlier.id own = [] := mailTo_fresh fun letter given same =>
        fresh ((mine letter given).symm.trans same ▸ List.mem_map_of_mem known)
      rw [mailTo_append, apart, List.nil_append]

/-- One more connection, with no letter meant for it. -/
theorem Mailed.skip {letters : List (Nat × Message)} {connection : Connection}
    {connections others : List Connection} (mailed : Mailed letters connections others)
    (theirs : ∀ letter ∈ letters, letter.1 ≠ connection.id)
    (fresh : connection.id ∉ connections.map Connection.id) :
    Mailed letters (connection :: connections) (connection :: others) :=
  @Mailed.cons [] letters connection connection connections others mailed
    (connection.posted_nothing rfl) (by simp) theirs fresh

namespace Coordinator

theorem noticesTo_listed {epoch : Epoch} {connections : List Connection} {sequence : UInt32}
    {letter : Nat × Message} (listed : letter ∈ noticesTo epoch connections sequence) :
    letter.1 ∈ connections.map Connection.id := by
  induction connections generalizing sequence with
  | nil => exact absurd listed List.not_mem_nil
  | cons connection rest ih =>
      rw [List.map_cons]
      simp only [noticesTo] at listed
      split at listed
      · exact List.mem_cons_of_mem _ (ih listed)
      split at listed
      · rcases List.mem_cons.mp listed with rfl | later
        · exact List.mem_cons_self
        · exact List.mem_cons_of_mem _ (ih later)
      · exact List.mem_cons_of_mem _ (ih listed)

theorem notifyAll_mailed (epoch : Epoch) {connections : List Connection}
    (distinct : (connections.map Connection.id).Nodup) (sequence : UInt32) :
    Mailed (noticesTo epoch connections sequence) connections
      (notifyAll epoch connections sequence).1 := by
  induction connections generalizing sequence with
  | nil => exact mailed_nothing []
  | cons connection rest ih =>
      rw [List.map_cons, List.nodup_cons] at distinct
      have theirs (sequence : UInt32) : ∀ letter ∈ noticesTo epoch rest sequence,
          letter.1 ≠ connection.id :=
        fun letter listed same => distinct.1 (same ▸ noticesTo_listed listed)
      have sent := connection.sendMessage_posted
        { type := .epochAdvance, sequence := sequence + 1, epoch }
      simp only [notifyAll, noticesTo]
      split
      · exact (ih distinct.2 sequence).skip (theirs sequence) distinct.1
      split
      · rename_i takes
        rw [if_pos takes] at sent
        exact (ih distinct.2 (sequence + 1)).cons sent (by simp) (theirs (sequence + 1)) distinct.1
      · rename_i refused
        rw [if_neg refused] at sent
        exact (ih distinct.2 (sequence + 1)).cons sent (by simp) (theirs (sequence + 1)) distinct.1

/-- The letter of a message sent on request. -/
theorem sendIn_mailed (id : Nat) (message : Message) {connections : List Connection}
    (distinct : (connections.map Connection.id).Nodup) :
    Mailed (match connections.find? fun connection => connection.id = id with
      | none => []
      | some connection => if connection.transport.takes message then [(id, message)] else [])
      connections (sendIn id message connections).2 := by
  induction connections with
  | nil => exact mailed_nothing []
  | cons connection rest ih =>
      rw [List.map_cons, List.nodup_cons] at distinct
      simp only [sendIn, List.find?_cons]
      by_cases own : connection.id = id
      · simp only [own, decide_true, ↓reduceIte]
        have sent := connection.sendMessage_posted message
        rw [own] at sent
        have whole := (mailed_nothing rest).cons sent (by
          intro letter listed
          split at listed
          · rw [List.mem_singleton.mp listed, own]
          · cases listed) (by simp) distinct.1
        rwa [List.append_nil] at whole
      · simp only [own, decide_false, ↓reduceIte]
        refine (ih distinct.2).skip ?_ distinct.1
        intro letter listed same
        split at listed
        · cases listed
        split at listed
        · rw [List.mem_singleton.mp listed] at same
          exact own same.symm
        · cases listed

end Coordinator

section Life

variable {J : Type} [IJournal J] {welcomed : List (Nat × TcpTransport)}
  {past : List (Delivery J)} {mail : List (Nat × Message)}

/-- Letters written between cycles belong to the conversations. -/
theorem Talk.mailed {connections after : List Connection} {next : Nat}
    (talk : Talk welcomed past mail connections next) {letters : List (Nat × Message)}
    (mailed : Mailed letters connections after) (recent : ∀ letter ∈ letters, letter.1 < next) :
    Talk welcomed past (mail ++ letters) after next where
  identity connection listed := by
    obtain ⟨earlier, known, posted⟩ := mailed.each connection listed
    rw [posted.identity, posted.alike.id]
    exact talk.identity earlier known
  distinct := by
    rw [mailed.ids]
    exact talk.distinct
  below connection listed := by
    obtain ⟨earlier, known, posted⟩ := mailed.each connection listed
    rw [posted.alike.id]
    exact talk.below earlier known
  known := talk.known
  every := talk.every
  listed connection member := by
    obtain ⟨earlier, known, posted⟩ := mailed.each connection member
    obtain ⟨origin, entered, converses⟩ := talk.listed earlier known
    have alike := posted.alike
    have stream : connection.transport.stream = earlier.transport.stream := by
      rw [TcpTransport.stream, alike.unread, alike.arrivals]
      rfl
    refine ⟨origin, alike.id ▸ entered, alike.paired converses.paired, ?_, ?_, ?_⟩
    · rw [alike.id, alike.decoder, stream]
      exact converses.follows
    · rw [alike.id, posted.sent, converses.sent, mailTo_append, List.flatMap_append,
        List.append_assoc]
    · rw [alike.id, alike.connected]
      exact converses.shut
  read := talk.read
  once := talk.once
  recent := talk.recent
  posted letter listed := by
    rcases List.mem_append.mp listed with earlier | now
    · exact talk.posted letter earlier
    · exact recent letter now
  quiet := talk.quiet

namespace Coordinator

variable {coordinator : Coordinator J}

theorem operate_talks (talks : coordinator.Talks welcomed past mail) (operation : Operation) :
    (coordinator.operate operation).Talks (welcomed ++ coordinator.admitted operation)
      (past ++ coordinator.handled operation) (mail ++ coordinator.letters operation) := by
  have talk : Talk welcomed past mail coordinator.connections coordinator.nextConnectionId := talks
  cases operation with
  | cycle incoming => exact runOnce_talks talks incoming
  | advanceEpoch first =>
      simp only [operate, admitted, handled, letters, advanceEpoch, List.append_nil]
      cases (coordinator.fabric.advanceEpoch (coordinator.administrator first)
          coordinator.administration).result with
      | error status =>
          rw [List.append_nil]
          exact talk
      | ok epoch =>
          refine talk.mailed (notifyAll_mailed epoch talk.distinct _) fun letter listed => ?_
          obtain ⟨connection, known, own⟩ := List.mem_map.mp (noticesTo_listed listed)
          exact own ▸ talk.below connection known
  | sendTo id message =>
      simp only [operate, admitted, handled, letters, sendTo, List.append_nil]
      refine talk.mailed (sendIn_mailed id message talk.distinct) fun letter listed => ?_
      split at listed
      · cases listed
      rename_i connection found
      split at listed
      · rw [List.mem_singleton.mp listed]
        have own := List.find?_some found
        exact of_decide_eq_true own ▸ talk.below connection (List.mem_of_find?_eq_some found)
      · cases listed
  | call call =>
      simp only [operate, admitted, handled, letters, List.append_nil]
      exact talk
  | stop =>
      simp only [operate, admitted, handled, letters, List.append_nil]
      exact talk.sublist (List.nil_sublist _)

theorem live_talks (talks : coordinator.Talks welcomed past mail) (operations : List Operation) :
    (coordinator.live operations).Talks (welcomed ++ coordinator.gather admitted operations)
      (past ++ coordinator.gather handled operations)
      (mail ++ coordinator.gather letters operations) := by
  induction operations generalizing welcomed past mail coordinator with
  | nil => simpa only [live, List.foldl_nil, gather, List.append_nil] using talks
  | cons operation later ih =>
      simp only [gather, ← List.append_assoc]
      exact ih (operate_talks talks operation)

/-- In every life, the frames handled on a connection are the first ones of what its peer sends, in
order, and a listed connection carries exactly the messages written to it, in order. -/
theorem conversations_in_order (config : CoordinatorConfig) (fabric : Fabric J)
    (operations : List Operation) :
    let coordinator := serving config fabric
    (∀ entry ∈ coordinator.gather admitted operations, ∃ rest,
      Reads framing entry.2.stream (heard entry.1 (coordinator.gather handled operations)) rest) ∧
      ∀ connection ∈ (coordinator.live operations).connections, ∃ origin,
        (connection.id, origin) ∈ coordinator.gather admitted operations ∧
          connection.transport.sent = origin.sent ++
            (mailTo connection.id (coordinator.gather letters operations)).flatMap
              Message.wire := by
  have talks := live_talks (serving_talks config fabric) operations
  rw [List.nil_append, List.nil_append, List.nil_append] at talks
  refine ⟨talks.read, fun connection member => ?_⟩
  obtain ⟨origin, entered, converses⟩ := talks.listed connection member
  exact ⟨origin, entered, converses.sent⟩

end Coordinator

end Life

end QueueFabric
