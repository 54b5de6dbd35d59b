import QueueFabric.Answering
import QueueFabric.Growth
import QueueFabric.Usage

/-!
Announcements of the epoch. Everything a coordinator announces is the epoch of
its fabric at that moment, so what its peers are told ascends, and so does what
a worker knows, however late and in whatever pieces it is told.
-/

namespace QueueFabric

open Relation

/-! The epoch of a fabric in use. -/

namespace Fabric

theorem epoch_serve {fabric : Fabric StableStore} {call : Call} (living : call ≠ .recover) :
    fabric.epoch.value ≤ (fabric.serve call).fabric.epoch.value := by
  have ended := serve_epoch fabric living
  generalize fabric.serve call = reply at ended
  cases ended with
  | follows follows => rw [follows.epoch]; exact UInt64.le_refl _
  | advanced principal provenance epoch minted healthy entered written =>
      rw [entered]
      exact UInt64.le_of_lt (Counter.next_lt minted)
  | compacted store present touch rewritten => rw [touch.epoch]; exact UInt64.le_refl _

/-- A fabric in use keeps its epoch or advances it. -/
theorem epoch_le_of_uses {before after : Fabric StableStore}
    (uses : ReflTransGen (Use (· ≠ .recover)) before after) :
    before.epoch.value ≤ after.epoch.value :=
  @kept_of_uses StableStore _ _ (fun fabric => before.epoch.value ≤ fabric.epoch.value)
    (fun _ _ below => below)
    (fun _ _ living below => UInt64.le_trans below (epoch_serve living)) _ _ uses
    (UInt64.le_refl _)

/-- Peers cannot move the epoch. -/
theorem epoch_of_peers {before after : Fabric StableStore}
    (uses : ReflTransGen (Use Call.ForPeers) before after) : after.epoch = before.epoch := by
  refine @kept_of_uses StableStore _ _ (fun fabric => fabric.epoch = before.epoch)
    (fun _ _ same => same) (fun fabric call permitted same => ?_) _ _ uses rfl
  rw [← same]
  have living : call ≠ .recover := fun same => by
    rw [same] at permitted
    exact permitted
  have ended := serve_epoch fabric living
  generalize fabric.serve call = reply at ended
  cases ended with
  | follows follows => exact follows.epoch
  | advanced => exact absurd permitted id
  | compacted => exact absurd permitted id

theorem epoch_advanced {fabric : Fabric StableStore} {principal : OwnerId}
    {provenance : Provenance} {epoch : Epoch}
    (ok : (fabric.advanceEpoch principal provenance).result = .ok epoch) :
    (fabric.advanceEpoch principal provenance).fabric.epoch = epoch := by
  rcases advanceEpoch_cases fabric principal provenance with refused | ⟨next, _, _, recorded⟩
  · obtain ⟨status, failed⟩ := refused.failed
    rw [failed] at ok
    cases ok
  · generalize fabric.advanceEpoch principal provenance = reply at ok recorded
    cases recorded with
    | lost => cases ok
    | kept events after touch written =>
        cases ok
        exact touch.epoch

end Fabric

/-! What is announced. -/

namespace Delivery

/-- Only the epoch of the fabric is announced to a peer. -/
theorem announced_told {J : Type} [IJournal J] {delivery : Delivery J} {message : Message}
    (told : delivery.told = some message) {epoch : Epoch} (announced : message.announced = some epoch) :
    epoch = delivery.service.coordinator.fabric.epoch := by
  have replied := (told_eq_some told).1
  have noted : delivery.handler.coordinator.fabric.epoch =
      delivery.service.coordinator.fabric.epoch := rfl
  rw [Delivery.reply] at replied
  cases brought : delivery.message with
  | none =>
      rw [brought] at replied
      cases replied
      cases announced
  | some asked =>
      simp only [brought] at replied
      rw [← noted]
      generalize delivery.handler = handler at replied
      rw [Service.reply] at replied
      split at replied
      · cases replied
        cases announced
      split at replied
      · cases replied
        rw [Service.helloReply] at announced
        split at announced
        · cases announced
          rfl
        · cases announced
          rfl
      · split at replied
        · cases replied
          cases announced
        · cases replied
      · cases replied
      · cases replied
        cases announced
      · cases replied
        cases announced
      · cases replied
      · cases replied
        cases announced

end Delivery

theorem Message.relevant_announced (message : Message) :
    message.relevant.announced = message.announced := by
  obtain ⟨type⟩ := message
  cases type <;> rfl

/-- A frame announces what its message does. -/
theorem announced_frame {message : Message} (written : message.wire ≠ []) :
    message.frame.announced = message.announced := by
  have encoded : encodeMessage message ≠ [] := fun empty => written (if_pos empty)
  obtain ⟨decodes, readable⟩ := decodeMessage_encodeMessage encoded
  have payload : message.frame.payload = encodeMessage message := rfl
  rw [Frame.announced, payload]
  cases decoded : decodeMessage (encodeMessage message) with
  | ok result =>
      rw [decodes (readable result decoded), Except.ok.injEq] at decoded
      rw [← decoded]
      exact message.relevant_announced
  | error status =>
      have unreadable : ¬ message.Readable := fun fine => by
        rw [decodes fine] at decoded
        cases decoded
      rw [Message.Readable] at unreadable
      change none = message.announced
      rw [Message.announced]
      split
      · rename_i kind
        rw [kind] at unreadable
        exact absurd trivial unreadable
      · rename_i kind
        rw [kind] at unreadable
        exact absurd trivial unreadable
      · rfl

/-- The owner leaves announcements to the server and does not recover its fabric again. -/
def Operation.Regular : Operation → Prop
  | .sendTo _ message => message.announced = none
  | .call asked => asked ≠ .recover
  | _ => True

theorem Operation.Regular.living {operation : Operation} (regular : operation.Regular) :
    operation ≠ .call .recover := by
  rintro rfl
  exact regular rfl

namespace Coordinator

section Mail

theorem noticesTo_written {epoch : Epoch} {connections : List Connection} {sequence : UInt32}
    {letter : Nat × Message} (listed : letter ∈ noticesTo epoch connections sequence) :
    letter.2.wire ≠ [] ∧ letter.2.announced = some epoch := by
  induction connections generalizing sequence with
  | nil => exact absurd listed List.not_mem_nil
  | cons connection rest ih =>
      simp only [noticesTo] at listed
      split at listed
      · exact ih listed
      split at listed
      · rename_i takes
        rcases List.mem_cons.mp listed with rfl | later
        · exact ⟨(WorkerClient.takes_wire takes).1, rfl⟩
        · exact ih later
      · exact ih listed

theorem letters_written {J : Type} [IJournal J] (coordinator : Coordinator J)
    (operation : Operation) : ∀ letter ∈ coordinator.letters operation, letter.2.wire ≠ [] := by
  intro letter listed
  cases operation with
  | cycle incoming =>
      obtain ⟨delivery, _, written⟩ := List.mem_filterMap.mp listed
      obtain ⟨message, told, rfl⟩ := Option.map_eq_some_iff.mp written
      exact (Delivery.told_eq_some told).2.1
  | advanceEpoch first =>
      simp only [letters] at listed
      split at listed
      · cases listed
      · exact (noticesTo_written listed).1
  | sendTo id message =>
      simp only [letters] at listed
      split at listed
      · cases listed
      split at listed
      · rename_i takes
        rw [List.mem_singleton.mp listed]
        exact (WorkerClient.takes_wire takes).1
      · cases listed
  | call call => cases listed
  | stop => cases listed

theorem mail_written {J : Type} [IJournal J] (coordinator : Coordinator J)
    (operations : List Operation) :
    ∀ letter ∈ coordinator.gather letters operations, letter.2.wire ≠ [] := by
  induction operations generalizing coordinator with
  | nil => exact fun letter listed => absurd listed List.not_mem_nil
  | cons operation later ih =>
      intro letter listed
      rw [gather] at listed
      rcases List.mem_append.mp listed with now | next
      · exact coordinator.letters_written operation letter now
      · exact ih _ letter next

/-- One operation announces one epoch, that of the fabric before or after it. -/
theorem letters_announce (coordinator : Coordinator StableStore) {operation : Operation}
    (regular : operation.Regular) :
    ∃ epoch : Epoch, coordinator.fabric.epoch.value ≤ epoch.value ∧
      epoch.value ≤ (coordinator.operate operation).fabric.epoch.value ∧
      ∀ letter ∈ coordinator.letters operation, ∀ announced,
        letter.2.announced = some announced → announced = epoch := by
  have grown := Fabric.epoch_le_of_uses (coordinator.operate_uses regular.living)
  cases operation with
  | cycle incoming =>
      refine ⟨_, UInt64.le_refl _, grown, fun letter listed announced told => ?_⟩
      obtain ⟨delivery, handled, written⟩ := List.mem_filterMap.mp listed
      obtain ⟨message, sent, rfl⟩ := Option.map_eq_some_iff.mp written
      rw [Delivery.announced_told sent told]
      exact Fabric.epoch_of_peers ((coordinator.cycle_walks incoming).delivered delivery handled)
  | advanceEpoch first =>
      simp only [letters]
      cases advanced : (coordinator.advanceEpoch first).1 with
      | error status => exact ⟨_, UInt64.le_refl _, grown, fun letter listed => by cases listed⟩
      | ok epoch =>
          have entered : (coordinator.operate (.advanceEpoch first)).fabric.epoch = epoch := by
            rw [operate, advanceEpoch_fabric]
            refine Fabric.epoch_advanced ?_
            rw [Coordinator.advanceEpoch] at advanced
            split at advanced
            · cases advanced
            · rename_i result
              cases advanced
              exact result
          refine ⟨_, grown, UInt64.le_refl _, fun letter listed announced told => ?_⟩
          rw [(noticesTo_written listed).2, Option.some.injEq] at told
          rw [entered, told]
  | sendTo id message =>
      refine ⟨_, UInt64.le_refl _, grown, fun letter listed announced told => ?_⟩
      simp only [letters] at listed
      split at listed
      · cases listed
      split at listed
      · have unannounced : message.announced = none := regular
        rw [List.mem_singleton.mp listed, unannounced] at told
        cases told
      · cases listed
  | call call => exact ⟨_, UInt64.le_refl _, grown, fun letter listed => by cases listed⟩
  | stop => exact ⟨_, UInt64.le_refl _, grown, fun letter listed => by cases listed⟩

/-- Everything a coordinator announces in a life ascends. -/
theorem mail_ascends (coordinator : Coordinator StableStore) {operations : List Operation}
    (regular : ∀ operation ∈ operations, operation.Regular) :
    ((coordinator.gather letters operations).filterMap fun letter =>
        letter.2.announced).Pairwise (fun first second => first.value ≤ second.value) ∧
      ∀ letter ∈ coordinator.gather letters operations, ∀ epoch,
        letter.2.announced = some epoch → coordinator.fabric.epoch.value ≤ epoch.value ∧
          epoch.value ≤ (coordinator.live operations).fabric.epoch.value := by
  induction operations generalizing coordinator with
  | nil => exact ⟨.nil, by simp [gather]⟩
  | cons operation later ih =>
      have first := regular operation List.mem_cons_self
      have others : ∀ other ∈ later, other.Regular :=
        fun other listed => regular other (List.mem_cons_of_mem _ listed)
      obtain ⟨epoch, lower, upper, single⟩ := coordinator.letters_announce first
      obtain ⟨sorted, within⟩ := ih (coordinator.operate operation) others
      have reached := Fabric.epoch_le_of_uses ((coordinator.operate operation).live_uses
        fun other listed => (others other listed).living)
      have same : coordinator.live (operation :: later) =
          (coordinator.operate operation).live later := rfl
      rw [same]
      simp only [gather]
      refine ⟨?_, fun letter listed announced told => ?_⟩
      · rw [List.filterMap_append, List.pairwise_append]
        refine ⟨?_, sorted, fun one early two late => ?_⟩
        · refine List.pairwise_of_forall_mem_list fun one early two late => ?_
          obtain ⟨letter, listed, told⟩ := List.mem_filterMap.mp early
          obtain ⟨letter', listed', told'⟩ := List.mem_filterMap.mp late
          rw [single letter listed one told, single letter' listed' two told']
          exact UInt64.le_refl _
        · obtain ⟨letter, listed, told⟩ := List.mem_filterMap.mp early
          obtain ⟨letter', listed', told'⟩ := List.mem_filterMap.mp late
          rw [single letter listed one told]
          exact UInt64.le_trans upper (within letter' listed' two told').1
      · rcases List.mem_append.mp listed with now | next
        · rw [single letter now announced told]
          exact ⟨lower, UInt64.le_trans upper reached⟩
        · obtain ⟨above, below⟩ := within letter next announced told
          exact ⟨UInt64.le_trans (UInt64.le_trans lower upper) above, below⟩

end Mail

end Coordinator

/-! What a worker knows. -/

theorem mailTo_sublist (id : Nat) (mail : List (Nat × Message)) :
    (mailTo id mail).Sublist (mail.map Prod.snd) := by
  induction mail with
  | nil => exact .slnil
  | cons letter rest ih =>
      rw [mailTo, List.filterMap_cons, List.map_cons]
      split
      · exact .cons _ ih
      · rename_i message told
        split at told
        · cases told
          exact .cons_cons _ ih
        · cases told

theorem mem_of_mailTo {id : Nat} {mail : List (Nat × Message)} {message : Message}
    (listed : message ∈ mailTo id mail) : ∃ letter ∈ mail, letter.2 = message :=
  List.mem_map.mp ((mailTo_sublist id mail).subset listed)

/-- Frames announce what the messages they carry do. -/
theorem announced_frames {messages : List Message}
    (written : ∀ message ∈ messages, message.wire ≠ []) :
    (messages.map Message.frame).filterMap Frame.announced =
      messages.filterMap Message.announced := by
  rw [List.filterMap_map]
  exact List.filterMap_congr fun message listed => announced_frame (written message listed)

namespace WorkerClient

theorem session_append (client : WorkerClient) (early later : List WorkerCall) :
    (client.session (early ++ later)).2 = (client.session early).2 ∨
      (client.session (early ++ later)).2 = ((client.session early).2.session later).2 := by
  induction early generalizing client with
  | nil => exact .inr rfl
  | cons call rest ih =>
      simp only [List.cons_append, session]
      split
      · exact .inl rfl
      · exact ih _

theorem foldl_last (epochs : List Epoch) (start : Epoch) :
    epochs.foldl (fun _ epoch => epoch) start = start ∨
      epochs.foldl (fun _ epoch => epoch) start ∈ epochs := by
  induction epochs generalizing start with
  | nil => exact .inl rfl
  | cons epoch rest ih =>
      rcases ih epoch with same | listed
      · exact .inr (by rw [List.foldl_cons, same]; exact List.mem_cons_self)
      · exact .inr (List.mem_cons_of_mem _ listed)

theorem Learned.known {before after : WorkerClient} {frames : List Frame}
    (learned : Learned before frames after) :
    after.coordinatorEpoch = before.coordinatorEpoch ∨
      after.coordinatorEpoch ∈ frames.filterMap Frame.announced := by
  obtain ⟨epochs, listed, known⟩ := learned
  rw [known]
  exact (foldl_last epochs _).imp_right fun last => listed.subset last

/-- Of announcements that ascend a client never unlearns one. -/
theorem Learned.ascends {before middle after : WorkerClient} {early later : List Frame}
    (first : Learned before early middle) (second : Learned middle later after)
    (unaware : before.coordinatorEpoch = default)
    (sorted : ((early ++ later).filterMap Frame.announced).Pairwise fun one two =>
      one.value ≤ two.value) :
    middle.coordinatorEpoch.value ≤ after.coordinatorEpoch.value := by
  rw [List.filterMap_append, List.pairwise_append] at sorted
  rcases second.known with same | learned
  · rw [same]
    exact UInt64.le_refl _
  rcases first.known with same | known
  · rw [same, unaware]
    exact UInt64.zero_le
  · exact sorted.2.2 _ known _ learned

theorem Learned.below {before after : WorkerClient} {frames : List Frame} {bound : UInt64}
    (learned : Learned before frames after) (unaware : before.coordinatorEpoch = default)
    (within : ∀ epoch ∈ frames.filterMap Frame.announced, epoch.value ≤ bound) :
    after.coordinatorEpoch.value ≤ bound := by
  rcases learned.known with same | known
  · rw [same, unaware]
    exact UInt64.zero_le
  · exact within _ known

end WorkerClient

namespace Coordinator

/-- What a worker knows of the epoch of its coordinator never goes back and never runs ahead of the
coordinator. -/
theorem worker_epoch_ascends (config : CoordinatorConfig) (fabric : Fabric StableStore)
    {operations : List Operation} (regular : ∀ operation ∈ operations, operation.Regular)
    (id : Nat) {client : WorkerClient} (fresh : client.decoder = {})
    (unaware : client.coordinatorEpoch = default) (early later : List WorkerCall)
    (downstream : client.transport.stream <+:
      (mailTo id ((serving config fabric).gather letters operations)).flatMap Message.wire) :
    (client.session early).2.coordinatorEpoch.value ≤
        (client.session (early ++ later)).2.coordinatorEpoch.value ∧
      (client.session (early ++ later)).2.coordinatorEpoch.value ≤
        ((serving config fabric).live operations).fabric.epoch.value := by
  obtain ⟨sorted, within⟩ := (serving config fabric).mail_ascends regular
  have posted := (serving config fabric).mail_written operations
  generalize (serving config fabric).gather letters operations = mail
    at downstream sorted within posted
  generalize ((serving config fabric).live operations).fabric.epoch.value = bound at within ⊢
  have written : ∀ message ∈ mailTo id mail, message.wire ≠ [] := by
    intro message listed
    obtain ⟨letter, sent, rfl⟩ := mem_of_mailTo listed
    exact posted letter sent
  -- Whatever frames the client takes, what they announce is part of what was announced to it.
  have announced {taken : List Frame} {rest : Bytes}
      (reads : Streaming.Reads framing client.transport.stream taken rest) :
      (taken.filterMap Frame.announced).Sublist
        (mail.filterMap fun letter => letter.2.announced) := by
    have part := (frames_of_wire written reads downstream).sublist.filterMap Frame.announced
    rw [announced_frames written] at part
    have all := (mailTo_sublist id mail).filterMap Message.announced
    rw [List.filterMap_map] at all
    exact part.trans all
  have bounded {taken : List Frame} {rest : Bytes}
      (reads : Streaming.Reads framing client.transport.stream taken rest) :
      ∀ epoch ∈ taken.filterMap Frame.announced, epoch.value ≤ bound := by
    intro epoch listed
    obtain ⟨letter, sent, told⟩ := List.mem_filterMap.mp ((announced reads).subset listed)
    exact (within letter sent epoch told).2
  obtain ⟨turns, posted, frames, first, _⟩ :=
    WorkerClient.session_turns early (WorkerClient.listens_fresh fresh)
  have learned := first.learned
  have listens := first.listens
  rw [List.nil_append] at listens
  generalize turns.flatMap Turn.taken ++ frames = heard at learned listens
  rcases client.session_append early later with ended | continued
  · rw [ended]
    obtain ⟨rest, reads⟩ := listens.read
    exact ⟨UInt64.le_refl _, learned.below unaware (bounded reads)⟩
  · obtain ⟨turns', posted', frames', second, _⟩ := WorkerClient.session_turns later listens
    have newer := second.learned
    obtain ⟨rest, reads⟩ := second.listens.read
    generalize turns'.flatMap Turn.taken ++ frames' = more at newer reads
    rw [continued]
    exact ⟨learned.ascends newer unaware (sorted.sublist (announced reads)),
      (learned.trans newer).below unaware (bounded reads)⟩

/-- A worker asks about a queue; then the owner of a fabric without resources advances the epoch. -/
def advancing : List Operation := [.cycle (some validator), .cycle none, .advanceEpoch 0]

def advancingMail : List Message :=
  mailTo 1 ((serving {} System.sampleStart.fabric).gather letters advancing)

def informed : WorkerClient :=
  validating (advancingMail.map fun message => { bytes := message.wire })

theorem worker_epoch_ascends_advanced :
    let early := (informed.session [.handshake]).2.coordinatorEpoch.value
    let known := (informed.session
      ([.handshake] ++ [.sendMutation validation, .requestStats])).2.coordinatorEpoch.value
    0 < early ∧ early < known ∧ early ≤ known ∧
      known ≤ ((serving {} System.sampleStart.fabric).live advancing).fabric.epoch.value := by
  have regular : ∀ operation ∈ advancing, operation.Regular := by
    simp [advancing, Operation.Regular]
  have arrives : informed.transport.stream = advancingMail.flatMap Message.wire := by
    simp only [informed, validating, TcpTransport.stream, List.nil_append, List.flatMap_map]
  obtain ⟨positive, increased⟩ :
      0 < (informed.session [.handshake]).2.coordinatorEpoch.value ∧
        (informed.session [.handshake]).2.coordinatorEpoch.value <
          (informed.session ([.handshake] ++
            [.sendMutation validation, .requestStats])).2.coordinatorEpoch.value := by
    decide +kernel
  exact ⟨positive, increased, worker_epoch_ascends {} System.sampleStart.fabric regular 1 rfl rfl
    [.handshake] [.sendMutation validation, .requestStats] (arrives ▸ List.prefix_rfl)⟩

end Coordinator

end QueueFabric
