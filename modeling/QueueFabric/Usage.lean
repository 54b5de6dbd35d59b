import QueueFabric.Exchanges
import QueueFabric.Lives

/-!
What a coordinator does to its fabric. Whatever its peers send, it applies
mutations, withdraws evidence and reads the clock it shares with the fabric;
what these keep is therefore kept in every cycle.
-/

namespace QueueFabric

open Relation

/-- The calls a coordinator makes for its peers. -/
def Call.ForPeers : Call → Prop
  | .apply _ => True
  | .invalidateEvidence .. => True
  | _ => False

namespace Fabric

variable {J : Type} [IJournal J] {allowed : Call → Prop}

/-- The clock is read or an allowed call is made. -/
inductive Use (allowed : Call → Prop) (fabric : Fabric J) : Fabric J → Prop
  | read (clock : Clock) : Use allowed fabric { fabric with clock }
  | served (call : Call) (permitted : allowed call) : Use allowed fabric (fabric.serve call).fabric

/-- What clock readings and allowed calls keep is kept. -/
theorem kept_of_uses {holds : Fabric J → Prop}
    (read : ∀ fabric clock, holds fabric → holds { fabric with clock })
    (served : ∀ fabric call, allowed call → holds fabric → holds (fabric.serve call).fabric)
    {before after : Fabric J} (uses : ReflTransGen (Use allowed) before after)
    (start : holds before) : holds after := by
  induction uses with
  | refl => exact start
  | tail _ last ih =>
      cases last with
      | read clock => exact read _ clock ih
      | served call permitted => exact served _ call permitted ih

theorem uses_mono {others : Call → Prop} (wider : ∀ call, allowed call → others call)
    {before after : Fabric J} (uses : ReflTransGen (Use allowed) before after) :
    ReflTransGen (Use others) before after := by
  have each (first second : Fabric J) (use : Use allowed first second) :
      Use others first second := by
    cases use with
    | read clock => exact .read clock
    | served call permitted => exact .served call (wider call permitted)
  exact ReflTransGen.mono each before after uses

/-- A run of allowed calls with their results, between readings of the clock. -/
inductive Traced (allowed : Call → Prop) (fabric : Fabric J) : List Served → Fabric J → Prop
  | start : Traced allowed fabric [] fabric
  | read {log : List Served} {middle : Fabric J} (traced : Traced allowed fabric log middle)
      (clock : Clock) : Traced allowed fabric log { middle with clock }
  | served {log : List Served} {middle : Fabric J} (traced : Traced allowed fabric log middle)
      (call : Call) (permitted : allowed call) :
      Traced allowed fabric (log ++ [⟨call, (middle.serve call).result⟩]) (middle.serve call).fabric

theorem Traced.trans {first second third : Fabric J} {early later : List Served}
    (one : Traced allowed first early second) (two : Traced allowed second later third) :
    Traced allowed first (early ++ later) third := by
  induction two with
  | start => rwa [List.append_nil]
  | read _ clock ih => exact ih.read clock
  | served _ call permitted ih =>
      rw [← List.append_assoc]
      exact ih.served call permitted

theorem Traced.mono {others : Call → Prop} (wider : ∀ call, allowed call → others call)
    {before after : Fabric J} {log : List Served} (traced : Traced allowed before log after) :
    Traced others before log after := by
  induction traced with
  | start => exact .start
  | read _ clock ih => exact ih.read clock
  | served _ call permitted ih => exact ih.served call (wider call permitted)

theorem traced_of_uses {before after : Fabric J} (uses : ReflTransGen (Use allowed) before after) :
    ∃ log, Traced allowed before log after := by
  induction uses with
  | refl => exact ⟨[], .start⟩
  | tail _ last ih =>
      obtain ⟨log, traced⟩ := ih
      cases last with
      | read clock => exact ⟨log, traced.read clock⟩
      | served call permitted => exact ⟨_, traced.served call permitted⟩

/-- The request a call applied, with the response its result is worth. -/
def Served.exchange (served : Served) : Option (MutationRequest × MutationResponse) :=
  match served.call, served.result with
  | .apply request, .ok (.outcome outcome) =>
      some (request, (Service.mutationResponse 0 request.attempt (.ok outcome)).mutationResponse)
  | .apply request, .error status =>
      some (request, (Service.mutationResponse 0 request.attempt (.error status)).mutationResponse)
  | _, _ => none

theorem exchange_apply (fabric : Fabric J) (request : MutationRequest) :
    Served.exchange ⟨.apply request, (fabric.serve (.apply request)).result⟩ =
      some (request, (Service.mutationResponse 0 request.attempt
        (fabric.apply request).result).mutationResponse) := by
  have same : (fabric.serve (.apply request)).result =
    (fabric.apply request).result.map .outcome := rfl
  rw [same, Served.exchange]
  cases (fabric.apply request).result <;> rfl

/-- A run for peers in which the deliveries were answered, in order. -/
def Answered (before after : Fabric J) (deliveries : List (Delivery J)) : Prop :=
  ∃ log, Traced Call.ForPeers before log after ∧
    (deliveries.filterMap Delivery.exchange).Sublist (log.filterMap Served.exchange)

theorem answered_quietly {before after : Fabric J}
    (uses : ReflTransGen (Use Call.ForPeers) before after) : Answered before after [] := by
  obtain ⟨log, traced⟩ := traced_of_uses uses
  exact ⟨log, traced, List.nil_sublist _⟩

theorem Answered.trans {first second third : Fabric J} {early later : List (Delivery J)}
    (one : Answered first second early) (two : Answered second third later) :
    Answered first third (early ++ later) := by
  obtain ⟨log, traced, listed⟩ := one
  obtain ⟨more, again, sub⟩ := two
  refine ⟨log ++ more, traced.trans again, ?_⟩
  rw [List.filterMap_append, List.filterMap_append]
  exact listed.append sub

end Fabric

namespace Service

variable {J : Type} [IJournal J]

/-- The fabric of a service is only used. -/
def Uses (before after : Service J) : Prop :=
  ReflTransGen (Fabric.Use Call.ForPeers) before.coordinator.fabric after.coordinator.fabric

theorem Uses.of_eq {before after : Service J}
    (same : after.coordinator.fabric = before.coordinator.fabric) : Uses before after := by
  rw [Uses, same]

theorem Uses.trans {first second third : Service J} (one : Uses first second)
    (two : Uses second third) : Uses first third := ReflTransGen.trans one two

theorem Books.uses {before after : Service J} (books : Books before after) :
    Uses before after := by
  obtain ⟨clock, same⟩ := books.fabric
  rw [Uses, same]
  exact .single (.read clock)

theorem uses_apply (fabric : Fabric J) (request : MutationRequest) :
    Fabric.Use Call.ForPeers fabric (fabric.apply request).fabric := by
  have same : (fabric.serve (.apply request)).fabric = (fabric.apply request).fabric := rfl
  rw [← same]
  exact .served (.apply request) trivial

theorem Act.uses {before after : Service J} (act : Act before after) : Uses before after := by
  cases act with
  | books books => exact books.uses
  | subscribed queue => exact .refl
  | answered request idle => exact .single (uses_apply _ request)
  | applied request outcome connection ok first listed => exact .single (uses_apply _ request)

theorem uses_of_acts {before after : Service J} (acts : ReflTransGen Act before after) :
    Uses before after := by
  induction acts with
  | refl => exact .refl
  | tail _ last ih => exact ih.trans last.uses

omit [IJournal J] in
theorem invalidate_fabric (service : Service J) (current : Epoch) (reason : Text)
    (queue : QueueId) :
    (service.invalidate current reason queue).coordinator.fabric = service.coordinator.fabric ∨
      ∃ principal, (service.invalidate current reason queue).coordinator.fabric =
        (service.coordinator.fabric.invalidateEvidence queue principal current reason).fabric := by
  have looked := (principalFor_kept service.coordinator queue).1
  simp only [invalidate]
  split
  · exact .inl looked
  · refine .inr ⟨(service.coordinator.principalFor queue).1, ?_⟩
    rw [← looked]
    split <;> rfl

theorem invalidate_uses (service : Service J) (current : Epoch) (reason : Text)
    (queue : QueueId) : Uses service (service.invalidate current reason queue) := by
  rcases service.invalidate_fabric current reason queue with same | ⟨principal, same⟩
  · exact .of_eq same
  · have call : (service.coordinator.fabric.serve (.invalidateEvidence queue principal current
        reason)).fabric =
      (service.coordinator.fabric.invalidateEvidence queue principal current reason).fabric := rfl
    rw [Uses, same, ← call]
    exact .single (.served _ trivial)

theorem withdraw_uses (current : Epoch) (reason : Text) (queues : List QueueId)
    (service : Service J) : Uses service
      (queues.foldl (fun service queue => service.invalidate current reason queue) service) := by
  induction queues generalizing service with
  | nil => exact .refl
  | cons queue rest ih => exact (invalidate_uses service current reason queue).trans (ih _)

theorem handleDisconnect_uses {before service : Service J}
    (same : service.coordinator.fabric = before.coordinator.fabric) (reason : String)
    (room : Nat) : Uses before (service.handleDisconnect reason room) := by
  refine (Uses.of_eq same).trans ?_
  cases closing : service.connection.closing with
  | true =>
      rw [handleDisconnect, closing]
      exact .refl
  | false =>
      rw [handleDisconnect_eq closing]
      exact withdraw_uses _ _ _ (service.losing room)

theorem handleFrame_uses (service : Service J) (frame : Frame) (room : Nat) :
    Uses service (service.handleFrame frame room) := by
  have ended := handleFrame_cases service frame room
  generalize service.handleFrame frame room = after at ended
  cases ended with
  | handled acts => exact uses_of_acts acts
  | dropped acts reason => exact (uses_of_acts acts).trans (handleDisconnect_uses rfl _ _)

theorem handleMutation_fabric (service : Service J) (message : Message) :
    (service.handleMutation message).2.coordinator.fabric =
      (service.coordinator.fabric.apply message.mutation).fabric := by
  have applied : (service.nextSequence.2.apply message.mutation).2.coordinator.fabric =
      (service.coordinator.fabric.apply message.mutation).fabric := by
    have start : service.nextSequence.2.coordinator.fabric = service.coordinator.fabric := rfl
    rw [← start]
    simp only [Service.apply]
    split
    · rfl
    · split <;> rfl
  rw [← applied]
  simp only [handleMutation]
  generalize service.nextSequence.2.apply message.mutation = outcome
  cases outcome.1 with
  | error status => rfl
  | ok accepted =>
      simp only []
      split <;> rfl

/-- A frame that was answered with a mutation response is an apply. -/
theorem handleFrame_exchange {service : Service J} {frame : Frame}
    {request : MutationRequest} {response : MutationResponse}
    (exchanged : Delivery.exchange ⟨service, frame⟩ = some (request, response)) (room : Nat) :
    (service.handleFrame frame room).coordinator.fabric =
      (service.countFrame.touch.coordinator.fabric.apply request).fabric := by
  rw [Delivery.exchange] at exchanged
  split at exchanged
  · rename_i message reply brought told
    split at exchanged
    · rename_i kinds
      cases exchanged
      obtain ⟨mutation, responds⟩ := kinds
      obtain ⟨replied, taken⟩ := Option.filter_eq_some_iff.mp told
      rw [Delivery.reply, brought] at replied
      have replied : service.countFrame.touch.reply message = some reply := replied
      have answers := answers_handleMessage service.countFrame message
      have sent : (service.countFrame.handleMessage message).1.isOk = true := by
        rw [answers.status, replied]
        exact taken
      rw [handleFrame_message, brought]
      simp only [sent, ↓reduceIte]
      have greeted : ¬ (!service.countFrame.touch.connection.session.handshaken ∧
          message.type ≠ .hello) := by
        intro unknown
        rw [Service.reply, if_pos unknown] at replied
        cases replied
        cases responds
      rw [handleMessage, if_neg greeted, mutation]
      exact handleMutation_fabric service.countFrame.touch message
    · cases exchanged
  · cases exchanged

theorem handleFrame_answered (service : Service J) (frame : Frame) (room : Nat) :
    Fabric.Answered service.coordinator.fabric
      (service.handleFrame frame room).coordinator.fabric [⟨service, frame⟩] := by
  cases exchanged : Delivery.exchange ⟨service, frame⟩ with
  | none =>
      obtain ⟨log, traced⟩ := Fabric.traced_of_uses (service.handleFrame_uses frame room)
      refine ⟨log, traced, ?_⟩
      rw [List.filterMap_cons, exchanged, List.filterMap_nil]
      exact List.nil_sublist _
  | some exchange =>
      obtain ⟨request, response⟩ := exchange
      have applied := Delivery.exchange_applied exchanged
      rw [handleFrame_exchange exchanged room]
      have read : Fabric.Traced Call.ForPeers service.coordinator.fabric []
        service.countFrame.touch.coordinator.fabric := Fabric.Traced.start.read _
      refine ⟨_, read.served (.apply request) trivial, ?_⟩
      rw [List.filterMap_cons, exchanged, List.filterMap_nil, List.nil_append,
        List.filterMap_cons, Fabric.exchange_apply, List.filterMap_nil, applied]
      exact List.Sublist.refl _

/-- The deliveries of a walk, and where it ends. -/
structure Walks (before after : Service J) (deliveries : List (Delivery J)) : Prop where
  uses : Uses before after
  delivered : ∀ delivery ∈ deliveries, Uses before delivery.service
  answered : Fabric.Answered before.coordinator.fabric after.coordinator.fabric deliveries

theorem Walks.after {first second third : Service J} {early later : List (Delivery J)}
    (one : Walks first second early) (two : Walks second third later) :
    Walks first third (early ++ later) where
  uses := one.uses.trans two.uses
  delivered delivery listed := by
    rcases List.mem_append.mp listed with before | now
    · exact one.delivered delivery before
    · exact one.uses.trans (two.delivered delivery now)
  answered := one.answered.trans two.answered

theorem walks_quietly {before after : Service J} (uses : Uses before after) :
    Walks before after [] := ⟨uses, by simp, Fabric.answered_quietly uses⟩

theorem decodeFrames_walks (room : Nat) (service : Service J) :
    Walks service (decodeFrames room service).2 (decodeDeliveries room service) := by
  induction room generalizing service with
  | zero => exact walks_quietly .refl
  | succ room ih =>
      simp only [decodeFrames, decodeDeliveries]
      cases service.connection.decoder.next.1 with
      | error status =>
          simp only []
          split
          · exact walks_quietly .refl
          · refine walks_quietly (handleDisconnect_uses ?_ _ _)
            rfl
      | ok frame =>
          simp only []
          generalize taken_eq : Service.note _ _ = taken
          have same : taken.coordinator.fabric = service.coordinator.fabric := by
            rw [← taken_eq]
            rfl
          have first : Walks service (taken.handleFrame frame room) [⟨taken, frame⟩] := by
            refine ⟨(Uses.of_eq same).trans (handleFrame_uses taken frame room), ?_, ?_⟩
            · intro delivery listed
              rw [List.mem_singleton.mp listed]
              exact .of_eq same
            · rw [← same]
              exact handleFrame_answered taken frame room
          exact first.after (ih _)

theorem receiveChunks_walks (fuel room : Nat) (service : Service J) :
    Walks service (receiveChunks fuel room service).2 (receiveDeliveries fuel room service) := by
  induction fuel generalizing room service with
  | zero => exact walks_quietly .refl
  | succ fuel ih =>
      simp only [receiveChunks, receiveDeliveries]
      split
      · exact walks_quietly .refl
      split
      · exact walks_quietly .refl
      cases (service.connection.transport.readable.2.receive
          service.coordinator.config.receiveBufferBytes).1 with
      | error status =>
          refine walks_quietly (handleDisconnect_uses ?_ _ _)
          rfl
      | ok chunk =>
          simp only []
          cases chunk.isEmpty with
          | true =>
              refine walks_quietly (handleDisconnect_uses ?_ _ _)
              rfl
          | false =>
              simp only [Bool.false_or, Bool.false_eq_true, ↓reduceIte]
              cases (service.connection.decoder.push chunk).1.isOk with
              | false =>
                  refine walks_quietly (handleDisconnect_uses ?_ _ _)
                  rfl
              | true =>
                  simp only [Bool.not_true, Bool.false_eq_true, ↓reduceIte]
                  have fed : Walks service (service.fed
                      (service.connection.transport.readable.2.receive
                        service.coordinator.config.receiveBufferBytes).2
                      (service.connection.decoder.push chunk).2) [] := walks_quietly (.of_eq rfl)
                  exact (fed.after (decodeFrames_walks room _)).after (ih _ _)

theorem serve_walks (service : Service J) :
    Walks service service.serve service.serveDeliveries := by
  simp only [serve, serveDeliveries]
  split
  · exact walks_quietly .refl
  · exact receiveChunks_walks _ _ service

theorem expire_uses (now : Nanos) (service : Service J) : Uses service (service.expire now) := by
  simp only [expire]
  split
  · exact .refl
  split
  · refine handleDisconnect_uses ?_ _ _
    rfl
  · exact .refl

end Service

namespace Coordinator

variable {J : Type} [IJournal J] {coordinator : Coordinator J}

/-- A walk of the coordinator, with its deliveries. -/
structure Walks (before after : Coordinator J) (deliveries : List (Delivery J)) : Prop where
  uses : ReflTransGen (Fabric.Use Call.ForPeers) before.fabric after.fabric
  delivered : ∀ delivery ∈ deliveries,
    ReflTransGen (Fabric.Use Call.ForPeers) before.fabric delivery.service.coordinator.fabric
  answered : Fabric.Answered before.fabric after.fabric deliveries

theorem serveEach_walks (served rest : List Connection) (coordinator : Coordinator J) :
    Walks coordinator (eachConnection Service.serve served rest coordinator)
      (eachDeliveries served rest coordinator) := by
  induction rest generalizing served coordinator with
  | nil => exact ⟨.refl, by simp [eachDeliveries], Fabric.answered_quietly .refl⟩
  | cons connection rest ih =>
      have walks := Service.serve_walks
        ⟨{ coordinator with connections := served ++ rest }, connection⟩
      simp only [eachConnection, eachDeliveries]
      generalize @Service.serve J _ _ = after at walks ⊢
      have later := ih (served ++ [after.connection]) after.coordinator
      refine ⟨ReflTransGen.trans walks.uses later.uses, fun delivery listed => ?_,
        walks.answered.trans later.answered⟩
      rcases List.mem_append.mp listed with now | next
      · exact walks.delivered delivery now
      · exact ReflTransGen.trans walks.uses (later.delivered delivery next)

theorem expireEach_uses (now : Nanos) (served rest : List Connection)
    (coordinator : Coordinator J) : ReflTransGen (Fabric.Use Call.ForPeers) coordinator.fabric
      (eachConnection (Service.expire now) served rest coordinator).fabric := by
  induction rest generalizing served coordinator with
  | nil => exact .refl
  | cons connection rest ih =>
      have uses := Service.expire_uses now
        ⟨{ coordinator with connections := served ++ rest }, connection⟩
      simp only [eachConnection]
      exact ReflTransGen.trans uses (ih _ _)

omit [IJournal J] in
theorem accept_reads (coordinator : Coordinator J) (incoming : Option TcpTransport) :
    ∃ clock, (coordinator.accept incoming).fabric = { coordinator.fabric with clock } := by
  simp only [accept]
  split
  · split
    · exact ⟨_, rfl⟩
    · exact ⟨_, rfl⟩
  · exact ⟨_, rfl⟩

theorem cycle_walks (coordinator : Coordinator J) (incoming : Option TcpTransport) :
    Walks coordinator (coordinator.runOnce incoming).2 (coordinator.cycleDeliveries incoming) := by
  simp only [runOnce, cycleDeliveries]
  split
  · exact ⟨.refl, by simp, Fabric.answered_quietly .refl⟩
  obtain ⟨clock, read⟩ := (coordinator.note .began).accept_reads incoming
  rw [show (coordinator.note .began).fabric = coordinator.fabric from rfl] at read
  generalize (coordinator.note .began).accept incoming = accepted at read ⊢
  have start : ReflTransGen (Fabric.Use Call.ForPeers) coordinator.fabric accepted.fabric := by
    rw [read]
    exact .single (Fabric.Use.read clock)
  have served := serveEach_walks [] accepted.connections accepted
  generalize eachConnection Service.serve [] accepted.connections accepted = middle at served ⊢
  have ticked : ReflTransGen (Fabric.Use Call.ForPeers) middle.fabric middle.nowNanos.2.fabric :=
    .single (Fabric.Use.read _)
  have expired := expireEach_uses middle.nowNanos.1 [] middle.nowNanos.2.connections
    middle.nowNanos.2
  refine ⟨((start.trans served.uses).trans ticked).trans expired,
    fun delivery listed => ReflTransGen.trans start (served.delivered delivery listed), ?_⟩
  have whole := (Fabric.answered_quietly start).trans
    (served.answered.trans (Fabric.answered_quietly (ticked.trans expired)))
  rwa [List.nil_append, List.append_nil] at whole

theorem advanceEpoch_fabric (coordinator : Coordinator J) (first : Nat) :
    (coordinator.advanceEpoch first).2.fabric = (coordinator.fabric.advanceEpoch
      (coordinator.administrator first) coordinator.administration).fabric := by
  simp only [advanceEpoch]
  split <;> rfl

theorem operate_uses (coordinator : Coordinator J) {operation : Operation}
    (living : operation ≠ .call .recover) :
    ReflTransGen (Fabric.Use (· ≠ .recover)) coordinator.fabric
      (coordinator.operate operation).fabric := by
  cases operation with
  | cycle incoming =>
      refine Fabric.uses_mono (fun call permitted same => ?_) (coordinator.cycle_walks incoming).uses
      rw [same] at permitted
      exact permitted
  | advanceEpoch first =>
      have call : (coordinator.fabric.serve (.advanceEpoch (coordinator.administrator first)
          coordinator.administration)).fabric = (coordinator.fabric.advanceEpoch
            (coordinator.administrator first) coordinator.administration).fabric := rfl
      rw [operate, advanceEpoch_fabric, ← call]
      exact .single (.served _ (by simp))
  | sendTo id message => exact .refl
  | call call => exact .single (.served call fun same => living (congrArg Operation.call same))
  | stop => exact .refl

/-- Every life of a coordinator is a use of its fabric. -/
theorem live_uses (coordinator : Coordinator J) {operations : List Operation}
    (living : ∀ operation ∈ operations, operation ≠ .call .recover) :
    ReflTransGen (Fabric.Use (· ≠ .recover)) coordinator.fabric
      (coordinator.live operations).fabric := by
  induction operations generalizing coordinator with
  | nil => exact .refl
  | cons operation later ih =>
      have first := coordinator.operate_uses (living operation List.mem_cons_self)
      exact ReflTransGen.trans first (ih (coordinator.operate operation)
        fun other listed => living other (List.mem_cons_of_mem _ listed))

end Coordinator

end QueueFabric
