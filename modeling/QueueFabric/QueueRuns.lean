import QueueFabric.Lib.Runs
import QueueFabric.SerializeRoundTrip
import QueueFabric.QueueSteps
import QueueFabric.RecoveryCases

/-!
Invariants of queue records over whole runs. `Invariant` asks what a record
property must survive: upkeep, an executed request, a declaration, and the way
through a snapshot. It then holds in every state of every run, through crashes,
replays and compactions.
-/

namespace QueueFabric

open QueueRecord

namespace Fabric

variable {J : Type} [IJournal J]

/-! Recoveries, one queue at a time. -/

omit [IJournal J] in
theorem still_revalidateQueue (queue : QueueRecord) : Still queue (revalidateQueue queue) := by
  refine still_of_same (same_revalidateQueue queue) ?_ rfl rfl rfl
  simp only [revalidateQueue]
  split
  · exact OccupancyState.reading_invalidate _ _
  · rfl

omit [IJournal J] in
theorem still_markUnfinished (queue : QueueRecord) : Still queue (markUnfinished queue) :=
  still_of_same (same_markUnfinished queue) (OccupancyState.reading_invalidate _ _) rfl rfl rfl

theorem replayOne_moves (fabric : Fabric J) (request : MutationRequest) (id : QueueId) :
    ∃ now, Moves { fabric.monotonicNow.2 with replaying := true } request now
      (fabric.applyReplayLocked request).result id (fabric.findQueue id)
      ((fabric.replayOne request).findQueue id) := by
  obtain ⟨now, reply, ended, same, touch, _⟩ := replayOne_reply fabric request
  refine ⟨now, ?_⟩
  have moves := ended.moves id
  rw [same]
  simp only [findQueue, touch.queues]
  exact moves

/-- The commits a recovery replays. -/
def replayOrder (fabric : Fabric StableStore) : List MutationRequest :=
  (fabric.replayStart.map (·.2)).getD []

section Carry

variable {holds : List MutationRequest → QueueId → QueueRecord → Prop}

/-- What every replayed commit carries over is carried over by the replay. -/
theorem replayAll_carries {base : Fabric J} {order : List MutationRequest}
    (start : ∀ id queue, base.findQueue id = some queue → holds [] id queue)
    (step : ∀ early request late, order = early ++ request :: late → ∀ now id after,
      Moves { (base.replayAll early).monotonicNow.2 with replaying := true } request now
        ((base.replayAll early).applyReplayLocked request).result id
        ((base.replayAll early).findQueue id) (some after) →
      (∀ before, (base.replayAll early).findQueue id = some before → holds early id before) →
      holds (early ++ [request]) id after) :
    ∀ id queue, (base.replayAll order).findQueue id = some queue → holds order id queue := by
  induction order using List.reverseRecOn with
  | nil => exact start
  | append_singleton early request ih =>
      have before := ih fun first other late split => step first other (late ++ [request])
        (by simp [split])
      intro id queue found
      obtain ⟨now, moves⟩ := replayOne_moves (base.replayAll early) request id
      rw [replayAll_concat] at found
      rw [found] at moves
      exact step early request [] rfl now id queue moves fun old => before id old

section Recovery

variable {fabric : Fabric StableStore}
  (queues : ∀ id queue, fabric.findQueue id = some queue → holds [] id queue)
  (restored : ∀ payload queue, ⟨.queueState, payload⟩ ∈ fabric.store.contents →
    decodeQueueState payload = .ok queue →
    holds [] queue.definition.id (Scan.restoreQueue queue))
  (replayed : ∀ base early request late,
    fabric.replayStart = some (base, early ++ request :: late) → ∀ now id after,
    Moves { (base.replayAll early).monotonicNow.2 with replaying := true } request now
      ((base.replayAll early).applyReplayLocked request).result id
      ((base.replayAll early).findQueue id) (some after) →
    (∀ before, (base.replayAll early).findQueue id = some before → holds early id before) →
    holds (early ++ [request]) id after)

include queues restored

theorem scanJournal_carries {store : StableStore} (present : fabric.journal = some store)
    {id : QueueId} {queue : QueueRecord}
    (found : (fabric.beginRecovery.scanJournal store.openStore.2).queues.get? id = some queue) :
    holds [] id queue := by
  rcases Scan.get?_queues_addRecords found with
    early | ⟨payload, saved, listed, decoded, rfl, own⟩
  · exact queues id queue early
  · rw [own]
    refine restored payload saved ?_ decoded
    rw [Fabric.store, present]
    exact StableStore.contents_openStore store ▸ listed

include replayed

/-- What the scan restores and every replayed commit keeps holds at every point of the replay; the
property may speak of the commits replayed so far. -/
theorem replayStart_carries {base : Fabric StableStore} {early : List MutationRequest}
    (late : List MutationRequest) (started : fabric.replayStart = some (base, early ++ late)) :
    ∀ id queue, (base.replayAll early).findQueue id = some queue → holds early id queue := by
  refine replayAll_carries (fun id queue found => ?_) fun first request rest split => ?_
  · obtain ⟨store, scan, epoch, present, rfl, minted, rfl, _⟩ := replayStart_cases started
    exact scanJournal_carries queues restored present found
  · refine replayed base first request (rest ++ late) ?_
    rw [started, split]
    simp

/-- A recovery carries a property over when the scan restores it, every replay keeps it and both
marks of the final pass do. -/
theorem RecoverCase.carries_marked {reply : Reply StableStore Unit}
    (ended : RecoverCase fabric reply)
    (revalidated : ∀ done id queue, holds done id queue → holds done id (revalidateQueue queue))
    (marked : ∀ done id queue, holds done id queue → holds done id (markUnfinished queue)) :
    ∀ id queue, reply.fabric.findQueue id = some queue → holds fabric.replayOrder id queue := by
  intro id queue found
  cases ended with
  | unjournaled absent result touch journal =>
      have none : fabric.replayOrder = [] := by simp [replayOrder, replayStart, absent]
      rw [none]
      exact queues id queue (by rwa [findQueue, touch.queues] at found)
  | unopened store present failed result touch journal =>
      have none : fabric.replayOrder = [] := by simp [replayOrder, replayStart, present, failed]
      rw [none]
      exact queues id queue (by rwa [findQueue, touch.queues] at found)
  | exhausted store scan status present opened scan_eq minted result touch journal =>
      have none : fabric.replayOrder = [] := by
        simp [replayOrder, replayStart, present, opened, ← scan_eq, minted]
      rw [none]
      rw [findQueue, touch.queues, scan_eq] at found
      exact scanJournal_carries queues restored present found
  | replayed store last scan epoch final payload present opened scan_eq minted installed kept
      touch written =>
      have started := replayStart_of_opened present opened scan_eq minted
      have order : fabric.replayOrder = scan.replayOrder := by simp [replayOrder, started]
      rw [order]
      rw [findQueue, touch.queues] at found
      refine revalidateAll_holds (fun id queue found => ?_) (marked _) id queue found
      rw [installed] at found
      exact revalidated _ id queue (replayStart_carries queues restored replayed []
        (by rw [List.append_nil, started]) id queue found)

theorem RecoverCase.carries {reply : Reply StableStore Unit} (ended : RecoverCase fabric reply)
    (still : ∀ done id before after, Still before after → holds done id before →
      holds done id after) :
    ∀ id queue, reply.fabric.findQueue id = some queue → holds fabric.replayOrder id queue :=
  ended.carries_marked queues restored replayed
    (fun done id queue => still done id queue _ (still_revalidateQueue queue))
    (fun done id queue => still done id queue _ (still_markUnfinished queue))

end Recovery

end Carry

end Fabric

namespace System

/-- A step carries out a request on `queue`, the record stored under `id` when it does: a caller
presents it, or a recovery replays it. -/
inductive CarriesOut (id : QueueId) (queue : QueueRecord) (request : MutationRequest)
    (system : System) : Step → Prop
  | served (call : Call) (script : List Bool)
      (presented : Fabric.Presenting (withScript system.fabric script) request call)
      (named : request.queue = id) (found : system.fabric.findQueue id = some queue)
      (executes : Fabric.Executes (system.step (.call call script)).result) :
      CarriesOut id queue request system (.call call script)
  | replayed (input : Step) (fabric base : Fabric StableStore) (early late : List MutationRequest)
      (started : system.recovering input = some fabric)
      (order : fabric.replayStart = some (base, early ++ request :: late))
      (named : request.queue = id) (found : (base.replayAll early).findQueue id = some queue)
      (executed : Fabric.Executed ((base.replayAll early).applyReplayLocked request).result) :
      CarriesOut id queue request system input

/-- A step restores a queue from a record of the store. -/
def Restores (queue : QueueRecord) (system : System) (input : Step) : Prop :=
  ∃ fabric payload, system.recovering input = some fabric ∧
    ⟨.queueState, payload⟩ ∈ fabric.store.contents ∧ decodeQueueState payload = .ok queue

/-- Every request the step carries out and every record it restores is of the named kind. -/
structure Respects (allowed : QueueRecord → MutationRequest → Prop)
    (restorable : QueueRecord → Prop) (system : System) (input : Step) : Prop where
  requests : ∀ id queue request, CarriesOut id queue request system input → allowed queue request
  records : ∀ queue, Restores queue system input → restorable queue

/-- A call of a life carries out what it presents and restores nothing. -/
theorem respects_call {allowed : QueueRecord → MutationRequest → Prop}
    {restorable : QueueRecord → Prop} {system : System} {call : Call} {script : List Bool}
    (living : call ≠ .recover)
    (requests : ∀ request queue, Fabric.Presenting (withScript system.fabric script) request call →
      system.fabric.findQueue request.queue = some queue → allowed queue request) :
    Respects allowed restorable system (.call call script) := by
  refine ⟨fun id queue request carried => ?_, fun queue restored => ?_⟩
  · cases carried with
    | served _ _ presented named found executes =>
        exact requests request queue presented (named ▸ found)
    | replayed _ fabric base early late started order named found executed =>
        exact absurd started (not_recovering living)
  · obtain ⟨fabric, payload, started, _⟩ := restored
    exact absurd started (not_recovering living)

theorem respects_all (system : System) (input : Step) :
    Respects (fun _ _ => True) (fun _ => True) system input :=
  ⟨fun _ _ _ _ => trivial, fun _ _ => trivial⟩

/-- What a property of queue records must survive to hold throughout every run. -/
structure Invariant (allowed : QueueRecord → MutationRequest → Prop)
    (restorable : QueueRecord → Prop) (holds : QueueRecord → Prop) : Prop where
  still : ∀ {before after : QueueRecord}, Still before after → holds before → holds after
  mutated : ∀ {fabric : Fabric StableStore} {request : MutationRequest} {now : Nanos}
    {before after : QueueRecord}, Fabric.Mutated fabric request now before after →
    allowed before request → holds before → holds after
  declared : ∀ {fabric : Fabric StableStore} {request : MutationRequest} {now : Nanos}
    {id : QueueId} {after : QueueRecord}, Fabric.Declared fabric request now id after → holds after
  restored : ∀ {queue result : QueueRecord}, queue.ReadBack result → restorable result →
    holds queue → holds (Scan.restoreQueue result)

/-- The queues of a system hold, and so did every queue written to its store. -/
structure Holding (holds : QueueRecord → Prop) (system : System) : Prop where
  queues : ∀ id queue, system.fabric.findQueue id = some queue → holds queue
  stored : ∀ payload, ⟨.queueState, payload⟩ ∈ system.fabric.store.contents →
    ∃ queue, payload = encodeQueueState queue ∧ holds queue

variable {allowed : QueueRecord → MutationRequest → Prop} {restorable holds : QueueRecord → Prop}

theorem Holding.recovering {system : System} (held : Holding holds system) {input : Step}
    {fabric : Fabric StableStore} (started : system.recovering input = some fabric) :
    (∀ id queue, fabric.findQueue id = some queue → holds queue) ∧
      ∀ payload, ⟨.queueState, payload⟩ ∈ fabric.store.contents →
        ∃ queue, payload = encodeQueueState queue ∧ holds queue := by
  cases input with
  | restart survivors clock seed script =>
      cases started
      refine ⟨fun id queue found => ?_, fun payload listed => ?_⟩
      · cases found
      · rw [contents_withScript] at listed
        exact held.stored payload (mem_contents_crashed listed)
  | call call script =>
      cases call with
      | recover =>
          cases started
          refine ⟨held.queues, fun payload listed => ?_⟩
          rw [contents_withScript] at listed
          exact held.stored payload listed
      | _ => cases started

section Recovers

variable (invariant : Invariant allowed restorable holds) {system : System} {input : Step}
  (respects : Respects allowed restorable system input) {fabric : Fabric StableStore}
  (started : system.recovering input = some fabric)
  (queues : ∀ id queue, fabric.findQueue id = some queue → holds queue)
  (stored : ∀ payload, ⟨.queueState, payload⟩ ∈ fabric.store.contents →
    ∃ queue, payload = encodeQueueState queue ∧ holds queue)

include invariant respects started

theorem Invariant.replayed {base : Fabric StableStore} {early late : List MutationRequest}
    {request : MutationRequest}
    (order : fabric.replayStart = some (base, early ++ request :: late)) {now : Nanos}
    {id : QueueId} {after : QueueRecord}
    (moves : Fabric.Moves { (base.replayAll early).monotonicNow.2 with replaying := true } request
      now ((base.replayAll early).applyReplayLocked request).result id
      ((base.replayAll early).findQueue id) (some after))
    (earlier : ∀ before, (base.replayAll early).findQueue id = some before → holds before) :
    holds after := by
  generalize found : (base.replayAll early).findQueue id = before at moves earlier
  cases moves with
  | unmoved unmoved idle => exact invariant.still unmoved.still (earlier _ rfl)
  | mutated named kind executed mutated =>
      refine invariant.mutated mutated (respects.requests id _ request ?_) (earlier _ rfl)
      exact .replayed input fabric base early late started order named found executed
  | declared executed declared => exact invariant.declared declared

include stored

theorem Invariant.restores {payload : Bytes} {queue : QueueRecord}
    (listed : ⟨.queueState, payload⟩ ∈ fabric.store.contents)
    (decoded : decodeQueueState payload = .ok queue) : holds (Scan.restoreQueue queue) := by
  obtain ⟨saved, rfl, held⟩ := stored payload listed
  exact invariant.restored (readBack_of_decodeQueueState decoded)
    (respects.records queue ⟨fabric, _, started, listed, decoded⟩) held

include queues

theorem Invariant.replays {base : Fabric StableStore} {early : List MutationRequest}
    (late : List MutationRequest) (order : fabric.replayStart = some (base, early ++ late)) :
    ∀ id queue, (base.replayAll early).findQueue id = some queue → holds queue :=
  Fabric.replayStart_carries queues
    (fun _ _ listed decoded => invariant.restores respects started stored listed decoded)
    (fun _ _ _ _ order _ _ _ moves earlier =>
      invariant.replayed respects started order moves earlier) late order

theorem Invariant.recovers :
    Holding holds ⟨fabric.recover.fabric, fabric.recover.result.map fun _ => .done⟩ := by
  have ended := Fabric.recover_cases fabric
  refine ⟨ended.carries queues
    (fun _ _ listed decoded => invariant.restores respects started stored listed decoded)
    (fun _ _ _ _ order _ _ _ moves earlier =>
      invariant.replayed respects started order moves earlier)
    (fun _ _ _ _ => invariant.still), fun payload listed => ?_⟩
  exact stored payload (ended.mem_queueState listed)

end Recovers

theorem Invariant.step (invariant : Invariant allowed restorable holds) (system : System)
    (input : Step) (held : Holding holds system)
    (respects : Respects allowed restorable system input) : Holding holds (system.step input) := by
  cases input with
  | restart survivors clock seed script =>
      have started : system.recovering (.restart survivors clock seed script) = some _ := rfl
      obtain ⟨queues, stored⟩ := held.recovering started
      exact invariant.recovers respects started queues stored
  | call call script =>
      by_cases living : call = .recover
      · subst living
        have started : system.recovering (.call .recover script) = some _ := rfl
        obtain ⟨queues, stored⟩ := held.recovering started
        exact invariant.recovers respects started queues stored
      · refine ⟨fun id queue found => ?_, fun payload listed => ?_⟩
        · have moved := Fabric.serve_queueStep (withScript system.fabric script) living id
          change ((withScript system.fabric script).serve call).fabric.findQueue id = some queue
            at found
          rw [found] at moved
          generalize before : (withScript system.fabric script).findQueue id = earlier at moved
          cases moved with
          | tended still tended quiet => exact invariant.still still (held.queues id _ before)
          | unbound unbinds =>
              exact invariant.still (Fabric.still_supersedeBinding _) (held.queues id _ before)
          | mutated start request now presented named executed touch mutated =>
              refine invariant.mutated mutated (respects.requests id _ request ?_)
                (held.queues id _ before)
              exact .served call script presented named before executed
          | declared start request now presented executed touch declared =>
              exact invariant.declared declared
        · rcases (Fabric.serve_cases (withScript system.fabric script) call).mem_queueState living
            listed with early | ⟨_, id, queue, found, same⟩
          · rw [contents_withScript] at early
            exact held.stored payload early
          · exact ⟨queue, same, held.queues id queue found⟩

theorem Invariant.carriedOut (invariant : Invariant allowed restorable holds) {system : System}
    {input : Step} (held : Holding holds system)
    (respects : Respects allowed restorable system input) {id : QueueId} {queue : QueueRecord}
    {request : MutationRequest} (carried : CarriesOut id queue request system input) :
    holds queue := by
  cases carried with
  | served call script presented named found executes => exact held.queues id queue found
  | replayed _ fabric base early late started order named found executed =>
      obtain ⟨queues, stored⟩ := held.recovering started
      exact invariant.replays respects started queues stored (request :: late) order id queue found

theorem holding_boot (invariant : Invariant allowed restorable holds) (config : FabricConfig)
    (journaled : Bool) (clock : Clock) (seed : UInt64) (script : List Bool) :
    Holding holds (boot config (if journaled then some {} else none) clock seed script) := by
  have ended := Fabric.recover_cases (withScript (Fabric.create config clock
    (if journaled then some {} else none) seed) script)
  have blank : (withScript (Fabric.create config clock (if journaled then some {} else none) seed)
      script).store.contents = [] := by
    rw [contents_withScript]
    cases journaled <;> rfl
  refine ⟨ended.carries (fun id queue found => by cases found) (fun payload queue listed => ?_)
    (fun base early request late order => ?_) (fun _ _ _ _ => invariant.still),
    fun payload listed => ?_⟩
  · simp [blank] at listed
  · exfalso
    obtain ⟨payload, listed, _⟩ := Fabric.replayStart_listed order
      (List.mem_append_right early List.mem_cons_self)
    simp [blank] at listed
  · have early := ended.mem_queueState listed
    simp [blank] at early

/-- An invariant of queue records holds in every state of a run that respects it. -/
theorem Invariant.run (invariant : Invariant allowed restorable holds) (config : FabricConfig)
    (journaled : Bool) (clock : Clock) (seed : UInt64) (script : List Bool) {steps : List Step}
    (along : Runs.Along System.step (Respects allowed restorable)
      (boot config (if journaled then some {} else none) clock seed script) steps) :
    Holding holds ((boot config (if journaled then some {} else none) clock seed script).run
      steps) :=
  Runs.invariant (fun system input => invariant.step system input)
    (holding_boot invariant config journaled clock seed script) along

end System

end QueueFabric
