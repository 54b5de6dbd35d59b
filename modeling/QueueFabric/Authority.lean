import QueueFabric.Conflicts
import QueueFabric.QueueSteps

/-!
What an application may change, and on whose authority. Every change of a queue
comes from a request that names the queue, its generation and the epoch, and
whose principal holds the capability; a declaration is checked against the epoch
of the resource alone.
-/

namespace QueueFabric

open QueueRecord

namespace Fabric

variable {J : Type}

/-- An accepted request presents the epoch of the resource and holds the capability. -/
theorem authorize_granted {authority : AuthorityVector} {principal : OwnerId}
    {required : Capability} {presented : Epoch} {applicability : Applicability}
    {lifecycle : Lifecycle}
    (allowed : authorize authority principal required presented applicability lifecycle = none) :
    presented = authority.epoch ∧
      hasCapability (authority.capabilitiesOf principal) required = true := by
  rw [authorize] at allowed
  split at allowed
  · cases allowed
  rename_i current
  split at allowed
  · cases allowed
  rename_i granted
  simp only [Bool.or_eq_true, decide_eq_true_eq, not_or, ne_eq, not_not] at current
  exact ⟨current.2, by simpa using granted⟩

/-- The principal of a request holds what its kind requires on a resource. -/
def Holds (resource : ResourceRecord) (request : MutationRequest) : Prop :=
  hasCapability (resource.authority.capabilitiesOf request.principal)
    (requiredCapability request.kind) = true

/-- The request names the queue stored under `id` as it is, or creates it. -/
inductive Entitled (fabric : Fabric J) (request : MutationRequest) (id : QueueId) : Prop
  | named (queue : QueueRecord) (resource : ResourceRecord) (kind : request.kind ≠ .declareQueue)
      (target : request.queue = id) (found : fabric.findQueue id = some queue)
      (home : fabric.findResource queue.definition.resource = some resource)
      (holds : Holds resource request)
      (generation : request.expectedGeneration = queue.definition.generation)
  | created (payload : DeclareQueuePayload) (resource : ResourceRecord)
      (kind : request.kind = .declareQueue) (carried : request.payload = .declareQueue payload)
      (next : id = ⟨fabric.nextQueueId⟩) (absent : fabric.findQueue id = none)
      (home : fabric.findResource payload.resource = some resource)
      (holds : Holds resource request)

variable [IJournal J]

/-- The application moved the queue stored under `id`, or added it. -/
def Changes (fabric : Fabric J) (request : MutationRequest) (id : QueueId) : Prop :=
  ¬ Option.Rel Unmoved (fabric.findQueue id) ((fabric.apply request).fabric.findQueue id)

/-- Every queue an application changes is one it is entitled to change in the current epoch. -/
def ChangesEntitled (fabric : Fabric J) (request : MutationRequest) : Prop :=
  ∀ id, Changes fabric request id →
    request.expectedEpoch = fabric.epoch ∧ Entitled fabric request id

/-- A request that adds a queue: a declaration past every check whose write succeeds. -/
structure Declares (fabric : Fabric J) (request : MutationRequest) (payload : DeclareQueuePayload)
    (resource : ResourceRecord) : Prop where
  running : fabric.shuttingDown = false
  valid : request.validate.isOk = true
  kind : request.kind = .declareQueue
  carried : request.payload = .declareQueue payload
  declarable : Declarable fabric request payload resource
  durable : (fabric.monotonicNow.2.commitDurably request).1 = none
  absent : fabric.findQueue ⟨fabric.nextQueueId⟩ = none

theorem findQueue_apply (fabric : Fabric J) (request : MutationRequest) (id : QueueId) :
    (fabric.apply request).fabric.findQueue id =
      (fabric.monotonicNow.2.applyAt request fabric.monotonicNow.1).fabric.findQueue id := rfl

omit [IJournal J] in
theorem declarable_of_touch {before after : Fabric J} (touch : Touch before after)
    {request : MutationRequest} {payload : DeclareQueuePayload} {resource : ResourceRecord}
    (declarable : Declarable before request payload resource) :
    Declarable after request payload resource where
  found := by rw [findResource, touch.resources]; exact declarable.found
  authorized := by rw [touch.replaying]; exact declarable.authorized
  free := by rw [touch.queueNames]; exact declarable.free
  checked := by
    have checked := declarable.checked
    simp only [checkDeclaration] at checked ⊢
    rw [touch.queues, touch.config]
    exact checked
  gate := by
    have gate := declarable.gate
    simp only [checkDeclareProvenance] at gate ⊢
    rw [touch.replaying, touch.provenance]
    exact gate

/-- A declaration that goes through adds its record under the next number. -/
theorem Declares.changes {fabric : Fabric J} {request : MutationRequest}
    {payload : DeclareQueuePayload} {resource : ResourceRecord}
    (declares : Declares fabric request payload resource) :
    Changes fabric request ⟨fabric.nextQueueId⟩ := by
  obtain ⟨running, valid, kind, carried, declarable, durable, absent⟩ := declares
  obtain ⟨after, queues, numbered, published⟩ :=
    (declarable_of_touch (monotonicNow_touch fabric) declarable).published durable
      fabric.monotonicNow.1
  have applied : fabric.monotonicNow.2.applyAt request fabric.monotonicNow.1 =
      after.publishDeclared request payload fabric.monotonicNow.1 resource := by
    have still : fabric.monotonicNow.2.shuttingDown = false := running
    rw [applyAt_declare still valid kind carried]
    exact published
  have free : fabric.queues.get? ⟨fabric.nextQueueId⟩ = none := absent
  have listed : after.queues = fabric.queues := queues
  have next : after.nextQueueId = fabric.nextQueueId := numbered
  intro related
  rw [absent, findQueue_apply, applied] at related
  simp only [findQueue, publishDeclared, Table.get?_emplace, listed, next, free, Option.none_or,
    ↓reduceIte] at related
  cases related

omit [IJournal J] in
theorem Mutated.entitled {fabric start : Fabric J} (live : fabric.replaying = false)
    (earlier : Touch fabric start) {request : MutationRequest} {now : Nanos}
    {queue updated : QueueRecord} {id : QueueId}
    (mutated : Mutated start request now queue updated) (named : request.queue = id)
    (kind : request.kind ≠ .declareQueue) (found : fabric.findQueue id = some queue) :
    request.expectedEpoch = fabric.epoch ∧ Entitled fabric request id := by
  cases mutated with
  | intro middle after tracker applied durable later config admitted =>
      have touch : Touch fabric middle := earlier.trans later
      have quiet : middle.replaying = false := touch.replaying.trans live
      obtain ⟨resource, home, allowed⟩ := admitted.authorized
      obtain ⟨_, holds⟩ := authorize_granted allowed
      have expected := admitted.expected
      rw [checkExpected] at expected
      split at expected
      · cases expected
      split at expected
      · cases expected
      rename_i generation
      split at expected
      · cases expected
      rename_i epoch
      simp only [quiet, Bool.not_false, Bool.true_and, decide_eq_true_eq, not_not, ne_eq]
        at epoch generation
      rw [findResource, touch.resources] at home
      exact ⟨epoch.trans touch.epoch,
        .named queue resource kind named found home holds generation⟩

theorem DeclareCase.durable {fabric : Fabric J} {request : MutationRequest}
    {payload : DeclareQueuePayload} {now : Nanos} {reply : Reply J MutationOutcome} {id : QueueId}
    (ended : DeclareCase fabric request payload now reply)
    (absent : fabric.findQueue id = none) (added : (reply.fabric.findQueue id).isSome = true) :
    (fabric.commitDurably request).1 = none := by
  have same : reply.fabric.queues = fabric.queues → False := by
    intro queues
    rw [findQueue, queues] at added
    rw [findQueue] at absent
    rw [absent] at added
    cases added
  cases ended with
  | refused refusal => exact (same rfl).elim
  | answered taken found =>
      refine (same ?_).elim
      rw [answerDeclared]
      repeat' split
      all_goals rfl
  | undurable resource refusal after declarable failed =>
      exact (same (commitDurably_touch failed).queues).elim
  | committed resource after declarable written => rw [written]

/-- A change comes from an entitled request of the epoch, or from a declaration that goes
through. -/
theorem entitled_or_declares {fabric : Fabric J} (live : fabric.replaying = false)
    {request : MutationRequest} {id : QueueId} (changes : Changes fabric request id) :
    request.expectedEpoch = fabric.epoch ∧ Entitled fabric request id ∨
      id = ⟨fabric.nextQueueId⟩ ∧ fabric.findQueue id = none ∧
        ∃ payload resource, Declares fabric request payload resource := by
  rw [Changes, findQueue_apply] at changes
  have running : fabric.shuttingDown = false := by
    by_contra stopping
    rw [Bool.not_eq_false] at stopping
    have stopped : fabric.monotonicNow.2.applyAt request fabric.monotonicNow.1 =
        ⟨.error ⟨.shuttingDown, "fabric is shutting down"⟩, [], fabric.monotonicNow.2⟩ :=
      if_pos stopping
    rw [stopped] at changes
    refine changes ?_
    have still : Option.Rel Unmoved (fabric.findQueue id) (fabric.findQueue id) := by
      cases fabric.findQueue id with
      | none => exact .none
      | some queue => exact .some (.refl queue)
    exact still
  have ended := applyAt_cases fabric.monotonicNow.2 request fabric.monotonicNow.1
  have moves := ended.moves id
  generalize fabric.monotonicNow.2.applyAt request fabric.monotonicNow.1 = reply
    at changes ended moves
  have same : fabric.monotonicNow.2.findQueue id = fabric.findQueue id := rfl
  rw [same] at moves
  generalize before : fabric.findQueue id = old at changes moves
  generalize later : reply.fabric.findQueue id = new at changes moves
  cases moves with
  | absent => exact absurd .none changes
  | unmoved unmoved idle remembers => exact absurd (.some unmoved) changes
  | mutated named kind executed mutated =>
      exact .inl (mutated.entitled live (monotonicNow_touch fabric) named kind before)
  | declared executed declared =>
      cases declared with
      | intro after payload resource durable config numbered next kind carried declarable =>
          obtain ⟨outcome, succeeded, _⟩ := executed
          cases ended with
          | stopped stopping => cases succeeded
          | unbound refusal => cases succeeded
          | existing queue reply valid other found ended => exact absurd kind other
          | declare other reply valid kind carried' ended =>
              cases carried.symm.trans carried'
              have free : fabric.findQueue ⟨fabric.nextQueueId⟩ = none := next ▸ before
              refine .inr ⟨next, rfl, payload, resource, running, valid, kind, carried, ?_, ?_, free⟩
              · exact ⟨declarable.found, declarable.authorized, declarable.free,
                  declarable.checked, declarable.gate⟩
              · exact ended.durable before (by rw [later]; rfl)

theorem Declares.entitled {fabric : Fabric J} {request : MutationRequest}
    {payload : DeclareQueuePayload} {resource : ResourceRecord}
    (declares : Declares fabric request payload resource) :
    Entitled fabric request ⟨fabric.nextQueueId⟩ := by
  obtain ⟨_, holds⟩ := authorize_granted declares.declarable.authorized
  refine .created payload resource declares.kind declares.carried rfl declares.absent
    declares.declarable.found ?_
  rw [Holds, declares.kind]
  exact holds

/-- A declaration that goes through presents the epoch of its resource. -/
theorem Declares.epoch {fabric : Fabric J} (live : fabric.replaying = false)
    {request : MutationRequest} {payload : DeclareQueuePayload} {resource : ResourceRecord}
    (declares : Declares fabric request payload resource) :
    request.expectedEpoch = resource.authority.epoch := by
  obtain ⟨epoch, _⟩ := authorize_granted declares.declarable.authorized
  rw [live] at epoch
  exact epoch

theorem changesEntitled_iff {fabric : Fabric J} (live : fabric.replaying = false)
    (request : MutationRequest) :
    ChangesEntitled fabric request ↔ ∀ payload resource,
      Declares fabric request payload resource → resource.authority.epoch = fabric.epoch := by
  constructor
  · intro entitled payload resource declares
    obtain ⟨epoch, _⟩ := entitled _ declares.changes
    exact (declares.epoch live).symm.trans epoch
  · intro current id changes
    rcases entitled_or_declares live changes with entitled | ⟨rfl, _, payload, resource, declares⟩
    · exact entitled
    · exact ⟨(declares.epoch live).trans (current payload resource declares), declares.entitled⟩

theorem serve_live {fabric : Fabric J} (live : fabric.replaying = false) (call : Call) :
    (fabric.serve call).fabric.replaying = false :=
  ((serve_cases fabric call).tracked live).2

theorem serveAll_live {fabric : Fabric J} (live : fabric.replaying = false) (calls : List Call) :
    (fabric.serveAll calls).replaying = false := by
  induction calls generalizing fabric with
  | nil => exact live
  | cons call rest ih => exact ih (serve_live live call)

/-- In every state of a life, what a request changes it is entitled to change, in the epoch it
names, exactly when it is no declaration that goes through on a resource of another epoch. -/
theorem changes_entitled_iff (config : FabricConfig) (clock : Clock) (journal : Option J)
    (seed : UInt64) (calls : List Call) (request : MutationRequest) :
    ChangesEntitled ((create config clock journal seed).serveAll calls) request ↔
      ∀ payload resource,
        Declares ((create config clock journal seed).serveAll calls) request payload resource →
        resource.authority.epoch = ((create config clock journal seed).serveAll calls).epoch :=
  changesEntitled_iff (serveAll_live rfl calls) request

/-- A second recovery without a journal: the epoch starts again at one, the resource stays at two. -/
def supersededCalls : List Call := [
  .recover,
  .declareResource (text "r") ⟨5⟩ (System.sampleProvenance 1),
  .declareClass ⟨1⟩ (text "c") 0 {} ⟨5⟩ ⟨1⟩ (System.sampleProvenance 1),
  .declarePool ⟨1⟩ (text "p") 0 ⟨5⟩ ⟨1⟩ (System.sampleProvenance 1),
  .advanceEpoch ⟨5⟩ (System.sampleProvenance 1),
  .recover]

def supersededFabric : Fabric StableStore :=
  (create {} ⟨fun _ => 1000, 0⟩ none 7).serveAll supersededCalls

def supersededDeclaration : MutationRequest :=
  { System.sampleDeclaration with expectedEpoch := ⟨2⟩ }

theorem superseded_declaration_adds :
    ¬ ChangesEntitled supersededFabric supersededDeclaration := by
  intro entitled
  have absent : supersededFabric.findQueue ⟨1⟩ = none := by decide +kernel
  have added : ((supersededFabric.apply supersededDeclaration).fabric.findQueue ⟨1⟩).isSome =
      true := by decide +kernel
  have superseded : supersededDeclaration.expectedEpoch ≠ supersededFabric.epoch := by
    decide +kernel
  refine superseded (entitled ⟨1⟩ fun related => ?_).1
  rw [absent] at related
  generalize (supersededFabric.apply supersededDeclaration).fabric.findQueue ⟨1⟩ = after
    at added related
  cases related
  cases added

end Fabric

end QueueFabric
