import QueueFabric.Labels
import QueueFabric.QueueRuns

/-!
Fencing tokens. Every fence raised in a process life carries a token above every
token that any queue carried before it, so a holder of an older token is told apart.
-/

namespace QueueFabric

open QueueRecord

namespace Fabric

variable {J : Type}

/-! One accepted request. -/

/-- An accepted kind leaves the tokens alone, or it raises a lowered fence with the next one. -/
inductive Tokens (fabric : Fabric J) (target : QueueRecord) (applied : KindApplied) : Prop
  | kept (counter : applied.fenceTokens = fabric.fenceTokens)
      (token : applied.target.fence.token = target.fence.token)
      (held : applied.target.fence.fenced = true → target.fence.fenced = true)
  | raised (counter : applied.fenceTokens = fabric.fenceTokens + 1)
      (lowered : target.fence.fenced = false) (up : applied.target.fence.fenced = true)
      (token : applied.target.fence.token = fabric.fenceTokens + 1)

theorem applyFence_tokens {fabric : Fabric J} {target : QueueRecord} {request : MutationRequest}
    {now : Nanos} {payload : FencePayload} {applied : KindApplied}
    (ok : applyFence fabric target request now payload = .ok applied) :
    Tokens fabric target applied := by
  rw [applyFence] at ok
  split at ok
  · cases ok
    exact .kept rfl rfl id
  · rename_i lowered
    cases ok
    exact .raised rfl (by simpa using lowered) rfl rfl

theorem applyKindLocked_tokens {fabric : Fabric J} {target : QueueRecord}
    {request : MutationRequest} {now : Nanos} {applied : KindApplied}
    (ok : applyKindLocked fabric target request now = .ok applied) :
    Tokens fabric target applied := by
  have ended := applyKindLocked_cases ok
  cases ended with
  | fenced fence rule events kind raised =>
      -- the case does not say which token the fence was given; the definition does
      cases carried : request.payload with
      | fence payload =>
          simp only [applyKindLocked, kind, carried] at ok
          exact applyFence_tokens ok
      | _ => simp [applyKindLocked, kind, carried] at ok
  | unfenced rule events kind =>
      refine .kept rfl rfl fun fenced => ?_
      cases fenced
  | unchanged | moved | redefined | ingested | drainRequested | drainCancelled
  | evidenceRecorded | quiesced | failed | retired | acknowledged => exact .kept rfl rfl id

/-! One call. -/

/-- A queue that carries a token it carried before, or none at all if it is new. -/
inductive Inherits : Option QueueRecord → QueueRecord → Prop
  | kept {before after : QueueRecord} (token : after.fence.token = before.fence.token)
      (held : after.fence.fenced = true → before.fence.fenced = true) :
      Inherits (some before) after
  | fresh {after : QueueRecord} (blank : after.fence = {}) : Inherits none after

theorem inherits_of_fence {before after : QueueRecord} (same : after.fence = before.fence) :
    Inherits (some before) after :=
  .kept (congrArg FenceState.token same) fun fenced => same ▸ fenced

/-- What a call does to the tokens. At most one fence is raised, and with the next token. -/
inductive TokenStep (before after : Fabric J) : Prop
  | kept (counter : after.fenceTokens = before.fenceTokens ∨
        after.fenceTokens = before.fenceTokens + 1)
      (queues : ∀ id queue, after.findQueue id = some queue → Inherits (before.findQueue id) queue)
  | raised (key : QueueId) (old queue : QueueRecord)
      (counter : after.fenceTokens = before.fenceTokens + 1)
      (stored : before.findQueue key = some old) (lowered : old.fence.fenced = false)
      (found : after.findQueue key = some queue) (up : queue.fence.fenced = true)
      (token : queue.fence.token = before.fenceTokens + 1)
      (others : ∀ id queue, id ≠ key → after.findQueue id = some queue →
        Inherits (before.findQueue id) queue)

theorem inherits_of_insert {fabric : Fabric J} {key : QueueId} {old updated : QueueRecord}
    (stored : fabric.findQueue key = some old) (same : updated.fence = old.fence) :
    ∀ id queue, (fabric.queues.insert key updated).get? id = some queue →
      Inherits (fabric.findQueue id) queue := by
  intro id queue found
  rw [Table.get?_insert] at found
  split at found
  · rename_i here
    rw [← here, stored]
    cases found
    exact inherits_of_fence same
  · rw [findQueue, found]
    exact inherits_of_fence rfl

theorem inherits_of_queues {before after : Fabric J} (same : after.queues = before.queues) :
    ∀ id queue, after.findQueue id = some queue → Inherits (before.findQueue id) queue := by
  intro id queue found
  rw [findQueue, same] at found
  rw [findQueue, found]
  exact inherits_of_fence rfl

theorem ExistingCase.tokenStep [IJournal J] {fabric middle : Fabric J} {key : QueueId}
    {queue : QueueRecord} {request : MutationRequest} {now : Nanos}
    {reply : Reply J MutationOutcome} (ended : ExistingCase middle key queue request now reply)
    (touch : Touch fabric middle) (found : fabric.findQueue key = some queue) :
    TokenStep fabric reply.fabric := by
  cases ended with
  | answered memo recorded =>
      obtain ⟨updated, unmoved, _, queues, _⟩ :=
        answerFromMemo_unmoved middle key queue request now memo
      have counter : (middle.answerFromMemo key queue request now memo).fabric.fenceTokens =
          middle.fenceTokens := by
        rw [answerFromMemo]
        split
        · rfl
        · split <;> rfl
      refine .kept (.inl (counter.trans touch.fenceTokens)) ?_
      rw [touch.queues] at queues
      simp only [findQueue, queues]
      exact inherits_of_insert found unmoved.fence
  | refused tracker refusal unseen gate real =>
      refine .kept (.inl touch.fenceTokens) ?_
      simp only [reject, findQueue, touch.queues]
      exact inherits_of_insert found rfl
  | undurable tracker applied refusal after admitted durable failed real =>
      have kept := commitDurably_touch failed
      have counter : after.fenceTokens = applied.fenceTokens := kept.fenceTokens
      have queues : after.queues = fabric.queues := kept.queues.trans touch.queues
      refine .kept ?_ ?_
      · simp only [reject, countRejection, counter, ← touch.fenceTokens]
        rcases applyKindLocked_tokens admitted.kind with ⟨same, _, _⟩ | ⟨next, _, _, _⟩
        · exact .inl same
        · exact .inr next
      · simp only [reject, findQueue, queues]
        exact inherits_of_insert found rfl
  | published tracker applied after admitted committed =>
      have kept := published_touch committed
      have counter : after.fenceTokens = applied.fenceTokens := kept.fenceTokens
      have queues : after.queues = fabric.queues := kept.queues.trans touch.queues
      have unmoved := unmoved_publishQueue after queue request applied
        (isDurable request.kind && after.journal.isSome)
      rcases applyKindLocked_tokens admitted.kind with ⟨same, token, held⟩ | ⟨next, lowered, up, token⟩
      · refine .kept (.inl ?_) fun id stored listed => ?_
        · exact (counter.trans same).trans touch.fenceTokens
        · simp only [publish, findQueue, queues, Table.get?_insert] at listed
          split at listed
          · rename_i here
            cases listed
            rw [← here, found]
            exact .kept (by rw [unmoved.fence, token]) fun fenced => held (unmoved.fence ▸ fenced)
          · rw [findQueue, listed]
            exact inherits_of_fence rfl
      · refine .raised key queue (publishQueue after queue request applied
          (isDurable request.kind && after.journal.isSome)) ?_ found lowered ?_ ?_ ?_
          fun id stored elsewhere listed => ?_
        · rw [← touch.fenceTokens]
          exact counter.trans next
        · simp only [publish, findQueue, Table.get?_insert, ↓reduceIte]
        · rw [unmoved.fence, up]
        · rw [unmoved.fence, token, touch.fenceTokens]
        · simp only [publish, findQueue, queues, Table.get?_insert, if_neg elsewhere.symm] at listed
          rw [findQueue, listed]
          exact inherits_of_fence rfl

theorem DeclareCase.tokenStep [IJournal J] {fabric : Fabric J} {request : MutationRequest}
    {payload : DeclareQueuePayload} {now : Nanos} {reply : Reply J MutationOutcome}
    (ended : DeclareCase fabric request payload now reply) (kind : request.kind = .declareQueue)
    (carried : request.payload = .declareQueue payload) : TokenStep fabric reply.fabric := by
  have queues : ∀ id queue, reply.fabric.findQueue id = some queue →
      Inherits (fabric.findQueue id) queue := by
    intro id queue found
    have moves := ended.moves kind carried id
    rw [found] at moves
    generalize fabric.findQueue id = stored at moves
    cases moves with
    | unmoved unmoved idle remembers => exact inherits_of_fence unmoved.fence
    | mutated named other executed mutated => exact absurd kind other
    | declared executed declared => exact .fresh declared.blank.2.2.2.1
  refine .kept (.inl ?_) queues
  cases ended with
  | refused refusal => rfl
  | answered id taken =>
      rw [answerDeclared]
      split
      · rfl
      · split <;> rfl
  | undurable resource refusal after declarable failed =>
      exact (commitDurably_touch failed).fenceTokens
  | committed resource after declarable written =>
      rw [admitDeclared]
      split
      · exact (commitDurably_touch written).fenceTokens
      · dsimp only
        split <;> exact (commitDurably_touch written).fenceTokens

theorem ApplyCase.tokenStep [IJournal J] {fabric : Fabric J} {request : MutationRequest}
    {now : Nanos} {reply : Reply J MutationOutcome} (ended : ApplyCase fabric request now reply) :
    TokenStep fabric reply.fabric := by
  cases ended with
  | stopped stopping => exact .kept (.inl rfl) (inherits_of_queues rfl)
  | unbound refusal => exact .kept (.inl rfl) (inherits_of_queues rfl)
  | declare payload reply valid kind carried ended => exact ended.tokenStep kind carried
  | existing queue reply valid kind found ended => exact ended.tokenStep (.refl fabric) found

/-- Upkeep around a call changes neither the tokens nor the queues. -/
theorem TokenStep.between {before start ended after : Fabric J} (step : TokenStep start ended)
    (first : Touch before start) (last : Touch ended after) : TokenStep before after := by
  have stored (id : QueueId) : start.findQueue id = before.findQueue id := by
    rw [findQueue, first.queues, findQueue]
  have kept (id : QueueId) : after.findQueue id = ended.findQueue id := by
    rw [findQueue, last.queues, findQueue]
  cases step with
  | kept counter queues =>
      simp only [stored] at queues
      refine .kept ?_ fun id queue found => queues id queue (kept id ▸ found)
      rwa [last.fenceTokens, ← first.fenceTokens]
  | raised key old queue counter found lowered new up token others =>
      simp only [stored] at found others
      refine .raised key old queue ?_ found lowered (kept key ▸ new) up ?_
        fun id queue elsewhere listed => others id queue elsewhere (kept id ▸ listed)
      · rwa [last.fenceTokens, ← first.fenceTokens]
      · rwa [← first.fenceTokens]

theorem CommitCase.tokenStep [IJournal J] {fabric : Fabric J} {plan : BackendPlan}
    {queue : QueueRecord} {request : MutationRequest} {reply : Reply J MutationOutcome}
    (ended : CommitCase fabric plan queue request reply)
    (found : fabric.findQueue plan.queue = some queue) : TokenStep fabric reply.fabric := by
  cases ended with
  | refused refused =>
      exact .kept (.inl refused.touch.fenceTokens) (inherits_of_queues refused.queues)
  | lost status events after touch written =>
      exact .kept (.inl touch.fenceTokens) (inherits_of_queues touch.queues)
  | served middle now inner events after touch written ended final journal =>
      exact (ended.tokenStep touch found).between (.refl fabric) final

/-- A call that presents no request raises no fence. -/
theorem QueueStep.inherits {fabric : Fabric J} {call : Call} {result : Except Status Answer}
    {id : QueueId} {before : Option QueueRecord} {after : QueueRecord}
    (step : QueueStep fabric call result id before (some after))
    (mute : ∀ request, ¬ Presenting fabric request call) : Inherits before after := by
  cases step with
  | tended still tended quiet remembers => exact inherits_of_fence still.fence
  | unbound unbinds => exact inherits_of_fence (still_supersedeBinding _).fence
  | mutated start request now presented => exact absurd presented (mute request)
  | declared start request now presented =>
      subst presented
      exact absurd .applied (mute request)

theorem Recorded.fenceTokens [IJournal J] {α : Type} {before lost kept : Fabric J} {type : JournalRecordType}
    {payload : Bytes} {value : α} {reply : Reply J α}
    (recorded : Recorded before type payload lost kept value reply)
    (onLost : lost.fenceTokens = before.fenceTokens)
    (onKept : kept.fenceTokens = before.fenceTokens) :
    reply.fabric.fenceTokens = before.fenceTokens := by
  cases recorded with
  | lost status events after touch written => exact touch.fenceTokens.trans onLost
  | kept events after touch written => exact touch.fenceTokens.trans onKept

variable [IJournal J]

theorem serve_tokenStep (fabric : Fabric J) {call : Call} (living : call ≠ .recover) :
    TokenStep fabric (fabric.serve call).fabric := by
  have ended := serve_cases fabric call
  have mute (silent : ∀ request, ¬ Presenting fabric request call)
      (counter : (fabric.serve call).fabric.fenceTokens = fabric.fenceTokens) :
      TokenStep fabric (fabric.serve call).fabric := by
    refine .kept (.inl counter) fun id queue found => ?_
    have step := serve_queueStep fabric living id
    rw [found] at step
    exact step.inherits silent
  generalize fabric.serve call = reply at ended mute
  cases ended with
  | refused refused =>
      exact .kept (.inl refused.touch.fenceTokens) (inherits_of_queues refused.queues)
  | recovered => exact absurd rfl living
  | stopped touch journal => exact mute (by rintro _ ⟨⟩) touch.fenceTokens
  | edited lost kept updated value spent issued edit recorded =>
      refine mute ?_ (recorded.fenceTokens rfl rfl)
      cases edit <;> rintro _ ⟨⟩
  | classed resource name priority qos principal epoch provenance record cls classes nextClassId
      generation found declared recorded =>
      exact mute (by rintro _ ⟨⟩) (recorded.fenceTokens rfl rfl)
  | advanced principal provenance epoch payload minted recorded =>
      exact mute (by rintro _ ⟨⟩) (recorded.fenceTokens rfl rfl)
  | invalidated target principal epoch reason queue events after found touch journal =>
      exact mute (by rintro _ ⟨⟩) touch.fenceTokens
  | applied request now inner events after ended touch journal read =>
      exact ended.tokenStep.between (monotonicNow_touch fabric) touch
  | gated target expected principal provenance accepted refused =>
      exact mute (by rintro _ ⟨⟩) refused.touch.fenceTokens
  | planned target expected principal provenance plan accepted recorded =>
      exact mute (by rintro _ ⟨⟩) (recorded.fenceTokens rfl rfl)
  | committed plan applied provenance queue inner found ended => exact ended.tokenStep found
  | aborted plan reason recorded => exact mute (by rintro _ ⟨⟩) (recorded.fenceTokens rfl rfl)
  | explained target principal touch journal => exact mute (by rintro _ ⟨⟩) touch.fenceTokens
  | refreshed now touch journal => exact mute (by rintro _ ⟨⟩) touch.fenceTokens
  | compacted journal present touch rewritten => exact mute (by rintro _ ⟨⟩) touch.fenceTokens

/-! Lives. -/

omit [IJournal J] in
/-- The token of an entry whose fence was lowered before. -/
def raisedAt (before : Table QueueId QueueRecord) (entry : QueueId × QueueRecord) :
    Option UInt64 :=
  match before.get? entry.1 with
  | some old =>
      if !old.fence.fenced && entry.2.fence.fenced then some entry.2.fence.token else none
  | none => none

/-- The tokens of the fences raised along a life, in the order they were raised. -/
def tokensRaised (fabric : Fabric J) : List Call → List UInt64
  | [] => []
  | call :: rest =>
      let after := (fabric.serve call).fabric
      after.queues.entries.filterMap (raisedAt fabric.queues) ++ after.tokensRaised rest

omit [IJournal J] in
theorem raisedAt_eq_some {before : Fabric J} {id : QueueId} {queue : QueueRecord}
    {token : UInt64} (selected : raisedAt before.queues (id, queue) = some token) :
    ∃ old, before.findQueue id = some old ∧ old.fence.fenced = false ∧
      queue.fence.fenced = true ∧ queue.fence.token = token := by
  rw [raisedAt] at selected
  cases found : before.queues.get? id with
  | none => simp [found] at selected
  | some old =>
      simp only [found, Option.ite_none_right_eq_some, Bool.and_eq_true, Bool.not_eq_eq_eq_not,
        Bool.not_true, Option.some.injEq] at selected
      exact ⟨old, found, selected.1.1, selected.1.2, selected.2⟩

omit [IJournal J] in
/-- The entry a call has raised is the one its step names. -/
theorem TokenStep.selects {before after : Fabric J} (step : TokenStep before after) :
    ∃ key, ∀ id queue token, after.findQueue id = some queue →
      raisedAt before.queues (id, queue) = some token →
      id = key ∧ token = before.fenceTokens + 1 ∧ after.fenceTokens = before.fenceTokens + 1 := by
  have idle {id : QueueId} {queue : QueueRecord} {token : UInt64}
      (selected : raisedAt before.queues (id, queue) = some token) :
      ¬ Inherits (before.findQueue id) queue := by
    obtain ⟨old, found, lowered, up, _⟩ := raisedAt_eq_some selected
    intro inherits
    rw [found] at inherits
    cases inherits with
    | kept token held => simp [held up] at lowered
  cases step with
  | kept counter queues =>
      exact ⟨default, fun id queue token found selected =>
        absurd (queues id queue found) (idle selected)⟩
  | raised key old queue counter stored lowered found up token others =>
      refine ⟨key, fun id queue' token' found' selected => ?_⟩
      by_cases here : id = key
      · subst here
        rw [found] at found'
        cases found'
        obtain ⟨_, _, _, _, same⟩ := raisedAt_eq_some selected
        exact ⟨rfl, same.symm.trans token, counter⟩
      · exact absurd (others id queue' here found') (idle selected)

/-- What the queues of a life carry: tokens issued so far, and from `base` on each on one queue. -/
structure TokensHeld (base : UInt64) (fabric : Fabric J) : Prop where
  based : base ≤ fabric.fenceTokens
  issued : ∀ id queue, fabric.findQueue id = some queue → queue.fence.token ≤ fabric.fenceTokens
  apart : ∀ id other queue queue', fabric.findQueue id = some queue →
    fabric.findQueue other = some queue' → queue.fence.token = queue'.fence.token →
    id = other ∨ queue.fence.token ≤ base

omit [IJournal J] in
theorem lt_succ {counter : UInt64} (room : counter.toNat + 1 < 2 ^ 64) : counter < counter + 1 := by
  have one : (1 : UInt64).toNat = 1 := rfl
  rw [UInt64.lt_iff_toNat_lt, UInt64.toNat_add, one, Nat.mod_eq_of_lt room]
  omega

omit [IJournal J] in
theorem TokenStep.counter {before after : Fabric J} (step : TokenStep before after) :
    after.fenceTokens = before.fenceTokens ∨ after.fenceTokens = before.fenceTokens + 1 := by
  cases step with
  | kept counter queues => exact counter
  | raised key old queue counter stored lowered found up token others => exact .inr counter

omit [IJournal J] in
theorem TokenStep.le {before after : Fabric J} (step : TokenStep before after)
    (room : before.fenceTokens.toNat + 1 < 2 ^ 64) : before.fenceTokens ≤ after.fenceTokens := by
  rcases step.counter with same | next
  · exact UInt64.le_of_eq same.symm
  · rw [next]
    exact UInt64.le_of_lt (lt_succ room)

omit [IJournal J] in
theorem Inherits.token_le {base : UInt64} {before : Fabric J} {id : QueueId} {queue : QueueRecord}
    (inherits : Inherits (before.findQueue id) queue) (held : TokensHeld base before) :
    queue.fence.token ≤ before.fenceTokens := by
  cases stored : before.findQueue id with
  | none =>
      rw [stored] at inherits
      cases inherits with
      | fresh blank =>
          rw [blank]
          exact UInt64.zero_le
  | some old =>
      rw [stored] at inherits
      cases inherits with
      | kept token _ =>
          rw [token]
          exact held.issued id old stored

omit [IJournal J] in
theorem TokensHeld.inherited {base : UInt64} {before : Fabric J} (held : TokensHeld base before)
    {id other : QueueId} {queue queue' : QueueRecord}
    (one : Inherits (before.findQueue id) queue) (two : Inherits (before.findQueue other) queue')
    (same : queue.fence.token = queue'.fence.token) : id = other ∨ queue.fence.token ≤ base := by
  have blank {fresh : QueueRecord} (blank : fresh.fence = {}) : fresh.fence.token ≤ base := by
    rw [blank]
    exact UInt64.zero_le
  cases stored : before.findQueue id with
  | none =>
      rw [stored] at one
      cases one with
      | fresh new => exact .inr (blank new)
  | some old =>
      cases stored' : before.findQueue other with
      | none =>
          rw [stored'] at two
          cases two with
          | fresh new =>
              rw [same]
              exact .inr (blank new)
      | some old' =>
          rw [stored] at one
          rw [stored'] at two
          cases one with
          | kept token _ =>
              cases two with
              | kept token' _ =>
                  rw [token] at same ⊢
                  exact held.apart id other old old' stored stored' (same.trans token')

omit [IJournal J] in
theorem TokensHeld.step {base : UInt64} {before after : Fabric J} (held : TokensHeld base before)
    (step : TokenStep before after) (room : before.fenceTokens.toNat + 1 < 2 ^ 64) :
    TokensHeld base after := by
  have later := step.le room
  refine ⟨UInt64.le_trans held.based later, ?_, ?_⟩
  · intro id queue found
    cases step with
    | kept counter queues =>
        exact UInt64.le_trans ((queues id queue found).token_le held) later
    | raised key old raised counter stored lowered here up token others =>
        by_cases same : id = key
        · subst same
          rw [here] at found
          cases found
          rw [token, counter]
          exact UInt64.le_refl _
        · exact UInt64.le_trans ((others id queue same found).token_le held) later
  · intro id other queue queue' found found' equal
    cases step with
    | kept counter queues =>
        exact held.inherited (queues id queue found) (queues other queue' found') equal
    | raised key old raised counter stored lowered here up token others =>
        -- a queue beside the raised one carries a token from before
        have beside {id : QueueId} {queue : QueueRecord} (elsewhere : id ≠ key)
            (found : after.findQueue id = some queue) : queue.fence.token ≠ raised.fence.token := by
          intro same
          have older := (others id queue elsewhere found).token_le held
          rw [same, token] at older
          exact absurd (lt_succ room) (UInt64.not_lt.mpr older)
        by_cases first : id = key
        · subst first
          rw [here] at found
          cases found
          by_cases second : other = id
          · exact .inl second.symm
          · exact absurd equal.symm (beside second found')
        · by_cases second : other = key
          · subst second
            rw [here] at found'
            cases found'
            exact absurd equal (beside first found)
          · exact held.inherited (others id queue first found) (others other queue' second found')
              equal

/-- The tokens raised along a life ascend and lie above every token issued before it. -/
theorem tokensRaised_ascend {base : UInt64} {fabric : Fabric J} (held : TokensHeld base fabric)
    {calls : List Call} (living : ∀ call ∈ calls, call ≠ .recover)
    (room : fabric.fenceTokens.toNat + calls.length < 2 ^ 64) :
    (fabric.tokensRaised calls).Pairwise (· < ·) ∧
      (∀ token ∈ fabric.tokensRaised calls, fabric.fenceTokens < token) ∧
      TokensHeld base (fabric.serveAll calls) := by
  induction calls generalizing fabric with
  | nil => exact ⟨List.Pairwise.nil, by simp [tokensRaised], held⟩
  | cons call rest ih =>
      have step := serve_tokenStep fabric (living call List.mem_cons_self)
      generalize next : (fabric.serve call).fabric = after at step
      rw [List.length_cons] at room
      have small : fabric.fenceTokens.toNat + 1 < 2 ^ 64 := by omega
      have later := step.le small
      have counted : after.fenceTokens.toNat ≤ fabric.fenceTokens.toNat + 1 := by
        rcases step.counter with same | issued
        · rw [same]
          omega
        · rw [issued, UInt64.toNat_add]
          exact Nat.mod_le _ _
      obtain ⟨ascend, above, final⟩ := ih (held.step step small)
        (fun other listed => living other (List.mem_cons_of_mem call listed)) (by omega)
      obtain ⟨key, selects⟩ := step.selects
      have named (entry : QueueId × QueueRecord) (listed : entry ∈ after.queues.entries)
          (token : UInt64) := selects entry.1 entry.2 token
        ((after.queues.mem_entries_iff entry.1 entry.2).mp listed)
      have raised : ∀ token ∈ after.queues.entries.filterMap (raisedAt fabric.queues),
          token = fabric.fenceTokens + 1 ∧ after.fenceTokens = fabric.fenceTokens + 1 := by
        intro token listed
        obtain ⟨entry, stored, selected⟩ := List.mem_filterMap.mp listed
        exact (named entry stored token selected).2
      have single : (after.queues.entries.filterMap (raisedAt fabric.queues)).Pairwise
          (· < ·) := by
        -- no two entries have the key of the raised one
        rw [List.pairwise_filterMap]
        refine (List.pairwise_map.mp after.queues.nodup).imp_of_mem ?_
        intro first second listed listed' distinct token selected token' selected'
        exact absurd ((named first listed token selected).1.trans
          (named second listed' token' selected').1.symm) distinct
      simp only [tokensRaised, next]
      refine ⟨List.pairwise_append.mpr ⟨single, ascend, fun token listed other listed' => ?_⟩,
        fun token listed => ?_, ?_⟩
      · obtain ⟨same, issued⟩ := raised token listed
        rw [same, ← issued]
        exact above other listed'
      · rcases List.mem_append.mp listed with here | there
        · rw [(raised token here).1]
          exact lt_succ small
        · exact UInt64.lt_of_le_of_lt later (above token there)
      · rw [serveAll, List.foldl_cons, next]
        exact final

/-! Recovered lives. -/

omit [IJournal J] in
theorem issued_rebuildIndexesLocked (fabric : Fabric J) (id : QueueId) (queue : QueueRecord)
    (found : fabric.rebuildIndexesLocked.findQueue id = some queue) :
    queue.fence.token ≤ fabric.rebuildIndexesLocked.fenceTokens := by
  refine (maxBy_spec fabric.queues.values (·.fence.token)).1 queue ?_
  exact List.mem_map_of_mem ((fabric.queues.mem_entries_iff id queue).mpr found)

theorem tokensHeld_recover {fabric : Fabric StableStore} (empty : fabric.queues = .empty)
    (recovered : fabric.recover.result = .ok ()) :
    TokensHeld fabric.recover.fabric.fenceTokens fabric.recover.fabric := by
  have issued : ∀ id queue, fabric.recover.fabric.findQueue id = some queue →
      queue.fence.token ≤ fabric.recover.fabric.fenceTokens := by
    intro id queue found
    have ended := recover_cases fabric
    generalize fabric.recover = reply at ended recovered found
    cases ended with
    | unjournaled absent result touch journal =>
        have none : reply.fabric.queues = .empty := touch.queues.trans empty
        rw [findQueue, none] at found
        cases found
    | unopened store present failed result => simp [recovered] at result
    | exhausted store scan status present opened scanned minted result =>
        simp [recovered] at result
    | replayed store last scan epoch replayed payload present opened scanned minted installed kept
        touch written named =>
        rw [findQueue, touch.queues] at found
        rw [touch.fenceTokens]
        exact issued_rebuildIndexesLocked _ id queue found
  exact ⟨UInt64.le_refl _, issued, fun id other queue queue' found found' equal =>
    .inr (issued id queue found)⟩

/-- In every life on every journal, the fences raised carry strictly ascending tokens, each above
every token the recovery restored, and no two queues share a token issued in this life. -/
theorem fence_tokens_ascend (config : FabricConfig) (clock : Clock)
    (journal : Option StableStore) (seed : UInt64) (calls : List Call)
    (recovered : (create config clock journal seed).recover.result = .ok ())
    (living : ∀ call ∈ calls, call ≠ .recover)
    (room : (create config clock journal seed).recover.fabric.fenceTokens.toNat +
      calls.length < 2 ^ 64) :
    let start := (create config clock journal seed).recover.fabric
    (start.tokensRaised calls).Pairwise (· < ·) ∧
      (∀ token ∈ start.tokensRaised calls, ∀ id queue, start.findQueue id = some queue →
        queue.fence.token < token) ∧
      ∀ id other queue queue', (start.serveAll calls).findQueue id = some queue →
        (start.serveAll calls).findQueue other = some queue' →
        queue.fence.token = queue'.fence.token → start.fenceTokens < queue.fence.token →
        id = other := by
  have held := @tokensHeld_recover (create config clock journal seed) rfl recovered
  intro start
  obtain ⟨ascend, above, final⟩ := tokensRaised_ascend held living room
  refine ⟨ascend, fun token listed id queue found => ?_, ?_⟩
  · exact UInt64.lt_of_le_of_lt (held.issued id queue found) (above token listed)
  · intro id other queue queue' found found' equal new
    rcases final.apart id other queue queue' found found' equal with same | old
    · exact same
    · exact absurd new (UInt64.not_lt.mpr old)

/-- A queue fenced, released and fenced again, with a repetition in between. -/
def fencingCalls : List Call := [
  .declareResource (text "r") ⟨5⟩ (System.sampleProvenance 1),
  .declareClass ⟨1⟩ (text "c") 0 {} ⟨5⟩ ⟨1⟩ (System.sampleProvenance 1),
  .declarePool ⟨1⟩ (text "p") 0 ⟨5⟩ ⟨1⟩ (System.sampleProvenance 1),
  .apply System.sampleDeclaration,
  .apply (System.sampleRequest 2 .fenceQueue (.fence ⟨true, text "held"⟩)),
  .apply (System.sampleRequest 2 .fenceQueue (.fence ⟨true, text "held"⟩)),
  .apply (System.sampleRequest 3 .unfenceQueue (.fence ⟨false, []⟩)),
  .apply (System.sampleRequest 4 .fenceQueue (.fence ⟨true, text "again"⟩))]

theorem fence_tokens_ascend_twice :
    let start := (create {} ⟨fun _ => 1000, 0⟩ (some ({} : StableStore)) 7).recover.fabric
    start.tokensRaised fencingCalls = [1, 2] ∧
      (start.tokensRaised fencingCalls).Pairwise (· < ·) :=
  ⟨by decide +kernel, (fence_tokens_ascend {} ⟨fun _ => 1000, 0⟩ (some {}) 7 fencingCalls
    (by decide +kernel) (by simp [fencingCalls]) (by decide +kernel)).1⟩

end Fabric

end QueueFabric
