import QueueFabric.QueueSteps

/-!
Lifecycles follow the closed table. Every change of a lifecycle within a life is
an edge of `transitionRules` made by a request that was executed; the paths of
the table are then the paths of every run.
-/

namespace QueueFabric

open QueueRecord

/-- An edge of the transition table. -/
def Edge (source target : Lifecycle) : Prop :=
  ∃ rule, (source, target, rule) ∈ transitionRules

theorem edge_of_allowed {source target : Lifecycle} (moves : source ≠ target)
    (allowed : (checkTransition source target).allowed = true) : Edge source target := by
  rw [checkTransition, if_neg moves] at allowed
  split at allowed
  · rename_i rule found
    have listed := List.mem_of_find?_eq_some found
    have matched := List.find?_some found
    simp only [Bool.and_eq_true, decide_eq_true_eq] at matched
    obtain ⟨one, two⟩ := matched
    exact ⟨rule.2.2, by rw [← one, ← two]; exact listed⟩
  · split at allowed <;> cases allowed

theorem not_edge_retired (target : Lifecycle) : ¬ Edge .retired target := by
  rintro ⟨rule, listed⟩
  simp [transitionRules] at listed

theorem edge_to_quiesced {source : Lifecycle} (edge : Edge source .quiesced) :
    source = .draining := by
  obtain ⟨rule, listed⟩ := edge
  simp only [transitionRules, List.mem_cons, Prod.mk.injEq, List.not_mem_nil] at listed
  simp at listed
  exact listed.1

theorem edge_from_live {source target : Lifecycle} (edge : Edge source target)
    (live : source = .active ∨ source = .draining ∨ source = .quiesced ∨ source = .failed) :
    target = .active ∨ source = .active ∧ target = .draining ∨
      source = .draining ∧ target = .quiesced ∨ target = .failed ∨
      target = .retired ∧ (source = .quiesced ∨ source = .failed) := by
  obtain ⟨rule, listed⟩ := edge
  rcases live with rfl | rfl | rfl | rfl
  all_goals
    simp [transitionRules] at listed
    rcases listed with listed | listed | listed <;> simp_all

namespace Fabric

variable {J : Type}

/-- What an accepted kind does to the lifecycle of its target. -/
inductive LifecycleMove (request : MutationRequest) (before after : Lifecycle) : Prop
  | kept (same : after = before)
  | moved (edge : Edge before after) (kind : request.kind ≠ .acknowledgeBackend)
      (quiesces : after = .quiesced → request.kind = .quiesceQueue)

theorem KindCase.lifecycleMove {fabric : Fabric J} {target : QueueRecord}
    {request : MutationRequest} {now : Nanos} {applied : KindApplied}
    (ended : KindCase fabric target request now applied) :
    LifecycleMove request target.lifecycle applied.target.lifecycle := by
  cases ended with
  | moved goal rule events kind moves allowed =>
      refine .moved (edge_of_allowed moves allowed) ?_ ?_
      · rcases kind with ⟨kind, _⟩ | ⟨kind, _⟩ <;> simp [kind]
      · rcases kind with ⟨_, rfl⟩ | ⟨_, rfl⟩ <;> simp
  | drainRequested rule events kind moves allowed =>
      exact .moved (edge_of_allowed moves allowed) (by simp [kind]) (by simp)
  | drainCancelled rule events kind draining =>
      refine .moved ?_ (by simp [kind]) (by simp)
      rw [draining]
      exact ⟨"drain-cancelled-by-revalidation", by simp [transitionRules]⟩
  | quiesced rule events kind draining complete acknowledged =>
      refine .moved ?_ (by simp [kind]) (fun _ => kind)
      rw [draining]
      exact ⟨"drain-proven-complete", by simp [transitionRules]⟩
  | failed reason rule events kind moves allowed =>
      exact .moved (edge_of_allowed moves allowed) (by simp [kind]) (by simp)
  | retired rule events kind moves allowed =>
      exact .moved (edge_of_allowed moves allowed) (by simp [kind]) (by simp)
  | _ => exact .kept rfl

variable [IJournal J]

omit [IJournal J] in
theorem QueueStep.lifecycle {fabric : Fabric J} {call : Call} {result : Except Status Answer}
    {id : QueueId} {before after : QueueRecord}
    (moved : QueueStep fabric call result id (some before) (some after))
    (changed : after.lifecycle ≠ before.lifecycle) :
    Edge before.lifecycle after.lifecycle ∧ ∃ request, call = .apply request ∧
      request.queue = id ∧ Executes result ∧
      (after.lifecycle = .quiesced → request.kind = .quiesceQueue) := by
  cases moved with
  | tended still tended quiet => exact absurd still.lifecycle changed
  | unbound unbinds => exact absurd rfl changed
  | mutated start request now presented named executed touch mutated =>
      obtain ⟨middle, applied, _, ended, unmoved⟩ := mutated.kindCase
      have move := ended.lifecycleMove
      rw [← unmoved.lifecycle] at move
      cases move with
      | kept same => exact absurd same changed
      | moved edge kind quiesces =>
          refine ⟨edge, request, ?_, named, executed, quiesces⟩
          cases presented with
          | applied => rfl
          | committed plan applied provenance same =>
              rw [same] at kind
              exact absurd rfl kind

/-- The lifecycle of a queue, if it is declared. -/
def lifecycleOf (fabric : Fabric J) (id : QueueId) : Option Lifecycle :=
  (fabric.findQueue id).map (·.lifecycle)

/-- The lifecycles a queue has gone through since it was active. -/
inductive Passed (fabric : Fabric J) (id : QueueId) (calls : List Call) : Lifecycle → Prop
  | active : Passed fabric id calls .active
  | draining (here : (fabric.serveAll calls).lifecycleOf id = some .draining) :
      Passed fabric id calls .draining
  | quiesced (first second : List Call) (split : calls = first ++ second)
      (drained : (fabric.serveAll first).lifecycleOf id = some .draining)
      (here : (fabric.serveAll calls).lifecycleOf id = some .quiesced) :
      Passed fabric id calls .quiesced
  | failed (here : (fabric.serveAll calls).lifecycleOf id = some .failed) :
      Passed fabric id calls .failed
  | retiredDrained (first second third : List Call) (split : calls = first ++ second ++ third)
      (drained : (fabric.serveAll first).lifecycleOf id = some .draining)
      (quiesced : (fabric.serveAll (first ++ second)).lifecycleOf id = some .quiesced) :
      Passed fabric id calls .retired
  | retiredFailed (first second : List Call) (split : calls = first ++ second)
      (failed : (fabric.serveAll first).lifecycleOf id = some .failed) :
      Passed fabric id calls .retired

theorem Passed.step {fabric : Fabric J} {id : QueueId} {calls : List Call} {call : Call}
    {before after : Lifecycle} (passed : Passed fabric id calls before)
    (here : (fabric.serveAll calls).lifecycleOf id = some before)
    (there : (fabric.serveAll (calls ++ [call])).lifecycleOf id = some after)
    (moved : after ≠ before → Edge before after) : Passed fabric id (calls ++ [call]) after := by
  by_cases same : after = before
  · subst same
    cases passed with
    | active => exact .active
    | draining _ => exact .draining there
    | quiesced first second split drained _ =>
        exact .quiesced first (second ++ [call]) (by simp [split]) drained there
    | failed _ => exact .failed there
    | retiredDrained first second third split drained quiesced =>
        exact .retiredDrained first second (third ++ [call]) (by simp [split]) drained quiesced
    | retiredFailed first second split failed =>
        exact .retiredFailed first (second ++ [call]) (by simp [split]) failed
  · have edge := moved same
    have live : before = .active ∨ before = .draining ∨ before = .quiesced ∨ before = .failed := by
      cases passed with
      | active => exact .inl rfl
      | draining _ => exact .inr (.inl rfl)
      | quiesced _ _ _ _ _ => exact .inr (.inr (.inl rfl))
      | failed _ => exact .inr (.inr (.inr rfl))
      | retiredDrained _ _ _ _ _ _ => exact absurd edge (not_edge_retired after)
      | retiredFailed _ _ _ _ => exact absurd edge (not_edge_retired after)
    rcases edge_from_live edge live with rfl | ⟨_, rfl⟩ | ⟨rfl, rfl⟩ | rfl | ⟨rfl, rfl | rfl⟩
    · exact .active
    · exact .draining there
    · exact .quiesced calls [call] rfl here there
    · exact .failed there
    · cases passed with
      | quiesced first second split drained _ =>
          exact .retiredDrained first second [call] (by rw [split]) drained (split ▸ here)
    · exact .retiredFailed calls [call] rfl here

theorem passed_of_active (fabric : Fabric J) (calls : List Call)
    (living : ∀ call ∈ calls, call ≠ .recover) (id : QueueId)
    (active : fabric.lifecycleOf id = some .active) :
    ∃ lifecycle, (fabric.serveAll calls).lifecycleOf id = some lifecycle ∧
      Passed fabric id calls lifecycle := by
  induction calls using List.reverseRecOn with
  | nil => exact ⟨.active, active, .active⟩
  | append_singleton done call ih =>
      obtain ⟨before, here, passed⟩ := ih fun other listed =>
        living other (List.mem_append_left [call] listed)
      obtain ⟨queue, found, rfl⟩ := Option.map_eq_some_iff.mp here
      obtain ⟨next, kept, moved⟩ := serve_keeps (fabric.serveAll done)
        (living call (by simp)) found
      have there : (fabric.serveAll (done ++ [call])).lifecycleOf id = some next.lifecycle := by
        rw [serveAll_concat, lifecycleOf, kept]
        rfl
      exact ⟨next.lifecycle, there, passed.step here there fun changed =>
        (moved.lifecycle changed).1⟩

theorem retired_stays (fabric : Fabric J) (calls : List Call)
    (living : ∀ call ∈ calls, call ≠ .recover) (id : QueueId)
    (retired : fabric.lifecycleOf id = some .retired) :
    (fabric.serveAll calls).lifecycleOf id = some .retired := by
  obtain ⟨queue, found, ended⟩ := Option.map_eq_some_iff.mp retired
  obtain ⟨next, kept, stays⟩ := serveAll_related
    (fun before after => before.lifecycle = .retired → after.lifecycle = .retired)
    (fun _ retired => retired) (fun _ _ _ one two => two ∘ one)
    (fun _ _ before after moved retired => by
      by_contra changed
      have edge := (moved.lifecycle (by rw [retired]; exact changed)).1
      rw [retired] at edge
      exact not_edge_retired _ edge)
    fabric calls living found
  rw [lifecycleOf, kept, Option.map_some, stays ended]

/-- Lifecycles of a life follow the table: every change is an edge made by an executed
application, retirement is absorbing, quiescence is entered from draining by `quiesce_queue` only,
and an active queue is retired only after it was draining and then quiesced, or failed. -/
theorem lifecycle_follows_table (fabric : Fabric J) (calls : List Call)
    (living : ∀ call ∈ calls, call ≠ .recover) (id : QueueId) :
    (∀ done call rest before after, calls = done ++ call :: rest →
      (fabric.serveAll done).lifecycleOf id = some before →
      (fabric.serveAll (done ++ [call])).lifecycleOf id = some after → after ≠ before →
      Edge before after ∧ (∃ request, call = .apply request ∧ request.queue = id ∧
        Executes ((fabric.serveAll done).serve call).result ∧
        (after = .quiesced → before = .draining ∧ request.kind = .quiesceQueue))) ∧
    (∀ earlier later rest, calls = earlier ++ later ++ rest →
      (fabric.serveAll earlier).lifecycleOf id = some .retired →
      (fabric.serveAll (earlier ++ later)).lifecycleOf id = some .retired) ∧
    ∀ earlier later rest, calls = earlier ++ later ++ rest →
      (fabric.serveAll earlier).lifecycleOf id = some .active →
      (fabric.serveAll (earlier ++ later)).lifecycleOf id = some .retired →
      (∃ first second third, later = first ++ second ++ third ∧
        (fabric.serveAll (earlier ++ first)).lifecycleOf id = some .draining ∧
        (fabric.serveAll (earlier ++ first ++ second)).lifecycleOf id = some .quiesced) ∨
      ∃ first second, later = first ++ second ∧
        (fabric.serveAll (earlier ++ first)).lifecycleOf id = some .failed := by
  refine ⟨?_, ?_, ?_⟩
  · intro done call rest before after split here there changed
    obtain ⟨queue, found, rfl⟩ := Option.map_eq_some_iff.mp here
    obtain ⟨next, kept, moved⟩ := serve_keeps (fabric.serveAll done)
      (living call (by simp [split])) found
    rw [serveAll_concat, lifecycleOf, kept, Option.map_some, Option.some.injEq] at there
    subst there
    obtain ⟨edge, request, applied, named, executes, quiesces⟩ := moved.lifecycle changed
    refine ⟨edge, request, applied, named, executes, fun entered => ?_⟩
    exact ⟨edge_to_quiesced (entered ▸ edge), quiesces entered⟩
  · intro earlier later rest split retired
    rw [serveAll_append]
    exact retired_stays _ later (fun call listed => living call (by simp [split, listed])) id
      retired
  · intro earlier later rest split active retired
    obtain ⟨lifecycle, final, passed⟩ := passed_of_active (fabric.serveAll earlier) later
      (fun call listed => living call (by simp [split, listed])) id active
    rw [serveAll_append, final, Option.some.injEq] at retired
    subst retired
    cases passed with
    | retiredDrained first second third parts drained quiesced =>
        refine .inl ⟨first, second, third, parts, ?_, ?_⟩
        · rw [serveAll_append, drained]
        · rw [List.append_assoc, serveAll_append, quiesced]
    | retiredFailed first second parts failed =>
        refine .inr ⟨first, second, parts, ?_⟩
        rw [serveAll_append, failed]

end Fabric

namespace System

def activation : List Call := [
  .apply (sampleRequest 2 .validateQueue .monostate),
  .apply (sampleRequest 3 .activateQueue .monostate)]

def cleanup : List Call := [
  .apply (sampleRequest 4 .failQueue (.fence ⟨true, text "broken"⟩)),
  .apply (sampleRequest 5 .retireQueue .monostate)]

/-- The sample queue is activated, fails and is retired. -/
theorem lifecycle_follows_table_cleanup :
    (sampleSystem.fabric.serveAll (activation ++ cleanup)).lifecycleOf ⟨1⟩ = some .retired ∧
      ((∃ first second third, cleanup = first ++ second ++ third ∧
        (sampleSystem.fabric.serveAll (activation ++ first)).lifecycleOf ⟨1⟩ = some .draining ∧
        (sampleSystem.fabric.serveAll (activation ++ first ++ second)).lifecycleOf ⟨1⟩ =
          some .quiesced) ∨
      ∃ first second, cleanup = first ++ second ∧
        (sampleSystem.fabric.serveAll (activation ++ first)).lifecycleOf ⟨1⟩ = some .failed) := by
  have living : ∀ call ∈ activation ++ cleanup, call ≠ .recover := by
    simp [activation, cleanup]
  have active : (sampleSystem.fabric.serveAll activation).lifecycleOf ⟨1⟩ = some .active := by
    decide +kernel
  have retired : (sampleSystem.fabric.serveAll (activation ++ cleanup)).lifecycleOf ⟨1⟩ =
      some .retired := by decide +kernel
  exact ⟨retired, (Fabric.lifecycle_follows_table sampleSystem.fabric (activation ++ cleanup)
    living ⟨1⟩).2.2 activation cleanup [] (by simp) active retired⟩

end System

end QueueFabric
