import QueueFabric.QueueSteps

/-!
A generation identifies a definition. Within a life the definition of a queue
changes only with its generation, one step at a time and never backwards.
-/

namespace QueueFabric

open QueueRecord

/-- How one step may change a definition. -/
structure QueueDefinition.Advances (before after : QueueDefinition) : Prop where
  id : after.id = before.id
  resource : after.resource = before.resource
  name : after.name = before.name
  depth : after.depth = before.depth
  pool : after.pool = before.pool
  declaredBy : after.declaredBy = before.declaredBy
  declaredAt : after.declaredAt = before.declaredAt
  generation : after.generation = before.generation ∨
    after.generation.value.toNat = before.generation.value.toNat + 1
  changes : after.generation.value.toNat = before.generation.value.toNat + 1 ↔
    after.cls ≠ before.cls ∨ after.thresholds ≠ before.thresholds ∨ after.owner ≠ before.owner

namespace QueueDefinition

theorem Advances.refl (definition : QueueDefinition) : Advances definition definition where
  id := rfl
  resource := rfl
  name := rfl
  depth := rfl
  pool := rfl
  declaredBy := rfl
  declaredAt := rfl
  generation := .inl rfl
  changes := by simp

theorem Advances.eq_of_generation {before after : QueueDefinition}
    (advances : Advances before after) (same : after.generation = before.generation) :
    after = before := by
  have unchanged := advances.changes.not.mp (by rw [same]; omega)
  simp only [ne_eq, not_or, not_not] at unchanged
  cases before
  cases after
  simp only [QueueDefinition.mk.injEq]
  exact ⟨advances.id, advances.resource, advances.name, advances.depth, unchanged.1, advances.pool,
    unchanged.2.1, unchanged.2.2, same, advances.declaredBy, advances.declaredAt⟩

theorem Advances.le {before after : QueueDefinition} (advances : Advances before after) :
    before.generation.value.toNat ≤ after.generation.value.toNat := by
  rcases advances.generation with same | next
  · rw [same]
  · omega

/-- The generation never falls, and where it stands the definition stands. -/
def Succeeds (before after : QueueDefinition) : Prop :=
  before.generation.value.toNat ≤ after.generation.value.toNat ∧
    (after.generation = before.generation → after = before)

theorem Succeeds.trans {first second third : QueueDefinition} (one : Succeeds first second)
    (two : Succeeds second third) : Succeeds first third := by
  refine ⟨one.1.trans two.1, fun same => ?_⟩
  have middle : second.generation.value.toNat = first.generation.value.toNat := by
    have lower := one.1
    have upper := two.1
    rw [same] at upper
    omega
  have equal : second.generation = first.generation := by
    have value := UInt64.toNat_inj.mp middle
    cases held : second.generation
    cases started : first.generation
    rw [held, started] at value
    exact congrArg Counter.mk value
  exact (two.2 (same.trans equal.symm)).trans (one.2 equal)

end QueueDefinition

open QueueDefinition

namespace Fabric

variable {J : Type}

theorem Counter.next_toNat {tag : CounterTag} {counter successor : Counter tag}
    (minted : counter.next = .ok successor) :
    successor.value.toNat = counter.value.toNat + 1 := by
  rw [QueueFabric.Counter.next] at minted
  split at minted
  · cases minted
  · rename_i small
    rw [Except.ok.injEq] at minted
    subst minted
    have bound := counter.value.toNat_lt
    have below : counter.value.toNat ≠ 0xFFFFFFFFFFFFFFFF :=
      fun equal => small (UInt64.toNat_inj.mp equal)
    rw [UInt64.toNat_add]
    simp only [UInt64.toNat_one]
    omega

theorem KindCase.advances {fabric : Fabric J} {target : QueueRecord} {request : MutationRequest}
    {now : Nanos} {applied : KindApplied} (ended : KindCase fabric target request now applied) :
    Advances target.definition applied.target.definition := by
  cases ended with
  | redefined cls thresholds owner generation rule events minted kind changed bound ladder =>
      have next := Counter.next_toNat minted
      exact ⟨rfl, rfl, rfl, rfl, rfl, rfl, rfl, .inr next, iff_of_true next changed⟩
  | _ => exact .refl _

variable [IJournal J]

omit [IJournal J] in
theorem QueueStep.advances {fabric : Fabric J} {call : Call} {result : Except Status Answer}
    {id : QueueId} {before after : QueueRecord}
    (moved : QueueStep fabric call result id (some before) (some after)) :
    Advances before.definition after.definition := by
  cases moved with
  | tended still tended quiet => exact still.definition ▸ .refl _
  | unbound unbinds => exact .refl _
  | mutated start request now presented named executed touch mutated =>
      obtain ⟨middle, applied, _, ended, unmoved⟩ := mutated.kindCase
      exact unmoved.definition ▸ ended.advances

/-- Along a life every call advances a definition by at most one generation, and two states in
which a queue has one generation have one definition. -/
theorem generation_identifies_definition (fabric : Fabric J) (calls : List Call)
    (living : ∀ call ∈ calls, call ≠ .recover) (id : QueueId) :
    (∀ done call rest queue, calls = done ++ call :: rest →
      (fabric.serveAll done).findQueue id = some queue →
      ∃ next, (fabric.serveAll (done ++ [call])).findQueue id = some next ∧
        Advances queue.definition next.definition) ∧
    ∀ earlier later rest first second, calls = earlier ++ later ++ rest →
      (fabric.serveAll earlier).findQueue id = some first →
      (fabric.serveAll (earlier ++ later)).findQueue id = some second →
      first.definition.generation.value.toNat ≤ second.definition.generation.value.toNat ∧
        (second.definition.generation = first.definition.generation →
          second.definition = first.definition) := by
  constructor
  · intro done call rest queue split found
    have alive : call ≠ .recover := living call (by simp [split])
    obtain ⟨next, kept, moved⟩ := serve_keeps (fabric.serveAll done) alive found
    exact ⟨next, by rw [serveAll_concat, kept], moved.advances⟩
  · intro earlier later rest first second split found final
    have alive : ∀ call ∈ later, call ≠ .recover := fun call listed =>
      living call (by simp [split, listed])
    obtain ⟨last, kept, succeeds⟩ := serveAll_related
      (fun before after => Succeeds before.definition after.definition)
      (fun queue => ⟨Nat.le_refl _, fun _ => rfl⟩) (fun _ _ _ => Succeeds.trans)
      (fun _ _ _ _ moved => ⟨moved.advances.le, moved.advances.eq_of_generation⟩)
      (fabric.serveAll earlier) later alive found
    rw [serveAll_append, kept, Option.some.injEq] at final
    exact final ▸ succeeds

end Fabric

namespace System

def raisedThresholds : Call :=
  .apply (sampleRequest 2 .setThresholds (.thresholds ⟨10, 60, 100, 0, 0⟩))

/-- A threshold update takes the sample queue from generation one to two. -/
theorem generation_identifies_definition_once :
    ∃ before after, sampleSystem.fabric.findQueue ⟨1⟩ = some before ∧
      (sampleSystem.fabric.serveAll [raisedThresholds]).findQueue ⟨1⟩ = some after ∧
      after.definition.generation.value.toNat = before.definition.generation.value.toNat + 1 ∧
      Advances before.definition after.definition := by
  have living : ∀ call ∈ [raisedThresholds], call ≠ .recover := by
    intro call listed
    rw [List.mem_singleton] at listed
    subst listed
    simp [raisedThresholds]
  have generation : (sampleSystem.fabric.findQueue ⟨1⟩).map (·.definition.generation.value.toNat) =
      some 1 := by decide +kernel
  have raised : ((sampleSystem.fabric.serveAll [raisedThresholds]).findQueue ⟨1⟩).map
      (·.definition.generation.value.toNat) = some 2 := by decide +kernel
  obtain ⟨before, found, one⟩ := Option.map_eq_some_iff.mp generation
  obtain ⟨after, kept, advances⟩ := (Fabric.generation_identifies_definition sampleSystem.fabric
    [raisedThresholds] living ⟨1⟩).1 [] raisedThresholds [] before rfl found
  refine ⟨before, after, found, kept, ?_, advances⟩
  rw [List.nil_append] at kept
  rw [kept, Option.map_some, Option.some.injEq] at raised
  rw [one, raised]

end System

end QueueFabric
