import Mathlib

/-!
Runs of a deterministic transition system: conditions that hold at every step of
a run, and the induction rules that carry an invariant along it.
-/

namespace Runs

variable {σ ι : Type} (step : σ → ι → σ) (allowed : σ → ι → Prop)

/-- Every step of the run from `state` is allowed where it is taken. -/
def Along : σ → List ι → Prop
  | _, [] => True
  | state, input :: rest => allowed state input ∧ Along (step state input) rest

variable {step allowed}

theorem along_append (state : σ) (first second : List ι) :
    Along step allowed state (first ++ second) ↔
      Along step allowed state first ∧ Along step allowed (first.foldl step state) second := by
  induction first generalizing state with
  | nil => simp [Along]
  | cons input rest ih =>
      simp only [List.cons_append, Along, List.foldl_cons, ih]
      exact and_assoc.symm

/-- Inputs that are allowed everywhere make a run that is allowed throughout. -/
theorem along_of_forall {inputs : List ι} (all : ∀ input ∈ inputs, ∀ state, allowed state input)
    (state : σ) : Along step allowed state inputs := by
  induction inputs generalizing state with
  | nil => trivial
  | cons input rest ih =>
      refine ⟨all input List.mem_cons_self state, ih (fun other listed => ?_) (step state input)⟩
      exact all other (List.mem_cons_of_mem input listed)

/-- What is allowed everywhere is allowed along every run. -/
theorem along_of_all (all : ∀ state input, allowed state input) (state : σ) (inputs : List ι) :
    Along step allowed state inputs :=
  along_of_forall (fun input _ state => all state input) state

/-- What allowed steps preserve holds after every allowed run. -/
theorem invariant {holds : σ → Prop}
    (preserved : ∀ state input, holds state → allowed state input → holds (step state input))
    {state : σ} (start : holds state) {inputs : List ι} (along : Along step allowed state inputs) :
    holds (inputs.foldl step state) := by
  induction inputs generalizing state with
  | nil => exact start
  | cons input rest ih => exact ih (preserved state input start along.1) along.2

/-- As `invariant`, for a property of the run so far and the state it reached. -/
theorem history_invariant {holds : List ι → σ → Prop} {state : σ}
    (preserved : ∀ done input, holds done (done.foldl step state) →
      allowed (done.foldl step state) input →
      holds (done ++ [input]) (step (done.foldl step state) input))
    (start : holds [] state) {inputs : List ι} (along : Along step allowed state inputs) :
    holds inputs (inputs.foldl step state) := by
  induction inputs using List.reverseRecOn with
  | nil => exact start
  | append_singleton done input ih =>
      obtain ⟨before, last⟩ := (along_append state done [input]).mp along
      rw [List.foldl_append]
      exact preserved done input (ih before) last.1

/-! Conditions and events that look back at the run so far. -/

/-- Every step of the run is allowed after the steps before it. -/
def Throughout (allowed : List ι → ι → Prop) (inputs : List ι) : Prop :=
  ∀ done input rest, inputs = done ++ input :: rest → allowed done input

theorem throughout_nil (allowed : List ι → ι → Prop) : Throughout allowed [] := by
  intro done input rest split
  simp at split

theorem throughout_concat {allowed : List ι → ι → Prop} {done : List ι} {input : ι} :
    Throughout allowed (done ++ [input]) ↔ Throughout allowed done ∧ allowed done input := by
  constructor
  · intro all
    refine ⟨fun before other rest split => ?_, all done input [] rfl⟩
    exact all before other (rest ++ [input]) (by simp [split])
  · rintro ⟨early, last⟩ before other rest split
    cases rest using List.reverseRecOn with
    | nil =>
        obtain ⟨same, rfl⟩ := List.append_inj' split rfl |>.imp_right List.singleton_inj.mp
        exact same ▸ last
    | append_singleton rest final =>
        rw [← List.cons_append, ← List.append_assoc] at split
        exact early before other rest (List.append_inj' split rfl).1

theorem throughout_invariant {allowed : List ι → ι → Prop} {holds : List ι → Prop}
    (start : holds [])
    (preserved : ∀ done input, holds done → allowed done input → holds (done ++ [input]))
    {inputs : List ι} (all : Throughout allowed inputs) : holds inputs := by
  induction inputs using List.reverseRecOn with
  | nil => exact start
  | append_singleton done input ih =>
      obtain ⟨early, last⟩ := throughout_concat.mp all
      exact preserved done input (ih early) last

/-- Each selected value is related to those selected before it. -/
theorem pairwise_filterMap_iff {α : Type} {select : ι → Option α} {related : α → α → Prop}
    {inputs : List ι} :
    (inputs.filterMap select).Pairwise related ↔
      Throughout (fun done input => ∀ value, select input = some value →
        ∀ earlier ∈ done.filterMap select, related earlier value) inputs := by
  induction inputs using List.reverseRecOn with
  | nil => exact ⟨fun _ => throughout_nil _, fun _ => List.Pairwise.nil⟩
  | append_singleton done input ih =>
      rw [throughout_concat, ← ih, List.filterMap_append, List.pairwise_append]
      cases selected : select input with
      | none => simp [selected]
      | some value =>
          simp only [List.filterMap_cons, selected, List.filterMap_nil, List.pairwise_singleton,
            List.mem_singleton, forall_eq, true_and, Option.some.injEq, forall_eq']

variable (step) in
/-- Some step of the run was taken where `event` held. -/
def Happened (event : σ → ι → Prop) (state : σ) (done : List ι) : Prop :=
  ∃ before input after, done = before ++ input :: after ∧ event (before.foldl step state) input

theorem Happened.later {event : σ → ι → Prop} {state : σ} {done : List ι}
    (happened : Happened step event state done) (input : ι) :
    Happened step event state (done ++ [input]) := by
  obtain ⟨before, earlier, after, rfl, held⟩ := happened
  exact ⟨before, earlier, after ++ [input], by simp, held⟩

theorem Happened.now {event : σ → ι → Prop} {state : σ} {done : List ι} {input : ι}
    (held : event (done.foldl step state) input) :
    Happened step event state (done ++ [input]) := ⟨done, input, [], rfl, held⟩

variable (step) in
/-- Some step of the run was taken where `event` held, and every later one where `quiet` held. -/
def Since (event quiet : σ → ι → Prop) (state : σ) (done : List ι) : Prop :=
  ∃ before input after, done = before ++ input :: after ∧ event (before.foldl step state) input ∧
    Along step quiet (step (before.foldl step state) input) after

theorem Since.later {event quiet : σ → ι → Prop} {state : σ} {done : List ι} {input : ι}
    (since : Since step event quiet state done) (calm : quiet (done.foldl step state) input) :
    Since step event quiet state (done ++ [input]) := by
  obtain ⟨before, earlier, after, rfl, held, along⟩ := since
  refine ⟨before, earlier, after ++ [input], by simp, held, (along_append _ _ _).mpr ⟨along, ?_⟩⟩
  rw [List.foldl_append, List.foldl_cons] at calm
  exact ⟨calm, trivial⟩

theorem Since.now {event quiet : σ → ι → Prop} {state : σ} {done : List ι} {input : ι}
    (held : event (done.foldl step state) input) :
    Since step event quiet state (done ++ [input]) := ⟨done, input, [], rfl, held, trivial⟩

theorem since_concat {event quiet : σ → ι → Prop} {state : σ} {done : List ι} {input : ι} :
    Since step event quiet state (done ++ [input]) ↔
      event (done.foldl step state) input ∨
        Since step event quiet state done ∧ quiet (done.foldl step state) input := by
  constructor
  · rintro ⟨before, earlier, after, split, held, along⟩
    cases after using List.reverseRecOn with
    | nil =>
        obtain ⟨rfl, same⟩ := List.append_inj' split rfl
        cases same
        exact .inl held
    | append_singleton after last =>
        rw [← List.cons_append, ← List.append_assoc] at split
        obtain ⟨rfl, same⟩ := List.append_inj' split rfl
        cases same
        obtain ⟨calm, final, _⟩ := (along_append _ _ _).mp along
        refine .inr ⟨⟨before, earlier, after, rfl, held, calm⟩, ?_⟩
        rw [List.foldl_append, List.foldl_cons]
        exact final
  · rintro (held | ⟨since, calm⟩)
    · exact .now held
    · exact since.later calm

end Runs
