import QueueFabric.Lib.Runs

/-!
Forward simulation. A deterministic machine that answers every input is compared
with a machine that may answer an input in several ways: when every step of the
first is matched by some step of the second, so is every run, answer by answer.
-/

namespace Simulation

variable {σ τ ι ο : Type}

section Machines

variable (step : σ → ι → ο × σ) (moves : τ → ι → ο → τ → Prop)

/-- The state a run of the first machine ends in. -/
def final (state : σ) (inputs : List ι) : σ :=
  inputs.foldl (fun state input => (step state input).2) state

/-- The answers along a run of the first machine. -/
def answers : σ → List ι → List ο
  | _, [] => []
  | state, input :: rest => (step state input).1 :: answers (step state input).2 rest

/-- A run of the second machine with the answers it gives. -/
inductive Accepts : τ → List ι → List ο → τ → Prop
  | done (state : τ) : Accepts state [] [] state
  | step {state middle last : τ} {input : ι} {answer : ο} {rest : List ι} {later : List ο}
      (first : moves state input answer middle) (more : Accepts middle rest later last) :
      Accepts state (input :: rest) (answer :: later) last

/-- Every step of the first machine is matched, and the relation is kept. -/
def Simulates (related : σ → τ → Prop) : Prop :=
  ∀ state mirror input, related state mirror →
    ∃ next, moves mirror input (step state input).1 next ∧ related (step state input).2 next

end Machines

variable {step : σ → ι → ο × σ} {moves : τ → ι → ο → τ → Prop} {related : σ → τ → Prop}

/-- A simulation matches whole runs. -/
theorem Simulates.run (simulates : Simulates step moves related) {state : σ} {mirror : τ}
    (start : related state mirror) (inputs : List ι) :
    ∃ last, Accepts moves mirror inputs (answers step state inputs) last ∧
      related (final step state inputs) last := by
  induction inputs generalizing state mirror with
  | nil => exact ⟨mirror, .done mirror, start⟩
  | cons input rest ih =>
      obtain ⟨middle, first, kept⟩ := simulates state mirror input start
      obtain ⟨last, more, ended⟩ := ih kept
      exact ⟨last, .step first more, ended⟩

theorem final_append (state : σ) (early late : List ι) :
    final step state (early ++ late) = final step (final step state early) late :=
  List.foldl_append

/-- What the second machine keeps under some inputs holds at the end of their runs. -/
theorem Accepts.invariant {holds : τ → Prop} {allowed : ι → Prop}
    (preserved : ∀ state input answer next, allowed input → holds state →
      moves state input answer next → holds next)
    {state last : τ} {inputs : List ι} {later : List ο}
    (accepts : Accepts moves state inputs later last) (inside : ∀ input ∈ inputs, allowed input)
    (start : holds state) : holds last := by
  induction accepts with
  | done state => exact start
  | step first more ih =>
      exact ih (fun input member => inside input (.tail _ member))
        (preserved _ _ _ _ (inside _ (.head _)) start first)

end Simulation
