import Mathlib.Data.List.Basic

/-!
Reading items off a stream that arrives in pieces. A reader that never revises a
decision when more input arrives yields the same items however the stream is cut.
-/

namespace Streaming

variable {β α ε : Type}

/-- What one attempt makes of the unread input. -/
inductive Attempt (β α ε : Type)
  | short
  | refused (reason : ε)
  | read (item : α) (rest : List β)

/-- The reader between two deliveries. -/
inductive Pending (β ε : Type)
  | waiting (input : List β)
  | stopped (reason : ε)

/-- Later input changes no attempt that was decided, and every item takes some input. -/
structure Steady (attempt : List β → Attempt β α ε) : Prop where
  refused : ∀ {input reason} later, attempt input = .refused reason →
    attempt (input ++ later) = .refused reason
  read : ∀ {input item rest} later, attempt input = .read item rest →
    attempt (input ++ later) = .read item (rest ++ later)
  shrinks : ∀ {input item rest}, attempt input = .read item rest → rest.length < input.length

section Drain

variable (attempt : List β → Attempt β α ε)

def drainUpTo : Nat → List β → List α × Pending β ε
  | 0, input => ([], .waiting input)
  | fuel + 1, input =>
      match attempt input with
      | .short => ([], .waiting input)
      | .refused reason => ([], .stopped reason)
      | .read item rest =>
          let more := drainUpTo fuel rest
          (item :: more.1, more.2)

/-- Every item that can be read off the input. -/
def drain (input : List β) : List α × Pending β ε := drainUpTo attempt (input.length + 1) input

/-- A delivery extends the unread input; a stopped reader stays stopped. -/
def deliver : Pending β ε → List β → List α × Pending β ε
  | .stopped reason, _ => ([], .stopped reason)
  | .waiting input, chunk => drain attempt (input ++ chunk)

def deliverAll (state : Pending β ε) : List (List β) → List α × Pending β ε
  | [] => ([], state)
  | chunk :: rest =>
      let first := deliver attempt state chunk
      let more := deliverAll first.2 rest
      (first.1 ++ more.1, more.2)

end Drain

variable {attempt : List β → Attempt β α ε}

/-- Any fuel above the length of the input is enough. -/
theorem drainUpTo_enough (steady : Steady attempt) {fuel : Nat} {input : List β}
    (enough : input.length < fuel) : drainUpTo attempt fuel input = drain attempt input := by
  have same : ∀ first second (input : List β), input.length < first → input.length < second →
      drainUpTo attempt first input = drainUpTo attempt second input := by
    intro first
    induction first with
    | zero => intro second input none; omega
    | succ first ih =>
        intro second input here there
        cases second with
        | zero => omega
        | succ second =>
            simp only [drainUpTo]
            cases attempted : attempt input with
            | short => rfl
            | refused reason => rfl
            | read item rest =>
                have shorter := steady.shrinks attempted
                simp only [ih second rest (by omega) (by omega)]
  exact same fuel (input.length + 1) input enough (by omega)

section Equations

theorem drain_short {input : List β} (attempted : attempt input = .short) :
    drain attempt input = ([], .waiting input) := by
  simp only [drain, drainUpTo, attempted]

theorem drain_refused {input : List β} {reason : ε} (attempted : attempt input = .refused reason) :
    drain attempt input = ([], .stopped reason) := by
  simp only [drain, drainUpTo, attempted]

theorem drain_read (steady : Steady attempt) {input rest : List β} {item : α}
    (attempted : attempt input = .read item rest) :
    drain attempt input = (item :: (drain attempt rest).1, (drain attempt rest).2) := by
  have shorter := steady.shrinks attempted
  have enough := drainUpTo_enough steady shorter
  rw [drain, drainUpTo, attempted]
  simp only [enough]

end Equations

/-- Draining the whole is draining the first part and delivering the second. -/
theorem drain_append (steady : Steady attempt) (input later : List β) :
    drain attempt (input ++ later) =
      ((drain attempt input).1 ++ (deliver attempt (drain attempt input).2 later).1,
        (deliver attempt (drain attempt input).2 later).2) := by
  induction length : input.length using Nat.strongRecOn generalizing input with
  | _ size ih =>
      cases attempted : attempt input with
      | short =>
          rw [drain_short attempted]
          rfl
      | refused reason =>
          rw [drain_refused attempted, drain_refused (steady.refused later attempted)]
          rfl
      | read item rest =>
          have shorter := steady.shrinks attempted
          have step := ih rest.length (by omega) rest rfl
          rw [drain_read steady attempted, drain_read steady (steady.read later attempted), step]
          rfl

/-- Deliveries add up to one drain of everything delivered. -/
theorem deliverAll_flatten (steady : Steady attempt) (input : List β) (chunks : List (List β)) :
    drain attempt (input ++ chunks.flatten) =
      ((drain attempt input).1 ++ (deliverAll attempt (drain attempt input).2 chunks).1,
        (deliverAll attempt (drain attempt input).2 chunks).2) := by
  induction chunks generalizing input with
  | nil => simp [deliverAll]
  | cons chunk rest ih =>
      have first := drain_append steady input chunk
      rw [List.flatten_cons, ← List.append_assoc, ih, first]
      simp only [deliverAll, List.append_assoc]

/-- Items written one after the other are read back in order. -/
theorem drain_written (steady : Steady attempt) {write : α → List β} (items : List α)
    (tail : List β) (reads : ∀ item ∈ items, ∀ rest,
      attempt (write item ++ rest) = .read item rest) :
    drain attempt (items.flatMap write ++ tail) =
      (items ++ (drain attempt tail).1, (drain attempt tail).2) := by
  induction items with
  | nil => rfl
  | cons item rest ih =>
      have here := reads item List.mem_cons_self (rest.flatMap write ++ tail)
      have later := ih fun other listed => reads other (List.mem_cons_of_mem item listed)
      rw [List.flatMap_cons, List.append_assoc, drain_read steady here, later]
      rfl

end Streaming
