import QueueFabric.Lib.Stream

/-!
Where a reader stands in a stream: the items it took off the front and the input
that is left. Two readers of one stream took the same items, as far as both got.
-/

namespace Streaming

variable {β α ε : Type}

/-- Taking the items off the input leaves the rest. -/
inductive Reads (attempt : List β → Attempt β α ε) : List β → List α → List β → Prop
  | done (input : List β) : Reads attempt input [] input
  | item {input middle rest : List β} {item : α} {items : List α}
      (first : attempt input = .read item middle) (more : Reads attempt middle items rest) :
      Reads attempt input (item :: items) rest

variable {attempt : List β → Attempt β α ε} {input middle rest : List β} {items : List α}

theorem Reads.concat (reads : Reads attempt input items middle) {item : α}
    (last : attempt middle = .read item rest) : Reads attempt input (items ++ [item]) rest := by
  induction reads with
  | done input => exact .item last (.done rest)
  | item first more ih => exact .item first (ih last)

/-- Input that arrives later is left. -/
theorem Reads.append (steady : Steady attempt) (reads : Reads attempt input items rest)
    (later : List β) : Reads attempt (input ++ later) items (rest ++ later) := by
  induction reads with
  | done input => exact .done _
  | item first more ih => exact .item (steady.read later first) ih

/-- What was written is read back. -/
theorem reads_written {write : α → List β} (items : List α)
    (reads : ∀ item ∈ items, ∀ rest, attempt (write item ++ rest) = .read item rest) :
    Reads attempt (items.flatMap write) items [] := by
  induction items with
  | nil => exact .done []
  | cons item rest ih =>
      rw [List.flatMap_cons]
      exact .item (reads item List.mem_cons_self _)
        (ih fun other listed => reads other (List.mem_cons_of_mem item listed))

/-- Nobody gets further in a stream than a reader who can read no more. -/
theorem Reads.ahead (reads : Reads attempt input items rest) {whole : List α} {left : List β}
    (all : Reads attempt input whole left) (short : attempt left = .short) : items <+: whole := by
  induction reads generalizing whole with
  | done input => exact List.nil_prefix
  | item first more ih =>
      cases all with
      | done => rw [short] at first; cases first
      | item first' more' =>
          rw [first] at first'
          cases first'
          exact List.cons_prefix_cons.mpr ⟨rfl, ih more'⟩

/-- Two readers who can read no more took the same items. -/
theorem Reads.agree (reads : Reads attempt input items rest) (short : attempt rest = .short)
    {others : List α} {left : List β} (all : Reads attempt input others left)
    (stuck : attempt left = .short) : items = others :=
  (reads.ahead all stuck).eq_of_length_le (all.ahead reads short).length_le

/-- A reader of the first part of what was written took the first of the items written. -/
theorem Reads.written (steady : Steady attempt) (short : attempt [] = .short)
    {write : α → List β} {whole : List α}
    (writes : ∀ item ∈ whole, ∀ rest, attempt (write item ++ rest) = .read item rest)
    (reads : Reads attempt input items rest) (part : input <+: whole.flatMap write) :
    items <+: whole := by
  obtain ⟨later, same⟩ := part
  have extended := reads.append steady later
  rw [same] at extended
  exact extended.ahead (reads_written whole writes) short

end Streaming
