import Mathlib

/-!
Little-endian byte codecs with latching failure. A writer refuses to grow past
its limit and a reader refuses to read past its end; either failure sticks.
`Feeds` follows a put and a get side by side, field by field, so a round trip is
proved by listing its fields once.
-/

namespace Wire

def leBytes : Nat → Nat → List UInt8
  | 0, _ => []
  | width + 1, value => UInt8.ofNat (value % 256) :: leBytes width (value / 256)

def leValue : List UInt8 → Nat
  | [] => 0
  | byte :: rest => byte.toNat + 256 * leValue rest

@[simp] theorem length_leBytes (width value : Nat) : (leBytes width value).length = width := by
  induction width generalizing value with
  | zero => rfl
  | succ width ih => simp [leBytes, ih]

theorem leValue_leBytes (width value : Nat) :
    leValue (leBytes width value) = value % 256 ^ width := by
  induction width generalizing value with
  | zero => simp [leBytes, leValue, Nat.mod_one]
  | succ width ih =>
      have small : value % 256 % 2 ^ 8 = value % 256 := Nat.mod_eq_of_lt (by omega)
      simp only [leBytes, leValue, ih, UInt8.toNat_ofNat', small]
      rw [Nat.pow_succ, Nat.mul_comm (256 ^ width) 256, Nat.mod_mul]

theorem leValue_lt (data : List UInt8) : leValue data < 256 ^ data.length := by
  induction data with
  | nil => simp [leValue]
  | cons byte more ih =>
      have small := byte.toNat_lt
      simp only [leValue, List.length_cons, Nat.pow_succ]
      omega

theorem leBytes_leValue (data : List UInt8) : leBytes data.length (leValue data) = data := by
  induction data with
  | nil => rfl
  | cons byte more ih =>
      have small := byte.toNat_lt
      have low : (byte.toNat + 256 * leValue more) % 256 = byte.toNat := by omega
      have high : (byte.toNat + 256 * leValue more) / 256 = leValue more := by omega
      rw [List.length_cons, leBytes, leValue, low, high, ih, UInt8.ofNat_toNat]

/-! Writers. -/

structure Writer where
  buffer : List UInt8
  limit : Nat
  failed : Bool

namespace Writer

def fresh (limit : Nat) : Writer := ⟨[], limit, false⟩

def putRaw (writer : Writer) (data : List UInt8) : Writer :=
  if writer.failed then writer
  else if data.length > writer.limit ∨ writer.buffer.length > writer.limit - data.length then
    { writer with failed := true }
  else { writer with buffer := writer.buffer ++ data }

def putUInt (writer : Writer) (width value : Nat) : Writer := writer.putRaw (leBytes width value)

/-- Puts every item of a list in order. -/
def putMany {α : Type} (put : Writer → α → Writer) (writer : Writer) (items : List α) : Writer :=
  items.foldl put writer

/-- The finished encoding; a failed writer yields no bytes. -/
def finish (writer : Writer) : List UInt8 := if writer.failed then [] else writer.buffer

end Writer

/-! Readers. -/

structure Reader where
  rest : List UInt8
  failed : Bool

abbrev Get (α : Type) := StateM Reader α

def getRaw (size : Nat) : Get (List UInt8) := fun reader =>
  if reader.failed ∨ size > reader.rest.length then ([], { reader with failed := true })
  else (reader.rest.take size, { reader with rest := reader.rest.drop size })

def getUInt (width : Nat) : Get Nat := do
  let bytes ← getRaw width
  return leValue bytes

def failing : Get Bool := fun reader => (reader.failed, reader)

def latch : Get Unit := fun reader => ((), { reader with failed := true })

def getMany {α : Type} (item : Get α) : Nat → Get (List α)
  | 0 => return []
  | count + 1 => do
      let first ← item
      let rest ← getMany item count
      return first :: rest

/-! A latched reader stays latched. -/

def Latches {α : Type} (get : Get α) : Prop :=
  ∀ reader, reader.failed = true → (get reader).2.failed = true

theorem latches_pure {α : Type} (value : α) : Latches (pure value) := fun _ failed => failed

theorem Latches.bind {α β : Type} {get : Get α} {next : α → Get β}
    (one : Latches get) (two : ∀ value, Latches (next value)) : Latches (get >>= next) :=
  fun reader failed => two _ _ (one reader failed)

theorem latches_getRaw (size : Nat) : Latches (getRaw size) := by
  intro reader failed
  simp [getRaw, failed]

theorem latches_getUInt (width : Nat) : Latches (getUInt width) :=
  (latches_getRaw width).bind fun _ => latches_pure _

theorem latches_failing : Latches failing := fun _ failed => failed

theorem latches_latch : Latches latch := fun _ _ => rfl

theorem latches_getMany {α : Type} {item : Get α} (each : Latches item) (count : Nat) :
    Latches (getMany item count) := by
  induction count with
  | zero => exact latches_pure []
  | succ count ih => exact each.bind fun _ => ih.bind fun _ => latches_pure _

/-! A reader that ends unlatched has not looked beyond the bytes it took. -/

structure Steady {α : Type} (get : Get α) : Prop where
  latches : Latches get
  carries : ∀ data, (get ⟨data, false⟩).2.failed = false → ∀ more,
    get ⟨data ++ more, false⟩ =
      ((get ⟨data, false⟩).1, ⟨(get ⟨data, false⟩).2.rest ++ more, false⟩)

theorem steady_pure {α : Type} (value : α) : Steady (pure value) :=
  ⟨latches_pure value, fun _ _ _ => rfl⟩

theorem Steady.bind {α β : Type} {get : Get α} {next : α → Get β} (one : Steady get)
    (two : ∀ value, Steady (next value)) : Steady (get >>= next) := by
  refine ⟨one.latches.bind fun value => (two value).latches, fun data alive more => ?_⟩
  have first := one.carries data
  change (next (get ⟨data, false⟩).1 (get ⟨data, false⟩).2).2.failed = false at alive
  change next (get ⟨data ++ more, false⟩).1 (get ⟨data ++ more, false⟩).2 =
    ((next (get ⟨data, false⟩).1 (get ⟨data, false⟩).2).1,
      ⟨(next (get ⟨data, false⟩).1 (get ⟨data, false⟩).2).2.rest ++ more, false⟩)
  generalize get ⟨data, false⟩ = taken at first alive
  obtain ⟨value, rest, failed⟩ := taken
  cases failed with
  | true =>
      rw [(two value).latches _ rfl] at alive
      cases alive
  | false =>
      rw [first rfl more]
      exact (two value).carries rest alive more

theorem steady_getRaw (size : Nat) : Steady (getRaw size) := by
  refine ⟨latches_getRaw size, fun data alive more => ?_⟩
  by_cases long : size > data.length
  · simp [getRaw, long] at alive
  · have room : ¬ size > (data ++ more).length := by
      rw [List.length_append]
      omega
    simp only [getRaw, long, room, Bool.false_eq_true, or_self, ↓reduceIte]
    rw [List.take_append_of_le_length (by omega), List.drop_append_of_le_length (by omega)]

theorem steady_getUInt (width : Nat) : Steady (getUInt width) :=
  (steady_getRaw width).bind fun _ => steady_pure _

theorem steady_failing : Steady failing := ⟨latches_failing, fun _ _ _ => rfl⟩

theorem steady_latch : Steady latch := by
  refine ⟨latches_latch, fun data alive more => ?_⟩
  cases alive

theorem steady_getMany {α : Type} {item : Get α} (each : Steady item) (count : Nat) :
    Steady (getMany item count) := by
  induction count with
  | zero => exact steady_pure []
  | succ count ih => exact each.bind fun _ => ih.bind fun _ => steady_pure _

/-- A reader that took everything cannot take everything of more. -/
theorem Steady.leaves {α : Type} {get : Get α} (steady : Steady get) {data more : List UInt8}
    (alive : (get ⟨data, false⟩).2.failed = false) (some : more ≠ []) :
    (get ⟨data ++ more, false⟩).2.rest ≠ [] := by
  rw [steady.carries data alive more]
  exact List.append_ne_nil_of_right_ne_nil _ some

/-! Following a put and a get side by side. -/

section Feeds

variable {ε α : Type}

/-- What `put` appends takes `get` to `next`: always when `fits` holds, and `get` accepts nothing
when it does not. At least `size` bytes are written. -/
structure Fed (fits : Prop) (size : Nat) (writer written : Writer)
    (next get : Get (Except ε α)) (data : List UInt8) : Prop where
  appended : written = { writer with buffer := writer.buffer ++ data }
  long : size ≤ data.length
  bounded : data = [] ∨ writer.buffer.length + data.length ≤ writer.limit
  reads : fits → ∀ rest, get ⟨data ++ rest, false⟩ = next ⟨rest, false⟩
  refuses : ∀ rest value reader, get ⟨data ++ rest, false⟩ = (.ok value, reader) →
    reader.failed = false → fits

structure Feeds (fits : Prop) (size : Nat) (put : Writer → Writer) (next get : Get (Except ε α)) :
    Prop where
  limit : ∀ writer, (put writer).limit = writer.limit
  fed : ∀ writer, writer.limit < 2 ^ 32 → (put writer).failed = false →
    writer.failed = false ∧ ∃ data, Fed fits size writer (put writer) next get data

theorem feeds_start (get : Get (Except ε α)) : Feeds True 0 id get get := by
  refine ⟨fun _ => rfl, fun writer _ ok => ?_⟩
  refine ⟨ok, [], ?_, Nat.zero_le _, .inl rfl, fun _ _ => rfl, fun _ _ _ _ _ => trivial⟩
  simp

variable {fits : Prop} {size : Nat} {put : Writer → Writer} {get : Get (Except ε α)}

theorem Feeds.weaken {next : Get (Except ε α)} {less : Nat} (fed : Feeds fits size put next get)
    (smaller : less ≤ size) : Feeds fits less put next get := by
  refine ⟨fed.limit, fun writer narrow ok => ?_⟩
  obtain ⟨start, data, fed⟩ := fed.fed writer narrow ok
  exact ⟨start, data, fed.appended, Nat.le_trans smaller fed.long, fed.bounded, fed.reads,
    fed.refuses⟩

theorem limit_putRaw (writer : Writer) (data : List UInt8) :
    (writer.putRaw data).limit = writer.limit := by
  simp only [Writer.putRaw]
  split
  · rfl
  split <;> rfl

theorem putRaw_ok {writer : Writer} {data : List UInt8}
    (ok : (writer.putRaw data).failed = false) :
    writer.failed = false ∧ writer.buffer.length + data.length ≤ writer.limit ∧
      writer.putRaw data = { writer with buffer := writer.buffer ++ data } := by
  simp only [Writer.putRaw] at ok ⊢
  split at ok
  · rename_i failed
    simp [failed] at ok
  · rename_i unlatched
    split at ok
    · simp at ok
    · rename_i room
      rw [not_or] at room
      refine ⟨by simpa using unlatched, by omega, ?_⟩
      rw [if_neg unlatched, if_neg (by omega)]

/-- A field of known width. -/
theorem Feeds.raw {width : Nat} {next : List UInt8 → Get (Except ε α)}
    (fed : Feeds fits size put (getRaw width >>= next) get) (field : List UInt8)
    (length : field.length = width) :
    Feeds fits (size + width) (fun writer => (put writer).putRaw field) (next field) get := by
  refine ⟨fun writer => (limit_putRaw _ field).trans (fed.limit writer), fun writer narrow ok => ?_⟩
  obtain ⟨before, room, appended⟩ := putRaw_ok ok
  obtain ⟨start, data, fed⟩ := fed.fed writer narrow before
  rw [fed.appended] at room
  simp only [List.length_append] at room
  refine ⟨start, data ++ field, ?_, ?_, .inr ?_, ?_, ?_⟩
  · rw [appended, fed.appended]
    simp
  · have := fed.long
    simp only [List.length_append]
    omega
  · simp only [List.length_append]
    omega
  · intro fit rest
    rw [List.append_assoc, fed.reads fit]
    change next (getRaw width ⟨field ++ rest, false⟩).1 (getRaw width ⟨field ++ rest, false⟩).2 = _
    subst length
    simp [getRaw]
  · intro rest value reader accepted
    rw [List.append_assoc] at accepted
    exact fed.refuses _ _ _ accepted

theorem Feeds.uint {width : Nat} {next : Nat → Get (Except ε α)}
    (fed : Feeds fits size put (getUInt width >>= next) get) (value : Nat) :
    Feeds fits (size + width) (fun writer => (put writer).putUInt width value)
      (next (value % 256 ^ width)) get := by
  simp only [getUInt, bind_assoc, pure_bind] at fed
  have read := fed.raw (leBytes width value) (length_leBytes width value)
  rwa [leValue_leBytes] at read

/-- A condition the reader checks before it goes on. -/
theorem Feeds.check {next onFail : Get (Except ε α)} {condition : Prop} [Decidable condition]
    (fed : Feeds fits size put (if condition then onFail else next) get)
    (fails : ∀ reader value last, onFail reader = (.ok value, last) → last.failed = true) :
    Feeds (fits ∧ ¬condition) size put next get := by
  refine ⟨fed.limit, fun writer narrow ok => ?_⟩
  obtain ⟨start, data, fed⟩ := fed.fed writer narrow ok
  refine ⟨start, data, fed.appended, fed.long, fed.bounded, ?_, ?_⟩
  · intro fit rest
    rw [fed.reads fit.1, if_neg fit.2]
  · intro rest value reader accepted alive
    have fit := fed.refuses rest value reader accepted alive
    refine ⟨fit, fun holds => ?_⟩
    rw [fed.reads fit, if_pos holds] at accepted
    simp [fails _ _ _ accepted] at alive

theorem refuses_error (error : ε) (reader : Reader) (value : α) (last : Reader)
    (accepted : (pure (.error error) : Get (Except ε α)) reader = (.ok value, last)) :
    last.failed = true := by
  have impossible : (Except.error error : Except ε α) = .ok value := congrArg Prod.fst accepted
  simp at impossible

theorem Feeds.cast {next : Get (Except ε α)} {other : Prop} (fed : Feeds fits size put next get)
    (same : fits ↔ other) : Feeds other size put next get := by
  rwa [propext same] at fed

/-- A reader that refuses accepts nothing. -/
theorem Feeds.refused {next : Get (Except ε α)} {error : ε}
    (fed : Feeds fits size put (pure (.error error)) get) : Feeds False size put next get := by
  have checked : Feeds fits size put (if True then pure (.error error) else next) get := by
    rwa [if_pos trivial]
  exact (checked.check (refuses_error error)).cast (by simp)

theorem Feeds.failing {next : Bool → Get (Except ε α)}
    (fed : Feeds fits size put (failing >>= next) get) : Feeds fits size put (next false) get := by
  refine ⟨fed.limit, fun writer narrow ok => ?_⟩
  obtain ⟨start, data, fed⟩ := fed.fed writer narrow ok
  exact ⟨start, data, fed.appended, fed.long, fed.bounded, fed.reads, fed.refuses⟩

/-- Writing one item at a time feeds reading that many items. -/
theorem Feeds.many {β : Type} {item : Get β} {putItem : Writer → β → Writer}
    {next : List β → Get (Except ε α)} (items : List β)
    (each : ∀ (value : β) (put : Writer → Writer) (size : Nat) (next : β → Get (Except ε α)),
      Feeds fits size put (item >>= next) get →
        Feeds fits (size + 1) (fun writer => putItem (put writer) value) (next value) get)
    (fed : Feeds fits size put (getMany item items.length >>= next) get) :
    Feeds fits (size + items.length) (fun writer => Writer.putMany putItem (put writer) items)
      (next items) get := by
  induction items generalizing put size next with
  | nil => exact fed
  | cons first rest ih =>
      simp only [List.length_cons, getMany, bind_assoc, pure_bind] at fed
      have one := each first put size _ fed
      have others : Feeds fits (size + 1 + rest.length)
          (fun writer => Writer.putMany putItem (putItem (put writer) first) rest)
          (next (first :: rest)) get := ih one
      exact others.weaken (by simp only [List.length_cons]; omega)

/-- Every value a reader accepts has the property. -/
def Yields (property : α → Prop) (get : Get (Except ε α)) : Prop :=
  ∀ reader value last, get reader = (.ok value, last) → property value

theorem Yields.bind {β : Type} {property : α → Prop} {get : Get β}
    {next : β → Get (Except ε α)} (each : ∀ value, Yields property (next value)) :
    Yields property (get >>= next) :=
  fun reader value last accepted => each (get reader).1 (get reader).2 value last accepted

theorem yields_pure {property : α → Prop} {value : α} (holds : property value) :
    Yields property (pure (.ok value) : Get (Except ε α)) := by
  intro reader result last accepted
  have same : (Except.ok value : Except ε α) = .ok result := congrArg Prod.fst accepted
  exact Except.ok.inj same ▸ holds

theorem yields_error {property : α → Prop} (error : ε) :
    Yields property (pure (.error error) : Get (Except ε α)) := by
  intro reader value last accepted
  have impossible : (Except.error error : Except ε α) = .ok value := congrArg Prod.fst accepted
  simp at impossible

theorem Yields.map {β : Type} {property : α → Prop} {image : β → Prop}
    {get : Get (Except ε α)} {finish : α → β} (yields : Yields property get)
    (each : ∀ value, property value → image (finish value)) :
    Yields image (get >>= fun read => pure (read.map finish)) := by
  intro reader value last accepted
  have first : ((get reader).1.map finish) = .ok value := congrArg Prod.fst accepted
  cases read : (get reader).1 with
  | error error =>
      rw [read] at first
      cases first
  | ok inner =>
      rw [read] at first
      cases first
      exact each inner (yields reader inner (get reader).2 (Prod.ext read rfl))

/-- Every value a reader returns has the property, also after a failure. -/
def Gives (property : α → Prop) (get : Get α) : Prop :=
  ∀ reader, property (get reader).1

theorem gives_pure {property : α → Prop} {value : α} (holds : property value) :
    Gives property (pure value) := fun _ => holds

theorem Gives.bind {β : Type} {property : α → Prop} {given : β → Prop} {get : Get β}
    {next : β → Get α} (first : Gives given get)
    (each : ∀ value, given value → Gives property (next value)) :
    Gives property (get >>= next) :=
  fun reader => each (get reader).1 (first reader) (get reader).2

theorem Gives.after {β : Type} {property : α → Prop} {get : Get β} {next : β → Get α}
    (each : ∀ value, Gives property (next value)) : Gives property (get >>= next) :=
  fun reader => each (get reader).1 (get reader).2

theorem Yields.given {β : Type} {property : α → Prop} {given : β → Prop} {get : Get β}
    {next : β → Get (Except ε α)} (first : Gives given get)
    (each : ∀ value, given value → Yields property (next value)) :
    Yields property (get >>= next) :=
  fun reader value last accepted =>
    each (get reader).1 (first reader) (get reader).2 value last accepted

theorem gives_any (get : Get α) : Gives (fun _ => True) get := fun _ => trivial

theorem Gives.many {property : α → Prop} {item : Get α} (each : Gives property item)
    (count : Nat) :
    Gives (fun items => items.length = count ∧ ∀ value ∈ items, property value)
      (getMany item count) := by
  induction count with
  | zero => exact gives_pure ⟨rfl, by simp⟩
  | succ count ih =>
      refine each.bind fun first holds => ih.bind fun rest kept => gives_pure ⟨?_, ?_⟩
      · rw [List.length_cons, kept.1]
      · intro value listed
        rcases List.mem_cons.mp listed with rfl | later
        · exact holds
        · exact kept.2 value later

/-- What was read so far decides a property of the accepted value, whatever is written after. -/
theorem Feeds.finish_yields {β : Type} {next : Get (Except ε α)} {tail : Writer → Writer}
    {tailFits : Prop} {tailSize : Nat} {tailNext tailGet : Get (Except ε β)}
    (fed : Feeds fits size put next get) (property : α → Prop) (yields : Yields property next)
    (rest : Feeds tailFits tailSize tail tailNext tailGet) (limit : Nat) (narrow : limit < 2 ^ 32)
    (some : (tail (put (Writer.fresh limit))).finish ≠ []) {result : α} {reader : Reader}
    (accepted : get ⟨(tail (put (Writer.fresh limit))).finish, false⟩ = (.ok result, reader))
    (alive : reader.failed = false) : property result := by
  have ok : (tail (put (Writer.fresh limit))).failed = false := by
    by_contra failed
    simp [Writer.finish, Bool.not_eq_false _ ▸ failed] at some
  have same := fed.limit (Writer.fresh limit)
  obtain ⟨before, after, appended⟩ := rest.fed (put (Writer.fresh limit)) (by rw [same]; exact narrow) ok
  obtain ⟨_, data, fed⟩ := fed.fed (Writer.fresh limit) narrow before
  have finished : (tail (put (Writer.fresh limit))).finish = data ++ after := by
    rw [Writer.finish, if_neg (by simp [ok]), appended.appended, fed.appended]
    simp [Writer.fresh]
  rw [finished] at accepted
  have fit := fed.refuses _ _ _ accepted alive
  rw [fed.reads fit] at accepted
  exact yields _ _ _ accepted

/-- A finished encoding is accepted exactly when it fits, and then read back. -/
theorem Feeds.finish {value : α} (fed : Feeds fits size put (pure (.ok value)) get) (limit : Nat)
    (narrow : limit < 2 ^ 32) (some : (put (Writer.fresh limit)).finish ≠ []) :
    (fits → get ⟨(put (Writer.fresh limit)).finish, false⟩ = (.ok value, ⟨[], false⟩)) ∧
      ∀ result reader, get ⟨(put (Writer.fresh limit)).finish, false⟩ = (.ok result, reader) →
        reader.failed = false → fits ∧ result = value := by
  have ok : (put (Writer.fresh limit)).failed = false := by
    by_contra failed
    simp [Writer.finish, Bool.not_eq_false _ ▸ failed] at some
  obtain ⟨_, data, fed⟩ := fed.fed (Writer.fresh limit) narrow ok
  have finished : (put (Writer.fresh limit)).finish = data ++ [] := by
    rw [Writer.finish, if_neg (by simp [ok]), fed.appended]
    simp [Writer.fresh]
  rw [finished]
  refine ⟨fun fit => by rw [fed.reads fit]; rfl, ?_⟩
  intro result reader accepted alive
  have fit := fed.refuses _ _ _ accepted alive
  rw [fed.reads fit] at accepted
  have same : (Except.ok value : Except ε α) = .ok result := congrArg Prod.fst accepted
  exact ⟨fit, (Except.ok.inj same).symm⟩

end Feeds

/-! How much a put writes. -/

section Puts

/-- On a writer within its limit `put` appends `size` bytes; it fails exactly when `fits` is false
or the room is short. -/
structure Puts (fits : Prop) (size : Nat) (put : Writer → Writer) : Prop where
  limit : ∀ writer, (put writer).limit = writer.limit
  bounded : ∀ writer, writer.buffer.length ≤ writer.limit →
    (put writer).buffer.length ≤ writer.limit
  ok : ∀ writer, writer.buffer.length ≤ writer.limit → ((put writer).failed = false ↔
    writer.failed = false ∧ fits ∧ writer.buffer.length + size ≤ writer.limit)
  length : ∀ writer, writer.buffer.length ≤ writer.limit → (put writer).failed = false →
    (put writer).buffer.length = writer.buffer.length + size

theorem puts_start : Puts True 0 id := by
  refine ⟨fun _ => rfl, fun _ room => room, fun writer room => ?_, fun _ _ _ => rfl⟩
  simp [room]

variable {fits : Prop} {size : Nat} {put : Writer → Writer}

theorem Puts.cast {other : Prop} {amount : Nat} (puts : Puts fits size put) (same : fits ↔ other)
    (equal : size = amount) : Puts other amount put := by
  subst equal
  rwa [propext same] at puts

/-- One put after another. -/
theorem Puts.comp {more : Prop} {extra : Nat} {next : Writer → Writer}
    (first : Puts fits size put) (second : Puts more extra next) :
    Puts (fits ∧ more) (size + extra) (fun writer => next (put writer)) := by
  have room : ∀ writer : Writer, writer.buffer.length ≤ writer.limit →
      (put writer).buffer.length ≤ (put writer).limit := by
    intro writer short
    rw [first.limit]
    exact first.bounded writer short
  refine ⟨fun writer => (second.limit _).trans (first.limit writer), ?_, ?_, ?_⟩
  · intro writer short
    rw [← first.limit writer]
    exact second.bounded _ (room writer short)
  · intro writer short
    rw [second.ok _ (room writer short), first.limit]
    constructor
    · rintro ⟨alive, fit', after⟩
      have long := first.length writer short alive
      obtain ⟨unlatched, fit, _⟩ := (first.ok writer short).mp alive
      exact ⟨unlatched, ⟨fit, fit'⟩, by omega⟩
    · rintro ⟨unlatched, ⟨fit, fit'⟩, after⟩
      have alive := (first.ok writer short).mpr ⟨unlatched, fit, by omega⟩
      have long := first.length writer short alive
      exact ⟨alive, fit', by omega⟩
  · intro writer short alive
    have before := ((second.ok _ (room writer short)).mp alive).1
    have long := first.length writer short before
    have longer := second.length _ (room writer short) alive
    omega

/-- A put of a field that always fits. -/
theorem Puts.field {extra : Nat} {next : Writer → Writer} (first : Puts fits size put)
    (second : Puts True extra next) : Puts fits (size + extra) (fun writer => next (put writer)) :=
  (first.comp second).cast (by simp) rfl

theorem puts_raw (data : List UInt8) :
    Puts True data.length (fun writer => writer.putRaw data) := by
  refine ⟨fun writer => limit_putRaw writer data, ?_, ?_, ?_⟩
  · intro writer short
    simp only [Writer.putRaw]
    split
    · exact short
    split
    · exact short
    · simp only [List.length_append]
      omega
  · intro writer short
    constructor
    · intro alive
      obtain ⟨unlatched, room, _⟩ := putRaw_ok alive
      exact ⟨unlatched, trivial, room⟩
    · rintro ⟨unlatched, _, room⟩
      simp only [Writer.putRaw, unlatched, Bool.false_eq_true, ↓reduceIte]
      rw [if_neg (by omega)]
  · intro writer _ alive
    obtain ⟨_, _, appended⟩ := putRaw_ok alive
    rw [appended]
    simp

theorem puts_uint (width value : Nat) :
    Puts True width (fun writer => writer.putUInt width value) :=
  (puts_raw (leBytes width value)).cast .rfl (length_leBytes width value)

/-- A list of items writes the sum of their sizes. -/
theorem puts_many {β : Type} {putItem : Writer → β → Writer} {itemFits : β → Prop}
    {itemSize : β → Nat}
    (each : ∀ item, Puts (itemFits item) (itemSize item) fun writer => putItem writer item)
    (items : List β) :
    Puts (∀ item ∈ items, itemFits item) (items.map itemSize).sum
      (fun writer => Writer.putMany putItem writer items) := by
  induction items with
  | nil => exact puts_start.cast (by simp) rfl
  | cons item rest ih => exact ((each item).comp ih).cast (by simp) (by simp)

/-- A finished encoding is there exactly when everything fits. -/
theorem Puts.finish (puts : Puts fits size put) (limit : Nat) (positive : 0 < size) :
    (put (Writer.fresh limit)).finish ≠ [] ↔ fits ∧ size ≤ limit := by
  have short : (Writer.fresh limit).buffer.length ≤ (Writer.fresh limit).limit := Nat.zero_le _
  have ok := puts.ok (Writer.fresh limit) short
  simp only [Writer.fresh, List.length_nil, Nat.zero_add, true_and] at ok
  rw [← ok, Writer.finish]
  constructor
  · intro some
    by_contra failed
    simp only [Bool.not_eq_false] at failed
    exact some (if_pos failed)
  · intro alive empty
    have long := puts.length (Writer.fresh limit) short alive
    change (put (Writer.fresh limit)).failed = false at alive
    rw [if_neg (by simp [alive])] at empty
    change (put (Writer.fresh limit)).buffer = [] at empty
    rw [empty] at long
    simp only [Writer.fresh, List.length_nil] at long
    omega

end Puts

end Wire
