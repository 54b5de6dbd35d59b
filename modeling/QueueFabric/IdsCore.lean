import QueueFabric.Lib.Table

/-!
Identities, counters, status codes, limits and time: the vocabulary of
`ids.hpp`, `status.hpp`, `limits.hpp`, `time.hpp` and `rng.hpp`.
-/

namespace QueueFabric

/-- A `std::string`: bytes, not characters. -/
abbrev Text := List UInt8

abbrev Bytes := List UInt8

def text (literal : String) : Text := literal.toUTF8.toList

/-! Runtime limits. -/

namespace Limits

def maxResources : Nat := 4096
def maxQueuesPerResource : Nat := 65536
def maxQueuesTotal : Nat := maxResources * 16
def maxClassesPerResource : Nat := 4096
def maxPoolsPerResource : Nat := 4096
def maxGrantsPerResource : Nat := 256
def maxNameChars : Nat := 128
def maxMessageChars : Nat := 192
def maxReasonChars : Nat := 96
def maxProvenanceNodes : Nat := 4096
def maxAttemptMemoPerQueue : Nat := 64
def maxPendingAttempts : Nat := 4096
def maxDrainEvidenceRecords : Nat := 16
def maxJournalRecordBytes : Nat := 1048576
def maxJournalFileBytes : Nat := 4294967296

end Limits

/-! Status codes. -/

inductive Code
  | ok
  | invalidArgument
  | outOfRange
  | notFound
  | alreadyExists
  | capacityExceeded
  | malformedInput
  | integrityFailure
  | unsupported
  | staleGeneration
  | staleEpoch
  | staleIncarnation
  | staleBoot
  | staleOccupancy
  | replayDetected
  | conflict
  | authorityDenied
  | lifecycleViolation
  | fenceViolation
  | thresholdExceeded
  | occupancyOverflow
  | drainIncomplete
  | backendMismatch
  | notDurable
  | ambiguousOutcome
  | shuttingDown
  | cancelled
  | busy
  | internal
  | unlisted (offset : Fin 65507)
  deriving DecidableEq

structure Status where
  code : Code
  message : String
  deriving DecidableEq

namespace Status

def success : Status := ⟨.ok, ""⟩

def isOk (status : Status) : Bool := status.code = .ok

end Status

/-- Why a request was refused: the status returned and the named rule recorded. -/
structure Refusal where
  status : Status
  rule : String
  deriving DecidableEq

/-! Strongly typed identities and checked counters. -/

inductive IdTag
  | resource | queue | cls | pool | policy | owner | backend | publisher | node
  deriving DecidableEq

inductive CounterTag
  | generation | epoch | sequence | incarnation
  deriving DecidableEq

@[ext]
structure Ident (tag : IdTag) where
  value : UInt64
  deriving DecidableEq

@[ext]
structure Counter (tag : CounterTag) where
  value : UInt64
  deriving DecidableEq

instance {tag : IdTag} : LawfulBEq (Ident tag) := inferInstance

abbrev ResourceId := Ident .resource
abbrev QueueId := Ident .queue
abbrev ClassId := Ident .cls
abbrev PoolId := Ident .pool
abbrev PolicyId := Ident .policy
abbrev OwnerId := Ident .owner
abbrev BackendId := Ident .backend
abbrev PublisherId := Ident .publisher
abbrev NodeId := Ident .node

abbrev Generation := Counter .generation
abbrev Epoch := Counter .epoch
abbrev Sequence := Counter .sequence
abbrev Incarnation := Counter .incarnation

instance {tag : IdTag} : Inhabited (Ident tag) := ⟨⟨0⟩⟩
instance {tag : CounterTag} : Inhabited (Counter tag) := ⟨⟨0⟩⟩

def Ident.valid {tag : IdTag} (id : Ident tag) : Bool := id.value != 0

namespace Counter

variable {tag : CounterTag}

def valid (counter : Counter tag) : Bool := counter.value != 0

/-- The checked successor: the ceiling is refused, never wrapped. -/
def next (counter : Counter tag) : Except Status (Counter tag) :=
  if counter.value = 0xFFFFFFFFFFFFFFFF then
    .error ⟨.capacityExceeded, "counter exhausted"⟩
  else .ok ⟨counter.value + 1⟩

end Counter

/-! Hexadecimal rendering of identities. -/

def hexDigit (value : UInt64) : UInt8 :=
  if value < 10 then (0x30 + value).toUInt8 else (0x57 + value).toUInt8

def formatHex16 (value : UInt64) : Text :=
  0x30 :: 0x78 :: (List.range 16).map fun index =>
    hexDigit ((value >>> UInt64.ofNat (4 * (15 - index))) &&& 0xF)

def Ident.toText {tag : IdTag} (id : Ident tag) : Text := formatHex16 id.value

/-! Parsing of numbers. A `char` past the last ASCII digit or letter fails every range check,
whatever its sign. -/

def parseHexDigit (ch : UInt8) : Option UInt64 :=
  if 0x30 ≤ ch && ch ≤ 0x39 then some (ch - 0x30).toUInt64
  else if 0x61 ≤ ch && ch ≤ 0x66 then some (ch - 0x61 + 10).toUInt64
  else if 0x41 ≤ ch && ch ≤ 0x46 then some (ch - 0x41 + 10).toUInt64
  else none

/-- The digit loop of `parse_hex16`. -/
def parseHexFrom (value : UInt64) : Text → Option UInt64
  | [] => some value
  | ch :: rest =>
      match parseHexDigit ch with
      | none => none
      | some digit => parseHexFrom (value <<< 4 ||| digit) rest

/-- The prefix is dropped only from a text that is longer. -/
def dropHexMark (text : Text) : Text :=
  if text.length > 2 && text[0]? = some 0x30 &&
      (text[1]? = some 0x78 || text[1]? = some 0x58) then text.drop 2
  else text

def parseHex16 (text : Text) : Option UInt64 :=
  let digits := dropHexMark text
  if digits.isEmpty || digits.length > 16 then none else parseHexFrom 0 digits

/-- The digit loop of `parse_u64`, with its overflow guard. -/
def parseDecimalFrom (value : UInt64) : Text → Option UInt64
  | [] => some value
  | ch :: rest =>
      if ch < 0x30 || ch > 0x39 then none
      else
        let digit := (ch - 0x30).toUInt64
        if value > (0xFFFFFFFFFFFFFFFF - digit) / 10 then none
        else parseDecimalFrom (value * 10 + digit) rest

def parseU64 (text : Text) : Option UInt64 :=
  if text.isEmpty || text.length > 20 then none else parseDecimalFrom 0 text

def Ident.parse {tag : IdTag} (text : Text) : Except Status (Ident tag) :=
  match parseHex16 text with
  | none => .error ⟨.malformedInput, "identity is not a hexadecimal 64-bit value"⟩
  | some value => .ok ⟨value⟩

/-- `std::to_string` of an unsigned value. -/
def decimalText (value : UInt64) : Text :=
  if value = 0 then [0x30]
  else (Nat.digits 10 value.toNat).reverse.map fun digit => UInt8.ofNat (0x30 + digit)

/-! Time and the splitmix64 generator. -/

abbrev Nanos := Int64

/-- The injected time source: the readings it will return, one per call. -/
structure Clock where
  readings : Nat → Nanos
  calls : Nat

def Clock.nowNanos (clock : Clock) : Nanos × Clock :=
  (clock.readings clock.calls, { clock with calls := clock.calls + 1 })

structure Rng where
  state : UInt64

def Rng.nextU64 (rng : Rng) : UInt64 × Rng :=
  let state := rng.state + 0x9E3779B97F4A7C15
  let z := (state ^^^ (state >>> 30)) * 0xBF58476D1CE4E5B9
  let z := (z ^^^ (z >>> 27)) * 0x94D049BB133111EB
  (z ^^^ (z >>> 31), ⟨state⟩)

/-! Boot and attempt identities. -/

structure BootId where
  hi : UInt64
  lo : UInt64
  deriving DecidableEq, Inhabited

namespace BootId

def valid (boot : BootId) : Bool := (boot.hi ||| boot.lo) != 0

def generate (rng : Rng) : BootId × Rng :=
  let (hi, rng) := rng.nextU64
  let (lo, rng) := rng.nextU64
  let boot : BootId := ⟨hi, lo⟩
  (if boot.valid then boot else ⟨hi, 1⟩, rng)

def toText (boot : BootId) : Text := formatHex16 boot.hi ++ 0x3A :: formatHex16 boot.lo

def parse (text : Text) : Except Status BootId :=
  match text.idxOf? 0x3A with
  | none => .error ⟨.malformedInput, "boot id must be <hi>:<lo>"⟩
  | some separator =>
      match parseHex16 (text.take separator), parseHex16 (text.drop (separator + 1)) with
      | some hi, some lo => .ok ⟨hi, lo⟩
      | _, _ => .error ⟨.malformedInput, "boot id halves must be hexadecimal"⟩

end BootId

structure AttemptId where
  publisher : PublisherId
  counter : UInt64
  deriving DecidableEq, Inhabited

namespace AttemptId

def valid (attempt : AttemptId) : Bool := attempt.publisher.valid && attempt.counter != 0

def toText (attempt : AttemptId) : Text :=
  attempt.publisher.toText ++ 0x3A :: decimalText attempt.counter

def parse (text : Text) : Except Status AttemptId :=
  match text.idxOf? 0x3A with
  | none => .error ⟨.malformedInput, "attempt id must be <publisher>:<counter>"⟩
  | some separator =>
      match Ident.parse (text.take separator) with
      | .error status => .error status
      | .ok publisher =>
          match parseU64 (text.drop (separator + 1)) with
          | none => .error ⟨.malformedInput, "attempt counter must be decimal"⟩
          | some counter => .ok ⟨publisher, counter⟩

end AttemptId

/-! Fingerprint mixing of `hash.hpp`. -/

def hashMix (seed value : UInt64) : UInt64 :=
  seed ^^^ (value + 0x9E3779B97F4A7C15 + (seed <<< (6 : UInt64)) + (seed >>> (2 : UInt64)))

def fnv1a64 (data : Bytes) : UInt64 :=
  data.foldl (fun hash byte => (hash ^^^ byte.toUInt64) * 0x100000001B3) 0xCBF29CE484222325

def hashMixText (seed : UInt64) (value : Text) : UInt64 := hashMix seed (fnv1a64 value)

def hashMixBool (seed : UInt64) (value : Bool) : UInt64 := hashMix seed (if value then 1 else 0)

end QueueFabric
