import QueueFabric.Lib.Wire
import QueueFabric.IdsCore

/-!
`crc32c` of `hash.hpp`, the table-driven Castagnoli checksum over frames and
journal records, and the fixed-offset field access both formats use.
-/

namespace QueueFabric

/-- One bit of the table construction. -/
def crc32cBit (crc : UInt32) : UInt32 :=
  if crc &&& 1 ≠ 0 then (0x82F63B78 : UInt32) ^^^ (crc >>> 1) else crc >>> 1

/-- `make_crc32c_table`. -/
def crc32cTable : List UInt32 :=
  (List.range 256).map fun index => Nat.repeat crc32cBit 8 (UInt32.ofNat index)

def crc32cStep (crc : UInt32) (byte : UInt8) : UInt32 :=
  crc32cTable.getD ((crc ^^^ byte.toUInt32) &&& 0xFF).toNat 0 ^^^ (crc >>> 8)

def crc32cExtend (seed : UInt32) (data : Bytes) : UInt32 := ~~~data.foldl crc32cStep (~~~seed)

def crc32c (data : Bytes) : UInt32 := crc32cExtend 0 data

theorem crc32cExtend_append (seed : UInt32) (first second : Bytes) :
    crc32cExtend seed (first ++ second) = crc32cExtend (crc32cExtend seed first) second := by
  simp [crc32cExtend]

@[simp] theorem crc32cExtend_nil (seed : UInt32) : crc32cExtend seed [] = seed := by
  simp [crc32cExtend]

/-- The published check value of CRC-32C. -/
example : crc32c [0x31, 0x32, 0x33, 0x34, 0x35, 0x36, 0x37, 0x38, 0x39] = 0xE3069283 := by
  decide +kernel

/-! Fields at fixed offsets. -/

def getU16At (raw : Bytes) (offset : Nat) : UInt16 :=
  UInt16.ofNat (Wire.leValue ((raw.drop offset).take 2))

def getU32At (raw : Bytes) (offset : Nat) : UInt32 :=
  UInt32.ofNat (Wire.leValue ((raw.drop offset).take 4))

def getU64At (raw : Bytes) (offset : Nat) : UInt64 :=
  UInt64.ofNat (Wire.leValue ((raw.drop offset).take 8))

def putU16At (value : UInt16) : Bytes := Wire.leBytes 2 value.toNat

def putU32At (value : UInt32) : Bytes := Wire.leBytes 4 value.toNat

def putU64At (value : UInt64) : Bytes := Wire.leBytes 8 value.toNat

@[simp] theorem length_putU16At (value : UInt16) : (putU16At value).length = 2 :=
  Wire.length_leBytes 2 _

@[simp] theorem length_putU32At (value : UInt32) : (putU32At value).length = 4 :=
  Wire.length_leBytes 4 _

@[simp] theorem length_putU64At (value : UInt64) : (putU64At value).length = 8 :=
  Wire.length_leBytes 8 _

theorem take_drop_field {before field after : Bytes} {offset width : Nat}
    (start : before.length = offset) (size : field.length = width) :
    ((before ++ (field ++ after)).drop offset).take width = field := by
  rw [← start, List.drop_left, ← size, List.take_left]

theorem getU16At_field {before after : Bytes} {offset : Nat} (start : before.length = offset)
    (value : UInt16) : getU16At (before ++ (putU16At value ++ after)) offset = value := by
  have small : value.toNat % 256 ^ 2 = value.toNat := Nat.mod_eq_of_lt value.toNat_lt
  rw [getU16At, take_drop_field start (length_putU16At value), putU16At, Wire.leValue_leBytes,
    small, UInt16.ofNat_toNat]

theorem getU32At_field {before after : Bytes} {offset : Nat} (start : before.length = offset)
    (value : UInt32) : getU32At (before ++ (putU32At value ++ after)) offset = value := by
  have small : value.toNat % 256 ^ 4 = value.toNat := Nat.mod_eq_of_lt value.toNat_lt
  rw [getU32At, take_drop_field start (length_putU32At value), putU32At, Wire.leValue_leBytes,
    small, UInt32.ofNat_toNat]

theorem getU64At_field {before after : Bytes} {offset : Nat} (start : before.length = offset)
    (value : UInt64) : getU64At (before ++ (putU64At value ++ after)) offset = value := by
  have small : value.toNat % 256 ^ 8 = value.toNat := Nat.mod_eq_of_lt value.toNat_lt
  rw [getU64At, take_drop_field start (length_putU64At value), putU64At, Wire.leValue_leBytes,
    small, UInt64.ofNat_toNat]

theorem getU16At_append {raw : Bytes} {offset : Nat} (inside : offset + 2 ≤ raw.length)
    (later : Bytes) : getU16At (raw ++ later) offset = getU16At raw offset := by
  rw [getU16At, getU16At, List.drop_append_of_le_length (by omega),
    List.take_append_of_le_length (by simp; omega)]

theorem getU32At_append {raw : Bytes} {offset : Nat} (inside : offset + 4 ≤ raw.length)
    (later : Bytes) : getU32At (raw ++ later) offset = getU32At raw offset := by
  rw [getU32At, getU32At, List.drop_append_of_le_length (by omega),
    List.take_append_of_le_length (by simp; omega)]

theorem getU64At_append {raw : Bytes} {offset : Nat} (inside : offset + 8 ≤ raw.length)
    (later : Bytes) : getU64At (raw ++ later) offset = getU64At raw offset := by
  rw [getU64At, getU64At, List.drop_append_of_le_length (by omega),
    List.take_append_of_le_length (by simp; omega)]

end QueueFabric
