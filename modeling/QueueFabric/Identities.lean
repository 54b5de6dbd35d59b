import QueueFabric.IdsCore
import QueueFabric.Lib.Numerals

/-!
What the identity texts say. The number parsers accept exactly the numerals in
their range, and every boot and attempt identity is read back from its text.
-/

namespace QueueFabric

/-! Digits. -/

def decimalDigit (ch : UInt8) : Option Nat :=
  if 0x30 ≤ ch ∧ ch ≤ 0x39 then some (ch.toNat - 0x30) else none

/-- A digit or a letter from `a` to `f` of either case. -/
def hexadecimalDigit (ch : UInt8) : Option Nat :=
  if 0x30 ≤ ch ∧ ch ≤ 0x39 then some (ch.toNat - 0x30)
  else if 0x61 ≤ ch ∧ ch ≤ 0x66 then some (ch.toNat - 0x61 + 10)
  else if 0x41 ≤ ch ∧ ch ≤ 0x46 then some (ch.toNat - 0x41 + 10)
  else none

/-- Every character of the text is a digit, and together, after digits of the value `before`,
they spell the number. -/
def Spells (digit : UInt8 → Option Nat) (base before : Nat) (text : Text) (number : Nat) : Prop :=
  ∃ digits, text.map digit = digits.map some ∧ Numerals.value base before digits = number

section Spells

variable {digit : UInt8 → Option Nat} {base before number : Nat}

@[simp] theorem spells_nil : Spells digit base before [] number ↔ before = number := by
  constructor
  · rintro ⟨digits, none, spelled⟩
    rw [List.map_nil, eq_comm, List.map_eq_nil_iff] at none
    subst none
    exact spelled
  · exact fun same => ⟨[], rfl, same⟩

theorem spells_cons {ch : UInt8} {rest : Text} :
    Spells digit base before (ch :: rest) number ↔
      ∃ first, digit ch = some first ∧ Spells digit base (before * base + first) rest number := by
  constructor
  · rintro ⟨digits, same, spelled⟩
    cases digits with
    | nil => simp at same
    | cons first others =>
        rw [List.map_cons, List.map_cons, List.cons.injEq] at same
        exact ⟨first, same.1, others, same.2, spelled⟩
  · rintro ⟨first, read, digits, same, spelled⟩
    exact ⟨first :: digits, by rw [List.map_cons, List.map_cons, read, same], spelled⟩

theorem Spells.read {text : Text} (spells : Spells digit base before text number) {ch : UInt8}
    (listed : ch ∈ text) : ∃ value, digit ch = some value := by
  obtain ⟨digits, same, -⟩ := spells
  have read : digit ch ∈ digits.map some := same ▸ List.mem_map_of_mem listed
  obtain ⟨value, -, eq⟩ := List.mem_map.mp read
  exact ⟨value, eq.symm⟩

theorem Spells.le (positive : 0 < base) {text : Text}
    (spells : Spells digit base before text number) : before ≤ number := by
  obtain ⟨digits, same, rfl⟩ := spells
  exact Numerals.le_value positive before digits

end Spells

theorem parseHexDigit_eq (ch : UInt8) :
    parseHexDigit ch = (hexadecimalDigit ch).map UInt64.ofNat := by
  have each : ∀ bits : Fin 256, parseHexDigit ⟨.ofFin bits⟩ =
      (hexadecimalDigit ⟨.ofFin bits⟩).map UInt64.ofNat := by
    decide +kernel
  exact each ch.toFin

theorem hexadecimalDigit_lt {ch : UInt8} {digit : Nat} (read : hexadecimalDigit ch = some digit) :
    digit < 16 := by
  have each : ∀ bits : Fin 256, (hexadecimalDigit ⟨.ofFin bits⟩).all (· < 16) = true := by
    decide +kernel
  have small := each ch.toFin
  change (hexadecimalDigit ch).all (· < 16) = true at small
  rw [read] at small
  simpa using small

theorem hexadecimalDigit_hexDigit : ∀ digit : Fin 16,
    hexadecimalDigit (hexDigit (UInt64.ofNat digit)) = some digit.val := by
  decide +kernel

theorem decimalDigit_ofNat {digit : Nat} (small : digit < 10) :
    decimalDigit (UInt8.ofNat (0x30 + digit)) = some digit := by
  have each : ∀ digit : Fin 10, decimalDigit (UInt8.ofNat (0x30 + digit)) = some digit.val := by
    decide +kernel
  exact each ⟨digit, small⟩

/-! The digit loops. -/

theorem toNat_pushHex {before : UInt64} {digit : Nat} (small : digit < 16)
    (room : (before.toNat + 1) * 16 ≤ 2 ^ 64) :
    (before <<< 4 ||| UInt64.ofNat digit).toNat = before.toNat * 16 + digit := by
  have shift : (before <<< 4).toNat = before.toNat <<< 4 := by
    rw [UInt64.toNat_shiftLeft]
    refine Nat.mod_eq_of_lt ?_
    change before.toNat <<< 4 < 2 ^ 64
    rw [Nat.shiftLeft_eq]
    omega
  have value : (UInt64.ofNat digit).toNat = digit := by
    rw [UInt64.toNat_ofNat']
    omega
  rw [UInt64.toNat_or, shift, value, ← Nat.shiftLeft_add_eq_or_of_lt (by omega), Nat.shiftLeft_eq]

/-- The hexadecimal loop does not wrap as long as there is room for its digits. -/
theorem parseHexFrom_iff {text : Text} {before : UInt64}
    (room : (before.toNat + 1) * 16 ^ text.length ≤ 2 ^ 64) (number : Nat) :
    (parseHexFrom before text).map UInt64.toNat = some number ↔
      Spells hexadecimalDigit 16 before.toNat text number := by
  induction text generalizing before with
  | nil => simp [parseHexFrom]
  | cons ch rest ih =>
      rw [parseHexFrom, parseHexDigit_eq, spells_cons]
      cases read : hexadecimalDigit ch with
      | none => simp
      | some digit =>
          have small := hexadecimalDigit_lt read
          rw [List.length_cons, Nat.pow_succ] at room
          have positive := Nat.pow_pos (n := rest.length) (by decide : 0 < 16)
          have one : (before.toNat + 1) * 16 ≤ 2 ^ 64 := by nlinarith
          have pushed := toNat_pushHex small one
          have more : ((before <<< 4 ||| UInt64.ofNat digit).toNat + 1) * 16 ^ rest.length ≤
              2 ^ 64 := by
            rw [pushed]
            nlinarith
          simp only [Option.map_some, ih more, pushed, Option.some.injEq, exists_eq_left']

theorem decimalDigit_eq (ch : UInt8) :
    decimalDigit ch = if ch < 0x30 || ch > 0x39 then none else some (ch - 0x30).toUInt64.toNat := by
  have each : ∀ bits : Fin 256, decimalDigit ⟨.ofFin bits⟩ =
      if (⟨.ofFin bits⟩ : UInt8) < 0x30 || (⟨.ofFin bits⟩ : UInt8) > 0x39 then none
      else some ((⟨.ofFin bits⟩ : UInt8) - 0x30).toUInt64.toNat := by
    decide +kernel
  exact each ch.toFin

/-- The guard by division holds back exactly the digits that would overflow. -/
theorem overflows_iff {before digit : UInt64} (small : digit.toNat < 10) :
    before > (0xFFFFFFFFFFFFFFFF - digit) / 10 ↔ 2 ^ 64 ≤ before.toNat * 10 + digit.toNat := by
  have below : digit ≤ 0xFFFFFFFFFFFFFFFF := UInt64.le_iff_toNat_le.mpr (by
    change digit.toNat ≤ 18446744073709551615
    omega)
  rw [gt_iff_lt, UInt64.lt_iff_toNat_lt, UInt64.toNat_div, UInt64.toNat_sub_of_le _ _ below]
  change (18446744073709551615 - digit.toNat) / 10 < before.toNat ↔ _
  omega

theorem toNat_pushDecimal {before digit : UInt64}
    (room : before.toNat * 10 + digit.toNat < 2 ^ 64) :
    (before * 10 + digit).toNat = before.toNat * 10 + digit.toNat := by
  have scaled : (before * 10).toNat = before.toNat * 10 := by
    rw [UInt64.toNat_mul]
    exact Nat.mod_eq_of_lt (by
      change before.toNat * 10 < 2 ^ 64
      omega)
  rw [UInt64.toNat_add, scaled]
  exact Nat.mod_eq_of_lt room

theorem decimalDigit_lt {ch : UInt8} {digit : Nat} (read : decimalDigit ch = some digit) :
    digit < 10 := by
  rw [decimalDigit] at read
  split at read
  · rename_i range
    have top := UInt8.le_iff_toNat_le.mp range.2
    change ch.toNat ≤ 57 at top
    cases read
    omega
  · cases read

/-- The decimal loop refuses a numeral exactly when its value does not fit. -/
theorem parseDecimalFrom_iff (text : Text) (before : UInt64) (number : Nat) :
    (parseDecimalFrom before text).map UInt64.toNat = some number ↔
      Spells decimalDigit 10 before.toNat text number ∧ number < 2 ^ 64 := by
  induction text generalizing before with
  | nil =>
      have bound := before.toNat_lt
      simp only [parseDecimalFrom, Option.map_some, Option.some.injEq, spells_nil]
      exact ⟨fun same => ⟨same, same ▸ bound⟩, And.left⟩
  | cons ch rest ih =>
      have read := decimalDigit_eq ch
      rw [parseDecimalFrom, spells_cons]
      split
      · rename_i other
        rw [if_pos other] at read
        simp [read]
      · rename_i digit
        rw [if_neg digit] at read
        have small := decimalDigit_lt read
        simp only [read, Option.some.injEq, exists_eq_left', overflows_iff small]
        split
        · rename_i full
          -- The digits still to come only add to a value past the range.
          simp only [Option.map_none, reduceCtorEq, false_iff, not_and, not_lt]
          exact fun spells => Nat.le_trans full (spells.le (by decide))
        · rename_i room
          rw [ih, toNat_pushDecimal (by omega)]

/-! What the parsers accept. -/

theorem parseU64_iff (text : Text) (number : Nat) :
    (parseU64 text).map UInt64.toNat = some number ↔
      1 ≤ text.length ∧ text.length ≤ 20 ∧ Spells decimalDigit 10 0 text number ∧
        number < 2 ^ 64 := by
  have length : text.isEmpty = true ↔ text.length = 0 := by
    rw [List.isEmpty_iff, List.length_eq_zero_iff]
  rw [parseU64]
  split
  · rename_i bad
    rw [Bool.or_eq_true, length, decide_eq_true_eq] at bad
    simp only [Option.map_none, reduceCtorEq, false_iff, not_and]
    omega
  · rename_i fits
    rw [Bool.or_eq_true, length, decide_eq_true_eq, not_or] at fits
    rw [parseDecimalFrom_iff]
    constructor
    · exact fun spelled => ⟨by omega, by omega, spelled⟩
    · exact fun spelled => spelled.2.2

/-- The text without one optional prefix, which only a longer text can have. -/
def HexBody (text body : Text) : Prop :=
  text = body ∨ 2 < text.length ∧ (text = 0x30 :: 0x78 :: body ∨ text = 0x30 :: 0x58 :: body)

theorem hexBody_dropHexMark (text : Text) : HexBody text (dropHexMark text) := by
  rw [dropHexMark]
  split
  · rename_i marked
    simp only [gt_iff_lt, Bool.and_eq_true, decide_eq_true_eq, Bool.or_eq_true] at marked
    obtain ⟨⟨longer, zero⟩, mark⟩ := marked
    refine .inr ⟨longer, ?_⟩
    match text, longer with
    | first :: second :: rest, longer =>
        simp only [List.getElem?_cons_zero, List.getElem?_cons_succ, Option.some.injEq] at zero mark
        obtain rfl | rfl := mark
        · exact .inl (by rw [zero]; rfl)
        · exact .inr (by rw [zero]; rfl)
  · exact .inl rfl

theorem dropHexMark_of_spells {body : Text} {number : Nat}
    (spells : Spells hexadecimalDigit 16 0 body number) : dropHexMark body = body := by
  rw [dropHexMark, if_neg]
  intro marked
  simp only [gt_iff_lt, Bool.and_eq_true, decide_eq_true_eq, Bool.or_eq_true] at marked
  -- The second character of the prefix is no digit.
  obtain mark | mark := marked.2
  · obtain ⟨value, digit⟩ := spells.read (List.mem_of_getElem? mark)
    cases digit
  · obtain ⟨value, digit⟩ := spells.read (List.mem_of_getElem? mark)
    cases digit

theorem hexBody_iff {text body : Text} {number : Nat}
    (spells : Spells hexadecimalDigit 16 0 body number) :
    HexBody text body ↔ body = dropHexMark text := by
  constructor
  · rintro (rfl | ⟨longer, rfl | rfl⟩)
    · exact (dropHexMark_of_spells spells).symm
    · rw [dropHexMark, if_pos (by simpa using longer)]
      rfl
    · rw [dropHexMark, if_pos (by simpa using longer)]
      rfl
  · rintro rfl
    exact hexBody_dropHexMark text

theorem parseHex16_iff (text : Text) (number : Nat) :
    (parseHex16 text).map UInt64.toNat = some number ↔
      ∃ body, HexBody text body ∧ 1 ≤ body.length ∧ body.length ≤ 16 ∧
        Spells hexadecimalDigit 16 0 body number := by
  have body : (∃ body, HexBody text body ∧ 1 ≤ body.length ∧ body.length ≤ 16 ∧
      Spells hexadecimalDigit 16 0 body number) ↔
      1 ≤ (dropHexMark text).length ∧ (dropHexMark text).length ≤ 16 ∧
        Spells hexadecimalDigit 16 0 (dropHexMark text) number := by
    constructor
    · rintro ⟨body, of, least, most, spells⟩
      obtain rfl := (hexBody_iff spells).mp of
      exact ⟨least, most, spells⟩
    · exact fun spelled => ⟨_, hexBody_dropHexMark text, spelled⟩
  have length : (dropHexMark text).isEmpty = true ↔ (dropHexMark text).length = 0 := by
    rw [List.isEmpty_iff, List.length_eq_zero_iff]
  rw [body, parseHex16]
  split
  · rename_i bad
    rw [Bool.or_eq_true, length, decide_eq_true_eq] at bad
    simp only [Option.map_none, reduceCtorEq, false_iff, not_and]
    omega
  · rename_i fits
    rw [Bool.or_eq_true, length, decide_eq_true_eq, not_or] at fits
    have most : 16 ^ (dropHexMark text).length ≤ 16 ^ 16 :=
      Nat.pow_le_pow_right (by decide) (by omega)
    rw [parseHexFrom_iff (by simpa using most)]
    constructor
    · exact fun spelled => ⟨by omega, by omega, spelled⟩
    · exact fun spelled => spelled.2.2

/-! Every identity is read back from its text. -/

theorem spells_formatHex16 (value : UInt64) : ∃ body, formatHex16 value = 0x30 :: 0x78 :: body ∧
    body.length = 16 ∧ Spells hexadecimalDigit 16 0 body value.toNat := by
  refine ⟨_, rfl, by simp, (List.range 16).map fun index =>
    value.toNat / 16 ^ (16 - 1 - index) % 16, ?_, ?_⟩
  · rw [List.map_map, List.map_map]
    refine List.map_congr_left fun index listed => ?_
    have bound := List.mem_range.mp listed
    have nibble : (value >>> UInt64.ofNat (4 * (15 - index))) &&& 0xF =
        UInt64.ofNat (value.toNat / 16 ^ (16 - 1 - index) % 16) := by
      refine UInt64.toNat_inj.mp ?_
      have shift : (UInt64.ofNat (4 * (15 - index))).toNat % 64 = 4 * (15 - index) := by
        rw [UInt64.toNat_ofNat']
        omega
      rw [UInt64.toNat_and, UInt64.toNat_shiftRight, shift, UInt64.toNat_ofNat',
        Nat.shiftRight_eq_div_pow, Nat.pow_mul]
      have masked := Nat.and_two_pow_sub_one_eq_mod (value.toNat / 16 ^ (15 - index)) 4
      change value.toNat / 16 ^ (15 - index) &&& 2 ^ 4 - 1 =
        value.toNat / 16 ^ (15 - index) % 16 % 2 ^ 64
      rw [masked]
      omega
    have small : value.toNat / 16 ^ (16 - 1 - index) % 16 < 16 := Nat.mod_lt _ (by decide)
    simp only [Function.comp_apply]
    rw [nibble]
    exact hexadecimalDigit_hexDigit ⟨_, small⟩
  · rw [Numerals.value_places]
    exact Nat.mod_eq_of_lt value.toNat_lt

theorem parseHex16_formatHex16 (value : UInt64) : parseHex16 (formatHex16 value) = some value := by
  obtain ⟨body, written, length, spells⟩ := spells_formatHex16 value
  have longer : 2 < (formatHex16 value).length := by
    rw [written, List.length_cons, List.length_cons]
    omega
  have read := (parseHex16_iff (formatHex16 value) value.toNat).mpr
    ⟨body, .inr ⟨longer, .inl written⟩, by omega, by omega, spells⟩
  obtain ⟨parsed, accepted, same⟩ := Option.map_eq_some_iff.mp read
  rw [accepted, UInt64.toNat_inj.mp same]

theorem spells_decimalText (value : UInt64) :
    1 ≤ (decimalText value).length ∧ (decimalText value).length ≤ 20 ∧
      Spells decimalDigit 10 0 (decimalText value) value.toNat := by
  have bound := value.toNat_lt
  by_cases zero : value = 0
  · subst zero
    exact ⟨by decide, by decide, [0], by decide, rfl⟩
  · have some : Nat.digits 10 value.toNat ≠ [] :=
      Nat.digits_ne_nil_iff_ne_zero.mpr fun none => zero (UInt64.toNat_inj.mp none)
    have few : (Nat.digits 10 value.toNat).length ≤ 20 :=
      (Nat.digits_length_le_iff (by decide) _).mpr (Nat.lt_of_lt_of_le bound (by decide))
    have least := List.length_pos_of_ne_nil some
    rw [decimalText, if_neg zero]
    rw [List.length_map, List.length_reverse]
    refine ⟨least, few, (Nat.digits 10 value.toNat).reverse, ?_,
      Numerals.value_digits 10 value.toNat⟩
    rw [List.map_map]
    refine List.map_congr_left fun digit listed => ?_
    exact decimalDigit_ofNat (Nat.digits_lt_base (by decide) (List.mem_reverse.mp listed))

theorem parseU64_decimalText (value : UInt64) : parseU64 (decimalText value) = some value := by
  obtain ⟨least, most, spells⟩ := spells_decimalText value
  have read := (parseU64_iff (decimalText value) value.toNat).mpr
    ⟨least, most, spells, value.toNat_lt⟩
  obtain ⟨parsed, accepted, same⟩ := Option.map_eq_some_iff.mp read
  rw [accepted, UInt64.toNat_inj.mp same]

/-- The separator found is the one after the rendered identity. -/
theorem separator_formatHex16 (value : UInt64) (rest : Text) :
    (formatHex16 value ++ 0x3A :: rest).idxOf? 0x3A = some (formatHex16 value).length := by
  obtain ⟨body, written, -, spells⟩ := spells_formatHex16 value
  have absent : (0x3A : UInt8) ∉ formatHex16 value := by
    rw [written]
    simp only [List.mem_cons, not_or]
    refine ⟨by decide, by decide, fun listed => ?_⟩
    obtain ⟨digit, read⟩ := spells.read listed
    cases read
  refine List.idxOf?_eq_some_iff.mpr ⟨by simp, by simp, fun index before same => ?_⟩
  rw [List.getElem_append_left before] at same
  exact absent (same ▸ List.getElem_mem before)

theorem drop_separator (before rest : Text) (separator : UInt8) :
    (before ++ separator :: rest).drop (before.length + 1) = rest := by
  rw [List.drop_append, List.drop_eq_nil_of_le (by omega), Nat.add_sub_cancel_left]
  rfl

theorem BootId.parse_toText (boot : BootId) : BootId.parse boot.toText = .ok boot := by
  rw [parse, toText, separator_formatHex16]
  simp only [List.take_left, drop_separator, parseHex16_formatHex16]

theorem AttemptId.parse_toText (attempt : AttemptId) :
    AttemptId.parse attempt.toText = .ok attempt := by
  rw [parse, toText, Ident.toText, separator_formatHex16]
  simp only [List.take_left, drop_separator, Ident.parse, parseHex16_formatHex16,
    parseU64_decimalText]

/-- Identities survive their text, and the number parsers accept exactly the numerals in their
range, with their value. -/
theorem identity_texts :
    (∀ attempt : AttemptId, AttemptId.parse attempt.toText = .ok attempt) ∧
      (∀ boot : BootId, BootId.parse boot.toText = .ok boot) ∧
      (∀ text number, (parseU64 text).map UInt64.toNat = some number ↔
        1 ≤ text.length ∧ text.length ≤ 20 ∧ Spells decimalDigit 10 0 text number ∧
          number < 2 ^ 64) ∧
      ∀ text number, (parseHex16 text).map UInt64.toNat = some number ↔
        ∃ body, HexBody text body ∧ 1 ≤ body.length ∧ body.length ≤ 16 ∧
          Spells hexadecimalDigit 16 0 body number :=
  ⟨AttemptId.parse_toText, BootId.parse_toText, parseU64_iff, parseHex16_iff⟩

end QueueFabric
