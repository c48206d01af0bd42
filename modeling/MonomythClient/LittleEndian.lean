import Mathlib.Data.UInt
import Mathlib.Tactic.Ring

namespace LittleEndian

/-!
# Little-endian fields

The number a byte string stands for with its lowest byte first, the field at an
offset of a longer string, and the two ways programs assemble such numbers:
one expression of shifted bytes, and a loop over the bytes.
-/

/-! ## Values and fields -/

/-- The number whose base-256 digits, lowest first, are these bytes. -/
def value : List UInt8 → Nat
  | [] => 0
  | byte :: rest => byte.toNat + 256 * value rest

/-- The value of a run of `width` bytes at an offset. -/
def field (bytes : List UInt8) (offset width : Nat) : Nat :=
  value ((bytes.drop offset).take width)

@[simp] theorem value_nil : value [] = 0 := rfl

@[simp] theorem value_cons (byte : UInt8) (rest : List UInt8) :
    value (byte :: rest) = byte.toNat + 256 * value rest := rfl

/-- A value fits in as many bytes as it was read from. -/
theorem value_lt (bytes : List UInt8) :
    value bytes < 256 ^ bytes.length := by
  induction bytes with
  | nil =>
      decide
  | cons byte rest inductionHypothesis =>
      have byteFits := byte.toNat_lt
      simp only [value_cons, List.length_cons, pow_succ]
      omega

/-- A field of a given width fits in that many bytes. -/
theorem field_lt (bytes : List UInt8) (offset width : Nat) :
    field bytes offset width < 256 ^ width := by
  have lengthLe : ((bytes.drop offset).take width).length ≤ width := by
    simp
  exact Nat.lt_of_lt_of_le (value_lt _)
    (Nat.pow_le_pow_right (by decide) lengthLe)

/-- A field that lies in a prefix does not depend on what follows it. -/
theorem field_append
    {bytes : List UInt8}
    (beyond : List UInt8)
    {offset width : Nat}
    (inside : offset + width ≤ bytes.length) :
    field (bytes ++ beyond) offset width = field bytes offset width := by
  have offsetInside : offset ≤ bytes.length := by omega
  have widthInside : width ≤ (bytes.drop offset).length := by
    rw [List.length_drop]
    omega
  rw [field, field, List.drop_append_of_le_length offsetInside,
    List.take_append_of_le_length widthInside]

/-! ## Assembling words -/

/-- Setting the bits above a small number adds them. -/
theorem or_shiftLeft
    {low : Nat}
    (high : Nat)
    {shift : Nat}
    (lowFits : low < 2 ^ shift) :
    low ||| high <<< shift = low + 2 ^ shift * high := by
  rw [Nat.or_comm, ← Nat.shiftLeft_add_eq_or_of_lt lowFits,
    Nat.shiftLeft_eq]
  ring

/-- A byte shifted into a machine word keeps all its bits. -/
theorem shiftLeft_lt
    (byte : UInt8)
    {shift width : Nat}
    (inside : shift + 8 ≤ width) :
    byte.toNat <<< shift < 2 ^ width := by
  have byteFits := byte.toNat_lt
  calc byte.toNat <<< shift
      = byte.toNat * 2 ^ shift := Nat.shiftLeft_eq _ _
    _ < 2 ^ 8 * 2 ^ shift :=
        Nat.mul_lt_mul_of_pos_right byteFits (Nat.two_pow_pos shift)
    _ = 2 ^ (shift + 8) := by rw [← pow_add, Nat.add_comm]
    _ ≤ 2 ^ width := Nat.pow_le_pow_right (by decide) inside

/-- One byte joined to a 32-bit word above the bits already there. -/
theorem toNat_or_shiftLeft_uint32
    (low : UInt32)
    (byte : UInt8)
    (shift : Nat)
    (inside : shift + 8 ≤ 32)
    (lowFits : low.toNat < 2 ^ shift) :
    (low ||| byte.toUInt32 <<< UInt32.ofNat shift).toNat =
      low.toNat + 2 ^ shift * byte.toNat := by
  have noWrap : shift % 2 ^ 32 % 32 = shift := by omega
  rw [← or_shiftLeft byte.toNat lowFits]
  simp only [UInt32.toNat_or, UInt32.toNat_shiftLeft,
    UInt8.toNat_toUInt32, UInt32.toNat_ofNat', noWrap,
    Nat.mod_eq_of_lt (shiftLeft_lt byte inside)]

/-- The same in a 64-bit word. -/
theorem toNat_or_shiftLeft_uint64
    (low : UInt64)
    (byte : UInt8)
    (shift : Nat)
    (inside : shift + 8 ≤ 64)
    (lowFits : low.toNat < 2 ^ shift) :
    (low ||| byte.toUInt64 <<< UInt64.ofNat shift).toNat =
      low.toNat + 2 ^ shift * byte.toNat := by
  have noWrap : shift % 2 ^ 64 % 64 = shift := by omega
  rw [← or_shiftLeft byte.toNat lowFits]
  simp only [UInt64.toNat_or, UInt64.toNat_shiftLeft,
    UInt8.toNat_toUInt64, UInt64.toNat_ofNat', noWrap,
    Nat.mod_eq_of_lt (shiftLeft_lt byte inside)]

/-- Four bytes joined in one expression. -/
def word32 (byte0 byte1 byte2 byte3 : UInt8) : UInt32 :=
  byte0.toUInt32 ||| byte1.toUInt32 <<< 8 ||| byte2.toUInt32 <<< 16 |||
    byte3.toUInt32 <<< 24

/-- That word holds the bytes' value. -/
theorem toNat_word32 (byte0 byte1 byte2 byte3 : UInt8) :
    (word32 byte0 byte1 byte2 byte3).toNat =
      value [byte0, byte1, byte2, byte3] := by
  have fits0 := byte0.toNat_lt
  have fits1 := byte1.toNat_lt
  have fits2 := byte2.toNat_lt
  have join1 :
      (byte0.toUInt32 ||| byte1.toUInt32 <<< 8).toNat =
        byte0.toNat + 256 * byte1.toNat :=
    toNat_or_shiftLeft_uint32 _ byte1 8 (by decide) (by simpa using fits0)
  have join2 :
      (byte0.toUInt32 ||| byte1.toUInt32 <<< 8 |||
          byte2.toUInt32 <<< 16).toNat =
        byte0.toNat + 256 * byte1.toNat + 65536 * byte2.toNat :=
    join1 ▸
      toNat_or_shiftLeft_uint32 _ byte2 16 (by decide)
        (by rw [join1]; omega)
  have join3 :
      (word32 byte0 byte1 byte2 byte3).toNat =
        byte0.toNat + 256 * byte1.toNat + 65536 * byte2.toNat +
          16777216 * byte3.toNat :=
    join2 ▸
      toNat_or_shiftLeft_uint32 _ byte3 24 (by decide)
        (by rw [join2]; omega)
  rw [join3]
  simp only [value_cons, value_nil]
  omega

/-- The bytes of a 32-bit word, lowest first. -/
def bytes32 (word : UInt32) : List UInt8 :=
  [word.toUInt8, (word >>> 8).toUInt8, (word >>> 16).toUInt8,
    (word >>> 24).toUInt8]

@[simp] theorem length_bytes32 (word : UInt32) :
    (bytes32 word).length = 4 := rfl

/-- A word is the value of its bytes. -/
@[simp] theorem value_bytes32 (word : UInt32) :
    value (bytes32 word) = word.toNat := by
  have wordFits := word.toNat_lt
  simp only [bytes32, value_cons, value_nil, UInt32.toNat_toUInt8,
    UInt32.toNat_shiftRight, Nat.shiftRight_eq_div_pow,
    UInt32.reduceToNat, Nat.reduceMod, Nat.reducePow]
  omega

/-- A word is known by its bytes. -/
theorem bytes32_inj
    {left right : UInt32}
    (same : bytes32 left = bytes32 right) :
    left = right := by
  have sameValue := congrArg value same
  rw [value_bytes32, value_bytes32] at sameValue
  exact UInt32.toNat_inj.mp sameValue

/-- Four bytes are the bytes of their value. -/
theorem bytes32_value
    {bytes : List UInt8}
    (fourBytes : bytes.length = 4) :
    bytes32 (UInt32.ofNat (value bytes)) = bytes := by
  obtain ⟨byte0, byte1, byte2, byte3, rfl⟩ :=
    List.length_eq_four.mp fourBytes
  have fits0 := byte0.toNat_lt
  have fits1 := byte1.toNat_lt
  have fits2 := byte2.toNat_lt
  have fits3 := byte3.toNat_lt
  simp only [bytes32, value_cons, value_nil, List.cons.injEq, and_true,
    ← UInt8.toNat_inj, UInt32.toNat_toUInt8, UInt32.toNat_shiftRight,
    Nat.shiftRight_eq_div_pow, UInt32.toNat_ofNat', UInt32.reduceToNat,
    Nat.reduceMod, Nat.reducePow]
  omega

/-- A loop that joins each byte eight bits above the one before it. -/
def accumulate64 : List UInt8 → Nat → UInt64 → UInt64
  | [], _, parsed => parsed
  | byte :: rest, index, parsed =>
      accumulate64 rest (index + 1)
        (parsed ||| byte.toUInt64 <<< UInt64.ofNat (index * 8))

/-- The loop adds the bytes' value above what earlier bytes contributed. -/
theorem toNat_accumulate64
    (bytes : List UInt8)
    (index : Nat)
    (parsed : UInt64)
    (inside : index + bytes.length ≤ 8)
    (parsedFits : parsed.toNat < 256 ^ index) :
    (accumulate64 bytes index parsed).toNat =
      parsed.toNat + 256 ^ index * value bytes := by
  induction bytes generalizing index parsed with
  | nil =>
      simp [accumulate64]
  | cons byte rest inductionHypothesis =>
      have byteFits := byte.toNat_lt
      have powers : 256 ^ index = 2 ^ (index * 8) := by
        rw [Nat.mul_comm, pow_mul]
        norm_num
      simp only [List.length_cons] at inside
      have joined :=
        toNat_or_shiftLeft_uint64 parsed byte (index * 8) (by omega)
          (by rw [← powers]; exact parsedFits)
      rw [accumulate64, inductionHypothesis (index + 1) _ (by omega), joined,
        value_cons, ← powers]
      · ring
      · rw [joined, ← powers, pow_succ]
        calc parsed.toNat + 256 ^ index * byte.toNat
            < 256 ^ index + 256 ^ index * byte.toNat :=
              Nat.add_lt_add_right parsedFits _
          _ = 256 ^ index * (byte.toNat + 1) := by ring
          _ ≤ 256 ^ index * 256 := Nat.mul_le_mul_left _ byteFits

end LittleEndian
