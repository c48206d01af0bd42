import Mathlib.Data.UInt

namespace FlatMemory

/-!
# A flat 32-bit memory

Every address holds a byte, and addresses wrap around.  A range is a first
address and a length; an address is in it when its distance from the first one
is below the length.
-/

/-- The bytes of an address space. -/
abbrev Bytes : Type :=
  UInt32 → UInt8

/-- The bytes from an address on. -/
def Bytes.at (memory : Bytes) (address : UInt32) : Nat → UInt8 :=
  fun offset => memory (address + UInt32.ofNat offset)

/-- How far an address is behind the first of a range. -/
def offsetFrom (first address : UInt32) : Nat :=
  (address - first).toNat

/-- An address lies in the range. -/
def InRange (first : UInt32) (length : Nat) (address : UInt32) : Prop :=
  offsetFrom first address < length

instance (first : UInt32) (length : Nat) (address : UInt32) :
    Decidable (InRange first length address) :=
  inferInstanceAs (Decidable (offsetFrom first address < length))

/-- Writing the first bytes of a source to a range. -/
def Bytes.write
    (memory : Bytes)
    (first : UInt32)
    (source : Nat → UInt8)
    (length : Nat) :
    Bytes :=
  fun address =>
    if InRange first length address then
      source (offsetFrom first address)
    else
      memory address

/-! ## Offsets -/

/-- An address is its offset behind the first one. -/
@[simp] theorem add_offsetFrom (first address : UInt32) :
    first + UInt32.ofNat (offsetFrom first address) = address := by
  rw [offsetFrom, UInt32.ofNat_toNat, UInt32.add_comm,
    UInt32.sub_add_cancel]

/-- An offset is what it was added as. -/
theorem offsetFrom_add
    (first : UInt32)
    {offset : Nat}
    (fits : offset < 2 ^ 32) :
    offsetFrom first (first + UInt32.ofNat offset) = offset := by
  rw [offsetFrom, UInt32.add_comm, UInt32.add_sub_cancel,
    UInt32.toNat_ofNat', Nat.mod_eq_of_lt fits]

/-- What is added below the length stays in the range. -/
theorem inRange_add
    {first : UInt32}
    {offset length : Nat}
    (fits : offset < 2 ^ 32)
    (below : offset < length) :
    InRange first length (first + UInt32.ofNat offset) := by
  rw [InRange, offsetFrom_add first fits]
  exact below

theorem offsetFrom_lt (first address : UInt32) :
    offsetFrom first address < 2 ^ 32 :=
  (address - first).toNat_lt

/-- Offsets from a later address are smaller, or wrap around. -/
theorem offsetFrom_later
    (first address : UInt32)
    {shift : Nat}
    (fits : shift < 2 ^ 32) :
    offsetFrom (first + UInt32.ofNat shift) address =
      if shift ≤ offsetFrom first address then
        offsetFrom first address - shift
      else
        2 ^ 32 + offsetFrom first address - shift := by
  have firstFits := first.toNat_lt
  have addressFits := address.toNat_lt
  simp only [offsetFrom, UInt32.toNat_sub, UInt32.toNat_add,
    UInt32.toNat_ofNat', Nat.mod_eq_of_lt fits]
  split <;> omega

/-! ## Writes -/

theorem Bytes.write_inRange
    {memory : Bytes}
    {first : UInt32}
    {source : Nat → UInt8}
    {length : Nat}
    {address : UInt32}
    (inside : InRange first length address) :
    memory.write first source length address =
      source (offsetFrom first address) :=
  if_pos inside

theorem Bytes.write_outside
    {memory : Bytes}
    {first : UInt32}
    {source : Nat → UInt8}
    {length : Nat}
    {address : UInt32}
    (outside : ¬ InRange first length address) :
    memory.write first source length address = memory address :=
  if_neg outside

/-- Two writes behind one another are one. -/
theorem Bytes.write_write
    (memory : Bytes)
    (first : UInt32)
    (source later : Nat → UInt8)
    (length laterLength : Nat)
    (fits : length + laterLength < 2 ^ 32) :
    (memory.write first source length).write
        (first + UInt32.ofNat length) later laterLength =
      memory.write first
        (fun offset =>
          if offset < length then
            source offset
          else
            later (offset - length))
        (length + laterLength) := by
  funext address
  have below := offsetFrom_lt first address
  have shifted :=
    @offsetFrom_later first address length (by omega)
  simp only [write, InRange, shifted]
  by_cases behind : length ≤ offsetFrom first address
  · have notBefore : ¬ offsetFrom first address < length := by omega
    simp only [behind, if_true, notBefore, if_false]
    by_cases inside : offsetFrom first address < length + laterLength
    · rw [if_pos (by omega), if_pos inside]
    · rw [if_neg (by omega), if_neg inside]
  · have before : offsetFrom first address < length := by omega
    simp only [behind, if_false, before, if_true]
    rw [if_neg (by omega), if_pos (by omega)]

/-- What is written is what is read. -/
theorem Bytes.at_write
    (memory : Bytes)
    (first : UInt32)
    (source : Nat → UInt8)
    {length offset : Nat}
    (fits : length ≤ 2 ^ 32)
    (inside : offset < length) :
    (memory.write first source length).at first offset = source offset := by
  have sameOffset :=
    offsetFrom_add first (Nat.lt_of_lt_of_le inside fits)
  have inRange : InRange first length (first + UInt32.ofNat offset) := by
    rw [InRange, sameOffset]
    exact inside
  rw [Bytes.at, write_inRange inRange, sameOffset]

/-- Reading behind an address is reading from a later one. -/
theorem Bytes.at_add
    (memory : Bytes)
    (address : UInt32)
    (shift offset : Nat) :
    memory.at (address + UInt32.ofNat shift) offset =
      memory.at address (shift + offset) := by
  rw [Bytes.at, Bytes.at, UInt32.ofNat_add, UInt32.add_assoc]

/-! ## Comparing -/

/-- Two runs of bytes are the same. -/
def sameBytes (left right : Nat → UInt8) (length : Nat) : Bool :=
  (List.range length).all fun offset => left offset = right offset

theorem sameBytes_iff
    {left right : Nat → UInt8}
    {length : Nat} :
    sameBytes left right length = true ↔
      ∀ offset < length, left offset = right offset := by
  simp [sameBytes]

end FlatMemory
