import Mathlib.Data.List.TakeWhile
import Mathlib.Data.Nat.Digits.Lemmas

namespace Numerals

/-!
# Positional numerals

A number is written as its digits in some base, most significant first, and
read back by one accumulating pass.  The pass below is the one every numeral
reader performs; padding with leading zeros does not change what it reads.

The byte-level half fixes the ASCII digit alphabet of the standard stream
inserters and the signed decimal reader `atoi`.
-/

/-- The digits an unpadded stream inserter prints, most significant first. -/
def digits (base number : Nat) : List Nat :=
  if number = 0 then [0] else (Nat.digits base number).reverse

/-- Accumulate digits from an already read value, most significant first. -/
def accumulate (base value : Nat) (symbols : List Nat) : Nat :=
  symbols.foldl (fun read digit => read * base + digit) value

/-- Pad with leading zero digits up to a minimum width. -/
def pad (width : Nat) (symbols : List Nat) : List Nat :=
  List.replicate (width - symbols.length) 0 ++ symbols

@[simp] theorem accumulate_nil (base value : Nat) :
    accumulate base value [] = value :=
  rfl

@[simp] theorem accumulate_cons
    (base value digit : Nat)
    (rest : List Nat) :
    accumulate base value (digit :: rest) =
      accumulate base (value * base + digit) rest :=
  rfl

/-- Reading from zero inverts the little-endian digit evaluation. -/
theorem accumulate_reverse
    (base : Nat)
    (symbols : List Nat) :
    accumulate base 0 symbols.reverse = Nat.ofDigits base symbols := by
  rw [accumulate, List.foldl_reverse, Nat.ofDigits_eq_foldr]
  congr 1
  funext digit read
  simp only [Nat.cast_id]
  ring

/-- The digits of a number read back as the number. -/
@[simp] theorem accumulate_digits (base number : Nat) :
    accumulate base 0 (digits base number) = number := by
  by_cases isZero : number = 0
  · simp [digits, isZero]
  · rw [digits, if_neg isZero, accumulate_reverse,
      Nat.ofDigits_digits]

/-- Leading zeros do not change the value read. -/
@[simp] theorem accumulate_pad
    (base width : Nat)
    (symbols : List Nat) :
    accumulate base 0 (pad width symbols) =
      accumulate base 0 symbols := by
  unfold pad
  induction width - symbols.length with
  | zero =>
      simp
  | succ padding inductionHypothesis =>
      simpa [List.replicate_succ] using inductionHypothesis

/-- Reading never loses what was already read. -/
theorem le_accumulate
    {base : Nat}
    (positive : 0 < base)
    (value : Nat)
    (symbols : List Nat) :
    value ≤ accumulate base value symbols := by
  induction symbols generalizing value with
  | nil =>
      exact Nat.le_refl value
  | cons digit rest inductionHypothesis =>
      calc
        value ≤ value * base := Nat.le_mul_of_pos_right value positive
        _ ≤ value * base + digit := Nat.le_add_right _ _
        _ ≤ accumulate base (value * base + digit) rest :=
            inductionHypothesis _

/-- Every printed digit is below the base. -/
theorem digits_lt
    {base number digit : Nat}
    (validBase : 1 < base)
    (member : digit ∈ digits base number) :
    digit < base := by
  unfold digits at member
  split at member
  · simp only [List.mem_singleton] at member
    omega
  · exact Nat.digits_lt_base validBase (List.mem_reverse.mp member)

/-- Padding adds only zero digits. -/
theorem pad_lt
    {base width : Nat}
    {symbols : List Nat}
    (positive : 0 < base)
    (bounded : ∀ digit ∈ symbols, digit < base) :
    ∀ digit ∈ pad width symbols, digit < base := by
  intro digit member
  rcases List.mem_append.mp member with isZero | inSymbols
  · rw [List.eq_of_mem_replicate isZero]
    exact positive
  · exact bounded digit inSymbols

/-- A numeral is never empty. -/
theorem digits_ne_nil (base number : Nat) :
    digits base number ≠ [] := by
  unfold digits
  split
  · simp
  · rename_i nonzero
    simpa using Nat.digits_ne_nil_iff_ne_zero.mpr nonzero

/-- A number below `base ^ width` needs at most `width` digits. -/
theorem length_digits_le
    {base width number : Nat}
    (validBase : 1 < base)
    (room : 0 < width)
    (small : number < base ^ width) :
    (digits base number).length ≤ width := by
  unfold digits
  split
  · exact room
  · rw [List.length_reverse]
    exact (Nat.digits_length_le_iff validBase number).mpr small

/-- A numeral that fits is padded to exactly the requested width. -/
theorem length_pad
    {width : Nat}
    {symbols : List Nat}
    (fits : symbols.length ≤ width) :
    (pad width symbols).length = width := by
  simp only [pad, List.length_append, List.length_replicate]
  omega

section Ascii

/-- The lower-case ASCII digit of a value below sixteen. -/
def digitByte (digit : Nat) : UInt8 :=
  if digit < 10 then UInt8.ofNat (48 + digit)
  else UInt8.ofNat (87 + digit)

/-- The text an unpadded decimal inserter writes. -/
def decimalText (number : Nat) : List UInt8 :=
  (digits 10 number).map digitByte

/-- The text of a zero-filled, lower-case hexadecimal inserter. -/
def hexText (width number : Nat) : List UInt8 :=
  (pad width (digits 16 number)).map digitByte

/-- `isspace` in the default "C" locale. -/
def isSpace (byte : UInt8) : Bool :=
  byte = 32 || (9 ≤ byte && byte ≤ 13)

/-- `isdigit`. -/
def isDigit (byte : UInt8) : Bool :=
  48 ≤ byte && byte ≤ 57

/-- The value of the longest decimal prefix of a text. -/
def decimalPrefix (text : List UInt8) : Nat :=
  accumulate 10 0 ((text.takeWhile isDigit).map fun byte => byte.toNat - 48)

/-- Clamp a value to the range of a 32-bit `int`. -/
def saturate (value : Int) : Int :=
  max (-(2 ^ 31)) (min (2 ^ 31 - 1) value)

/--
`std::atoi` on a 32-bit `int`: leading white space, one optional sign, and the
longest run of digits.  Values out of range saturate, as the Microsoft runtime
documents; the C standard leaves them undefined.
-/
def atoi (text : List UInt8) : Int :=
  match text.dropWhile isSpace with
  | 45 :: unsigned => saturate (-(decimalPrefix unsigned : Int))
  | 43 :: unsigned => saturate (decimalPrefix unsigned)
  | unsigned => saturate (decimalPrefix unsigned)

/-- The byte of a small digit, as a number. -/
theorem toNat_digitByte
    {digit : Nat}
    (small : digit < 16) :
    (digitByte digit).toNat =
      if digit < 10 then 48 + digit else 87 + digit := by
  unfold digitByte
  split <;> simp <;> omega

/-- Decimal digits read back digit by digit. -/
theorem decimalPrefix_decimalText
    (number : Nat) :
    decimalPrefix (decimalText number) = number := by
  have readDigit :
      ∀ digit ∈ digits 10 number,
        isDigit (digitByte digit) = true ∧
          (digitByte digit).toNat - 48 = digit := by
    intro digit member
    have small := digits_lt (by decide) member
    have asNat := toNat_digitByte (Nat.lt_of_lt_of_le small (by decide))
    rw [if_pos small] at asNat
    simp only [isDigit, Bool.and_eq_true, decide_eq_true_eq,
      UInt8.le_iff_toNat_le]
    simp [asNat]
    omega
  have allDigits :
      (decimalText number).takeWhile isDigit = decimalText number := by
    rw [decimalText, List.takeWhile_eq_self_iff]
    intro byte member
    obtain ⟨digit, digitMember, rfl⟩ := List.mem_map.mp member
    exact (readDigit digit digitMember).1
  have values :
      (decimalText number).map (fun byte => byte.toNat - 48) =
        digits 10 number := by
    rw [decimalText, List.map_map]
    exact (List.map_congr_left fun digit member =>
      (readDigit digit member).2).trans (List.map_id _)
  rw [decimalPrefix, allDigits, values, accumulate_digits]

/-- `atoi` reads back every nonnegative number it can represent. -/
theorem atoi_decimalText
    {number : Nat}
    (representable : number < 2 ^ 31) :
    atoi (decimalText number) = number := by
  obtain ⟨first, rest, digitsShape⟩ :=
    List.exists_cons_of_ne_nil (digits_ne_nil 10 number)
  have firstMember : first ∈ digits 10 number := by
    simp [digitsShape]
  have firstSmall : first < 10 :=
    digits_lt (by decide) firstMember
  have textShape :
      decimalText number = digitByte first :: rest.map digitByte := by
    simp [decimalText, digitsShape]
  have firstNat :=
    toNat_digitByte (Nat.lt_of_lt_of_le firstSmall (by decide))
  rw [if_pos firstSmall] at firstNat
  have notSpace : isSpace (digitByte first) = false := by
    simp only [isSpace, UInt8.le_iff_toNat_le, ← UInt8.toNat_inj]
    simp [firstNat]
    omega
  have notMinus : digitByte first ≠ 45 := by
    simp only [ne_eq, ← UInt8.toNat_inj, firstNat]
    simp
    omega
  have notPlus : digitByte first ≠ 43 := by
    simp only [ne_eq, ← UInt8.toNat_inj, firstNat]
    simp
    omega
  have kept :
      (decimalText number).dropWhile isSpace = decimalText number := by
    simp [textShape, notSpace]
  unfold atoi
  rw [kept]
  have unsigned := decimalPrefix_decimalText number
  rw [textShape] at unsigned ⊢
  split
  · rename_i isMinus
    exact (notMinus (List.cons.inj isMinus).1).elim
  · rename_i isPlus
    exact (notPlus (List.cons.inj isPlus).1).elim
  · rw [unsigned, saturate]
    omega

end Ascii

end Numerals
