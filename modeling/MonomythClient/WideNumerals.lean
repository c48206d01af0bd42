import MonomythClient.Numerals
import Mathlib.Data.List.TakeWhile

namespace WideNumerals

/-!
# Numerals of a wide text

The numerals `wcstoul` reads when it is left to find the base itself: an
optional sign, a mark of the base and digits, written in 16-bit symbols.  A
numeral has a mathematical value.  The reader converts into 32 bits, where a
magnitude too large saturates and a minus negates modulo `2 ^ 32`, so that its
result is the value exactly of the numerals whose value is in range.
-/

/-- The digit a symbol stands for; none of the bases has a digit 36. -/
def symbolValue (symbol : UInt16) : Nat :=
  if 48 ≤ symbol ∧ symbol ≤ 57 then symbol.toNat - 48
  else if 65 ≤ symbol ∧ symbol ≤ 90 then symbol.toNat - 55
  else if 97 ≤ symbol ∧ symbol ≤ 122 then symbol.toNat - 87
  else 36

/-- The symbols that are digits in a base. -/
def isDigitOf (base : Nat) (symbol : UInt16) : Bool :=
  decide (symbolValue symbol < base)

/-- The number written by digits, most significant first. -/
def digitsValue (base : Nat) (digits : List UInt16) : Nat :=
  Numerals.accumulate base 0 (digits.map symbolValue)

/-- The sign in front of a numeral. -/
inductive Sign where
  | unsigned
  | plus
  | minus
  deriving Repr, DecidableEq

/-- How a sign is written. -/
def Sign.mark : Sign → List UInt16
  | .unsigned => []
  | .plus => [43]
  | .minus => [45]

/-- The base of a numeral, with the letter of a hexadecimal mark. -/
inductive Radix where
  | octal
  | decimal
  | hexadecimal (capital : Bool)
  deriving Repr, DecidableEq

/-- The base of the digits. -/
def Radix.base : Radix → Nat
  | .octal => 8
  | .decimal => 10
  | .hexadecimal _ => 16

/-- How a base is written; the zero that marks octal is a digit already. -/
def Radix.mark : Radix → List UInt16
  | .octal => [48]
  | .decimal => []
  | .hexadecimal capital => [48, if capital then 88 else 120]

/-- A well-formed numeral. -/
structure Numeral where
  sign : Sign
  radix : Radix
  digits : List UInt16
  areDigits : ∀ symbol ∈ digits, isDigitOf radix.base symbol = true
  nonempty : radix ≠ .octal → digits ≠ []
  leading : radix = .decimal → digits.head? ≠ some 48

namespace Numeral

/-- How a numeral is written. -/
def text (numeral : Numeral) : List UInt16 :=
  numeral.sign.mark ++ (numeral.radix.mark ++ numeral.digits)

/-- The number a numeral writes behind its sign. -/
def magnitude (numeral : Numeral) : Nat :=
  digitsValue numeral.radix.base numeral.digits

/-- The number a numeral writes. -/
def value (numeral : Numeral) : Int :=
  match numeral.sign with
  | .minus => -(numeral.magnitude : Int)
  | _ => numeral.magnitude

/-- The numerals of 32-bit unsigned numbers. -/
def InRange (numeral : Numeral) : Prop :=
  0 ≤ numeral.value ∧ numeral.value ≤ 2 ^ 32 - 1

instance (numeral : Numeral) : Decidable numeral.InRange :=
  inferInstanceAs (Decidable (_ ∧ _))

end Numeral

section Reader

/-- Read an optional sign. -/
def splitSign : List UInt16 → Sign × List UInt16
  | [] => (.unsigned, [])
  | symbol :: rest =>
      if symbol = 43 then (.plus, rest)
      else if symbol = 45 then (.minus, rest)
      else (.unsigned, symbol :: rest)

/--
Read the mark of the base.  A zero with an `x` behind it marks a hexadecimal
numeral only if a hexadecimal digit follows; otherwise the zero is octal and
the `x` no part of the numeral.
-/
def splitRadix : List UInt16 → Radix × List UInt16
  | [] => (.decimal, [])
  | symbol :: rest =>
      if symbol = 48 then
        match rest with
        | letter :: digit :: later =>
            if letter = 120 ∧ isDigitOf 16 digit = true then
              (.hexadecimal false, digit :: later)
            else if letter = 88 ∧ isDigitOf 16 digit = true then
              (.hexadecimal true, digit :: later)
            else
              (.octal, rest)
        | _ => (.octal, rest)
      else
        (.decimal, symbol :: rest)

/-- The parts of a text that starts with a numeral. -/
structure Reading where
  sign : Sign
  radix : Radix
  digits : List UInt16
  rest : List UInt16
  deriving Repr, DecidableEq

/-- Read a sign, a mark and as many digits as there are. -/
def read (text : List UInt16) : Reading where
  sign := (splitSign text).1
  radix := (splitRadix (splitSign text).2).1
  digits :=
    (splitRadix (splitSign text).2).2.takeWhile
      (isDigitOf (splitRadix (splitSign text).2).1.base)
  rest :=
    (splitRadix (splitSign text).2).2.dropWhile
      (isDigitOf (splitRadix (splitSign text).2).1.base)

/-- The conversion into an `unsigned long` of 32 bits. -/
def convert (sign : Sign) (magnitude : Nat) : UInt32 :=
  if 2 ^ 32 - 1 < magnitude then 0xFFFFFFFF
  else
    match sign with
    | .minus => 0 - UInt32.ofNat magnitude
    | _ => UInt32.ofNat magnitude

/--
`wcstoul` in base zero: the converted number, and the text from `end` on.
Where no digit is read, `end` is the beginning of the text.
-/
def wcstoul
    (isSpace : UInt16 → Bool)
    (text : List UInt16) :
    UInt32 × List UInt16 :=
  let reading := read (text.dropWhile isSpace)
  if reading.radix = .decimal ∧ reading.digits = [] then
    (0, text)
  else
    (convert reading.sign (digitsValue reading.radix.base reading.digits),
      reading.rest)

end Reader

section Parts

/-- What a sign takes off a text is its mark. -/
theorem splitSign_text (text : List UInt16) :
    (splitSign text).1.mark ++ (splitSign text).2 = text := by
  cases text with
  | nil =>
      rfl
  | cons symbol rest =>
      rw [splitSign]
      split
      next isPlus =>
        rw [isPlus]
        rfl
      next =>
        split
        next isMinus =>
          rw [isMinus]
          rfl
        next =>
          rfl

/-- The marks of a base, and what follows each. -/
theorem splitRadix_cases (text : List UInt16) :
    (splitRadix text = (.decimal, text) ∧ text.head? ≠ some 48) ∨
      (∃ rest, text = 48 :: rest ∧ splitRadix text = (.octal, rest)) ∨
      ∃ capital digit later,
        text = (Radix.hexadecimal capital).mark ++ digit :: later ∧
          isDigitOf 16 digit = true ∧
          splitRadix text = (.hexadecimal capital, digit :: later) := by
  fun_cases splitRadix text with
  | case1 =>
      exact .inl ⟨rfl, by simp⟩
  | case2 letter digit later isLower =>
      refine .inr (.inr ⟨false, digit, later, ?_, isLower.2, rfl⟩)
      rw [isLower.1]
      rfl
  | case3 letter digit later _ isUpper =>
      refine .inr (.inr ⟨true, digit, later, ?_, isUpper.2, rfl⟩)
      rw [isUpper.1]
      rfl
  | case4 letter digit later _ _ =>
      exact .inr (.inl ⟨letter :: digit :: later, rfl, rfl⟩)
  | case5 rest _ =>
      exact .inr (.inl ⟨rest, rfl, rfl⟩)
  | case6 symbol rest notZero =>
      exact .inl ⟨rfl, by simpa using notZero⟩

/-- A sign is read off any text that has no sign itself. -/
theorem splitSign_mark
    (sign : Sign)
    {text : List UInt16}
    (noPlus : text.head? ≠ some 43)
    (noMinus : text.head? ≠ some 45) :
    splitSign (sign.mark ++ text) = (sign, text) := by
  cases sign with
  | unsigned =>
      cases text with
      | nil =>
          rfl
      | cons symbol rest =>
          have notPlus : symbol ≠ 43 := by simpa using noPlus
          have notMinus : symbol ≠ 45 := by simpa using noMinus
          simp [Sign.mark, splitSign, notPlus, notMinus]
  | plus =>
      rfl
  | minus =>
      rfl

/-- The letters of a hexadecimal mark are no octal digits. -/
theorem not_isDigitOf_letter (capital : Bool) :
    isDigitOf 8 (if capital then 88 else 120) = false := by
  cases capital <;> decide

/-- A mark is read off the digits behind it. -/
theorem splitRadix_mark
    (radix : Radix)
    {digits : List UInt16}
    (areDigits : ∀ symbol ∈ digits, isDigitOf radix.base symbol = true)
    (nonempty : radix ≠ .octal → digits ≠ [])
    (leading : radix = .decimal → digits.head? ≠ some 48) :
    splitRadix (radix.mark ++ digits) = (radix, digits) := by
  rcases splitRadix_cases (radix.mark ++ digits) with
    ⟨isDecimal, noZero⟩ | ⟨rest, isZero, isOctal⟩ |
      ⟨capital, digit, later, marked, isDigit, isHexadecimal⟩
  · cases radix with
    | octal =>
        exact (noZero rfl).elim
    | decimal =>
        exact isDecimal
    | hexadecimal capital =>
        exact (noZero rfl).elim
  · cases radix with
    | octal =>
        obtain rfl := (List.cons.inj isZero).2
        exact isOctal
    | decimal =>
        have startsZero : digits.head? = some 48 := by
          rw [show digits = 48 :: rest from isZero]
          rfl
        exact (leading rfl startsZero).elim
    | hexadecimal capital =>
        obtain ⟨first, others, rfl⟩ :=
          List.exists_cons_of_ne_nil (nonempty (by simp))
        have isDigit := areDigits first List.mem_cons_self
        cases capital <;>
          simp [Radix.mark, splitRadix, show isDigitOf 16 first = true
            from isDigit]
  · cases radix with
    | octal =>
        have startsLetter :
            digits = (if capital then 88 else 120) :: digit :: later :=
          (List.cons.inj marked).2
        have letterDigit :=
          areDigits (if capital then 88 else 120) (by
            rw [startsLetter]
            exact List.mem_cons_self)
        rw [show Radix.octal.base = 8 from rfl,
          not_isDigitOf_letter] at letterDigit
        cases letterDigit
    | decimal =>
        have startsZero : digits.head? = some 48 := by
          rw [show digits = _ from marked]
          rfl
        exact (leading rfl startsZero).elim
    | hexadecimal capital' =>
        rw [isHexadecimal]
        have shape :
            (if capital' then (88 : UInt16) else 120) :: digits =
              (if capital then 88 else 120) :: digit :: later :=
          (List.cons.inj marked).2
        obtain ⟨sameLetter, sameDigits⟩ := List.cons.inj shape
        rw [sameDigits]
        cases capital <;> cases capital' <;> simp_all

/-- The parts of a reading make up the text. -/
theorem read_text (text : List UInt16) :
    (read text).sign.mark ++
        ((read text).radix.mark ++
          ((read text).digits ++ (read text).rest)) =
      text := by
  have signed := splitSign_text text
  have marked :
      (splitRadix (splitSign text).2).1.mark ++
          (splitRadix (splitSign text).2).2 =
        (splitSign text).2 := by
    rcases splitRadix_cases (splitSign text).2 with
      ⟨isDecimal, -⟩ | ⟨rest, isZero, isOctal⟩ |
        ⟨capital, digit, later, shape, -, isHexadecimal⟩
    · rw [isDecimal]
      rfl
    · rw [isOctal, isZero]
      rfl
    · rw [isHexadecimal, shape]
  rw [read, List.takeWhile_append_dropWhile, marked, signed]

/-- The digits of a reading are digits of its base. -/
theorem isDigitOf_of_mem_read
    {text : List UInt16} :
    ∀ symbol ∈ (read text).digits,
      isDigitOf (read text).radix.base symbol = true :=
  fun _ member => List.mem_takeWhile_imp member

/-- A hexadecimal reading has a digit. -/
theorem read_nonempty
    {text : List UInt16}
    (converted :
      ¬ ((read text).radix = .decimal ∧ (read text).digits = []))
    (notOctal : (read text).radix ≠ .octal) :
    (read text).digits ≠ [] := by
  intro empty
  rcases splitRadix_cases (splitSign text).2 with
    ⟨isDecimal, -⟩ | ⟨rest, -, isOctal⟩ |
      ⟨capital, digit, later, -, isDigit, isHexadecimal⟩
  · exact converted ⟨by rw [read, isDecimal], empty⟩
  · exact notOctal (by rw [read, isOctal])
  · rw [read, isHexadecimal, Radix.base, List.takeWhile_cons,
      if_pos isDigit] at empty
    cases empty

/-- A decimal reading has no leading zero. -/
theorem read_leading
    {text : List UInt16}
    (isDecimal : (read text).radix = .decimal) :
    (read text).digits.head? ≠ some 48 := by
  have kind : (splitRadix (splitSign text).2).1 = .decimal := isDecimal
  rcases splitRadix_cases (splitSign text).2 with
    ⟨whole, noZero⟩ | ⟨rest, -, isOctal⟩ |
      ⟨capital, digit, later, -, -, isHexadecimal⟩
  · intro startsZero
    refine noZero ?_
    rw [read, whole] at startsZero
    cases unsigned : (splitSign text).2 with
    | nil =>
        rw [unsigned] at startsZero
        cases startsZero
    | cons first later =>
        rw [unsigned, List.takeWhile_cons] at startsZero
        split at startsZero
        next =>
          exact startsZero
        next =>
          cases startsZero
  · rw [isOctal] at kind
    cases kind
  · rw [isHexadecimal] at kind
    cases kind

/-- A conversion ends inside the text. -/
theorem mem_of_mem_wcstoul
    {isSpace : UInt16 → Bool}
    {text : List UInt16}
    {symbol : UInt16}
    (member : symbol ∈ (wcstoul isSpace text).2) :
    symbol ∈ text := by
  rw [wcstoul] at member
  split at member
  next =>
    exact member
  next =>
    refine (List.dropWhile_sublist isSpace).mem ?_
    rw [← read_text (text.dropWhile isSpace)]
    exact List.mem_append_right _ (List.mem_append_right _
      (List.mem_append_right _ member))

end Parts

namespace Numeral

/-- What stands behind the sign starts with a decimal or a base's digit. -/
theorem head?_unsigned
    (numeral : Numeral)
    {first : UInt16}
    (isFirst :
      (numeral.radix.mark ++ numeral.digits).head? = some first) :
    isDigitOf 10 first = true := by
  cases kind : numeral.radix with
  | decimal =>
      rw [kind] at isFirst
      have isDigit :=
        numeral.areDigits first (List.mem_of_mem_head? isFirst)
      rwa [kind] at isDigit
  | octal =>
      rw [kind] at isFirst
      obtain rfl := Option.some.inj isFirst
      decide
  | hexadecimal capital =>
      rw [kind] at isFirst
      obtain rfl := Option.some.inj isFirst
      decide

/-- A numeral starts with a sign or a decimal digit. -/
theorem head?_text
    (numeral : Numeral)
    {first : UInt16}
    (isFirst : numeral.text.head? = some first) :
    first = 43 ∨ first = 45 ∨ isDigitOf 10 first = true := by
  cases signed : numeral.sign with
  | unsigned =>
      rw [text, signed] at isFirst
      exact .inr (.inr (numeral.head?_unsigned isFirst))
  | plus =>
      rw [text, signed] at isFirst
      exact .inl (Option.some.inj isFirst).symm
  | minus =>
      rw [text, signed] at isFirst
      exact .inr (.inl (Option.some.inj isFirst).symm)

/-- A numeral is not blank. -/
theorem text_ne_nil (numeral : Numeral) : numeral.text ≠ [] := by
  intro empty
  obtain ⟨-, unsigned⟩ := List.append_eq_nil_iff.mp empty
  obtain ⟨unmarked, noDigits⟩ := List.append_eq_nil_iff.mp unsigned
  refine numeral.nonempty ?_ noDigits
  intro isOctal
  rw [isOctal] at unmarked
  cases unmarked

/-- A numeral reads back as its own parts. -/
theorem read_text (numeral : Numeral) :
    read numeral.text =
      ⟨numeral.sign, numeral.radix, numeral.digits, []⟩ := by
  have noSign :
      ∀ symbol, isDigitOf 10 symbol = false →
        (numeral.radix.mark ++ numeral.digits).head? ≠ some symbol := by
    intro symbol notDigit isFirst
    rw [numeral.head?_unsigned isFirst] at notDigit
    cases notDigit
  have signed :
      splitSign numeral.text =
        (numeral.sign, numeral.radix.mark ++ numeral.digits) :=
    splitSign_mark numeral.sign (noSign 43 (by decide))
      (noSign 45 (by decide))
  have marked :=
    splitRadix_mark numeral.radix numeral.areDigits numeral.nonempty
      numeral.leading
  rw [read, signed]
  simp only [marked]
  rw [List.takeWhile_eq_self_iff.mpr numeral.areDigits,
    List.dropWhile_eq_nil_iff.mpr numeral.areDigits]

/-- A text is that of one number only. -/
theorem value_unique
    {numeral other : Numeral}
    (same : numeral.text = other.text) :
    numeral.value = other.value := by
  have sameParts := numeral.read_text.symm.trans
    ((congrArg read same).trans other.read_text)
  obtain ⟨sameSign, sameRadix, sameDigits, -⟩ :=
    Reading.mk.inj sameParts
  rw [value, value, magnitude, magnitude, sameSign, sameRadix, sameDigits]

/-- The conversion of a number in range is the number. -/
theorem toNat_convert
    {numeral : Numeral}
    (inRange : numeral.InRange) :
    ((convert numeral.sign numeral.magnitude).toNat : Int) =
      numeral.value := by
  obtain ⟨notNegative, small⟩ := inRange
  have representable :
      numeral.magnitude < 2 ^ 32 →
        (UInt32.ofNat numeral.magnitude).toNat = numeral.magnitude :=
    fun below => Nat.mod_eq_of_lt below
  cases signed : numeral.sign with
  | minus =>
      have isZero : numeral.magnitude = 0 := by
        simp only [value, signed] at notNegative
        omega
      simp [value, signed, convert, isZero]
  | unsigned =>
      simp only [value, signed] at small ⊢
      have fits : ¬ 2 ^ 32 - 1 < numeral.magnitude := by omega
      simp only [convert, if_neg fits]
      rw [representable (by omega)]
  | plus =>
      simp only [value, signed] at small ⊢
      have fits : ¬ 2 ^ 32 - 1 < numeral.magnitude := by omega
      simp only [convert, if_neg fits]
      rw [representable (by omega)]

end Numeral

section WholeText

variable {isSpace : UInt16 → Bool}

/-- A numeral is converted to its end. -/
theorem wcstoul_numeral
    (numeral : Numeral)
    (noSpace : ∀ first ∈ numeral.text.head?, isSpace first = false) :
    wcstoul isSpace numeral.text =
      (convert numeral.sign numeral.magnitude, []) := by
  have kept : numeral.text.dropWhile isSpace = numeral.text := by
    obtain ⟨first, later, shape⟩ :=
      List.exists_cons_of_ne_nil numeral.text_ne_nil
    rw [shape] at noSpace ⊢
    rw [List.dropWhile_cons, if_neg]
    simpa using noSpace first rfl
  rw [wcstoul, kept, numeral.read_text]
  simp only
  rw [if_neg]
  · rfl
  · rintro ⟨isDecimal, noDigits⟩
    exact numeral.nonempty (by rw [isDecimal]; simp) noDigits

/-- Only a numeral is converted to its end. -/
theorem exists_numeral_of_wcstoul
    {text : List UInt16}
    (notBlank : text ≠ [])
    (noSpace : ∀ first ∈ text.head?, isSpace first = false)
    (whole : (wcstoul isSpace text).2 = []) :
    ∃ numeral : Numeral, numeral.text = text := by
  have kept : text.dropWhile isSpace = text := by
    obtain ⟨first, later, rfl⟩ := List.exists_cons_of_ne_nil notBlank
    rw [List.dropWhile_cons, if_neg]
    simpa using noSpace first rfl
  rw [wcstoul, kept] at whole
  split at whole
  next =>
    exact (notBlank whole).elim
  next converted =>
    refine ⟨⟨(read text).sign, (read text).radix, (read text).digits,
      isDigitOf_of_mem_read, read_nonempty converted, read_leading⟩, ?_⟩
    calc
      (read text).sign.mark ++
          ((read text).radix.mark ++ (read text).digits) =
        (read text).sign.mark ++
          ((read text).radix.mark ++
            ((read text).digits ++ (read text).rest)) := by
              rw [show (read text).rest = [] from whole,
                List.append_nil]
      _ = text := WideNumerals.read_text text

end WholeText

end WideNumerals
