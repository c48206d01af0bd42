import Mathlib.Data.Int.Init

namespace CheckedInt32

/-!
# Signed arithmetic without overflow

Operations on 32-bit signed integers that have a result only when the exact one
is in range, as a language has them in which overflow is undefined.  Each is
told by the exact integer it stands for.
-/

/-- The number of an exact result, if it is in range. -/
def ofInt? (exact : Int) : Option Int32 :=
  if Int32.minValue.toInt ≤ exact ∧ exact ≤ Int32.maxValue.toInt then
    some (Int32.ofInt exact)
  else
    none

/-- Multiplication. -/
def mul (left right : Int32) : Option Int32 :=
  ofInt? (left.toInt * right.toInt)

/-- Addition. -/
def add (left right : Int32) : Option Int32 :=
  ofInt? (left.toInt + right.toInt)

/-- Division, which truncates. -/
def div (dividend divisor : Int32) : Option Int32 :=
  if divisor = 0 then
    none
  else
    ofInt? (dividend.toInt.tdiv divisor.toInt)

/-- A result is the number that the exact one is. -/
theorem ofInt?_eq_some_iff {exact : Int} {number : Int32} :
    ofInt? exact = some number ↔ number.toInt = exact := by
  rw [ofInt?]
  split
  next inRange =>
    rw [Option.some.injEq, ← Int32.toInt_inj,
      Int32.toInt_ofInt_of_le inRange.1 (Int.lt_add_one_of_le inRange.2)]
    exact eq_comm
  next outside =>
    refine ⟨fun isNone => absurd isNone.symm (Option.some_ne_none _), ?_⟩
    rintro rfl
    exact absurd ⟨number.minValue_le_toInt, number.toInt_le⟩ outside

theorem mul_eq_some_iff {left right product : Int32} :
    mul left right = some product ↔
      product.toInt = left.toInt * right.toInt :=
  ofInt?_eq_some_iff

theorem add_eq_some_iff {left right sum : Int32} :
    add left right = some sum ↔ sum.toInt = left.toInt + right.toInt :=
  ofInt?_eq_some_iff

/-- Nonnegative numbers divide without a sign to care for. -/
theorem div_eq_some_iff
    {dividend divisor quotient : Int32}
    (nonnegative : 0 ≤ dividend.toInt)
    (positive : 0 < divisor.toInt) :
    div dividend divisor = some quotient ↔
      quotient.toInt = dividend.toInt / divisor.toInt := by
  have notZero : divisor ≠ 0 := by
    rintro rfl
    exact absurd positive (by decide)
  rw [div, if_neg notZero, ofInt?_eq_some_iff,
    Int.tdiv_eq_ediv_of_nonneg nonnegative]

/-- There is a number for every integer in range. -/
theorem exists_toInt
    (exact : Int)
    (above : -2147483648 ≤ exact)
    (below : exact ≤ 2147483647) :
    ∃ number : Int32, number.toInt = exact :=
  ⟨Int32.ofInt exact, Int32.toInt_ofInt_of_le above (by omega)⟩

end CheckedInt32
