import MonomythClient.FrontReaders
import MonomythClient.PayloadReader

namespace MonomythClient.PayloadReader

open FrontReaders LittleEndian

/-!
# Cursors in a payload

A parser that moves a cursor through a payload depends on nothing but the bytes
from the cursor on.  The rules here say what each read finds there, and where
the cursor stands afterwards, in terms of readers from the front of a list.
-/

/-- The cursor stands inside the payload, before these bytes. -/
structure Stands
    (contents : List UInt8)
    (payloadLength cursor : UInt32)
    (ahead : List UInt8) :
    Prop where
  whole : contents.length = payloadLength.toNat
  inside : cursor.toNat ≤ payloadLength.toNat
  behind : contents.drop cursor.toNat = ahead

section Moves

variable
  {contents ahead : List UInt8}
  {payloadLength cursor : UInt32}

/-- What is ahead reaches to the end of the payload. -/
theorem Stands.length
    (stands : Stands contents payloadLength cursor ahead) :
    cursor.toNat + ahead.length = payloadLength.toNat := by
  have inside := stands.inside
  rw [← stands.behind, List.length_drop, stands.whole]
  omega

/-- The cursor at a place of the payload. -/
theorem Stands.start
    {place : UInt32}
    (whole : contents.length = payloadLength.toNat)
    (inside : place.toNat ≤ payloadLength.toNat) :
    Stands contents payloadLength place (contents.drop place.toNat) :=
  ⟨whole, inside, rfl⟩

/-- The cursor moves over some bytes without wrapping. -/
theorem Stands.advance
    {front rest : List UInt8}
    {width : UInt32}
    (stands : Stands contents payloadLength cursor (front ++ rest))
    (sized : front.length = width.toNat) :
    Stands contents payloadLength (cursor + width) rest ∧
      (cursor + width).toNat = cursor.toNat + width.toNat := by
  have length := stands.length
  rw [List.length_append, sized] at length
  have lengthFits := payloadLength.toNat_lt
  have moved : (cursor + width).toNat = cursor.toNat + width.toNat :=
    toNat_add_inside (by omega)
  refine ⟨⟨stands.whole, by omega, ?_⟩, moved⟩
  rw [moved, ← List.drop_drop, stands.behind, ← sized, List.drop_left]

/-- A field ahead of the cursor is read. -/
theorem Stands.word
    (stands : Stands contents payloadLength cursor ahead)
    {place : UInt32}
    {distance : Nat}
    (placed : place.toNat = cursor.toNat + distance)
    (enough : distance + 4 ≤ ahead.length) :
    tryReadU32 (some contents) payloadLength place =
      some (UInt32.ofNat (value ((ahead.drop distance).take 4))) := by
  have length := stands.length
  have whole := stands.whole
  rw [tryReadU32_inside (by omega) (by omega), field, placed,
    ← List.drop_drop, stands.behind]

/-- A field is not read where too few bytes are left. -/
theorem Stands.noWord
    (stands : Stands contents payloadLength cursor ahead)
    {place : UInt32}
    {distance : Nat}
    (placed : place.toNat = cursor.toNat + distance)
    (short : ahead.length < distance + 4) :
    tryReadU32 (some contents) payloadLength place = none := by
  have length := stands.length
  exact tryReadU32_outside _ (by omega)

/-- A text ahead of the cursor is read, and the cursor moves behind it. -/
theorem Stands.text
    (stands : Stands contents payloadLength cursor ahead)
    {text rest : List UInt8}
    (found : takeUntil 0 ahead = some (text, rest)) :
    ∃ next,
      tryReadCString (some contents) payloadLength cursor =
          some (text, next) ∧
        Stands contents payloadLength next rest ∧
          next.toNat = cursor.toNat + text.length + 1 := by
  obtain ⟨shape, nonzero⟩ := takeUntil_eq_some_iff.mp found
  obtain ⟨next, read, moved, behind⟩ :=
    tryReadCString_found stands.whole (stands.behind.trans shape) nonzero
  have length := stands.length
  rw [shape, List.length_append, List.length_cons] at length
  exact ⟨next, read, ⟨stands.whole, by omega, behind⟩, moved⟩

/-- Without a terminator ahead no text is read. -/
theorem Stands.noText
    (stands : Stands contents payloadLength cursor ahead)
    (unfound : takeUntil 0 ahead = none) :
    tryReadCString (some contents) payloadLength cursor = none :=
  tryReadCString_unfound
    (stands.behind ▸ takeUntil_eq_none_iff.mp unfound)

end Moves

end MonomythClient.PayloadReader
