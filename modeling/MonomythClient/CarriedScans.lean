import Mathlib.Data.List.Infix

namespace CarriedScans

/-!
# Scans that carry a tail

A text that comes in chunks is searched for a word one chunk at a time, with the
last elements of what came before in front of it.  If all but one element of the
word fit in what is carried, no occurrence is missed, and none is made up.
-/

variable {Element : Type}

/-- The last elements of a text, or all of it. -/
def tail (width : Nat) (text : List Element) : List Element :=
  text.drop (text.length - width)

@[simp] theorem length_tail (width : Nat) (text : List Element) :
    (tail width text).length = min text.length width := by
  rw [tail, List.length_drop]
  omega

theorem tail_suffix (width : Nat) (text : List Element) :
    tail width text <:+ text :=
  List.drop_suffix ..

/-- The tail of a text only depends on the tail of its beginning. -/
theorem tail_tail_append
    (width : Nat)
    (text chunk : List Element) :
    tail width (tail width text ++ chunk) = tail width (text ++ chunk) := by
  have joined :
      tail width text ++ chunk =
        (text ++ chunk).drop (text.length - width) := by
    rw [tail, List.drop_append_of_le_length (Nat.sub_le ..)]
  rw [joined, tail, tail, List.drop_drop, List.length_drop]
  congr 1
  rw [List.length_append]
  omega

/-- An occurrence in a longer text is one in the first part, or behind it. -/
theorem infix_append_iff
    {width : Nat}
    {word : List Element}
    (short : word.length ≤ width + 1)
    (text chunk : List Element) :
    word <:+: text ++ chunk ↔
      word <:+: text ∨ word <:+: tail width text ++ chunk := by
  constructor
  · rintro ⟨before, after, occurs⟩
    by_cases inside : before.length + word.length ≤ text.length
    · left
      have isPrefix : before ++ word <+: text ++ chunk := ⟨after, occurs⟩
      have isInside : before ++ word <+: text := by
        apply List.prefix_of_prefix_length_le isPrefix
          (List.prefix_append text chunk)
        rw [List.length_append]
        exact inside
      obtain ⟨rest, isText⟩ := isInside
      exact ⟨before, rest, isText⟩
    · right
      have kept :
          tail width text ++ chunk =
            before.drop (text.length - width) ++ word ++ after := by
        rw [tail, ← List.drop_append_of_le_length (Nat.sub_le ..),
          ← occurs, List.append_assoc,
          List.drop_append_of_le_length (by omega), List.append_assoc]
      rw [kept]
      exact List.infix_append ..
  · rintro (earlier | later)
    · exact earlier.trans (List.infix_append_left)
    · have isSuffix : tail width text ++ chunk <:+ text ++ chunk := by
        obtain ⟨before, isText⟩ := tail_suffix width text
        exact ⟨before, by rw [← List.append_assoc, isText]⟩
      exact later.trans isSuffix.isInfix

end CarriedScans
