import Mathlib.Data.List.Infix
import Mathlib.Data.List.TakeWhile

namespace ByteText

/-!
# Delimited byte text

Text formats built from lines and single-symbol separators are read with two
operations: the offset of the next separator and the slice between two
offsets.  This module states both over lists of arbitrary symbols, together
with the line split, and proves where a separator is found in a text whose
fields do not contain it.

The second half fixes the C conventions used with such text: ASCII literals,
NUL-terminated strings, and case folding in the default locale.
-/

section Delimited

variable {α : Type} [DecidableEq α]

/-- Offset of the first `wanted` symbol at or after `start`. -/
def find (text : List α) (wanted : α) (start : Nat) : Option Nat :=
  ((text.drop start).idxOf? wanted).map (· + start)

/-- Offset of the last `wanted` symbol. -/
def rfind (text : List α) (wanted : α) : Option Nat :=
  (text.reverse.idxOf? wanted).map (text.length - 1 - ·)

/-- At most `count` symbols beginning at `start`. -/
def substr (text : List α) (start count : Nat) : List α :=
  (text.drop start).take count

/-- Cut a text at every terminator; an empty remainder is not a line. -/
def splitLines (terminator : α) : List α → List (List α)
  | [] => []
  | symbol :: rest =>
      if symbol = terminator then
        [] :: splitLines terminator rest
      else
        match splitLines terminator rest with
        | [] => [[symbol]]
        | line :: later => (symbol :: line) :: later

/-- Drop one trailing `unwanted` symbol, if the line ends in it. -/
def stripTrailing (unwanted : α) (line : List α) : List α :=
  if line.getLast? = some unwanted then line.dropLast else line

/-- The first separator after a separator-free field closes that field. -/
theorem idxOf?_append_cons
    {field rest : List α}
    {wanted : α}
    (absent : wanted ∉ field) :
    (field ++ wanted :: rest).idxOf? wanted = some field.length := by
  induction field with
  | nil =>
      simp [List.idxOf?_cons]
  | cons symbol later inductionHypothesis =>
      have symbolNe : symbol ≠ wanted := by
        rintro rfl
        exact absent (by simp)
      have laterAbsent : wanted ∉ later :=
        fun member => absent (by simp [member])
      simp [List.idxOf?_cons, symbolNe,
        inductionHypothesis laterAbsent]

/-- A search from the start of a field finds the separator that closes it. -/
theorem find_field
    (leading rest : List α)
    {text field : List α}
    {wanted : α}
    {start : Nat}
    (shape : text = leading ++ (field ++ wanted :: rest))
    (fieldStart : start = leading.length)
    (absent : wanted ∉ field) :
    find text wanted start = some (start + field.length) := by
  subst shape fieldStart
  simp [find, idxOf?_append_cons absent, Nat.add_comm]

/-- A separator with none behind it is the last one. -/
theorem rfind_append_cons
    {before after : List α}
    {wanted : α}
    (absent : wanted ∉ after) :
    rfind (before ++ wanted :: after) wanted = some before.length := by
  have reversed :
      (before ++ wanted :: after).reverse =
        after.reverse ++ wanted :: before.reverse := by
    simp
  rw [rfind, reversed, idxOf?_append_cons (by simpa using absent)]
  simp only [Option.map_some, List.length_append, List.length_cons,
    List.length_reverse, Option.some.injEq]
  omega

/-- A last separator is found exactly where none follows. -/
theorem rfind_eq_some_iff
    {text : List α}
    {wanted : α}
    {offset : Nat} :
    rfind text wanted = some offset ↔
      ∃ before after,
        text = before ++ wanted :: after ∧ wanted ∉ after ∧
          offset = before.length := by
  constructor
  · intro found
    have member : wanted ∈ text.reverse := by
      by_contra missing
      rw [rfind, List.idxOf?_eq_none_iff.mpr missing] at found
      cases found
    obtain ⟨behind, front, reversed, absent⟩ :=
      List.eq_append_cons_of_mem member
    have shape : text = front.reverse ++ wanted :: behind.reverse := by
      rw [← List.reverse_reverse text, reversed]
      simp
    have notBehind : wanted ∉ behind.reverse := by simpa using absent
    rw [shape, rfind_append_cons notBehind] at found
    exact ⟨front.reverse, behind.reverse, shape, notBehind,
      (Option.some.inj found).symm⟩
  · rintro ⟨before, after, rfl, absent, rfl⟩
    exact rfind_append_cons absent

/-- A text is cut at its last separator in one way only. -/
theorem lastSplit_unique
    {before before' after after' : List α}
    {wanted : α}
    (same : before ++ wanted :: after = before' ++ wanted :: after')
    (absent : wanted ∉ after)
    (absent' : wanted ∉ after') :
    before = before' ∧ after = after' := by
  have sameOffset :
      some before.length = some before'.length := by
    rw [← rfind_append_cons absent, same, rfind_append_cons absent']
  obtain ⟨sameBefore, sameRest⟩ :=
    List.append_inj same (Option.some.inj sameOffset)
  exact ⟨sameBefore, (List.cons.inj sameRest).2⟩

omit [DecidableEq α] in
/-- The slice of a field's length at its offset is the field. -/
theorem substr_field
    (leading rest : List α)
    {text field : List α}
    {start count : Nat}
    (shape : text = leading ++ (field ++ rest))
    (fieldStart : start = leading.length)
    (fieldLength : count = field.length) :
    substr text start count = field := by
  subst shape fieldStart fieldLength
  simp [substr]

/-- Everything before a found separator, from the start, is free of it. -/
theorem notMem_substr_of_find
    {text : List α}
    {wanted : α}
    {start offset : Nat}
    (found : find text wanted start = some offset) :
    wanted ∉ substr text start (offset - start) := by
  simp only [find, Option.map_eq_some_iff] at found
  obtain ⟨index, indexFound, rfl⟩ := found
  obtain ⟨inBounds, _, earlierDiffer⟩ :=
    List.idxOf?_eq_some_iff.mp indexFound
  intro member
  simp only [substr, Nat.add_sub_cancel] at member
  obtain ⟨position, positionBound, atPosition⟩ :=
    List.getElem_of_mem member
  simp only [List.length_take] at positionBound
  rw [List.getElem_take] at atPosition
  exact earlierDiffer position (by omega) atPosition

omit [DecidableEq α] in
/-- Slices introduce no symbol. -/
theorem mem_of_mem_substr
    {text : List α}
    {symbol : α}
    {start count : Nat}
    (member : symbol ∈ substr text start count) :
    symbol ∈ text :=
  List.mem_of_mem_drop (List.mem_of_mem_take member)

/-- A terminated line is the first line, and the split continues after it. -/
theorem splitLines_line
    {terminator : α}
    {line rest : List α}
    (unterminated : terminator ∉ line) :
    splitLines terminator (line ++ terminator :: rest) =
      line :: splitLines terminator rest := by
  induction line with
  | nil =>
      simp [splitLines]
  | cons symbol later inductionHypothesis =>
      have symbolNe : symbol ≠ terminator := by
        rintro rfl
        exact unterminated (by simp)
      have laterUnterminated : terminator ∉ later :=
        fun member => unterminated (by simp [member])
      simp [splitLines, symbolNe,
        inductionHypothesis laterUnterminated]

/-- Splitting the concatenation of terminated lines recovers the lines. -/
theorem splitLines_flatMap
    {terminator : α}
    {lines : List (List α)}
    (unterminated : ∀ line ∈ lines, terminator ∉ line) :
    splitLines terminator
        (lines.flatMap fun line => line ++ [terminator]) =
      lines := by
  induction lines with
  | nil =>
      rfl
  | cons line later inductionHypothesis =>
      have laterUnterminated :
          ∀ next ∈ later, terminator ∉ next :=
        fun next member => unterminated next (by simp [member])
      rw [List.flatMap_cons, List.append_assoc,
        List.singleton_append,
        splitLines_line (unterminated line (by simp)),
        inductionHypothesis laterUnterminated]

/-- No line of a split contains the terminator. -/
theorem notMem_of_mem_splitLines
    {terminator : α}
    {text line : List α}
    (member : line ∈ splitLines terminator text) :
    terminator ∉ line := by
  induction text generalizing line with
  | nil =>
      simp [splitLines] at member
  | cons symbol rest inductionHypothesis =>
      by_cases isTerminator : symbol = terminator
      · rw [splitLines, if_pos isTerminator] at member
        rcases List.mem_cons.mp member with rfl | inRest
        · simp
        · exact inductionHypothesis inRest
      · rw [splitLines, if_neg isTerminator] at member
        cases restLines : splitLines terminator rest with
        | nil =>
            simp only [restLines, List.mem_singleton] at member
            subst line
            simpa using fun same => isTerminator same.symm
        | cons first later =>
            simp only [restLines] at member
            rw [restLines] at inductionHypothesis
            rcases List.mem_cons.mp member with rfl | inLater
            · have firstClean : terminator ∉ first :=
                inductionHypothesis (by simp)
              simp only [List.mem_cons, not_or]
              exact ⟨fun same => isTerminator same.symm, firstClean⟩
            · exact inductionHypothesis (by simp [inLater])

/-- A line closed by the strippable symbol loses exactly that symbol. -/
@[simp] theorem stripTrailing_append
    (unwanted : α)
    (line : List α) :
    stripTrailing unwanted (line ++ [unwanted]) = line := by
  simp [stripTrailing]

/-- Stripping introduces no symbol. -/
theorem mem_of_mem_stripTrailing
    {unwanted symbol : α}
    {line : List α}
    (member : symbol ∈ stripTrailing unwanted line) :
    symbol ∈ line := by
  unfold stripTrailing at member
  split at member
  · exact List.mem_of_mem_dropLast member
  · exact member

end Delimited

section CStrings

/-- The bytes of an ASCII literal. -/
def ascii (text : String) : List UInt8 :=
  text.toList.map fun symbol => symbol.val.toUInt8

/-- A NUL-terminated C string, without its terminator. -/
structure CString where
  bytes : List UInt8
  unterminated : 0 ∉ bytes
  deriving DecidableEq

/-- The C string a reader sees in some text: it stops at the first NUL. -/
def CString.ofText (text : List UInt8) : CString where
  bytes := text.takeWhile (· ≠ 0)
  unterminated := fun member => by
    simpa using List.mem_takeWhile_imp member

/-- `std::tolower` on one byte, in the default "C" locale. -/
def toLower (byte : UInt8) : UInt8 :=
  if 65 ≤ byte ∧ byte ≤ 90 then byte + 32 else byte

/-- The case-folded bytes before the first NUL. -/
def foldCase (text : List UInt8) : List UInt8 :=
  (text.takeWhile (· ≠ 0)).map toLower

/-- `std::isspace` on one byte, in the default "C" locale. -/
def isSpace (byte : UInt8) : Bool :=
  byte == 32 || (decide (9 ≤ byte) && decide (byte ≤ 13))

/-- A text without the white space around it. -/
def trimSpace (text : List UInt8) : List UInt8 :=
  ((text.dropWhile isSpace).reverse.dropWhile isSpace).reverse

/-- Dropping from the front what satisfies a test keeps what does not. -/
theorem mem_dropWhile_of_mem
    {α : Type}
    {test : α → Bool}
    {text : List α}
    {symbol : α}
    (member : symbol ∈ text)
    (fails : test symbol = false) :
    symbol ∈ text.dropWhile test := by
  have split := List.takeWhile_append_dropWhile (p := test) (l := text)
  rw [← split] at member
  rcases List.mem_append.mp member with dropped | kept
  · have passes := List.mem_takeWhile_imp dropped
    rw [fails] at passes
    cases passes
  · exact kept

/-- Trimming takes away white space only. -/
theorem mem_trimSpace_of_mem
    {text : List UInt8}
    {byte : UInt8}
    (member : byte ∈ text)
    (notSpace : isSpace byte = false) :
    byte ∈ trimSpace text :=
  List.mem_reverse.mpr
    (mem_dropWhile_of_mem
      (List.mem_reverse.mpr (mem_dropWhile_of_mem member notSpace)) notSpace)

/-- Folding one byte twice changes nothing more. -/
@[simp] theorem toLower_toLower (byte : UInt8) :
    toLower (toLower byte) = toLower byte := by
  simp only [toLower]
  grind

/-- Only NUL folds to NUL. -/
@[simp] theorem toLower_eq_zero {byte : UInt8} :
    toLower byte = 0 ↔ byte = 0 := by
  simp only [toLower]
  grind

/-- Folded text never contains NUL. -/
theorem zero_notMem_foldCase (text : List UInt8) :
    0 ∉ foldCase text := by
  intro member
  obtain ⟨byte, byteMember, folded⟩ := List.mem_map.mp member
  have nonzero := List.mem_takeWhile_imp byteMember
  simp only [toLower_eq_zero] at folded
  simp [folded] at nonzero

/-- Folded text is a fixed point of folding. -/
@[simp] theorem foldCase_foldCase (text : List UInt8) :
    foldCase (foldCase text) = foldCase text := by
  have keepsAll :
      (foldCase text).takeWhile (· ≠ 0) = foldCase text := by
    rw [List.takeWhile_eq_self_iff]
    intro byte member
    have nonzero : byte ≠ 0 := by
      rintro rfl
      exact zero_notMem_foldCase text member
    simpa using nonzero
  rw [show foldCase (foldCase text) =
      ((foldCase text).takeWhile (· ≠ 0)).map toLower from rfl,
    keepsAll]
  simp [foldCase, List.map_map, Function.comp_def]

/-- Without NUL, only the empty text folds to the empty text. -/
theorem foldCase_eq_nil
    {text : List UInt8}
    (unterminated : 0 ∉ text) :
    foldCase text = [] ↔ text = [] := by
  cases text with
  | nil =>
      simp [foldCase]
  | cons byte rest =>
      have nonzero : byte ≠ 0 := by
        rintro rfl
        exact unterminated (by simp)
      simp [foldCase, nonzero]

/-- The folded bytes of any text, as a C string. -/
def CString.folded (text : List UInt8) : CString where
  bytes := foldCase text
  unterminated := zero_notMem_foldCase text

end CStrings

end ByteText
