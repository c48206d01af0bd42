import MonomythClient.ByteText
import MonomythClient.MulticlassIdentity

namespace MonomythClient.MulticlassIdentity

open ByteText

/-!
# Displayed classes

The classes of a character are displayed one behind another, separated by
slashes: first the native one, then the others in the order of their ids.
-/

/-- `ClassDisplayStyle`. -/
inductive ClassDisplayStyle where
  | fullName
  | threeLetterCode
deriving DecidableEq, Repr

/-- `kFullClassNamesAscii`; no class has the id 0. -/
def kFullClassNamesAscii : List String :=
  ["", "Warrior", "Cleric", "Paladin", "Ranger", "Shadow Knight", "Druid",
    "Monk", "Bard", "Rogue", "Shaman", "Necromancer", "Wizard", "Magician",
    "Enchanter", "Beastlord", "Berserker"]

/-- `kThreeLetterClassCodesAscii`. -/
def kThreeLetterClassCodesAscii : List String :=
  ["", "WAR", "CLR", "PAL", "RNG", "SHD", "DRU", "MNK", "BRD", "ROG", "SHM",
    "NEC", "WIZ", "MAG", "ENC", "BST", "BER"]

/-- `ClassDisplayTokenAscii`. -/
def classDisplayTokenAscii
    (classId : UInt32)
    (style : ClassDisplayStyle) :
    Option (List UInt8) :=
  if isPlayableClassId classId then
    let tokens :=
      match style with
      | .threeLetterCode => kThreeLetterClassCodesAscii
      | .fullName => kFullClassNamesAscii
    tokens[classId.toNat]?.map ascii
  else
    none

/-- One class more in a display. -/
def appendClassDisplayToken
    (style : ClassDisplayStyle)
    (formatted : List UInt8)
    (classId : UInt32) :
    List UInt8 :=
  match classDisplayTokenAscii classId style with
  | none => formatted
  | some [] => formatted
  | some token =>
      if formatted.isEmpty then
        formatted ++ token
      else
        formatted ++ ascii "/" ++ token

/-- `FormatClassDisplayAscii`. -/
def formatClassDisplayAscii
    (primaryClassId : UInt32)
    (hasClassMask : Bool)
    (classMask : UInt32)
    (style : ClassDisplayStyle) :
    List UInt8 :=
  (buildOrderedClassIdList primaryClassId hasClassMask classMask).foldl
    (appendClassDisplayToken style) []

/-! ## What a display looks like -/

/-- The token of a class in a display. -/
def classDisplayToken
    (style : ClassDisplayStyle)
    (classId : UInt32) :
    List UInt8 :=
  (classDisplayTokenAscii classId style).getD []

/-- Every playable class has a token in either style. -/
theorem classDisplayTokenAscii_eq
    {classId : UInt32}
    (playable : isPlayableClassId classId = true)
    (style : ClassDisplayStyle) :
    classDisplayTokenAscii classId style =
        some (classDisplayToken style classId) ∧
      classDisplayToken style classId ≠ [] := by
  have allNamed :
      playableClassIds.all (fun classId =>
        (classDisplayTokenAscii classId style).any (! ·.isEmpty)) = true := by
    cases style <;> decide
  have named :=
    List.all_eq_true.mp allNamed classId (mem_playableClassIds.mpr playable)
  cases found : classDisplayTokenAscii classId style with
  | none =>
      rw [found] at named
      cases named
  | some token =>
      rw [found] at named
      rw [classDisplayToken, found]
      exact ⟨rfl, by simpa using named⟩

/-- A class is appended to a display behind a slash. -/
theorem appendClassDisplayToken_eq
    {classId : UInt32}
    (playable : isPlayableClassId classId = true)
    (style : ClassDisplayStyle)
    (formatted : List UInt8) :
    appendClassDisplayToken style formatted classId =
      if formatted.isEmpty then classDisplayToken style classId
      else formatted ++ ascii "/" ++ classDisplayToken style classId := by
  obtain ⟨found, notEmpty⟩ := classDisplayTokenAscii_eq playable style
  rw [appendClassDisplayToken, found]
  cases shape : classDisplayToken style classId with
  | nil =>
      exact (notEmpty shape).elim
  | cons symbol rest =>
      cases formatted with
      | nil => rfl
      | cons => rfl

/-- Classes appended to a display that has some already. -/
theorem foldl_appendClassDisplayToken
    {style : ClassDisplayStyle}
    {classIds : List UInt32}
    (playable :
      ∀ classId ∈ classIds, isPlayableClassId classId = true)
    {formatted : List UInt8}
    (notEmpty : formatted ≠ []) :
    classIds.foldl (appendClassDisplayToken style) formatted =
      formatted ++
        (classIds.map (classDisplayToken style)).flatMap (ascii "/" ++ ·) := by
  induction classIds generalizing formatted with
  | nil =>
      simp
  | cons classId later inductionHypothesis =>
      have laterPlayable :
          ∀ next ∈ later, isPlayableClassId next = true :=
        fun next member => playable next (List.mem_cons_of_mem classId member)
      rw [List.foldl_cons,
        appendClassDisplayToken_eq (playable classId List.mem_cons_self),
        if_neg (by simpa using notEmpty),
        inductionHypothesis laterPlayable (by simp [notEmpty])]
      simp

/-- Joined texts: each but the first behind a separator. -/
theorem intercalate_cons_eq
    (separator first : List UInt8)
    (others : List (List UInt8)) :
    separator.intercalate (first :: others) =
      first ++ others.flatMap (separator ++ ·) := by
  induction others generalizing first with
  | nil =>
      simp
  | cons next later inductionHypothesis =>
      rw [List.intercalate_cons_cons, inductionHypothesis next]
      simp

/-- The tokens of a mask's classes, one of them in front, joined by slashes. -/
theorem formatClassDisplayAscii_eq
    {primaryClassId classMask : UInt32}
    (valid : isPlayableClassMask classMask = true)
    (primary : hasClass classMask primaryClassId = true)
    (style : ClassDisplayStyle) :
    formatClassDisplayAscii primaryClassId true classMask style =
      (ascii "/").intercalate
        ((primaryClassId ::
            (assignedClassIds classMask).filter (· ≠ primaryClassId)).map
          (classDisplayToken style)) := by
  have playable := isPlayableClassId_of_hasClass primary
  have othersPlayable :
      ∀ classId ∈ (assignedClassIds classMask).filter (· ≠ primaryClassId),
        isPlayableClassId classId = true :=
    fun classId member =>
      isPlayableClassId_of_hasClass
        (mem_assignedClassIds.mp (List.mem_filter.mp member).1)
  rw [formatClassDisplayAscii, buildOrderedClassIdList_eq valid primary,
    List.foldl_cons, appendClassDisplayToken_eq playable, List.map_cons,
    intercalate_cons_eq]
  exact foldl_appendClassDisplayToken othersPlayable
    (classDisplayTokenAscii_eq playable style).2

example :
    formatClassDisplayAscii 2 true 3 .threeLetterCode = ascii "CLR/WAR" := by
  decide

end MonomythClient.MulticlassIdentity
