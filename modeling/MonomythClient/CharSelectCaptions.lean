import MonomythClient.ClassDisplay
import MonomythClient.MulticlassCache

namespace MonomythClient.CharSelectCaptions

open ByteText
open MulticlassIdentity
open MulticlassCache (ReadConditions tryLookupCharacterClassMask)

/-!
# Captions of the character-select screen

The client shows a character as its name and, in brackets, its level and the
name of its class.  Every text the client puts into a window passes the hook,
which replaces such a caption by one with the codes of all classes the cache
has for the character.  This module embeds the rewriting and proves which texts
it takes for captions, what it makes of them, and that it never takes its own
output for one.
-/

/-- The `'['` before the level. -/
def openBracket : UInt8 := 91

/-- The `']'` that ends a caption. -/
def closeBracket : UInt8 := 93

/-- The blank between level and class. -/
def blank : UInt8 := 32

/-- A character of a level. -/
def isLevelDigit (ch : UInt8) : Bool :=
  decide (48 ≤ ch ∧ ch ≤ 57)

/-- `TryResolveClassIdFromFullNameAscii`. -/
def tryResolveClassIdFromFullNameAscii (className : List UInt8) :
    Option UInt8 :=
  (playableClassIds.find? fun current =>
    decide (classDisplayTokenAscii current .fullName = some className)).map
    UInt32.toUInt8

/-- What the rewriting reads off a text. -/
structure ParsedCaption where
  parsedName : List UInt8
  levelText : List UInt8
  nativeClassText : List UInt8
  deriving DecidableEq, Repr

/-- `TryBuildCachedCharSelectCaptionReplacement` up to the class text. -/
def parseCaption (text : List UInt8) : Option ParsedCaption :=
  match rfind text openBracket, rfind text closeBracket with
  | some openAt, some closeAt =>
      if closeAt ≠ text.length - 1 ∨ closeAt ≤ openAt + 1 then
        none
      else
        let parsedName := trimSpace (substr text 0 openAt)
        let bracketBody := substr text (openAt + 1) (closeAt - openAt - 1)
        let levelText := bracketBody.takeWhile isLevelDigit
        let levelEnd := levelText.length
        if parsedName = [] then
          none
        else if levelEnd = 0 ∨ bracketBody[levelEnd]? ≠ some blank then
          none
        else
          some {
            parsedName := parsedName
            levelText := levelText
            nativeClassText := trimSpace (bracketBody.drop (levelEnd + 1))
          }
  | _, _ => none

/-- What the rewriting returns and leaves in its output arguments. -/
structure CaptionReplacement where
  substituted : Bool
  replacement : List UInt8
  characterName : List UInt8
  nativeClassId : UInt8
  cachedMask : UInt32
  deriving DecidableEq, Repr

/-- A text that stays, with what was found out about it. -/
def notReplaced
    (nativeClassId : UInt8)
    (cachedMask : UInt32) :
    CaptionReplacement where
  substituted := false
  replacement := []
  characterName := []
  nativeClassId := nativeClassId
  cachedMask := cachedMask

/--
`TryBuildCachedCharSelectCaptionReplacement`.  The server is what
`TryGetCurrentServerName` finds; the cache sees the name up to its first NUL.
-/
def tryBuildCachedCharSelectCaptionReplacement
    (conditions : ReadConditions)
    (file : Option (List UInt8))
    (currentServerName : Option CString)
    (text : List UInt8) :
    CaptionReplacement :=
  match parseCaption text with
  | none => notReplaced 0 0
  | some parsed =>
      if parsed.nativeClassText = [] then
        notReplaced 0 0
      else
        match tryResolveClassIdFromFullNameAscii parsed.nativeClassText with
        | none => notReplaced 0 0
        | some nativeClassId =>
            match currentServerName with
            | none => notReplaced nativeClassId 0
            | some serverName =>
                match tryLookupCharacterClassMask conditions file
                    (some (.ofText parsed.parsedName))
                    nativeClassId.toUInt32 (some serverName) with
                | none => notReplaced nativeClassId 0
                | some cachedMask =>
                    if isPlayableClassMask cachedMask = false ∨
                        cachedMask &&& (cachedMask - 1) = 0 ∨
                        hasClass cachedMask nativeClassId.toUInt32 =
                          false then
                      notReplaced nativeClassId cachedMask
                    else
                      let formatted :=
                        formatClassDisplayAscii nativeClassId.toUInt32 true
                          cachedMask .threeLetterCode
                      if formatted = [] then
                        notReplaced nativeClassId cachedMask
                      else
                        let replacement :=
                          parsed.parsedName ++ ascii " [" ++
                            parsed.levelText ++ ascii " " ++ formatted ++
                            ascii "]"
                        {
                          substituted := decide (replacement ≠ text)
                          replacement := replacement
                          characterName := parsed.parsedName
                          nativeClassId := nativeClassId
                          cachedMask := cachedMask
                        }

/-! ## The captions -/

/-- A text in the form of a caption, cut into its parts. -/
structure Caption (text name level className : List UInt8) : Prop where
  shape :
    text = name ++ openBracket :: (level ++ blank :: className) ++
      [closeBracket]
  lastBracket : openBracket ∉ level ++ blank :: className
  named : trimSpace name ≠ []
  leveled : level ≠ []
  digits : ∀ ch ∈ level, isLevelDigit ch = true

/-- Closing a body brings no opening bracket into it. -/
theorem openBracket_notMem_closed
    {body : List UInt8}
    (absent : openBracket ∉ body) :
    openBracket ∉ body ++ [closeBracket] := by
  intro member
  rcases List.mem_append.mp member with inBody | isLast
  · exact absent inBody
  · cases List.mem_singleton.mp isLast

/-- A text has one body between its brackets. -/
theorem bracketed_unique
    {before before' body body' : List UInt8}
    (same :
      before ++ openBracket :: (body ++ [closeBracket]) =
        before' ++ openBracket :: (body' ++ [closeBracket]))
    (absent : openBracket ∉ body)
    (absent' : openBracket ∉ body') :
    body = body' := by
  have sameBehind :=
    (lastSplit_unique same (openBracket_notMem_closed absent)
      (openBracket_notMem_closed absent')).2
  exact (List.append_inj' sameBehind rfl).1

/-- A run of digits before a blank. -/
theorem takeWhile_level
    {level rest : List UInt8}
    (digits : ∀ ch ∈ level, isLevelDigit ch = true) :
    (level ++ blank :: rest).takeWhile isLevelDigit = level := by
  rw [List.takeWhile_append_of_pos digits,
    List.takeWhile_cons_of_neg (by decide), List.append_nil]

/-- A caption is parsed into its parts. -/
theorem Caption.parsed
    {text name level className : List UInt8}
    (caption : Caption text name level className) :
    parseCaption text = some {
      parsedName := trimSpace name
      levelText := level
      nativeClassText := trimSpace className
    } := by
  obtain ⟨shape, lastBracket, named, leveled, digits⟩ := caption
  have bodyBehind :
      text = name ++ openBracket ::
        ((level ++ blank :: className) ++ [closeBracket]) := by
    rw [shape, List.append_assoc, List.cons_append]
  have openFound : rfind text openBracket = some name.length := by
    rw [bodyBehind]
    exact rfind_append_cons (openBracket_notMem_closed lastBracket)
  have closeFound :
      rfind text closeBracket = some (text.length - 1) := by
    rw [shape, rfind_append_cons List.not_mem_nil]
    simp only [List.length_append, List.length_cons, List.length_nil,
      Nat.add_sub_cancel, Nat.zero_add]
  have textLength :
      text.length = name.length + (level ++ blank :: className).length + 2 := by
    rw [bodyBehind]
    simp only [List.length_append, List.length_cons, List.length_nil]
    omega
  have levelLength : 0 < level.length := List.length_pos_iff.mpr leveled
  have bodyLength :
      (level ++ blank :: className).length =
        level.length + className.length + 1 := by
    simp only [List.length_append, List.length_cons]
    omega
  have nameCut : substr text 0 name.length = name :=
    substr_field [] _ (by rw [List.nil_append]; exact bodyBehind) rfl rfl
  have bodyCut :
      substr text (name.length + 1) (text.length - 1 - name.length - 1) =
        level ++ blank :: className := by
    refine substr_field (name ++ [openBracket]) [closeBracket] ?_ ?_ ?_
    · rw [bodyBehind]
      simp
    · simp
    · omega
  rw [parseCaption, openFound, closeFound]
  simp only [nameCut, bodyCut, takeWhile_level digits]
  rw [if_neg (by omega), if_neg named, if_neg (by simp; omega)]
  simp [List.drop_append, List.drop_of_length_le]

/-- A text that ends in a bracket, cut at the other one. -/
theorem cut_at_brackets
    {text : List UInt8}
    {openAt closeAt : Nat}
    (openFound : rfind text openBracket = some openAt)
    (closeFound : rfind text closeBracket = some closeAt)
    (closesText : closeAt = text.length - 1)
    (bodyNotEmpty : openAt + 1 < closeAt) :
    ∃ name body,
      text = name ++ openBracket :: body ++ [closeBracket] ∧
        openBracket ∉ body ∧ openAt = name.length ∧
        closeAt - openAt - 1 = body.length := by
  obtain ⟨name, behind, openShape, lastBracket, rfl⟩ :=
    rfind_eq_some_iff.mp openFound
  obtain ⟨front, rest, closeShape, _, rfl⟩ :=
    rfind_eq_some_iff.mp closeFound
  have openLength : text.length = name.length + (behind.length + 1) := by
    rw [openShape, List.length_append, List.length_cons]
  have closeLength : text.length = front.length + (rest.length + 1) := by
    rw [closeShape, List.length_append, List.length_cons]
  have restEmpty : rest = [] :=
    List.eq_nil_of_length_eq_zero (by omega)
  subst restEmpty
  obtain rfl | ⟨body, last, rfl⟩ := List.eq_nil_or_concat' behind
  · rw [List.length_nil] at openLength
    omega
  · have sameText :
        (name ++ openBracket :: body) ++ [last] = front ++ [closeBracket] := by
      rw [← closeShape, openShape, List.append_assoc]
      rfl
    obtain ⟨_, sameLast⟩ := List.append_inj' sameText rfl
    obtain rfl := List.singleton_inj.mp sameLast
    refine ⟨name, body, ?_, ?_, rfl, ?_⟩
    · rw [openShape, List.append_assoc]
      rfl
    · exact fun member => lastBracket (List.mem_append_left _ member)
    · rw [List.length_append, List.length_singleton] at openLength
      rw [List.length_nil] at closeLength
      omega

/-- A body with a blank behind its digits. -/
theorem cut_at_blank
    {body : List UInt8}
    (blankFound : body[(body.takeWhile isLevelDigit).length]? = some blank) :
    body = body.takeWhile isLevelDigit ++
      blank :: body.drop ((body.takeWhile isLevelDigit).length + 1) := by
  obtain ⟨inside, atBlank⟩ := List.getElem?_eq_some_iff.mp blankFound
  have digitsFirst :
      body.take (body.takeWhile isLevelDigit).length =
        body.takeWhile isLevelDigit :=
    (List.prefix_iff_eq_take.mp (List.takeWhile_prefix isLevelDigit)).symm
  rw [← atBlank, ← List.drop_eq_getElem_cons inside]
  conv =>
    rhs
    rw [← digitsFirst, List.length_take_of_le (Nat.le_of_lt inside)]
  exact (List.take_append_drop _ body).symm

/-- What is parsed is a caption. -/
theorem caption_of_parsed
    {text : List UInt8}
    {parsed : ParsedCaption}
    (found : parseCaption text = some parsed) :
    ∃ name className,
      Caption text name parsed.levelText className ∧
        parsed.parsedName = trimSpace name ∧
        parsed.nativeClassText = trimSpace className := by
  unfold parseCaption at found
  split at found
  next openAt closeAt openFound closeFound =>
    split at found
    · cases found
    next bracketed =>
      rw [not_or, not_not, Nat.not_le] at bracketed
      obtain ⟨name, body, shape, lastBracket, rfl, bodyLength⟩ :=
        cut_at_brackets openFound closeFound bracketed.1 bracketed.2
      have nameCut : substr text 0 name.length = name :=
        substr_field [] (openBracket :: body ++ [closeBracket])
          (by rw [shape]; simp) rfl rfl
      have bodyCut :
          substr text (name.length + 1) (closeAt - name.length - 1) = body :=
        substr_field (name ++ [openBracket]) [closeBracket]
          (by rw [shape]; simp) (by simp) bodyLength
      simp only [nameCut, bodyCut] at found
      split at found
      · cases found
      next named =>
        split at found
        · cases found
        next leveled =>
          rw [not_or, not_not] at leveled
          obtain ⟨levelNotEmpty, blankFound⟩ := leveled
          obtain rfl := Option.some.inj found
          have bodyShape := cut_at_blank blankFound
          refine ⟨name, _, ⟨?_, ?_, named, ?_, ?_⟩, rfl, rfl⟩
          · rw [← bodyShape, shape]
          · rw [← bodyShape]
            exact lastBracket
          · exact List.length_pos_iff.mp (Nat.pos_of_ne_zero levelNotEmpty)
          · exact fun ch member => List.mem_takeWhile_imp member
  next =>
    cases found

/-! ## The classes -/

/-- What has a name is a playable class. -/
theorem playable_of_named
    {classId : UInt32}
    {style : ClassDisplayStyle}
    {token : List UInt8}
    (named : classDisplayTokenAscii classId style = some token) :
    isPlayableClassId classId = true := by
  unfold classDisplayTokenAscii at named
  split at named
  next playable =>
    exact playable
  next =>
    cases named

/-- Different classes have different full names. -/
theorem fullName_injective
    {first second : UInt32}
    {className : List UInt8}
    (firstNamed :
      classDisplayTokenAscii first .fullName = some className)
    (secondNamed :
      classDisplayTokenAscii second .fullName = some className) :
    first = second := by
  have distinct :
      (playableClassIds.map (classDisplayTokenAscii · .fullName)).Nodup := by
    decide
  refine List.inj_on_of_nodup_map distinct
    (mem_playableClassIds.mpr (playable_of_named firstNamed))
    (mem_playableClassIds.mpr (playable_of_named secondNamed)) ?_
  rw [firstNamed, secondNamed]

/-- A full name is resolved to the class that has it. -/
theorem tryResolveClassIdFromFullNameAscii_iff
    {className : List UInt8}
    {classId : UInt8} :
    tryResolveClassIdFromFullNameAscii className = some classId ↔
      classDisplayTokenAscii classId.toUInt32 .fullName = some className := by
  rw [tryResolveClassIdFromFullNameAscii, Option.map_eq_some_iff]
  constructor
  · rintro ⟨current, found, rfl⟩
    have named :
        classDisplayTokenAscii current .fullName = some className := by
      simpa using List.find?_some found
    have playable := isPlayableClassId_iff.mp (playable_of_named named)
    have sameId : current.toUInt8.toUInt32 = current := by
      apply UInt32.toNat_inj.mp
      rw [UInt8.toNat_toUInt32, UInt32.toNat_toUInt8]
      exact Nat.mod_eq_of_lt (by omega)
    rw [sameId]
    exact named
  · intro named
    have listed :=
      mem_playableClassIds.mpr (playable_of_named named)
    have isFound :
        (playableClassIds.find? fun current =>
          decide (classDisplayTokenAscii current .fullName =
            some className)).isSome = true :=
      List.find?_isSome.mpr
        ⟨classId.toUInt32, listed, decide_eq_true named⟩
    obtain ⟨current, found⟩ := Option.isSome_iff_exists.mp isFound
    have currentNamed :
        classDisplayTokenAscii current .fullName = some className := by
      simpa using List.find?_some found
    refine ⟨current, found, ?_⟩
    rw [fullName_injective currentNamed named]
    apply UInt8.toNat_inj.mp
    rw [UInt32.toNat_toUInt8, UInt8.toNat_toUInt32]
    exact Nat.mod_eq_of_lt classId.toNat_lt

/-- No full name has a slash in it. -/
theorem slash_notMem_fullName
    {classId : UInt32}
    {className : List UInt8}
    (named : classDisplayTokenAscii classId .fullName = some className) :
    47 ∉ className := by
  have noSlashes :
      playableClassIds.all (fun classId =>
        (classDisplayTokenAscii classId .fullName).all
          (! ·.contains 47)) = true := by
    decide
  have noSlash := List.all_eq_true.mp noSlashes classId
    (mem_playableClassIds.mpr (playable_of_named named))
  rw [named] at noSlash
  simpa using noSlash

/-- The codes of several classes have a slash and no bracket in them. -/
theorem formatClassDisplayAscii_slashed
    {primaryClassId classMask : UInt32}
    (valid : isPlayableClassMask classMask = true)
    (primary : hasClass classMask primaryClassId = true)
    (several : 2 ≤ (assignedClassIds classMask).length) :
    47 ∈ formatClassDisplayAscii primaryClassId true classMask
        .threeLetterCode ∧
      openBracket ∉ formatClassDisplayAscii primaryClassId true classMask
        .threeLetterCode := by
  rw [formatClassDisplayAscii_eq valid primary, List.map_cons,
    intercalate_cons_eq]
  constructor
  · obtain ⟨other, otherMember, different⟩ :
        ∃ other ∈ assignedClassIds classMask, other ≠ primaryClassId := by
      obtain ⟨first, firstMember, second, secondMember, different⟩ :=
        (two_le_length_iff (nodup_assignedClassIds classMask)).mp several
      by_cases isPrimary : first = primaryClassId
      · exact ⟨second, secondMember, isPrimary ▸ different.symm⟩
      · exact ⟨first, firstMember, isPrimary⟩
    have isOther :
        other ∈ (assignedClassIds classMask).filter (· ≠ primaryClassId) :=
      List.mem_filter.mpr ⟨otherMember, decide_eq_true different⟩
    exact List.mem_append_right _ (List.mem_flatMap.mpr
      ⟨_, List.mem_map_of_mem isOther, List.mem_cons_self⟩)
  · have noBrackets :
        playableClassIds.all (fun classId =>
          ! (classDisplayToken .threeLetterCode classId).contains
            openBracket) = true := by
      decide
    have noBracket :
        ∀ classId, hasClass classMask classId = true →
          openBracket ∉ classDisplayToken .threeLetterCode classId := by
      intro classId assigned
      simpa using List.all_eq_true.mp noBrackets classId
        (mem_playableClassIds.mpr (isPlayableClassId_of_hasClass assigned))
    intro member
    rcases List.mem_append.mp member with inFirst | inOthers
    · exact noBracket primaryClassId primary inFirst
    · obtain ⟨_, mapped, behindSlash⟩ := List.mem_flatMap.mp inOthers
      obtain ⟨classId, isOther, rfl⟩ := List.mem_map.mp mapped
      rcases List.mem_append.mp behindSlash with isSlash | inToken
      · exact absurd isSlash (by decide)
      · exact noBracket classId
          (mem_assignedClassIds.mp (List.mem_filter.mp isOther).1) inToken

/-! ## The rewriting -/

/-- What a caption is rewritten to. -/
def rewritten
    (name level : List UInt8)
    (classId classMask : UInt32) :
    List UInt8 :=
  trimSpace name ++ ascii " [" ++ level ++ ascii " " ++
    (ascii "/").intercalate
      ((classId :: (assignedClassIds classMask).filter (· ≠ classId)).map
        (classDisplayToken .threeLetterCode)) ++
    ascii "]"

/-- A caption whose character the cache has with several classes. -/
structure Rewrites
    (conditions : ReadConditions)
    (file : Option (List UInt8))
    (currentServerName : Option CString)
    (text name level className : List UInt8)
    (classId : UInt8)
    (serverName : CString)
    (classMask : UInt32) : Prop where
  caption : Caption text name level className
  named :
    classDisplayTokenAscii classId.toUInt32 .fullName =
      some (trimSpace className)
  server : currentServerName = some serverName
  cached :
    tryLookupCharacterClassMask conditions file
      (some (.ofText (trimSpace name))) classId.toUInt32
      (some serverName) = some classMask
  playable : isPlayableClassMask classMask = true
  several : 2 ≤ (assignedClassIds classMask).length
  assigned : hasClass classMask classId.toUInt32 = true

/-- The display in a rewritten caption. -/
theorem rewritten_eq
    {classId classMask : UInt32}
    (valid : isPlayableClassMask classMask = true)
    (assigned : hasClass classMask classId = true)
    (name level : List UInt8) :
    rewritten name level classId classMask =
      trimSpace name ++ ascii " [" ++ level ++ ascii " " ++
        formatClassDisplayAscii classId true classMask .threeLetterCode ++
        ascii "]" := by
  rw [rewritten, formatClassDisplayAscii_eq valid assigned]

/-- A rewritten caption has the level and the codes between its brackets. -/
theorem rewritten_shape
    {name level : List UInt8}
    {classId classMask : UInt32}
    (valid : isPlayableClassMask classMask = true)
    (assigned : hasClass classMask classId = true) :
    rewritten name level classId classMask =
      (trimSpace name ++ [blank]) ++ openBracket ::
        ((level ++ blank :: formatClassDisplayAscii classId true classMask
          .threeLetterCode) ++ [closeBracket]) := by
  have openText : ascii " [" = [blank, openBracket] := by decide
  have blankText : ascii " " = [blank] := by decide
  have closeText : ascii "]" = [closeBracket] := by decide
  rw [rewritten_eq valid assigned, openText, blankText, closeText]
  simp

/-- No class is read off a rewritten caption. -/
theorem rewritten_unresolved
    {name level className : List UInt8}
    {text : List UInt8}
    (caption : Caption text name level className)
    {classId classMask : UInt32}
    (valid : isPlayableClassMask classMask = true)
    (several : 2 ≤ (assignedClassIds classMask).length)
    (assigned : hasClass classMask classId = true)
    {parsed : ParsedCaption}
    (found :
      parseCaption (rewritten name level classId classMask) = some parsed) :
    tryResolveClassIdFromFullNameAscii parsed.nativeClassText = none := by
  obtain ⟨slashed, noBracket⟩ :=
    formatClassDisplayAscii_slashed valid assigned several
  obtain ⟨again, classAgain, captionAgain, _, trimmed⟩ :=
    caption_of_parsed found
  have notInBody :
      openBracket ∉ level ++ blank ::
        formatClassDisplayAscii classId true classMask .threeLetterCode := by
    intro member
    rcases List.mem_append.mp member with inLevel | behind
    · exact caption.lastBracket (List.mem_append_left _ inLevel)
    · rcases List.mem_cons.mp behind with isBlank | inCodes
      · cases isBlank
      · exact noBracket inCodes
  have sameBody :
      level ++ blank ::
          formatClassDisplayAscii classId true classMask .threeLetterCode =
        parsed.levelText ++ blank :: classAgain := by
    have againShape :
        rewritten name level classId classMask =
          again ++ openBracket ::
            ((parsed.levelText ++ blank :: classAgain) ++ [closeBracket]) := by
      rw [captionAgain.shape, List.append_assoc, List.cons_append]
    exact bracketed_unique
      ((rewritten_shape valid assigned).symm.trans againShape)
      notInBody captionAgain.lastBracket
  have slashInBody : 47 ∈ parsed.levelText ++ blank :: classAgain :=
    sameBody ▸ List.mem_append_right _ (List.mem_cons_of_mem _ slashed)
  have slashInClass : 47 ∈ classAgain := by
    rcases List.mem_append.mp slashInBody with inLevel | behind
    · exact absurd (captionAgain.digits 47 inLevel) (by decide)
    · rcases List.mem_cons.mp behind with isBlank | inClass
      · cases isBlank
      · exact inClass
  cases resolved :
      tryResolveClassIdFromFullNameAscii parsed.nativeClassText with
  | none =>
      rfl
  | some classId =>
      have named := tryResolveClassIdFromFullNameAscii_iff.mp resolved
      rw [trimmed] at named
      exact (slash_notMem_fullName named
        (mem_trimSpace_of_mem slashInClass (by decide))).elim

/-- A text without a class in it stays. -/
theorem notReplaced_of_unresolved
    {text : List UInt8}
    (unresolved :
      ∀ parsed, parseCaption text = some parsed →
        tryResolveClassIdFromFullNameAscii parsed.nativeClassText = none)
    (conditions : ReadConditions)
    (file : Option (List UInt8))
    (currentServerName : Option CString) :
    tryBuildCachedCharSelectCaptionReplacement conditions file
      currentServerName text = notReplaced 0 0 := by
  rw [tryBuildCachedCharSelectCaptionReplacement]
  cases found : parseCaption text with
  | none =>
      rfl
  | some parsed =>
      simp only [unresolved parsed found, ite_self]

/-- A caption of a character with several classes is rewritten. -/
theorem Rewrites.replaced
    {conditions : ReadConditions}
    {file : Option (List UInt8)}
    {currentServerName : Option CString}
    {text name level className : List UInt8}
    {classId : UInt8}
    {serverName : CString}
    {classMask : UInt32}
    (rewrites :
      Rewrites conditions file currentServerName text name level className
        classId serverName classMask) :
    tryBuildCachedCharSelectCaptionReplacement conditions file
        currentServerName text = {
      substituted := true
      replacement := rewritten name level classId.toUInt32 classMask
      characterName := trimSpace name
      nativeClassId := classId
      cachedMask := classMask
    } := by
  obtain ⟨caption, named, server, cached, playable, several, assigned⟩ :=
    rewrites
  have resolved := tryResolveClassIdFromFullNameAscii_iff.mpr named
  have classNotEmpty : trimSpace className ≠ [] := by
    intro isEmpty
    rw [isEmpty] at resolved
    exact absurd resolved (by
      rw [show tryResolveClassIdFromFullNameAscii [] = none by decide]
      simp)
  have accepted :
      ¬ (isPlayableClassMask classMask = false ∨
        classMask &&& (classMask - 1) = 0 ∨
        hasClass classMask classId.toUInt32 = false) := by
    simp [playable, assigned, (severalClasses_iff playable).mpr several]
  have formattedNotEmpty :
      formatClassDisplayAscii classId.toUInt32 true classMask
        .threeLetterCode ≠ [] :=
    List.ne_nil_of_mem
      (formatClassDisplayAscii_slashed playable assigned several).1
  have changed :
      rewritten name level classId.toUInt32 classMask ≠ text := by
    intro same
    have unresolved :=
      rewritten_unresolved caption playable several assigned
        (same ▸ caption.parsed)
    rw [resolved] at unresolved
    cases unresolved
  rw [rewritten_eq playable assigned] at changed ⊢
  simp only [tryBuildCachedCharSelectCaptionReplacement, caption.parsed,
    if_neg classNotEmpty, resolved, server, cached, if_neg accepted,
    if_neg formattedNotEmpty, decide_eq_true changed]

/-- All other texts stay. -/
theorem notReplaced_or_rewrites
    (conditions : ReadConditions)
    (file : Option (List UInt8))
    (currentServerName : Option CString)
    (text : List UInt8) :
    (∃ classId classMask,
      tryBuildCachedCharSelectCaptionReplacement conditions file
        currentServerName text = notReplaced classId classMask) ∨
    ∃ name level className classId serverName classMask,
      Rewrites conditions file currentServerName text name level className
        classId serverName classMask := by
  unfold tryBuildCachedCharSelectCaptionReplacement
  split
  · exact .inl ⟨0, 0, rfl⟩
  next parsed found =>
    obtain ⟨name, className, caption, sameName, sameClass⟩ :=
      caption_of_parsed found
    split
    · exact .inl ⟨0, 0, rfl⟩
    split
    · exact .inl ⟨0, 0, rfl⟩
    next classId resolved =>
      split
      · exact .inl ⟨classId, 0, rfl⟩
      next serverName =>
        split
        · exact .inl ⟨classId, 0, rfl⟩
        next classMask cached =>
          split
          · exact .inl ⟨classId, classMask, rfl⟩
          next accepted =>
            simp only [not_or, Bool.not_eq_false] at accepted
            obtain ⟨playable, several, assigned⟩ := accepted
            refine .inr ⟨name, parsed.levelText, className, classId,
              serverName, classMask, caption, ?_, rfl, ?_, playable,
              (severalClasses_iff playable).mp several, assigned⟩
            · rw [← sameClass]
              exact tryResolveClassIdFromFullNameAscii_iff.mp resolved
            · rw [← sameName]
              exact cached

/--
Exactly the captions of characters that the cache has with several classes, the
shown one among them, are rewritten, to the codes of all their classes with the
shown one in front; and what comes out of the rewriting is left alone by it,
whatever the cache and the server are then.
-/
theorem captionRewriting_exact_and_idempotent
    (conditions : ReadConditions)
    (file : Option (List UInt8))
    (currentServerName : Option CString)
    (text : List UInt8) :
    (∀ replacement,
      ((tryBuildCachedCharSelectCaptionReplacement conditions file
          currentServerName text).substituted = true ∧
        (tryBuildCachedCharSelectCaptionReplacement conditions file
          currentServerName text).replacement = replacement) ↔
      ∃ name level className classId serverName classMask,
        Rewrites conditions file currentServerName text name level className
          classId serverName classMask ∧
        replacement = rewritten name level classId.toUInt32 classMask) ∧
    (∀ laterConditions laterFile laterServerName,
      (tryBuildCachedCharSelectCaptionReplacement laterConditions laterFile
        laterServerName
        (tryBuildCachedCharSelectCaptionReplacement conditions file
          currentServerName text).replacement).substituted = false) := by
  rcases notReplaced_or_rewrites conditions file currentServerName text with
      ⟨classId, classMask, stays⟩ |
      ⟨name, level, className, classId, serverName, classMask, rewrites⟩
  · refine ⟨fun replacement => ⟨?_, ?_⟩, fun _ _ _ => ?_⟩
    · rintro ⟨substituted, _⟩
      rw [stays] at substituted
      cases substituted
    · rintro ⟨_, _, _, _, _, _, rewrites, _⟩
      rw [rewrites.replaced] at stays
      cases stays
    · have emptyStays : ∀ parsed, parseCaption [] = some parsed →
          tryResolveClassIdFromFullNameAscii parsed.nativeClassText =
            none := by
        intro parsed found
        cases found
      rw [stays]
      exact congrArg CaptionReplacement.substituted
        (notReplaced_of_unresolved emptyStays _ _ _)
  · refine ⟨fun replacement => ⟨?_, ?_⟩, fun _ _ _ => ?_⟩
    · rintro ⟨_, rfl⟩
      refine ⟨name, level, className, classId, serverName, classMask,
        rewrites, ?_⟩
      rw [rewrites.replaced]
    · rintro ⟨_, _, _, _, _, _, others, rfl⟩
      rw [others.replaced]
      exact ⟨rfl, rfl⟩
    · rw [rewrites.replaced]
      exact congrArg CaptionReplacement.substituted
        (notReplaced_of_unresolved
          (fun _ found =>
            rewritten_unresolved rewrites.caption rewrites.playable
              rewrites.several rewrites.assigned found) _ _ _)

example :
    (tryBuildCachedCharSelectCaptionReplacement .healthy
      (some (ascii "MONOMYTH_MULTICLASS_CACHE_V3\nAda|0x3|2|Zek\n"))
      (some (.ofText (ascii "zek"))) (ascii " Ada[9 Cleric ]")).replacement =
      ascii "Ada [9 CLR/WAR]" := by
  decide +kernel

end MonomythClient.CharSelectCaptions
