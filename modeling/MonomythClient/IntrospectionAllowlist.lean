import MonomythClient.FrontReaders
import MonomythClient.OpcodeReference
import MonomythClient.StandardSort
import MonomythClient.WideNumerals
import Mathlib.Data.List.DropRight

namespace MonomythClient.IntrospectionAllowlist

open FrontReaders StandardSort WideNumerals
open OpcodeReference (tryLookupRof2OpcodeText)

/-!
# The introspection allowlist

The opcodes whose payloads may be introspected are named by an environment
variable: opcode names and numerals, separated by commas.  Each token goes
through one conversion, which saturates and negates without a word, before it
is taken for a name; the range check behind the conversion cannot fail.

White space is what `iswspace` says it is, which the locale decides, so every
result holds for every such test.
-/

variable (isSpace : UInt16 → Bool)

/-- `TrimWhitespace`. -/
def trimWhitespace (value : List UInt16) : List UInt16 :=
  (value.dropWhile isSpace).rdropWhile isSpace

/--
`ParseOpcodeToken`.  The symbol at the end of the conversion is the terminator
of the string where nothing is left.
-/
def parseOpcodeToken (token : List UInt16) : Option UInt32 :=
  let trimmed := trimWhitespace isSpace token
  if trimmed = [] then
    none
  else
    let parsed := wcstoul isSpace trimmed
    if parsed.2.headD 0 = 0 ∧ parsed.1 ≤ 0xFFFFFFFF then
      some parsed.1
    else
      tryLookupRof2OpcodeText trimmed

/-- `IntrospectionAllowlistConfig`. -/
structure IntrospectionAllowlistConfig where
  opcodes : List UInt32 := []
  invalidTokens : List (List UInt16) := []
  usesDefault : Bool := true
  deriving Repr, DecidableEq

/-- The body of the loop: an opcode, an invalid token, or a blank. -/
def visitToken
    (config : IntrospectionAllowlistConfig)
    (token : List UInt16) :
    IntrospectionAllowlistConfig :=
  match parseOpcodeToken isSpace token with
  | some opcode =>
      { config with opcodes := config.opcodes ++ [opcode] }
  | none =>
      if trimWhitespace isSpace token = [] then
        config
      else
        { config with
          invalidTokens :=
            config.invalidTokens ++ [trimWhitespace isSpace token] }

/-- The loop over what remains of the value, comma by comma. -/
def readTokens
    (config : IntrospectionAllowlistConfig)
    (remaining : List UInt16) :
    IntrospectionAllowlistConfig :=
  if remaining = [] then
    config
  else
    match _found : takeUntil 44 remaining with
    | some (token, rest) =>
        readTokens (visitToken isSpace config token) rest
    | none =>
        visitToken isSpace config remaining
termination_by remaining.length
decreasing_by exact length_lt_of_takeUntil ‹_›

/-- `kDefaultAllowlist`. -/
def kDefaultAllowlist : List UInt32 := [0x7dfc]

/-- `kValueCapacity`. -/
def kValueCapacity : Nat := 256

/--
The length `GetEnvironmentVariableW` returns: zero without a variable, the
length of a value that fits with its terminator, and the capacity a longer one
needs.
-/
def environmentLength (capacity : Nat) : Option (List UInt16) → Nat
  | none => 0
  | some text =>
      if text.length < capacity then text.length else text.length + 1

/-- `LoadIntrospectionAllowlist`, for the variable as it is set. -/
def loadIntrospectionAllowlist
    (sorter : Sorter (byKey fun opcode : UInt32 => opcode))
    (setting : Option (List UInt16)) :
    IntrospectionAllowlistConfig :=
  let length := environmentLength kValueCapacity setting
  if length = 0 ∨ kValueCapacity ≤ length then
    { opcodes := kDefaultAllowlist }
  else
    let config :=
      readTokens isSpace { usesDefault := false }
        ((setting.getD []).take length)
    { config with opcodes := unique (sorter.sort config.opcodes) }

section Loop

/-- A blank remainder says nothing. -/
@[simp] theorem visitToken_nil (config : IntrospectionAllowlistConfig) :
    visitToken isSpace config [] = config := by
  simp [visitToken, parseOpcodeToken, trimWhitespace]

/-- The loop visits every token between commas once, in their order. -/
theorem readTokens_eq_foldl
    (config : IntrospectionAllowlistConfig)
    (remaining : List UInt16) :
    readTokens isSpace config remaining =
      (remaining.splitOn 44).foldl (visitToken isSpace) config := by
  fun_induction readTokens isSpace config remaining with
  | case1 config =>
      rw [List.splitOn_nil, List.foldl_cons, List.foldl_nil,
        visitToken_nil]
  | case2 config remaining _ token rest found inductionHypothesis =>
      rw [splitOn_of_takeUntil found, List.foldl_cons,
        inductionHypothesis]
  | case3 config remaining _ missing =>
      rw [splitOn_of_takeUntil_none missing, List.foldl_cons,
        List.foldl_nil]

/-- What a token adds to the invalid ones. -/
def rejectedToken (token : List UInt16) : Option (List UInt16) :=
  if parseOpcodeToken isSpace token = none ∧
      trimWhitespace isSpace token ≠ [] then
    some (trimWhitespace isSpace token)
  else
    none

/-- The opcodes a visit adds. -/
theorem visitToken_opcodes
    (config : IntrospectionAllowlistConfig)
    (token : List UInt16) :
    (visitToken isSpace config token).opcodes =
      config.opcodes ++ (parseOpcodeToken isSpace token).toList := by
  rw [visitToken]
  split
  next opcode parsed =>
    rw [parsed]
    rfl
  next invalid =>
    rw [invalid]
    split <;> simp

/-- The invalid tokens a visit adds. -/
theorem visitToken_invalidTokens
    (config : IntrospectionAllowlistConfig)
    (token : List UInt16) :
    (visitToken isSpace config token).invalidTokens =
      config.invalidTokens ++ (rejectedToken isSpace token).toList := by
  rw [visitToken, rejectedToken]
  split
  next opcode parsed =>
    simp [parsed]
  next invalid =>
    split
    next blank =>
      simp [blank]
    next notBlank =>
      simp [invalid, notBlank]

/-- The opcodes of a run over tokens, in their order. -/
theorem foldl_visitToken_opcodes
    (config : IntrospectionAllowlistConfig)
    (tokens : List (List UInt16)) :
    (tokens.foldl (visitToken isSpace) config).opcodes =
      config.opcodes ++ tokens.filterMap (parseOpcodeToken isSpace) := by
  induction tokens generalizing config with
  | nil =>
      simp
  | cons token later inductionHypothesis =>
      rw [List.foldl_cons, inductionHypothesis, visitToken_opcodes,
        List.append_assoc, List.filterMap_cons]
      cases parseOpcodeToken isSpace token <;> rfl

/-- The invalid tokens of a run over tokens, in their order. -/
theorem foldl_visitToken_invalidTokens
    (config : IntrospectionAllowlistConfig)
    (tokens : List (List UInt16)) :
    (tokens.foldl (visitToken isSpace) config).invalidTokens =
      config.invalidTokens ++
        tokens.filterMap (rejectedToken isSpace) := by
  induction tokens generalizing config with
  | nil =>
      simp
  | cons token later inductionHypothesis =>
      rw [List.foldl_cons, inductionHypothesis, visitToken_invalidTokens,
        List.append_assoc, List.filterMap_cons]
      cases rejectedToken isSpace token <;> rfl

end Loop

section Tokens

/-- A value of the variable that fits the buffer with its terminator. -/
structure EnvironmentValue where
  text : List UInt16
  fits : text.length < kValueCapacity
  unterminated : 0 ∉ text

/-- The tokens of a value: what stands between its commas. -/
def EnvironmentValue.tokens (value : EnvironmentValue) : List (List UInt16) :=
  value.text.splitOn 44

/-- A token means an opcode, by its name or by its number. -/
def Denotes (text : List UInt16) (opcode : UInt32) : Prop :=
  tryLookupRof2OpcodeText text = some opcode ∨
    ∃ numeral : Numeral,
      numeral.text = text ∧ numeral.value = opcode.toNat

/-- No token is the numeral of a number that is no opcode. -/
def NumeralsInRange (value : EnvironmentValue) : Prop :=
  ∀ token ∈ value.tokens, ∀ numeral : Numeral,
    numeral.text = trimWhitespace isSpace token → numeral.InRange

variable {isSpace}

/-- What is left of a token after trimming starts with no white space. -/
theorem head?_trimWhitespace
    {token : List UInt16} :
    ∀ first ∈ (trimWhitespace isSpace token).head?,
      isSpace first = false := by
  intro first isFirst
  obtain ⟨behind, shape⟩ :=
    List.rdropWhile_prefix isSpace (token.dropWhile isSpace)
  have front : (token.dropWhile isSpace).head? = some first := by
    rw [← shape, List.head?_append, show
      (List.rdropWhile isSpace (token.dropWhile isSpace)).head? =
        some first from isFirst]
    rfl
  have stopped := List.head?_dropWhile_not isSpace token
  rw [front] at stopped
  simpa using stopped

/-- Trimming introduces no symbol. -/
theorem mem_of_mem_trimWhitespace
    {token : List UInt16}
    {symbol : UInt16}
    (member : symbol ∈ trimWhitespace isSpace token) :
    symbol ∈ token :=
  (List.dropWhile_sublist isSpace).mem
    ((List.rdropWhile_prefix isSpace _).sublist.mem member)

/-- The conversion has reached the terminator exactly where nothing is left. -/
theorem headD_wcstoul
    {text : List UInt16}
    (unterminated : 0 ∉ text) :
    (wcstoul isSpace text).2.headD 0 = 0 ↔
      (wcstoul isSpace text).2 = [] := by
  cases left : (wcstoul isSpace text).2 with
  | nil =>
      simp
  | cons symbol later =>
      have nonzero : symbol ≠ 0 := by
        rintro rfl
        have isLeft : 0 ∈ (wcstoul isSpace text).2 := by
          rw [left]
          exact List.mem_cons_self
        exact unterminated (mem_of_mem_wcstoul isLeft)
      simpa using nonzero

/-- A numeral is converted, whatever its value. -/
theorem parseOpcodeToken_numeral
    {token : List UInt16}
    {numeral : Numeral}
    (isNumeral : numeral.text = trimWhitespace isSpace token) :
    parseOpcodeToken isSpace token =
      some (convert numeral.sign numeral.magnitude) := by
  have converted :
      wcstoul isSpace numeral.text =
        (convert numeral.sign numeral.magnitude, []) :=
    wcstoul_numeral numeral (by
      rw [isNumeral]
      exact head?_trimWhitespace)
  have representable :
      convert numeral.sign numeral.magnitude ≤ 0xFFFFFFFF :=
    UInt32.le_iff_toNat_le.mpr
      (Nat.le_of_lt_succ (UInt32.toNat_lt _))
  simp only [parseOpcodeToken, ← isNumeral, if_neg numeral.text_ne_nil,
    converted]
  rw [if_pos ⟨rfl, representable⟩]

/-- Any other token is looked up among the names. -/
theorem parseOpcodeToken_name
    {token : List UInt16}
    (unterminated : 0 ∉ token)
    (noNumeral :
      ∀ numeral : Numeral,
        numeral.text ≠ trimWhitespace isSpace token) :
    parseOpcodeToken isSpace token =
      tryLookupRof2OpcodeText (trimWhitespace isSpace token) := by
  rw [parseOpcodeToken]
  split
  next blank =>
    rw [blank]
    rfl
  next notBlank =>
    rw [if_neg]
    rintro ⟨atEnd, -⟩
    have whole :=
      (headD_wcstoul fun member =>
        unterminated (mem_of_mem_trimWhitespace member)).mp atEnd
    obtain ⟨numeral, isNumeral⟩ :=
      exists_numeral_of_wcstoul notBlank head?_trimWhitespace whole
    exact noNumeral numeral isNumeral

/-- No numeral is the name of an opcode. -/
theorem tryLookupRof2OpcodeText_numeral (numeral : Numeral) :
    tryLookupRof2OpcodeText numeral.text = none := by
  cases known : tryLookupRof2OpcodeText numeral.text with
  | none =>
      rfl
  | some opcode =>
      have startsO := OpcodeReference.head?_of_tryLookupRof2OpcodeText known
      rcases numeral.head?_text startsO with isPlus | isMinus | isDigit
      · cases isPlus
      · cases isMinus
      · cases isDigit

/-- A numeral means an opcode exactly by its value. -/
theorem denotes_numeral
    {numeral : Numeral}
    {opcode : UInt32} :
    Denotes numeral.text opcode ↔ numeral.value = opcode.toNat := by
  constructor
  · rintro (known | ⟨other, sameText, isValue⟩)
    · rw [tryLookupRof2OpcodeText_numeral] at known
      cases known
    · rw [← isValue]
      exact Numeral.value_unique sameText.symm
  · intro isValue
    exact .inr ⟨numeral, rfl, isValue⟩

/-- A numeral out of range means no opcode. -/
theorem not_denotes_of_not_inRange
    {numeral : Numeral}
    (outOfRange : ¬ numeral.InRange)
    (opcode : UInt32) :
    ¬ Denotes numeral.text opcode := by
  rw [denotes_numeral]
  intro isValue
  have below := opcode.toNat_lt
  refine outOfRange ⟨?_, ?_⟩
  · rw [isValue]
    exact Int.natCast_nonneg _
  · rw [isValue]
    omega

/-- In range, a token is parsed as the opcode it means. -/
theorem parseOpcodeToken_eq_some_iff
    {token : List UInt16}
    {opcode : UInt32}
    (unterminated : 0 ∉ token)
    (inRange :
      ∀ numeral : Numeral,
        numeral.text = trimWhitespace isSpace token → numeral.InRange) :
    parseOpcodeToken isSpace token = some opcode ↔
      Denotes (trimWhitespace isSpace token) opcode := by
  by_cases isNumeral :
      ∃ numeral : Numeral, numeral.text = trimWhitespace isSpace token
  · obtain ⟨numeral, sameText⟩ := isNumeral
    have converted := Numeral.toNat_convert (inRange numeral sameText)
    rw [parseOpcodeToken_numeral sameText, ← sameText, denotes_numeral,
      ← converted, Option.some.injEq, Int.natCast_inj,
      UInt32.toNat_inj]
  · rw [parseOpcodeToken_name unterminated fun numeral same =>
      isNumeral ⟨numeral, same⟩]
    constructor
    · exact .inl
    · rintro (known | ⟨numeral, sameText, -⟩)
      · exact known
      · exact (isNumeral ⟨numeral, sameText⟩).elim

end Tokens

section Allowlist

variable (sorter : Sorter (byKey fun opcode : UInt32 => opcode))

/-- A value that is not empty is read token by token. -/
theorem loadIntrospectionAllowlist_eq
    {value : EnvironmentValue}
    (notEmpty : value.text ≠ []) :
    loadIntrospectionAllowlist isSpace sorter (some value.text) =
      { readTokens isSpace { usesDefault := false } value.text with
        opcodes :=
          unique (sorter.sort
            (readTokens isSpace { usesDefault := false }
              value.text).opcodes) } := by
  have isLength :
      environmentLength kValueCapacity (some value.text) =
        value.text.length :=
    if_pos value.fits
  have fits := value.fits
  have positive := List.length_pos_iff.mpr notEmpty
  rw [loadIntrospectionAllowlist, isLength, if_neg (by omega),
    Option.getD_some, List.take_length]

/-- The opcodes of a value that is not empty. -/
theorem loadIntrospectionAllowlist_opcodes
    {value : EnvironmentValue}
    (notEmpty : value.text ≠ []) :
    (loadIntrospectionAllowlist isSpace sorter
        (some value.text)).opcodes =
      unique (sorter.sort
        (value.tokens.filterMap (parseOpcodeToken isSpace))) := by
  rw [loadIntrospectionAllowlist_eq isSpace sorter notEmpty,
    readTokens_eq_foldl, foldl_visitToken_opcodes, List.nil_append]
  rfl

/-- The API reports an empty value as it reports a missing one. -/
theorem loadIntrospectionAllowlist_nil :
    loadIntrospectionAllowlist isSpace sorter (some []) =
      loadIntrospectionAllowlist isSpace sorter none :=
  rfl

/-- The invalid tokens of a value. -/
theorem loadIntrospectionAllowlist_invalidTokens
    (value : EnvironmentValue) :
    (loadIntrospectionAllowlist isSpace sorter
        (some value.text)).invalidTokens =
      value.tokens.filterMap (rejectedToken isSpace) := by
  by_cases empty : value.text = []
  · rw [EnvironmentValue.tokens, empty, List.splitOn_nil,
      loadIntrospectionAllowlist_nil]
    simp [loadIntrospectionAllowlist, environmentLength, rejectedToken,
      trimWhitespace]
  · rw [loadIntrospectionAllowlist_eq isSpace sorter empty,
      readTokens_eq_foldl, foldl_visitToken_invalidTokens,
      List.nil_append]
    rfl

/-- The symbols of a token are symbols of the value. -/
theorem EnvironmentValue.unterminated_token
    {value : EnvironmentValue}
    {token : List UInt16}
    (isToken : token ∈ value.tokens) :
    0 ∉ token :=
  fun member => value.unterminated (mem_of_mem_splitOn isToken member)

/--
An allowlist that is what its value says.  The opcodes are those its tokens
mean, each once and in order; a token that means none is invalid unless it is
blank; and every token is visited once.  An empty value is no value.
-/
structure AllowlistRead
    (value : EnvironmentValue)
    (loaded : IntrospectionAllowlistConfig) : Prop where
  increasing : loaded.opcodes.Pairwise fun left right => left < right
  unset : value.text = [] → loaded.opcodes = kDefaultAllowlist
  denoted :
    value.text ≠ [] →
      ∀ opcode,
        opcode ∈ loaded.opcodes ↔
          ∃ token ∈ value.tokens,
            Denotes (trimWhitespace isSpace token) opcode
  invalid :
    ∀ text,
      text ∈ loaded.invalidTokens ↔
        text ≠ [] ∧
          (∃ token ∈ value.tokens, trimWhitespace isSpace token = text) ∧
            ∀ opcode, ¬ Denotes text opcode
  visited :
    ∀ config,
      readTokens isSpace config value.text =
        value.tokens.foldl (visitToken isSpace) config

/-- A rejected token is its trimmed text, which was not parsed. -/
theorem mem_filterMap_rejectedToken
    {tokens : List (List UInt16)}
    {text : List UInt16} :
    text ∈ tokens.filterMap (rejectedToken isSpace) ↔
      text ≠ [] ∧
        ∃ token ∈ tokens,
          trimWhitespace isSpace token = text ∧
            parseOpcodeToken isSpace token = none := by
  rw [List.mem_filterMap]
  constructor
  · rintro ⟨token, member, rejected⟩
    rw [rejectedToken] at rejected
    split at rejected
    next refused =>
      obtain rfl := Option.some.inj rejected
      exact ⟨refused.2, token, member, rfl, refused.1⟩
    next =>
      cases rejected
  · rintro ⟨notBlank, token, member, rfl, unparsed⟩
    exact ⟨token, member, if_pos ⟨unparsed, notBlank⟩⟩

/-- Numerals in range are enough for the allowlist to be what it says. -/
theorem allowlistRead_of_numeralsInRange
    {value : EnvironmentValue}
    (inRange : NumeralsInRange isSpace value) :
    AllowlistRead isSpace value
      (loadIntrospectionAllowlist isSpace sorter (some value.text)) := by
  have parsed :
      ∀ token ∈ value.tokens, ∀ opcode,
        parseOpcodeToken isSpace token = some opcode ↔
          Denotes (trimWhitespace isSpace token) opcode :=
    fun token isToken _ =>
      parseOpcodeToken_eq_some_iff
        (EnvironmentValue.unterminated_token isToken)
        (inRange token isToken)
  refine ⟨?_, ?_, ?_, ?_, fun config => readTokens_eq_foldl _ config _⟩
  · by_cases empty : value.text = []
    · rw [empty]
      exact List.pairwise_singleton _ _
    · rw [loadIntrospectionAllowlist_opcodes isSpace sorter empty]
      exact strictlyIncreasing_unique_sort sorter _
  · intro empty
    rw [empty]
    rfl
  · intro notEmpty opcode
    rw [loadIntrospectionAllowlist_opcodes isSpace sorter notEmpty,
      mem_unique_sort, List.mem_filterMap]
    constructor
    · rintro ⟨token, isToken, isOpcode⟩
      exact ⟨token, isToken, (parsed token isToken opcode).mp isOpcode⟩
    · rintro ⟨token, isToken, means⟩
      exact ⟨token, isToken, (parsed token isToken opcode).mpr means⟩
  · intro text
    rw [loadIntrospectionAllowlist_invalidTokens,
      mem_filterMap_rejectedToken]
    refine and_congr_right fun _ => ?_
    constructor
    · rintro ⟨token, isToken, rfl, unparsed⟩
      refine ⟨⟨token, isToken, rfl⟩, fun opcode means => ?_⟩
      rw [(parsed token isToken opcode).mpr means] at unparsed
      cases unparsed
    · rintro ⟨⟨token, isToken, rfl⟩, meansNone⟩
      refine ⟨token, isToken, rfl, ?_⟩
      rw [Option.eq_none_iff_forall_ne_some]
      intro opcode isOpcode
      exact meansNone opcode ((parsed token isToken opcode).mp isOpcode)

/-- A numeral out of range is not reported. -/
theorem numeralsInRange_of_allowlistRead
    {value : EnvironmentValue}
    (isRead :
      AllowlistRead isSpace value
        (loadIntrospectionAllowlist isSpace sorter (some value.text))) :
    NumeralsInRange isSpace value := by
  intro token isToken numeral sameText
  by_contra outOfRange
  have isInvalid :
      numeral.text ∈
        (loadIntrospectionAllowlist isSpace sorter
          (some value.text)).invalidTokens :=
    (isRead.invalid numeral.text).mpr
      ⟨numeral.text_ne_nil, ⟨token, isToken, sameText.symm⟩,
        not_denotes_of_not_inRange outOfRange⟩
  rw [loadIntrospectionAllowlist_invalidTokens,
    mem_filterMap_rejectedToken] at isInvalid
  obtain ⟨-, other, -, otherText, unparsed⟩ := isInvalid
  rw [parseOpcodeToken_numeral otherText.symm] at unparsed
  cases unparsed

/--
The allowlist is what its value says exactly when no token is the numeral of a
number outside the 32-bit range.
-/
theorem allowlistRead_iff_numeralsInRange
    (value : EnvironmentValue) :
    AllowlistRead isSpace value
        (loadIntrospectionAllowlist isSpace sorter (some value.text)) ↔
      NumeralsInRange isSpace value :=
  ⟨numeralsInRange_of_allowlistRead isSpace sorter,
    allowlistRead_of_numeralsInRange isSpace sorter⟩

end Allowlist

/-- The value `-5`. -/
def minusFive : EnvironmentValue :=
  ⟨[45, 53], by decide, by decide⟩

/-- A negative number adds another opcode, and no invalid token. -/
theorem negativeNumeral_added :
    loadIntrospectionAllowlist (· == 32)
          (StandardSort.insertion fun opcode => opcode)
          (some minusFive.text) =
        ⟨[0xFFFFFFFB], [], false⟩ ∧
      ¬ AllowlistRead (· == 32) minusFive
        (loadIntrospectionAllowlist (· == 32)
          (StandardSort.insertion fun opcode => opcode)
          (some minusFive.text)) := by
  constructor
  · rw [loadIntrospectionAllowlist_eq _ _ (by decide), readTokens_eq_foldl]
    decide
  · intro isRead
    have inRange :=
      numeralsInRange_of_allowlistRead _ _ isRead [45, 53] (by decide)
        ⟨.minus, .decimal, [53],
          List.forall_mem_singleton.mpr (by decide), by decide, by decide⟩
        (by decide)
    exact absurd inRange (by decide)

end MonomythClient.IntrospectionAllowlist
