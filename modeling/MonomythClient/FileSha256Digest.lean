import MonomythClient.FileSha256
import MonomythClient.LittleEndian

namespace MonomythClient.SpellUsabilityDiscovery

open BlockStreams LittleEndian

/-!
# The hash of the executable is SHA-256

A block is compressed as the standard says.  A context that took in some data
represents it: its state is that behind the full blocks, and its buffer has the
rest.  Each pass of the update keeps that, and so does each byte of the padding.
-/

/-! ## Words and constants -/

/-- Rotation by shifts is rotation. -/
theorem rotateRight_eq
    {amount : UInt32}
    (inside : 0 < amount.toNat ∧ amount.toNat < 32)
    (value : UInt32) :
    rotateRight value amount = Sha256.rotr amount.toNat value := by
  have right :
      amount.toBitVec % 32 = BitVec.ofNat 32 amount.toNat := by
    apply BitVec.eq_of_toNat_eq
    simp
    omega
  have left :
      (32 - amount).toBitVec % 32 =
        BitVec.ofNat 32 (32 - amount.toNat) := by
    apply BitVec.eq_of_toNat_eq
    simp
    omega
  apply UInt32.toBitVec_inj.mp
  rw [rotateRight, UInt32.toBitVec_or, UInt32.toBitVec_shiftRight,
    UInt32.toBitVec_shiftLeft, right, left, Sha256.rotr,
    BitVec.rotateRight_def, Nat.mod_eq_of_lt inside.2]
  simp only [BitVec.shiftLeft_eq', BitVec.ushiftRight_eq',
    BitVec.toNat_ofNat]
  rw [Nat.mod_eq_of_lt (by omega), Nat.mod_eq_of_lt (by omega)]

theorem smallSigma0_eq (word : UInt32) :
    rotateRight word 7 ^^^ rotateRight word 18 ^^^ word >>> 3 =
      Sha256.smallSigma0 word := by
  rw [@rotateRight_eq 7 (by decide), @rotateRight_eq 18 (by decide)]
  rfl

theorem smallSigma1_eq (word : UInt32) :
    rotateRight word 17 ^^^ rotateRight word 19 ^^^ word >>> 10 =
      Sha256.smallSigma1 word := by
  rw [@rotateRight_eq 17 (by decide), @rotateRight_eq 19 (by decide)]
  rfl

theorem bigSigma0_eq (word : UInt32) :
    rotateRight word 2 ^^^ rotateRight word 13 ^^^ rotateRight word 22 =
      Sha256.bigSigma0 word := by
  rw [@rotateRight_eq 2 (by decide), @rotateRight_eq 13 (by decide),
    @rotateRight_eq 22 (by decide)]
  rfl

theorem bigSigma1_eq (word : UInt32) :
    rotateRight word 6 ^^^ rotateRight word 11 ^^^ rotateRight word 25 =
      Sha256.bigSigma1 word := by
  rw [@rotateRight_eq 6 (by decide), @rotateRight_eq 11 (by decide),
    @rotateRight_eq 25 (by decide)]
  rfl

/-- The constants are those of the cube roots. -/
theorem kSha256RoundConstants_eq :
    kSha256RoundConstants = Sha256.roundConstants := by
  decide +kernel

/-- The first state is that of the square roots. -/
theorem sha256Init_state : sha256Init.state = Sha256.initialHash := by
  decide +kernel

/-- Four bytes joined from the highest down. -/
theorem word32_reverse (byte0 byte1 byte2 byte3 : UInt8) :
    byte0.toUInt32 <<< 24 ||| byte1.toUInt32 <<< 16 |||
          byte2.toUInt32 <<< 8 |||
        byte3.toUInt32 =
      UInt32.ofNat (Sha256.bigEndian [byte0, byte1, byte2, byte3]) := by
  have joined :
      byte0.toUInt32 <<< 24 ||| byte1.toUInt32 <<< 16 |||
            byte2.toUInt32 <<< 8 |||
          byte3.toUInt32 =
        word32 byte3 byte2 byte1 byte0 := by
    unfold word32
    generalize byte0.toUInt32 <<< 24 = word0
    generalize byte1.toUInt32 <<< 16 = word1
    generalize byte2.toUInt32 <<< 8 = word2
    ac_rfl
  have fits0 := byte0.toNat_lt
  have fits1 := byte1.toNat_lt
  have fits2 := byte2.toNat_lt
  have fits3 := byte3.toNat_lt
  rw [joined, ← UInt32.toNat_inj, toNat_word32, UInt32.toNat_ofNat']
  simp only [Sha256.bigEndian, List.foldl_cons, List.foldl_nil,
    value_cons, value_nil]
  omega

/-- A window of a list has the members behind its offset. -/
theorem getD_drop_take
    {bytes : List UInt8}
    {offset width index : Nat}
    (inside : index < width)
    (fallback : UInt8) :
    ((bytes.drop offset).take width).getD index fallback =
      bytes.getD (offset + index) fallback := by
  rw [List.getD_eq_getElem?_getD, List.getElem?_take_of_lt inside,
    List.getElem?_drop, List.getD_eq_getElem?_getD]

/-- A word is loaded with its highest byte first. -/
theorem loadWord_eq
    {block : List UInt8}
    {offset : Nat}
    (inside : offset + 4 ≤ block.length) :
    loadWord block offset =
      UInt32.ofNat (Sha256.bigEndian ((block.drop offset).take 4)) := by
  have isFour : ((block.drop offset).take 4).length = 4 := by
    rw [List.length_take, List.length_drop]
    omega
  obtain ⟨byte0, byte1, byte2, byte3, bytes⟩ :=
    List.length_eq_four.mp isFour
  have isByte :
      ∀ index < 4,
        block.getD (offset + index) 0 =
          [byte0, byte1, byte2, byte3].getD index 0 := by
    intro index isInside
    rw [← bytes, getD_drop_take isInside]
  have first : block.getD offset 0 = byte0 := isByte 0 (by omega)
  have second : block.getD (offset + 1) 0 = byte1 := isByte 1 (by omega)
  have third : block.getD (offset + 2) 0 = byte2 := isByte 2 (by omega)
  have fourth : block.getD (offset + 3) 0 = byte3 := isByte 3 (by omega)
  rw [loadWord, first, second, third, fourth, bytes, word32_reverse]

/-! ## The schedule -/

/-- The first words of a schedule are those of the standard. -/
def IsSchedule
    (block : List UInt8)
    (count : Nat)
    (messageSchedule : List UInt32) : Prop :=
  messageSchedule.length = 64 ∧
    ∀ index < count,
      messageSchedule.getD index 0 = Sha256.schedule block index

/-- The next word may be set. -/
theorem IsSchedule.set
    {block : List UInt8}
    {count : Nat}
    {messageSchedule : List UInt32}
    (isSchedule : IsSchedule block count messageSchedule)
    (inside : count < 64)
    {word : UInt32}
    (isNext : word = Sha256.schedule block count) :
    IsSchedule block (count + 1) (messageSchedule.set count word) := by
  obtain ⟨length, words⟩ := isSchedule
  refine ⟨by rw [List.length_set, length], ?_⟩
  intro index below
  rw [List.getD_eq_getElem?_getD, List.getElem?_set]
  by_cases last : count = index
  · subst last
    rw [if_pos rfl, if_pos (by omega)]
    exact isNext
  · rw [if_neg last, ← List.getD_eq_getElem?_getD]
    exact words index (by omega)

theorem loadSchedule_isSchedule
    {block : List UInt8}
    (isBlock : block.length = 64) :
    IsSchedule block 16 (loadSchedule block) := by
  have first :
      ∀ count ≤ 16,
        IsSchedule block count
          ((List.range count).foldl
            (fun messageSchedule i =>
              let offset := i * 4
              messageSchedule.set i (loadWord block offset))
            (List.replicate 64 0)) := by
    intro count
    induction count with
    | zero =>
        intro _
        exact ⟨by simp, fun index below => absurd below (by omega)⟩
    | succ count hypothesis =>
        intro inside
        rw [List.range_succ, List.foldl_append, List.foldl_cons,
          List.foldl_nil]
        apply (hypothesis (by omega)).set (by omega)
        rw [Sha256.schedule, if_pos (by omega), Nat.mul_comm 4]
        exact loadWord_eq (by omega)
  exact first 16 (by omega)

/-- One pass of the second loop finds the next word. -/
theorem extendScheduleAt_isSchedule
    {block : List UInt8}
    {count : Nat}
    {messageSchedule : List UInt32}
    (isSchedule : IsSchedule block count messageSchedule)
    (behind : 16 ≤ count)
    (inside : count < 64) :
    IsSchedule block (count + 1)
      (extendScheduleAt messageSchedule count) := by
  apply isSchedule.set inside
  obtain ⟨_, words⟩ := isSchedule
  beta_reduce
  rw [words (count - 15) (by omega), words (count - 2) (by omega),
    words (count - 16) (by omega), words (count - 7) (by omega),
    smallSigma0_eq, smallSigma1_eq, Sha256.schedule.eq_def block count,
    if_neg (by omega)]
  ac_rfl

theorem messageSchedule_isSchedule
    {block : List UInt8}
    (isBlock : block.length = 64) :
    IsSchedule block 64 (messageSchedule block) := by
  have extended :
      ∀ count ≤ 48,
        IsSchedule block (16 + count)
          ((List.range' 16 count).foldl extendScheduleAt
            (loadSchedule block)) := by
    intro count
    induction count with
    | zero =>
        intro _
        rw [List.range'_zero, List.foldl_nil]
        exact loadSchedule_isSchedule isBlock
    | succ count hypothesis =>
        intro inside
        rw [List.range'_1_concat, List.foldl_append, List.foldl_cons,
          List.foldl_nil, ← Nat.add_assoc]
        exact
          extendScheduleAt_isSchedule (hypothesis (by omega))
            (by omega) (by omega)
  exact extended 48 (by omega)

/-! ## The rounds -/

/-- One pass over the working variables is a round. -/
theorem sha256Round_eq
    {block : List UInt8}
    (isBlock : block.length = 64)
    {index : Nat}
    (inside : index < 64)
    (locals : Sha256.Variables) :
    sha256Round (messageSchedule block) locals index =
      Sha256.round (Sha256.roundConstants.getD index 0)
        (Sha256.schedule block index) locals := by
  have word := (messageSchedule_isSchedule isBlock).2 index inside
  unfold sha256Round Sha256.round
  simp only [word, kSha256RoundConstants_eq, bigSigma0_eq, bigSigma1_eq]
  rfl

theorem foldl_sha256Round
    {block : List UInt8}
    (isBlock : block.length = 64)
    (hash : List UInt32)
    {count : Nat}
    (inside : count ≤ 64) :
    (List.range count).foldl (sha256Round (messageSchedule block))
        (.ofHash hash) =
      Sha256.rounds block hash count := by
  induction count with
  | zero =>
      rfl
  | succ count hypothesis =>
      rw [List.range_succ, List.foldl_append, List.foldl_cons,
        List.foldl_nil, hypothesis (by omega),
        sha256Round_eq isBlock (by omega), Sha256.rounds]

/-- A list is what is read at its indices. -/
theorem eq_map_getD (words : List UInt32) :
    words =
      (List.range words.length).map fun index => words.getD index 0 := by
  apply List.ext_getElem
  · rw [List.length_map, List.length_range]
  · intro index inside _
    rw [List.getElem_map, List.getElem_range, List.getD_eq_getElem?_getD,
      List.getElem?_eq_getElem inside, Option.getD_some]

/-- A block is compressed into the state. -/
theorem sha256ProcessBlock_state
    {context : Sha256Context}
    {block : List UInt8}
    (isState : context.state.length = 8)
    (isBlock : block.length = 64) :
    (sha256ProcessBlock context block).state =
      Sha256.compress context.state block := by
  have rounds := foldl_sha256Round isBlock context.state (Nat.le_refl 64)
  have state := eq_map_getD context.state
  rw [isState] at state
  unfold Sha256.Variables.ofHash at rounds
  unfold Sha256.compress sha256ProcessBlock
  simp only [rounds]
  generalize Sha256.rounds block context.state 64 = locals
  conv => rhs; rw [state]
  simp only [Sha256.Variables.toList, List.range, List.range.loop,
    List.map_cons, List.map_nil, List.zipWith_cons_cons,
    List.zipWith_nil_left, UInt32.add_comm]

/-! ## What a context represents -/

/-- The state is that behind some blocks, and the rest is in the buffer. -/
structure Represents
    (context : Sha256Context)
    (input rest : List UInt8) : Prop where
  streamed :
    Streamed 64 Sha256.compress Sha256.initialHash input context.state rest
  stateLength : context.state.length = 8
  bufferLength : context.buffer.length = 64
  restIsBuffered : context.buffer.take context.bufferSize = rest
  fits : context.bufferSize ≤ 64

theorem Represents.restLength
    {context : Sha256Context}
    {input rest : List UInt8}
    (represents : Represents context input rest) :
    rest.length = context.bufferSize := by
  have fits := represents.fits
  rw [← represents.restIsBuffered, List.length_take,
    represents.bufferLength]
  omega

theorem represents_init : Represents sha256Init [] [] where
  streamed := by
    rw [sha256Init_state]
    exact .nil
  stateLength := rfl
  bufferLength := rfl
  restIsBuffered := rfl
  fits := by decide

/-- Data that fits is copied behind the rest. -/
theorem Represents.copy
    {context : Sha256Context}
    {input rest : List UInt8}
    (represents : Represents context input rest)
    {data : List UInt8}
    (fits : context.bufferSize + data.length ≤ 64) :
    Represents (context.copy data) (input ++ data) (rest ++ data) where
  streamed := represents.streamed.append data
  stateLength := represents.stateLength
  bufferLength := by
    have isBuffer := represents.bufferLength
    simp only [Sha256Context.copy, List.length_append, List.length_take,
      List.length_drop]
    omega
  restIsBuffered := by
    have restLength := represents.restLength
    rw [Sha256Context.copy]
    simp only
    rw [represents.restIsBuffered, ← restLength, ← List.length_append,
      List.take_left]
  fits := fits

/-- A full buffer is compressed. -/
theorem Represents.flush
    {context : Sha256Context}
    {input rest : List UInt8}
    (represents : Represents context input rest)
    (isFull : context.bufferSize = 64) :
    Represents context.flush input [] := by
  have restLength := represents.restLength
  have isRest : context.buffer = rest := by
    rw [← represents.restIsBuffered, isFull, ← represents.bufferLength,
      List.take_length]
  have state :
      (sha256ProcessBlock context context.buffer).state =
        Sha256.compress context.state rest := by
    rw [sha256ProcessBlock_state represents.stateLength
      represents.bufferLength, isRest]
  constructor
  · show Streamed _ _ _ _
      (sha256ProcessBlock context context.buffer).state _
    rw [state]
    exact represents.streamed.block (by omega)
  · rfl
  · exact represents.bufferLength
  · rfl
  · exact Nat.zero_le _

/-- A byte that fits is pushed behind the rest. -/
theorem Represents.push
    {context : Sha256Context}
    {input rest : List UInt8}
    (represents : Represents context input rest)
    (fits : context.bufferSize < 64)
    (byte : UInt8) :
    Represents (context.push byte) (input ++ [byte]) (rest ++ [byte]) := by
  have isCopy : context.push byte = context.copy [byte] := by
    have isBuffer := represents.bufferLength
    rw [Sha256Context.push, Sha256Context.copy,
      List.set_eq_take_append_cons_drop, if_pos (by omega)]
    simp
  rw [isCopy]
  exact represents.copy fits

/-- Bytes that fit are pushed one by one. -/
theorem Represents.pushAll
    {context : Sha256Context}
    {input rest : List UInt8}
    (represents : Represents context input rest)
    {bytes : List UInt8}
    (fits : context.bufferSize + bytes.length ≤ 64) :
    Represents (bytes.foldl Sha256Context.push context) (input ++ bytes)
        (rest ++ bytes) ∧
      (bytes.foldl Sha256Context.push context).bufferSize =
        context.bufferSize + bytes.length := by
  induction bytes generalizing context input rest with
  | nil =>
      rw [List.append_nil, List.append_nil]
      exact ⟨represents, rfl⟩
  | cons byte later hypothesis =>
      rw [List.length_cons] at fits
      have pushed := represents.push (by omega) byte
      have size : (context.push byte).bufferSize = context.bufferSize + 1 :=
        rfl
      obtain ⟨isPushed, isSize⟩ := hypothesis pushed (by omega)
      rw [List.append_assoc, List.append_assoc] at isPushed
      refine ⟨isPushed, ?_⟩
      rw [List.foldl_cons, isSize, List.length_cons]
      omega

/-! ## Updates -/

/-- The loop takes in all of the data. -/
theorem sha256UpdateLoop_represents
    {passes : Nat}
    {context : Sha256Context}
    {remaining input rest : List UInt8}
    (enough : remaining.length ≤ passes)
    (represents : Represents context input rest)
    (notFull : context.bufferSize < 64) :
    ∃ next nextRest,
      sha256UpdateLoop passes context remaining = some next ∧
        Represents next (input ++ remaining) nextRest ∧
        next.bufferSize < 64 ∧ next.totalBytes = context.totalBytes := by
  induction passes generalizing context remaining input rest with
  | zero =>
      have isEmpty : remaining = [] :=
        List.eq_nil_of_length_eq_zero (by omega)
      subst isEmpty
      unfold sha256UpdateLoop
      rw [if_pos rfl, List.append_nil]
      exact ⟨context, rest, rfl, represents, notFull, rfl⟩
  | succ passes hypothesis =>
      unfold sha256UpdateLoop
      by_cases isEmpty : remaining = []
      · subst isEmpty
        rw [if_pos rfl, List.append_nil]
        exact ⟨context, rest, rfl, represents, notFull, rfl⟩
      rw [if_neg isEmpty]
      have positive := List.length_pos_iff.mpr isEmpty
      simp only
      generalize isCount :
        min (64 - context.bufferSize) remaining.length = copyBytes
      have taken : (remaining.take copyBytes).length = copyBytes := by
        rw [List.length_take]
        omega
      have copied :=
        @Represents.copy _ _ _ represents (remaining.take copyBytes)
          (by omega)
      have whole :
          (input ++ remaining.take copyBytes) ++
              remaining.drop copyBytes =
            input ++ remaining := by
        rw [List.append_assoc, List.take_append_drop]
      have size :
          (context.copy (remaining.take copyBytes)).bufferSize =
            context.bufferSize + copyBytes := by
        rw [Sha256Context.copy, taken]
      have fewer : (remaining.drop copyBytes).length ≤ passes := by
        rw [List.length_drop]
        omega
      by_cases isFull :
          (context.copy (remaining.take copyBytes)).bufferSize = 64
      · rw [if_pos isFull]
        obtain ⟨next, nextRest, isNext, isRepresented, fits, total⟩ :=
          hypothesis fewer (copied.flush isFull)
            (show 0 < 64 by decide)
        rw [whole] at isRepresented
        exact ⟨next, nextRest, isNext, isRepresented, fits, total⟩
      · rw [if_neg isFull]
        obtain ⟨next, nextRest, isNext, isRepresented, fits, total⟩ :=
          hypothesis fewer copied (by omega)
        rw [whole] at isRepresented
        exact ⟨next, nextRest, isNext, isRepresented, fits, total⟩

/-- A context that took in some data, and counted its bytes. -/
structure Absorbed
    (context : Sha256Context)
    (input : List UInt8) : Prop where
  represented : ∃ rest, Represents context input rest
  notFull : context.bufferSize < 64
  counted : context.totalBytes = UInt64.ofNat input.length

theorem absorbed_init : Absorbed sha256Init [] where
  represented := ⟨[], represents_init⟩
  notFull := by decide
  counted := rfl

/-- An update takes in its data. -/
theorem Absorbed.update
    {context : Sha256Context}
    {input : List UInt8}
    (absorbed : Absorbed context input)
    (data : List UInt8) :
    ∃ next,
      sha256Update context (some data) = some next ∧
        Absorbed next (input ++ data) := by
  obtain ⟨⟨rest, represents⟩, notFull, counted⟩ := absorbed
  unfold sha256Update
  simp only
  by_cases isEmpty : data = []
  · rw [if_pos isEmpty, isEmpty, List.append_nil]
    exact ⟨context, rfl, ⟨rest, represents⟩, notFull, counted⟩
  rw [if_neg isEmpty]
  have recounted :
      Represents
        { context with
          totalBytes := context.totalBytes + UInt64.ofNat data.length }
        input rest :=
    ⟨represents.streamed, represents.stateLength,
      represents.bufferLength, represents.restIsBuffered, represents.fits⟩
  obtain ⟨next, nextRest, isNext, isRepresented, fits, total⟩ :=
    sha256UpdateLoop_represents (Nat.le_refl data.length) recounted notFull
  refine ⟨next, isNext, ⟨nextRest, isRepresented⟩, fits, ?_⟩
  rw [total, counted, List.length_append, UInt64.ofNat_add]

/-- So do updates with consecutive parts. -/
theorem Absorbed.updates
    {context : Sha256Context}
    {input : List UInt8}
    (absorbed : Absorbed context input)
    (chunks : List (List UInt8)) :
    ∃ next,
      chunks.foldlM (fun context chunk => sha256Update context (some chunk))
          context =
        some next ∧
        Absorbed next (input ++ chunks.flatten) := by
  induction chunks generalizing context input with
  | nil =>
      rw [List.flatten_nil, List.append_nil]
      exact ⟨context, rfl, absorbed⟩
  | cons chunk later hypothesis =>
      obtain ⟨between, isBetween, isAbsorbed⟩ := absorbed.update chunk
      obtain ⟨next, isNext, isAll⟩ := hypothesis isAbsorbed
      refine ⟨next, ?_, ?_⟩
      · rw [List.foldlM_cons, isBetween]
        exact isNext
      · rw [List.flatten_cons, ← List.append_assoc]
        exact isAll

/-! ## The digest -/

/-- Zeros that fit are pushed up to a size. -/
theorem Represents.pushZeros
    {context : Sha256Context}
    {input rest : List UInt8}
    (represents : Represents context input rest)
    {size : Nat}
    (above : context.bufferSize ≤ size)
    (fits : size ≤ 64) :
    Represents (context.pushZeros size)
        (input ++ List.replicate (size - context.bufferSize) 0)
        (rest ++ List.replicate (size - context.bufferSize) 0) ∧
      (context.pushZeros size).bufferSize = size := by
  have pushed :=
    @Represents.pushAll _ _ _ represents
      (List.replicate (size - context.bufferSize) 0)
      (by rw [List.length_replicate]; omega)
  rw [List.length_replicate, Nat.add_sub_cancel' above] at pushed
  exact pushed

/-- After a one bit there may be room for the length, or another block. -/
theorem Absorbed.padded
    {context : Sha256Context}
    {input : List UInt8}
    (absorbed : Absorbed context input) :
    ∃ rest,
      Represents
          ((if 56 < (context.push 0x80).bufferSize then
              ((context.push 0x80).pushZeros 64).flush
            else
              context.push 0x80).pushZeros 56)
          (input ++ 0x80 ::
            List.replicate (Sha256.paddingZeros input.length) 0)
          rest ∧
        ((if 56 < (context.push 0x80).bufferSize then
              ((context.push 0x80).pushZeros 64).flush
            else
              context.push 0x80).pushZeros 56).bufferSize =
          56 := by
  obtain ⟨⟨rest, represents⟩, notFull, _⟩ := absorbed
  obtain ⟨count, inputLength⟩ := represents.streamed.length
  have restLength := represents.restLength
  have marked := represents.push notFull 0x80
  have size :
      (context.push 0x80).bufferSize = context.bufferSize + 1 := rfl
  have joined :
      ∀ zeros,
        input ++ [0x80] ++ List.replicate zeros 0 =
          input ++ (0x80 : UInt8) :: List.replicate zeros 0 := by
    intro zeros
    rw [List.append_assoc, List.singleton_append]
  by_cases isLong : 56 < (context.push 0x80).bufferSize
  · rw [if_pos isLong]
    obtain ⟨filled, isFull⟩ :=
      @Represents.pushZeros _ _ _ marked 64 (by omega) (by omega)
    have flushed := filled.flush isFull
    obtain ⟨padded, isPadded⟩ :=
      @Represents.pushZeros _ _ _ flushed 56
        (show 0 ≤ 56 by decide) (by omega)
    have empty :
        ((context.push 0x80).pushZeros 64).flush.bufferSize = 0 := rfl
    have zeros :
        64 - (context.push 0x80).bufferSize + 56 =
          Sha256.paddingZeros input.length := by
      unfold Sha256.paddingZeros
      omega
    rw [empty, Nat.sub_zero, List.append_assoc,
      List.replicate_append_replicate, zeros, joined] at padded
    exact ⟨_, padded, isPadded⟩
  · rw [if_neg isLong]
    obtain ⟨padded, isPadded⟩ :=
      @Represents.pushZeros _ _ _ marked 56 (by omega) (by omega)
    have zeros :
        56 - (context.push 0x80).bufferSize =
          Sha256.paddingZeros input.length := by
      unfold Sha256.paddingZeros
      omega
    rw [zeros, joined] at padded
    exact ⟨_, padded, isPadded⟩

/-- The bytes of the number of bits. -/
theorem totalBits_bytes
    {length : Nat}
    (short : length < 2 ^ 61) :
    ((List.range 8).reverse.map fun i =>
        ((UInt64.ofNat length * 8) >>> UInt64.ofNat (i * 8) &&&
            0xff).toUInt8) =
      Sha256.bigEndianBytes 8 (8 * length) := by
  have isTotal : (UInt64.ofNat length * 8).toNat = 8 * length := by
    rw [UInt64.toNat_mul, UInt64.toNat_ofNat']
    simp only [UInt64.reduceToNat]
    omega
  apply List.map_congr_left
  intro i isIndex
  have inside : i < 8 := List.mem_range.mp (List.mem_reverse.mp isIndex)
  have shift : (UInt64.ofNat (i * 8)).toNat % 64 = 8 * i := by
    rw [UInt64.toNat_ofNat']
    omega
  have low : ∀ number, number &&& 255 = number % 256 :=
    fun number => Nat.and_two_pow_sub_one_eq_mod number 8
  rw [← UInt8.toNat_inj, UInt64.toNat_toUInt8, UInt64.toNat_and,
    UInt64.toNat_shiftRight, isTotal, shift, Nat.shiftRight_eq_div_pow,
    pow_mul, UInt8.toNat_ofNat']
  simp only [UInt64.reduceToNat, low]
  norm_num

/-- The four bytes of a word of the digest. -/
theorem word_bytes (word : UInt32) :
    [ (word >>> 24 &&& 0xff).toUInt8, (word >>> 16 &&& 0xff).toUInt8,
        (word >>> 8 &&& 0xff).toUInt8, (word &&& 0xff).toUInt8 ] =
      Sha256.bigEndianBytes 4 word.toNat := by
  have low : ∀ number, number &&& 255 = number % 256 :=
    fun number => Nat.and_two_pow_sub_one_eq_mod number 8
  simp only [Sha256.bigEndianBytes, List.range, List.range.loop,
    List.reverse_cons, List.reverse_nil, List.nil_append,
    List.cons_append, List.map_cons, List.map_nil, List.cons.injEq,
    and_true, ← UInt8.toNat_inj, UInt32.toNat_toUInt8, UInt32.toNat_and,
    UInt32.toNat_shiftRight, UInt8.toNat_ofNat', UInt32.reduceToNat, low,
    Nat.shiftRight_eq_div_pow, Nat.reduceMod, Nat.reducePow]
  omega

/-- The bytes of eight words, as the digest is written. -/
theorem digest_bytes
    {words : List UInt32}
    (areEight : words.length = 8) :
    ((List.range 8).flatMap fun i =>
        let word := words.getD i 0
        [ (word >>> 24 &&& 0xff).toUInt8, (word >>> 16 &&& 0xff).toUInt8,
          (word >>> 8 &&& 0xff).toUInt8, (word &&& 0xff).toUInt8 ]) =
      words.flatMap fun word => Sha256.bigEndianBytes 4 word.toNat := by
  have members := eq_map_getD words
  rw [areEight] at members
  simp only [word_bytes]
  conv => rhs; rw [members]
  rw [List.flatMap_map]

/-- The digest is that of all the data, if its bits can be counted. -/
theorem Absorbed.final
    {context : Sha256Context}
    {input : List UInt8}
    (absorbed : Absorbed context input)
    (short : input.length < 2 ^ 61) :
    (sha256Final context).1 = Sha256.digest input := by
  obtain ⟨rest, padded, size⟩ := absorbed.padded
  have bytes := totalBits_bytes short
  rw [← absorbed.counted] at bytes
  obtain ⟨counted, full⟩ :=
    @Represents.pushAll _ _ _ padded
      (Sha256.bigEndianBytes 8 (8 * input.length))
      (by simp [size, Sha256.bigEndianBytes])
  rw [← bytes, List.foldl_map, size, List.length_map, List.length_reverse,
    List.length_range] at full
  rw [← bytes, List.foldl_map, bytes] at counted
  have flushed := counted.flush full
  have state := flushed.streamed.complete (by decide)
  have stateLength := flushed.stateLength
  calc
    (sha256Final context).1
      = _ := digest_bytes stateLength
    _ = Sha256.digest input :=
      congrArg
        (List.flatMap fun word => Sha256.bigEndianBytes 4 word.toNat)
        state

/-! ## Files -/

/-- Reading a file takes in what every read gives. -/
theorem Absorbed.read
    {context : Sha256Context}
    {input : List UInt8}
    (absorbed : Absorbed context input)
    {chunks : List (List UInt8)}
    (nonempty : ∀ chunk ∈ chunks, chunk ≠ [])
    (later : List (Option (List UInt8))) :
    ∃ next,
      readLoop context (chunks.map some ++ some [] :: later) =
          some (some next) ∧
        Absorbed next (input ++ chunks.flatten) := by
  induction chunks generalizing context input with
  | nil =>
      rw [List.flatten_nil, List.append_nil]
      exact ⟨context, rfl, absorbed⟩
  | cons chunk rest hypothesis =>
      obtain ⟨between, isBetween, isAbsorbed⟩ := absorbed.update chunk
      obtain ⟨next, isNext, isAll⟩ :=
        hypothesis isAbsorbed fun other member =>
          nonempty other (List.mem_cons_of_mem _ member)
      refine ⟨next, ?_, ?_⟩
      · rw [List.map_cons, List.cons_append, readLoop,
          if_neg (nonempty chunk List.mem_cons_self), isBetween]
        exact isNext
      · rw [List.flatten_cons, ← List.append_assoc]
        exact isAll

/--
However a message below 2^61 bytes is cut into updates, the digest is its
SHA-256; and however a file of such a length is read, what is written is the
SHA-256 of the whole of it.
-/
theorem sha256_of_updates
    {chunks : List (List UInt8)}
    (short : chunks.flatten.length < 2 ^ 61) :
    (chunks.foldlM
          (fun context chunk => sha256Update context (some chunk))
          sha256Init).map
        (fun context => (sha256Final context).1) =
      some (Sha256.digest chunks.flatten) ∧
      ∀ path later,
        path ≠ "" →
          (∀ chunk ∈ chunks, chunk ≠ []) →
            computeFileSha256 path true true
                (chunks.map some ++ some [] :: later) =
              some
                (some
                  (String.ofList
                    ((Sha256.digest chunks.flatten).flatMap
                      hexDigits))) := by
  constructor
  · obtain ⟨next, isNext, absorbed⟩ := absorbed_init.updates chunks
    rw [isNext, Option.map_some, absorbed.final short]
    rfl
  · intro path later hasPath nonempty
    obtain ⟨next, isNext, absorbed⟩ :=
      absorbed_init.read nonempty later
    unfold computeFileSha256
    rw [if_neg (by simpa using hasPath), if_neg (by simp), isNext]
    simp only [Option.map_some, absorbed.final short, List.nil_append]

/-- Three bytes in two updates, and in two reads. -/
theorem sha256_of_updates_abc :
    ([[0x61], [0x62, 0x63]].foldlM
          (fun context chunk => sha256Update context (some chunk))
          sha256Init).map
        (fun context => (sha256Final context).1) =
      some (Sha256.digest [0x61, 0x62, 0x63]) ∧
      computeFileSha256 "eqgame.exe" true true
          [some [0x61], some [0x62, 0x63], some []] =
        some
          (some
            (String.ofList
              ((Sha256.digest [0x61, 0x62, 0x63]).flatMap hexDigits))) :=
  ⟨(@sha256_of_updates [[0x61], [0x62, 0x63]] (by decide)).1,
    (@sha256_of_updates [[0x61], [0x62, 0x63]] (by decide)).2
      "eqgame.exe" [] (by decide) (by decide)⟩

/-- The example of the standard. -/
example :
    computeFileSha256 "eqgame.exe" true true
        [some [0x61], some [0x62, 0x63], some []] =
      some
        (some
          ("ba7816bf8f01cfea414140de5dae2223" ++
            "b00361a396177a9cb410ff61f20015ad")) := by
  decide +kernel

end MonomythClient.SpellUsabilityDiscovery
