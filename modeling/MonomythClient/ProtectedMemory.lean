import MonomythClient.FlatMemory
import MonomythClient.LittleEndian

namespace ProtectedMemory

open FlatMemory
open LittleEndian

/-!
# Memory with access rights

A flat memory whose addresses may refuse to be read or written.  A read or a
write of a range happens as a whole or not at all, and never at the null
address.  The rules here follow one address through a list of writes, and say
when writing saved bytes back undoes the writes made since they were saved.
-/

/-- Bytes with the addresses that can be read and written. -/
structure Memory where
  bytes : Bytes
  readable : UInt32 → Bool
  writable : UInt32 → Bool

/-- A run of bytes meant for a place. -/
structure Store where
  first : UInt32
  contents : List UInt8
deriving DecidableEq, Repr

/-- A range that is not null, not empty, and allowed at every address. -/
def accessible
    (allowed : UInt32 → Bool)
    (first : UInt32)
    (length : Nat) :
    Bool :=
  first != 0 && length != 0 &&
    (List.range length).all fun offset =>
      allowed (first + UInt32.ofNat offset)

/-- The bytes of a range. -/
def Memory.range
    (memory : Memory)
    (first : UInt32)
    (length : Nat) :
    List UInt8 :=
  (List.range length).map (memory.bytes.at first)

/-- The bytes of a range that can be read. -/
def Memory.read
    (memory : Memory)
    (source : UInt32)
    (length : Nat) :
    Option (List UInt8) :=
  if accessible memory.readable source length then
    some (memory.range source length)
  else
    none

/-- One byte that can be read. -/
def Memory.readByte (memory : Memory) (source : UInt32) : Option UInt8 :=
  (memory.read source 1).map fun bytes => bytes.headD 0

/-- Four bytes that can be read, as a word. -/
def Memory.readWord (memory : Memory) (source : UInt32) : Option UInt32 :=
  (memory.read source 4).map fun bytes => UInt32.ofNat (value bytes)

/-- The place of a store can be written. -/
def Memory.accepts (memory : Memory) (store : Store) : Bool :=
  accessible memory.writable store.first store.contents.length

/-- Writing a store where it is accepted.  A field of at most four bytes is
copied by one instruction, which writes all of it or faults before it writes,
also across a page; so no such copy is torn, as that of a patch may be. -/
def Memory.write (memory : Memory) (store : Store) : Memory :=
  if memory.accepts store then
    { memory with
      bytes :=
        memory.bytes.write store.first (fun offset => store.contents.getD offset 0)
          store.contents.length }
  else
    memory

/-- Writing several stores, in order. -/
def Memory.writeEach (memory : Memory) (stores : List Store) : Memory :=
  stores.foldl Memory.write memory

/-- The address lies in the place of the store. -/
def Store.Covers (store : Store) (address : UInt32) : Prop :=
  InRange store.first store.contents.length address

instance (store : Store) (address : UInt32) :
    Decidable (store.Covers address) :=
  inferInstanceAs (Decidable (InRange _ _ _))

/-- The byte a store has for an address. -/
def Store.byteAt (store : Store) (address : UInt32) : UInt8 :=
  store.contents.getD (offsetFrom store.first address) 0

/-- A store holds what is in its place. -/
def Store.Saves (store : Store) (bytes : Bytes) : Prop :=
  ∀ address, store.Covers address → store.byteAt address = bytes address

/-- A memory is its bytes and rights. -/
theorem Memory.eq_of_fields
    {left right : Memory}
    (sameBytes : left.bytes = right.bytes)
    (sameReadable : left.readable = right.readable)
    (sameWritable : left.writable = right.writable) :
    left = right := by
  cases left with
  | mk bytes readable writable =>
      cases right with
      | mk otherBytes otherReadable otherWritable =>
          dsimp only at sameBytes sameReadable sameWritable
          rw [sameBytes, sameReadable, sameWritable]

/-! ## One write -/

@[simp] theorem Memory.readable_write (memory : Memory) (store : Store) :
    (memory.write store).readable = memory.readable := by
  unfold write
  split <;> rfl

@[simp] theorem Memory.writable_write (memory : Memory) (store : Store) :
    (memory.write store).writable = memory.writable := by
  unfold write
  split <;> rfl

/-- Writing changes no right to write. -/
@[simp] theorem Memory.accepts_write
    (memory : Memory)
    (written store : Store) :
    (memory.write written).accepts store = memory.accepts store := by
  rw [accepts, accepts, writable_write]

/-- Each address after a write. -/
theorem Memory.bytes_write
    (memory : Memory)
    (store : Store)
    (address : UInt32) :
    (memory.write store).bytes address =
      if memory.accepts store ∧ store.Covers address then
        store.byteAt address
      else
        memory.bytes address := by
  unfold write
  by_cases accepted : memory.accepts store
  · by_cases covered : store.Covers address
    · rw [if_pos accepted, if_pos ⟨accepted, covered⟩]
      dsimp only
      rw [Bytes.write_inRange covered, Store.byteAt]
    · rw [if_pos accepted, if_neg fun both => covered both.2]
      dsimp only
      rw [Bytes.write_outside covered]
  · rw [if_neg accepted, if_neg fun both => accepted both.1]

theorem Memory.write_of_not_accepts
    {memory : Memory}
    {store : Store}
    (refused : memory.accepts store = false) :
    memory.write store = memory := by
  rw [write, refused, if_neg Bool.false_ne_true]

/-! ## Several writes -/

@[simp] theorem Memory.writeEach_nil (memory : Memory) :
    memory.writeEach [] = memory := rfl

@[simp] theorem Memory.writeEach_cons
    (memory : Memory)
    (store : Store)
    (later : List Store) :
    memory.writeEach (store :: later) =
      (memory.write store).writeEach later := rfl

@[simp] theorem Memory.writeEach_append
    (memory : Memory)
    (earlier later : List Store) :
    memory.writeEach (earlier ++ later) =
      (memory.writeEach earlier).writeEach later :=
  List.foldl_append

@[simp] theorem Memory.readable_writeEach
    (memory : Memory)
    (stores : List Store) :
    (memory.writeEach stores).readable = memory.readable := by
  induction stores generalizing memory with
  | nil =>
      rfl
  | cons store later inductionHypothesis =>
      rw [writeEach_cons, inductionHypothesis, readable_write]

@[simp] theorem Memory.writable_writeEach
    (memory : Memory)
    (stores : List Store) :
    (memory.writeEach stores).writable = memory.writable := by
  induction stores generalizing memory with
  | nil =>
      rfl
  | cons store later inductionHypothesis =>
      rw [writeEach_cons, inductionHypothesis, writable_write]

@[simp] theorem Memory.accepts_writeEach
    (memory : Memory)
    (stores : List Store)
    (store : Store) :
    (memory.writeEach stores).accepts store = memory.accepts store := by
  rw [accepts, accepts, writable_writeEach]

/-- Only the accepted writes matter. -/
theorem Memory.writeEach_filter
    (memory : Memory)
    (stores : List Store) :
    memory.writeEach (stores.filter memory.accepts) =
      memory.writeEach stores := by
  induction stores using List.reverseRecOn with
  | nil =>
      rfl
  | append_singleton earlier store inductionHypothesis =>
      rw [List.filter_append, writeEach_append, writeEach_append,
        inductionHypothesis]
      cases accepted : memory.accepts store with
      | true =>
          rw [List.filter_cons_of_pos accepted, List.filter_nil]
      | false =>
          have refused :
              (memory.writeEach earlier).accepts store = false := by
            rw [accepts_writeEach, accepted]
          rw [List.filter_cons_of_neg (by rw [accepted]; decide),
            List.filter_nil, writeEach_nil, writeEach_cons, writeEach_nil,
            write_of_not_accepts refused]

/-- Where two memories agree they agree after the same writes, if they accept
the same of them. -/
theorem Memory.writeEach_congr
    {left right : Memory}
    {stores : List Store}
    {address : UInt32}
    (sameRights :
      ∀ store ∈ stores, left.accepts store = right.accepts store)
    (same : left.bytes address = right.bytes address) :
    (left.writeEach stores).bytes address =
      (right.writeEach stores).bytes address := by
  induction stores generalizing left right with
  | nil =>
      exact same
  | cons store later inductionHypothesis =>
      refine inductionHypothesis (fun other member => ?_) ?_
      · rw [accepts_write, accepts_write]
        exact sameRights other (List.mem_cons_of_mem _ member)
      · rw [bytes_write, bytes_write, sameRights store List.mem_cons_self,
          same]

/-- An address that no accepted store covers keeps its byte. -/
theorem Memory.writeEach_outside
    {memory : Memory}
    {stores : List Store}
    {address : UInt32}
    (outside :
      ∀ store ∈ stores, memory.accepts store → ¬ store.Covers address) :
    (memory.writeEach stores).bytes address = memory.bytes address := by
  induction stores generalizing memory with
  | nil =>
      rfl
  | cons store later inductionHypothesis =>
      have notWritten :
          ¬ (memory.accepts store = true ∧ store.Covers address) :=
        fun both => outside store List.mem_cons_self both.1 both.2
      rw [writeEach_cons, inductionHypothesis, bytes_write,
        if_neg notWritten]
      intro other member accepted
      rw [accepts_write] at accepted
      exact outside other (List.mem_cons_of_mem _ member) accepted

/-- Stores that agree on an address leave it alone or set their byte. -/
theorem Memory.writeEach_agreeing
    {memory : Memory}
    {stores : List Store}
    {address : UInt32}
    {byte : UInt8}
    (agree :
      ∀ store ∈ stores, memory.accepts store → store.Covers address →
        store.byteAt address = byte) :
    (memory.writeEach stores).bytes address =
      if ∃ store ∈ stores, memory.accepts store ∧ store.Covers address then
        byte
      else
        memory.bytes address := by
  induction stores using List.reverseRecOn with
  | nil =>
      simp
  | append_singleton earlier store inductionHypothesis =>
      have earlierAgree :
          ∀ other ∈ earlier, memory.accepts other → other.Covers address →
            other.byteAt address = byte :=
        fun other member => agree other (List.mem_append_left _ member)
      have lastAgree := agree store (by simp)
      rw [writeEach_append, writeEach_cons, writeEach_nil, bytes_write,
        accepts_writeEach, inductionHypothesis earlierAgree]
      by_cases last : memory.accepts store = true ∧ store.Covers address
      · rw [if_pos last, lastAgree last.1 last.2,
          if_pos ⟨store, by simp, last⟩]
      · rw [if_neg last]
        refine if_congr ?_ rfl rfl
        constructor
        · rintro ⟨other, member, written⟩
          exact ⟨other, List.mem_append_left _ member, written⟩
        · rintro ⟨other, member, written⟩
          rcases List.mem_append.mp member with inEarlier | isLast
          · exact ⟨other, inEarlier, written⟩
          · rw [List.mem_singleton.mp isLast] at written
            exact absurd written last

/-- Bytes saved before some writes, written back where those were made,
undo them at every address that nothing else wrote in between. -/
theorem Memory.writeEach_undo
    {saved later : Memory}
    {stores backs : List Store}
    {address : UInt32}
    (originals : ∀ back ∈ backs, back.Saves saved.bytes)
    (kept :
      later.bytes address = (saved.writeEach stores).bytes address)
    (rewritten :
      ∀ store ∈ stores, saved.accepts store → store.Covers address →
        ∃ back ∈ backs, later.accepts back ∧ back.Covers address) :
    (later.writeEach backs).bytes address = saved.bytes address := by
  rw [writeEach_agreeing fun back member _ covers =>
    originals back member address covers]
  split
  · rfl
  · rename_i noneBack
    rw [kept, writeEach_outside]
    intro store member accepted covers
    exact noneBack (rewritten store member accepted covers)

/-! ## Ranges -/

/-- The addresses of a range decide whether it is accessible. -/
theorem accessible_congr
    {left right : UInt32 → Bool}
    {first : UInt32}
    {length : Nat}
    (fits : length ≤ 2 ^ 32)
    (same :
      ∀ address, InRange first length address →
        left address = right address) :
    accessible left first length = accessible right first length := by
  have sameAll :
      ((List.range length).all fun offset =>
          left (first + UInt32.ofNat offset)) =
        (List.range length).all fun offset =>
          right (first + UInt32.ofNat offset) := by
    rw [Bool.eq_iff_iff, List.all_eq_true, List.all_eq_true]
    refine forall₂_congr fun offset member => ?_
    have below := List.mem_range.mp member
    rw [same _ (inRange_add (Nat.lt_of_lt_of_le below fits) below)]
  rw [accessible, accessible, sameAll]

/-- The bytes at its addresses are those of a range. -/
theorem Memory.range_congr
    {left right : Memory}
    {first : UInt32}
    {length : Nat}
    (fits : length ≤ 2 ^ 32)
    (same :
      ∀ address, InRange first length address →
        left.bytes address = right.bytes address) :
    left.range first length = right.range first length := by
  refine List.map_congr_left fun offset member => ?_
  have below := List.mem_range.mp member
  exact same _ (inRange_add (Nat.lt_of_lt_of_le below fits) below)

/-- Memories that agree on a range read the same from it. -/
theorem Memory.read_congr
    {left right : Memory}
    {first : UInt32}
    {length : Nat}
    (fits : length ≤ 2 ^ 32)
    (sameBytes :
      ∀ address, InRange first length address →
        left.bytes address = right.bytes address)
    (sameRights :
      ∀ address, InRange first length address →
        left.readable address = right.readable address) :
    left.read first length = right.read first length := by
  rw [read, read, accessible_congr fits sameRights,
    range_congr fits sameBytes]

@[simp] theorem Memory.length_range
    (memory : Memory)
    (first : UInt32)
    (length : Nat) :
    (memory.range first length).length = length := by
  simp [range]

/-- So for a byte. -/
theorem Memory.readByte_congr
    {left right : Memory}
    {first : UInt32}
    (sameBytes :
      ∀ address, InRange first 1 address →
        left.bytes address = right.bytes address)
    (sameRights :
      ∀ address, InRange first 1 address →
        left.readable address = right.readable address) :
    left.readByte first = right.readByte first := by
  have fits : 1 ≤ 2 ^ 32 := by decide
  rw [readByte, readByte, read_congr fits sameBytes sameRights]

/-- And for a word. -/
theorem Memory.readWord_congr
    {left right : Memory}
    {first : UInt32}
    (sameBytes :
      ∀ address, InRange first 4 address →
        left.bytes address = right.bytes address)
    (sameRights :
      ∀ address, InRange first 4 address →
        left.readable address = right.readable address) :
    left.readWord first = right.readWord first := by
  have fits : 4 ≤ 2 ^ 32 := by decide
  rw [readWord, readWord, read_congr fits sameBytes sameRights]

/-- A word only depends on its range and on the right to read it. -/
theorem Memory.readWord_of_range
    {left right : Memory}
    {first : UInt32}
    (sameRange : left.range first 4 = right.range first 4)
    (sameRights :
      ∀ address, InRange first 4 address →
        left.readable address = right.readable address) :
    left.readWord first = right.readWord first := by
  have fits : 4 ≤ 2 ^ 32 := by decide
  rw [readWord, readWord, read, read, accessible_congr fits sameRights,
    sameRange]

/-- Writing to the front of a range leaves the rest of it. -/
theorem Memory.range_write
    {memory : Memory}
    {first : UInt32}
    {contents : List UInt8}
    {length : Nat}
    (accepted : memory.accepts ⟨first, contents⟩ = true)
    (inside : contents.length ≤ length)
    (fits : length ≤ 2 ^ 32) :
    (memory.write ⟨first, contents⟩).range first length =
      contents ++ (memory.range first length).drop contents.length := by
  refine List.ext_getElem (by simp [inside]) fun offset below _ => ?_
  rw [length_range] at below
  have sameOffset := offsetFrom_add first (Nat.lt_of_lt_of_le below fits)
  rw [List.getElem_append]
  simp only [range, List.getElem_map, List.getElem_range,
    List.getElem_drop, Bytes.at, bytes_write, accepted, true_and,
    Store.Covers, InRange, Store.byteAt, sameOffset]
  split
  · rename_i front
    rw [List.getD_eq_getElem?_getD, List.getElem?_eq_getElem front]
    rfl
  · rename_i behind
    rw [Nat.add_sub_cancel' (Nat.not_lt.mp behind)]

/-- Writing a whole range sets it, if that is accepted. -/
theorem Memory.range_write_whole
    (memory : Memory)
    (first : UInt32)
    (contents : List UInt8)
    (fits : contents.length ≤ 2 ^ 32) :
    (memory.write ⟨first, contents⟩).range first contents.length =
      if memory.accepts ⟨first, contents⟩ then
        contents
      else
        memory.range first contents.length := by
  split
  · rename_i accepted
    rw [range_write accepted (Nat.le_refl _) fits, List.drop_of_length_le,
      List.append_nil]
    exact Nat.le_of_eq (length_range _ _ _)
  · rename_i refused
    rw [write_of_not_accepts (Bool.eq_false_iff.mpr refused)]

/-- Writing elsewhere leaves a range. -/
theorem Memory.range_writeEach_apart
    {memory : Memory}
    {stores : List Store}
    {first : UInt32}
    {length : Nat}
    (fits : length ≤ 2 ^ 32)
    (apart :
      ∀ store ∈ stores, ∀ address, InRange first length address →
        ¬ store.Covers address) :
    (memory.writeEach stores).range first length =
      memory.range first length :=
  range_congr fits fun address inside =>
    writeEach_outside fun store member _ =>
      apart store member address inside

/-- A front and the rest of a list are a whole exactly when each is its
part. -/
theorem append_drop_eq_iff
    {front rest whole : List UInt8} :
    front ++ rest.drop front.length = whole ↔
      front = whole.take front.length ∧
        rest.drop front.length = whole.drop front.length := by
  constructor
  · rintro rfl
    simp
  · rintro ⟨sameFront, sameRest⟩
    rw [sameRest]
    conv_lhs => rw [sameFront]
    rw [List.length_take]
    rcases Nat.le_total front.length whole.length with shorter | longer
    · rw [Nat.min_eq_left shorter, List.take_append_drop]
    · rw [List.take_of_length_le longer, List.drop_of_length_le (by omega),
        List.append_nil]

/-! ## Saving -/

theorem getD_map_range
    (source : Nat → UInt8)
    {length offset : Nat}
    (inside : offset < length) :
    ((List.range length).map source).getD offset 0 = source offset := by
  rw [List.getD_eq_getElem?_getD, List.getElem?_map,
    List.getElem?_range inside]
  rfl

/-- What was read of a range is a store that holds it. -/
theorem Memory.read_saves
    {memory : Memory}
    {source : UInt32}
    {length : Nat}
    {contents : List UInt8}
    (copied : memory.read source length = some contents) :
    contents.length = length ∧
      Store.Saves ⟨source, contents⟩ memory.bytes := by
  rw [read] at copied
  split at copied
  · obtain rfl := Option.some.inj copied
    refine ⟨by simp, fun address covers => ?_⟩
    have inside : offsetFrom source address < length := by
      simpa [Store.Covers, InRange] using covers
    rw [Store.byteAt, Memory.range, getD_map_range _ inside, Bytes.at,
      add_offsetFrom]
  · cases copied

/-- A byte that was read. -/
theorem Memory.readByte_saves
    {memory : Memory}
    {source : UInt32}
    {byte : UInt8}
    (copied : memory.readByte source = some byte) :
    Store.Saves ⟨source, [byte]⟩ memory.bytes := by
  obtain ⟨contents, ofRead, headByte⟩ := Option.map_eq_some_iff.mp copied
  obtain ⟨oneByte, saves⟩ := read_saves ofRead
  obtain ⟨only, rfl⟩ := List.length_eq_one_iff.mp oneByte
  obtain rfl : only = byte := headByte
  exact saves

/-- The range of a word that was read. -/
theorem Memory.range_of_readWord
    {memory : Memory}
    {source : UInt32}
    {word : UInt32}
    (copied : memory.readWord source = some word) :
    memory.range source 4 = bytes32 word := by
  obtain ⟨contents, ofRead, rfl⟩ := Option.map_eq_some_iff.mp copied
  rw [read] at ofRead
  split at ofRead
  · obtain rfl := Option.some.inj ofRead
    rw [bytes32_value (length_range memory source 4)]
  · cases ofRead

/-- A word that was read. -/
theorem Memory.readWord_saves
    {memory : Memory}
    {source : UInt32}
    {word : UInt32}
    (copied : memory.readWord source = some word) :
    Store.Saves ⟨source, bytes32 word⟩ memory.bytes := by
  obtain ⟨contents, ofRead, rfl⟩ := Option.map_eq_some_iff.mp copied
  obtain ⟨fourBytes, saves⟩ := read_saves ofRead
  rw [bytes32_value fourBytes]
  exact saves

end ProtectedMemory
