import MonomythClient.ByteText
import MonomythClient.CarriedScans

namespace MonomythClient.Fingerprint

open ByteText CarriedScans

/-!
# The fingerprint of the executable

The executable's file is searched for two markers, the date and the time of its
build.  The file is read in chunks, and the end of what was scanned is carried
in front of the next chunk.  However short the chunks are, what is found is what
a search of the whole file finds.
-/

/-! ## Markers -/

def kExpectedDateAscii : List UInt8 := ascii "May 10 2013"

def kExpectedTimeAscii : List UInt8 := ascii "23:30:08"

def kMaxExecutableScanBytes : Int := 512 * 1024 * 1024

def kByteScanChunkBytes : Nat := 64 * 1024

/-- `MarkerPresence` -/
structure MarkerPresence where
  dateFound : Bool := false
  timeFound : Bool := false
  deriving Repr, DecidableEq

/-- `std::string_view::find`: where a word begins for the first time. -/
def findText (text word : List UInt8) : Option Nat :=
  (List.range (text.length + 1)).find? fun offset =>
    word.isPrefixOf (text.drop offset)

/-- `FindKnownRof2Markers` -/
def findKnownRof2Markers (bytes : List UInt8) : MarkerPresence where
  dateFound := (findText bytes kExpectedDateAscii).isSome
  timeFound := (findText bytes kExpectedTimeAscii).isSome

/-! ## The scan -/

/-- `kCarryBytes` -/
def kCarryBytes : Nat :=
  (if kExpectedTimeAscii.length < kExpectedDateAscii.length then
      kExpectedDateAscii.length
    else
      kExpectedTimeAscii.length) -
    1

/-- `memcpy` or `memmove` to an array; outside of it, there is no result. -/
def copyTo
    (array : List UInt8)
    (offset : Nat)
    (source : List UInt8) : Option (List UInt8) :=
  if offset + source.length ≤ array.length then
    some
      (array.take offset ++ source ++ array.drop (offset + source.length))
  else
    none

/-- The variables of the loop. -/
structure Scan where
  scanWindow : List UInt8
  carrySize : Nat
  markers : MarkerPresence
  deriving DecidableEq

/-- The variables before the loop. -/
def Scan.initial : Scan where
  scanWindow := List.replicate (kCarryBytes + kByteScanChunkBytes) 0
  carrySize := 0
  markers := {}

/-- What one pass does with the bytes it read, up to the early return. -/
def Scan.search (scan : Scan) (chunk : List UInt8) : Option Scan :=
  match copyTo scan.scanWindow scan.carrySize chunk with
  | none => none
  | some scanWindow =>
      let windowSize := scan.carrySize + chunk.length
      let chunkMarkers :=
        findKnownRof2Markers (scanWindow.take windowSize)
      some
        { scan with
          scanWindow
          markers :=
            { dateFound :=
                scan.markers.dateFound || chunkMarkers.dateFound
              timeFound :=
                scan.markers.timeFound || chunkMarkers.timeFound } }

/-- The end of the window is moved to its beginning. -/
def Scan.carry (scan : Scan) (windowSize : Nat) : Option Scan :=
  let carrySize := min windowSize kCarryBytes
  if carrySize ≠ 0 then
    (copyTo scan.scanWindow 0
        ((scan.scanWindow.drop (windowSize - carrySize)).take
          carrySize)).map
      fun scanWindow => { scan with scanWindow, carrySize }
  else
    some { scan with carrySize }

/--
The loop of `ScanFileForKnownRof2Markers` over what the calls of `ReadFile`
give: a failure, or some bytes.  What it returns, and the markers.
-/
def scanLoop :
    Scan → List (Option (List UInt8)) → Option (Bool × MarkerPresence)
  | _, [] => none
  | scan, none :: _ => some (false, scan.markers)
  | scan, some chunk :: later =>
      if chunk.length = 0 then
        some (true, scan.markers)
      else
        match scan.search chunk with
        | none => none
        | some searched =>
            if searched.markers.dateFound ∧
                searched.markers.timeFound then
              some (true, searched.markers)
            else
              match searched.carry (scan.carrySize + chunk.length) with
              | none => none
              | some carried => scanLoop carried later

/--
`ScanFileForKnownRof2Markers`: what it returns, and what is at `markers`, which
may be null.  Whether the file could be opened, the size that is asked for, and
what is read are given.
-/
def scanFileForKnownRof2Markers
    (path : String)
    (markers : Option MarkerPresence)
    (opened : Bool)
    (size : Option Int)
    (reads : List (Option (List UInt8))) :
    Option (Bool × Option MarkerPresence) :=
  if markers.isNone ∨ path = "" then
    some (false, markers)
  else if ¬ opened then
    some (false, some {})
  else
    match size with
    | none => some (false, some {})
    | some size =>
        if size ≤ 0 ∨ kMaxExecutableScanBytes < size then
          some (false, some {})
        else
          (scanLoop .initial reads).map fun outcome =>
            (outcome.1, some outcome.2)

/-! ## What is found -/

/-- A search finds a word exactly when it occurs. -/
theorem findText_isSome_iff {text word : List UInt8} :
    (findText text word).isSome = true ↔ word <:+: text := by
  rw [findText, List.find?_isSome, List.infix_iff_prefix_suffix]
  simp only [List.isPrefixOf_iff_prefix, List.mem_range]
  constructor
  · rintro ⟨offset, _, occurs⟩
    exact ⟨text.drop offset, occurs, List.drop_suffix ..⟩
  · rintro ⟨rest, occurs, isSuffix⟩
    obtain ⟨before, rfl⟩ := isSuffix
    refine ⟨before.length, ?_, ?_⟩
    · rw [List.length_append]
      omega
    · rw [List.drop_left]
      exact occurs

/-- Markers that were found in one text or in another. -/
def MarkerPresence.or (left right : MarkerPresence) : MarkerPresence where
  dateFound := left.dateFound || right.dateFound
  timeFound := left.timeFound || right.timeFound

/-- A word in a longer text is in one of its parts, with the carry. -/
theorem findText_append
    {word : List UInt8}
    (short : word.length ≤ kCarryBytes + 1)
    (text chunk : List UInt8) :
    ((findText text word).isSome ||
        (findText (tail kCarryBytes text ++ chunk) word).isSome) =
      (findText (text ++ chunk) word).isSome := by
  rw [Bool.eq_iff_iff, Bool.or_eq_true, findText_isSome_iff,
    findText_isSome_iff, findText_isSome_iff]
  exact (infix_append_iff short text chunk).symm

/-- The markers of a longer text are those of its parts, with the carry. -/
theorem findKnownRof2Markers_append (text chunk : List UInt8) :
    (findKnownRof2Markers text).or
        (findKnownRof2Markers (tail kCarryBytes text ++ chunk)) =
      findKnownRof2Markers (text ++ chunk) := by
  have date :
      kExpectedDateAscii.length ≤ kCarryBytes + 1 := by decide +kernel
  have time :
      kExpectedTimeAscii.length ≤ kCarryBytes + 1 := by decide +kernel
  simp only [findKnownRof2Markers, MarkerPresence.or,
    findText_append date, findText_append time]

/-- What was found stays found. -/
theorem findKnownRof2Markers_all
    {text : List UInt8}
    (all :
      (findKnownRof2Markers text).dateFound = true ∧
        (findKnownRof2Markers text).timeFound = true)
    (later : List UInt8) :
    findKnownRof2Markers (text ++ later) = findKnownRof2Markers text := by
  rw [← findKnownRof2Markers_append, MarkerPresence.or, all.1, all.2,
    Bool.true_or, Bool.true_or]
  obtain ⟨date, time⟩ := all
  cases isMarkers : findKnownRof2Markers text with
  | mk dateFound timeFound =>
      rw [isMarkers] at date time
      cases date
      cases time
      rfl

/-! ## What is carried -/

/-- The scan has seen a text: its end is carried, and its markers are found. -/
structure HasSeen (scan : Scan) (text : List UInt8) : Prop where
  windowSize :
    scan.scanWindow.length = kCarryBytes + kByteScanChunkBytes
  carried :
    scan.scanWindow.take scan.carrySize = tail kCarryBytes text
  carrySize : scan.carrySize = min text.length kCarryBytes
  markers : scan.markers = findKnownRof2Markers text

theorem hasSeen_initial : HasSeen .initial [] where
  windowSize := List.length_replicate
  carried := rfl
  carrySize := rfl
  markers := by decide +kernel

/-- What is copied inside an array is there. -/
theorem copyTo_of_fits
    {array source : List UInt8}
    {offset : Nat}
    (fits : offset + source.length ≤ array.length) :
    ∃ copied,
      copyTo array offset source = some copied ∧
        copied.length = array.length ∧
        copied.take (offset + source.length) =
          array.take offset ++ source := by
  refine ⟨_, if_pos fits, ?_, ?_⟩
  · simp only [List.length_append, List.length_take, List.length_drop]
    omega
  · have size :
        offset + source.length = (array.take offset ++ source).length := by
      rw [List.length_append, List.length_take]
      omega
    conv => lhs; rw [size]
    exact List.take_left

/-- A chunk that was read is searched together with the carry. -/
theorem HasSeen.search
    {scan : Scan}
    {text : List UInt8}
    (seen : HasSeen scan text)
    {chunk : List UInt8}
    (fits : chunk.length ≤ kByteScanChunkBytes) :
    ∃ searched,
      scan.search chunk = some searched ∧
        searched.scanWindow.length = kCarryBytes + kByteScanChunkBytes ∧
        searched.scanWindow.take (scan.carrySize + chunk.length) =
          tail kCarryBytes text ++ chunk ∧
        searched.markers = findKnownRof2Markers (text ++ chunk) := by
  have carrySize := seen.carrySize
  have windowSize := seen.windowSize
  obtain ⟨window, isWindow, length, content⟩ :=
    @copyTo_of_fits scan.scanWindow chunk scan.carrySize (by omega)
  rw [seen.carried] at content
  unfold Scan.search
  rw [isWindow]
  refine ⟨_, rfl, length.trans windowSize, content, ?_⟩
  simp only [content, seen.markers]
  exact findKnownRof2Markers_append text chunk

/-- Then the end of both is carried. -/
theorem carry_of_search
    {searched : Scan}
    {text chunk : List UInt8}
    {windowSize : Nat}
    (isWindow :
      searched.scanWindow.length = kCarryBytes + kByteScanChunkBytes)
    (content :
      searched.scanWindow.take windowSize =
        tail kCarryBytes text ++ chunk)
    (isSize : windowSize = (tail kCarryBytes text ++ chunk).length)
    (markers :
      searched.markers = findKnownRof2Markers (text ++ chunk)) :
    ∃ carried,
      searched.carry windowSize = some carried ∧
        HasSeen carried (text ++ chunk) := by
  have inside : windowSize ≤ searched.scanWindow.length := by
    have fits := congrArg List.length content
    rw [← isSize, List.length_take] at fits
    omega
  have sameSize :
      min windowSize kCarryBytes =
        min (text ++ chunk).length kCarryBytes := by
    rw [isSize, List.length_append, length_tail, List.length_append]
    omega
  generalize isCount : min windowSize kCarryBytes = carrySize
  have isTail :
      (searched.scanWindow.drop (windowSize - carrySize)).take carrySize =
        tail kCarryBytes (text ++ chunk) := by
    have width :
        (searched.scanWindow.take windowSize).length = windowSize := by
      rw [content, isSize]
    rw [← tail_tail_append, ← content, tail, width, List.drop_take]
    congr 1
    · omega
    · congr 1
      omega
  have tailLength : (tail kCarryBytes (text ++ chunk)).length = carrySize := by
    rw [length_tail, ← sameSize, isCount]
  unfold Scan.carry
  simp only [isCount, isTail]
  by_cases isEmpty : carrySize = 0
  · rw [if_neg (not_not.mpr isEmpty)]
    refine ⟨_, rfl, isWindow, ?_, ?_, markers⟩
    · rw [isEmpty] at tailLength ⊢
      rw [List.take_zero, List.eq_nil_of_length_eq_zero tailLength]
    · rw [← sameSize, isCount]
  · rw [if_pos isEmpty]
    obtain ⟨window, moved, length, front⟩ :=
      @copyTo_of_fits searched.scanWindow
        (tail kCarryBytes (text ++ chunk)) 0 (by omega)
    rw [moved]
    refine ⟨_, rfl, length.trans isWindow, ?_, ?_, markers⟩
    · rw [Nat.zero_add, tailLength, List.take_zero,
        List.nil_append] at front
      exact front
    · rw [← sameSize, isCount]

/-- The loop finds what is in all that is read. -/
theorem HasSeen.scanLoop
    {scan : Scan}
    {text : List UInt8}
    (seen : HasSeen scan text)
    {chunks : List (List UInt8)}
    (sizes :
      ∀ chunk ∈ chunks,
        1 ≤ chunk.length ∧ chunk.length ≤ kByteScanChunkBytes)
    (later : List (Option (List UInt8))) :
    Fingerprint.scanLoop scan (chunks.map some ++ some [] :: later) =
      some (true, findKnownRof2Markers (text ++ chunks.flatten)) := by
  induction chunks generalizing scan text with
  | nil =>
      rw [List.flatten_nil, List.append_nil, ← seen.markers]
      rfl
  | cons chunk rest hypothesis =>
      have size := sizes chunk List.mem_cons_self
      obtain ⟨searched, isSearched, isWindow, content, markers⟩ :=
        seen.search size.2
      have whole :
          text ++ chunk ++ rest.flatten =
            text ++ (chunk :: rest).flatten := by
        rw [List.flatten_cons, List.append_assoc]
      rw [List.map_cons, List.cons_append, Fingerprint.scanLoop,
        if_neg (by omega), isSearched]
      simp only
      by_cases all :
          searched.markers.dateFound = true ∧
            searched.markers.timeFound = true
      · rw [if_pos all, ← whole]
        rw [markers] at all ⊢
        rw [findKnownRof2Markers_all all]
      · obtain ⟨carried, isCarried, next⟩ :=
          carry_of_search isWindow content
            (by
              rw [List.length_append, length_tail, ← seen.carrySize])
            markers
        rw [if_neg all, isCarried, ← whole]
        exact
          hypothesis next fun other member =>
            sizes other (List.mem_cons_of_mem _ member)

/--
Whatever the sizes of the chunks are, the loop reports the markers of the whole
file, and never copies outside of its window.  So does the scan of a file that
is not too large; it fails for an empty one, which has no markers.
-/
theorem scan_eq_whole
    {chunks : List (List UInt8)}
    (sizes :
      ∀ chunk ∈ chunks,
        1 ≤ chunk.length ∧ chunk.length ≤ kByteScanChunkBytes) :
    (∀ later,
        scanLoop .initial (chunks.map some ++ some [] :: later) =
          some (true, findKnownRof2Markers chunks.flatten)) ∧
      ∀ path markers later,
        path ≠ "" →
          (chunks.flatten.length : Int) ≤ kMaxExecutableScanBytes →
            scanFileForKnownRof2Markers path (some markers) true
                (some chunks.flatten.length)
                (chunks.map some ++ some [] :: later) =
              some
                (decide (chunks ≠ []),
                  some (findKnownRof2Markers chunks.flatten)) := by
  have loop := hasSeen_initial.scanLoop sizes
  rw [List.nil_append] at loop
  refine ⟨loop, ?_⟩
  intro path markers later hasPath notLarge
  unfold scanFileForKnownRof2Markers
  rw [if_neg (by simpa using hasPath), if_neg (by simp)]
  simp only
  cases chunks with
  | nil =>
      rw [if_pos (.inl (by simp))]
      decide +kernel
  | cons chunk rest =>
      have size := sizes chunk List.mem_cons_self
      have positive : 0 < (chunk :: rest).flatten.length := by
        rw [List.flatten_cons, List.length_append]
        omega
      rw [if_neg (by omega), loop later]
      rfl

/-- A date that is cut in three is found, and there is no time. -/
theorem scan_eq_whole_date :
    scanLoop .initial
        [ some (ascii "built May"), some (ascii " 10 2"),
          some (ascii "013"), some [] ] =
      some (true, { dateFound := true, timeFound := false }) := by
  have found :
      findKnownRof2Markers
          [ascii "built May", ascii " 10 2", ascii "013"].flatten =
        { dateFound := true, timeFound := false } := by
    decide +kernel
  rw [← found]
  exact
    (@scan_eq_whole [ascii "built May", ascii " 10 2", ascii "013"]
      (by decide +kernel)).1 []

end MonomythClient.Fingerprint
