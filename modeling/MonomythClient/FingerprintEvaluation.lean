import MonomythClient.Fingerprint
import MonomythClient.Gates
import MonomythClient.SpellUsabilityDiscovery

namespace MonomythClient.Fingerprint

open Gates
open SpellUsabilityDiscovery (FileReads)

/-!
# The evaluation of the fingerprint

The name of the process and two markers decide whether hooks are allowed.  The
markers are looked for in the version resource of the executable, and when they
are not both there, in its bytes.  A read that fails does not matter once both
markers were seen.
-/

/-! ## Wide text -/

/-- A text of the source, in wide characters. -/
def wide (text : String) : List UInt16 :=
  text.toList.map fun letter => UInt16.ofNat letter.toNat

/-- A path, as it is handed on. -/
def pathText (path : List UInt16) : String :=
  String.ofList (path.map fun unit => Char.ofNat unit.toNat)

def kExpectedProcessName : List UInt16 := wide "eqgame.exe"
def kExpectedDate : List UInt16 := wide "May 10 2013"
def kExpectedTime : List UInt16 := wide "23:30:08"

/-- `Basename`: what is behind the last slash or backslash. -/
def basename (path : List UInt16) : List UInt16 :=
  (path.reverse.takeWhile fun unit => unit != 0x5c && unit != 0x2f).reverse

/-! ## The version resource -/

/--
What the system reads from the version resource of a file: its translations,
and the value at a query, with the terminator that is counted.
-/
structure VersionInfo where
  translations : List (UInt16 × UInt16)
  value : List UInt16 → Option (List UInt16)

/-- `kKeys` -/
def kKeys : List String :=
  [ "Comments", "FileDescription", "FileVersion", "InternalName",
    "OriginalFilename", "ProductName", "ProductVersion" ]

/-- `%04x` -/
def hex4 (word : UInt16) : List UInt16 :=
  wide (String.ofList ((Nat.toDigits 16 word.toNat).leftpad 4 '0'))

/-- The query for a key in a translation. -/
def versionQuery (translation : UInt16 × UInt16) (key : String) :
    List UInt16 :=
  wide "\\StringFileInfo\\" ++ hex4 translation.1 ++ hex4 translation.2 ++
    wide "\\" ++ wide key

/-- `ReadVersionStrings`: what is put into `strings`. -/
def readVersionStrings (info : Option VersionInfo) : List (List UInt16) :=
  match info with
  | none => []
  | some info =>
      info.translations.flatMap fun translation =>
        kKeys.filterMap fun key =>
          match info.value (versionQuery translation key) with
          | none => none
          | some value =>
              if 1 < value.length then
                some (value.take (value.length - 1))
              else
                none

section Evaluation

variable (towlower : UInt16 → UInt16)

/-- `ToLower` -/
def toLower (value : List UInt16) : List UInt16 :=
  value.map towlower

/-- `ContainsValue` -/
def containsValue
    (strings : List (List UInt16))
    (needle : List UInt16) : Bool :=
  let needleLower := toLower towlower needle
  strings.any fun value =>
    (toLower towlower value).tails.any needleLower.isPrefixOf

/-! ## The evaluation -/

inductive Method where
  | unavailable
  | versionResource
  | byteScan
  deriving Repr, DecidableEq

structure Result where
  hooksAllowed : Bool := false
  processNameMatch : Bool := false
  matched : Bool := false
  versionStringsMatch : Bool := false
  versionStringsChecked : Bool := false
  byteScanMatch : Bool := false
  byteScanChecked : Bool := false
  method : Method := .unavailable
  reason : String := ""
  deriving Repr, DecidableEq

/-- `ByteScanFailureReason` -/
def byteScanFailureReason
    (versionStringsChecked : Bool)
    (markers : MarkerPresence) : String :=
  (if versionStringsChecked then
      "version resources inconclusive; byte scan failed"
    else
      "version resources unavailable; byte scan failed") ++
    " date_found=" ++ (if markers.dateFound then "true" else "false") ++
    " time_found=" ++ (if markers.timeFound then "true" else "false")

/-- The executable of the process; a path that is not to be had is empty. -/
structure Executable where
  path : List UInt16
  versionInfo : Option VersionInfo
  size : Option Int
  file : FileReads

/-- `Evaluate` -/
def evaluate (executable : Executable) : Result :=
  if executable.path = [] then
    { reason := "process path unavailable" }
  else if
      toLower towlower (basename executable.path) ≠ kExpectedProcessName then
    { reason := "process name mismatch" }
  else
    let versionStrings := readVersionStrings executable.versionInfo
    let versionStringsChecked := !versionStrings.isEmpty
    let versionStringsMatch :=
      versionStringsChecked &&
        (containsValue towlower versionStrings kExpectedDate &&
          containsValue towlower versionStrings kExpectedTime)
    let result : Result :=
      { processNameMatch := true
        versionStringsChecked
        versionStringsMatch }
    if versionStringsMatch then
      { result with
        matched := true
        method := .versionResource
        hooksAllowed := true
        reason := "version resources matched both ROF2 markers" }
    else
      match
        scanFileForKnownRof2Markers (pathText executable.path) (some {})
          executable.file.opened executable.size executable.file.reads with
      | some (true, some markers) =>
          let result :=
            { result with
              byteScanChecked := true
              byteScanMatch := markers.dateFound && markers.timeFound }
          if markers.dateFound && markers.timeFound then
            { result with
              matched := true
              method := .byteScan
              hooksAllowed := true
              reason :=
                if versionStringsChecked then
                  "version resources inconclusive; byte scan matched both ROF2 markers"
                else
                  "version resources unavailable; byte scan matched both ROF2 markers" }
          else
            { result with
              reason := byteScanFailureReason versionStringsChecked markers }
      | _ =>
          { result with
            reason :=
              if versionStringsChecked then
                "version resources inconclusive; byte scan unreadable"
              else
                "version resources unavailable; byte scan unreadable" }

/-! ## What is scanned -/

/-- Both markers are present. -/
def MarkerPresence.both (markers : MarkerPresence) : Bool :=
  markers.dateFound && markers.timeFound

/-- The scan of a file whose last read fails sees what is before it. -/
theorem HasSeen.scanLoop_fails
    {scan : Scan}
    {text : List UInt8}
    (seen : HasSeen scan text)
    (isMissing : (findKnownRof2Markers text).both = false)
    {chunks : List (List UInt8)}
    (sizes :
      ∀ chunk ∈ chunks,
        1 ≤ chunk.length ∧ chunk.length ≤ kByteScanChunkBytes) :
    Fingerprint.scanLoop scan (chunks.map some ++ [none]) =
      some
        ((findKnownRof2Markers (text ++ chunks.flatten)).both,
          findKnownRof2Markers (text ++ chunks.flatten)) := by
  induction chunks generalizing scan text with
  | nil =>
      rw [List.flatten_nil, List.append_nil, isMissing, ← seen.markers]
      rfl
  | cons chunk rest hypothesis =>
      have size := sizes chunk List.mem_cons_self
      obtain ⟨searched, isSearched, isWindow, content, markers⟩ :=
        seen.search size.2
      have whole :
          text ++ chunk ++ rest.flatten =
            text ++ (chunk :: rest).flatten := by
        rw [List.flatten_cons, List.append_assoc]
      rw [List.map_cons, List.cons_append, Fingerprint.scanLoop,
        if_neg (by omega), isSearched]
      simp only
      by_cases all :
          searched.markers.dateFound = true ∧
            searched.markers.timeFound = true
      · rw [if_pos all, ← whole]
        rw [markers] at all ⊢
        rw [findKnownRof2Markers_all all, MarkerPresence.both, all.1, all.2]
        rfl
      · obtain ⟨carried, isCarried, next⟩ :=
          carry_of_search isWindow content
            (by
              rw [List.length_append, CarriedScans.length_tail,
                ← seen.carrySize])
            markers
        rw [if_neg all, isCarried, ← whole]
        refine hypothesis next ?_ fun other member =>
          sizes other (List.mem_cons_of_mem _ member)
        rw [← markers, MarkerPresence.both, ← Bool.not_eq_true,
          Bool.and_eq_true]
        exact all

/-- The markers of all of a file. -/
def Executable.markers (executable : Executable) : MarkerPresence :=
  findKnownRof2Markers executable.file.chunks.flatten

/-- The file is scanned: it is not too large, and it can be read. -/
def Executable.isScanned (executable : Executable) : Bool :=
  executable.file.opened &&
    (executable.size.any fun size =>
      decide (0 < size) && decide (size ≤ kMaxExecutableScanBytes)) &&
    (!executable.file.fails || executable.markers.both)

theorem pathText_ne_empty
    {path : List UInt16}
    (hasPath : path ≠ []) :
    pathText path ≠ "" := by
  intro isEmpty
  apply hasPath
  have noLetters := congrArg String.toList isEmpty
  rw [pathText, String.toList_ofList] at noLetters
  exact List.map_eq_nil_iff.mp noLetters

/-- The scan finds the markers of the file, if it is scanned. -/
theorem scanFileForKnownRof2Markers_reads
    {executable : Executable}
    (hasPath : executable.path ≠ []) :
    ∃ seen,
      scanFileForKnownRof2Markers (pathText executable.path) (some {})
          executable.file.opened executable.size executable.file.reads =
        some (executable.isScanned, some seen) ∧
        (executable.isScanned = true → seen = executable.markers) := by
  have sizes :
      ∀ chunk ∈ executable.file.chunks,
        1 ≤ chunk.length ∧ chunk.length ≤ kByteScanChunkBytes :=
    executable.file.sizes
  unfold scanFileForKnownRof2Markers Executable.isScanned
  rw [if_neg (by simpa using pathText_ne_empty hasPath)]
  by_cases opens : executable.file.opened = true
  · rw [if_neg (not_not.mpr opens), opens, Bool.true_and]
    cases executable.size with
    | none =>
        exact ⟨{}, rfl, fun impossible => by cases impossible⟩
    | some size =>
        simp only [Option.any_some]
        by_cases isLarge : size ≤ 0 ∨ kMaxExecutableScanBytes < size
        · have isRefused :
              (decide (0 < size) &&
                  decide (size ≤ kMaxExecutableScanBytes)) =
                false := by
            rw [← Bool.not_eq_true, Bool.and_eq_true, decide_eq_true_eq,
              decide_eq_true_eq]
            omega
          rw [if_pos isLarge, isRefused, Bool.false_and]
          exact ⟨{}, rfl, fun impossible => by cases impossible⟩
        · have isSize :
              (decide (0 < size) &&
                  decide (size ≤ kMaxExecutableScanBytes)) =
                true := by
            rw [Bool.and_eq_true, decide_eq_true_eq, decide_eq_true_eq]
            omega
          rw [if_neg isLarge, isSize, Bool.true_and]
          unfold FileReads.reads Executable.markers
          cases executable.file.fails with
          | false =>
              have loop := hasSeen_initial.scanLoop sizes []
              rw [List.nil_append] at loop
              rw [if_neg Bool.false_ne_true, loop]
              exact ⟨_, rfl, fun _ => rfl⟩
          | true =>
              have isMissing : (findKnownRof2Markers []).both = false := by
                decide +kernel
              have loop := hasSeen_initial.scanLoop_fails isMissing sizes
              rw [List.nil_append] at loop
              rw [if_pos rfl, loop]
              exact ⟨_, rfl, fun _ => rfl⟩
  · rw [if_pos opens, (Bool.not_eq_true _).mp opens, Bool.false_and,
      Bool.false_and]
    exact ⟨{}, rfl, fun impossible => by cases impossible⟩

/-! ## Evidence -/

/-- The version resource has both markers. -/
def Executable.versionMatches (executable : Executable) : Bool :=
  let versionStrings := readVersionStrings executable.versionInfo
  containsValue towlower versionStrings kExpectedDate &&
    containsValue towlower versionStrings kExpectedTime

/-- What the executable has to be. -/
def rof2Gates (executable : Executable) : List (Gate String) :=
  let versionStringsChecked :=
    !(readVersionStrings executable.versionInfo).isEmpty
  [ ⟨decide (executable.path ≠ []), "process path unavailable"⟩,
    ⟨decide
        (toLower towlower (basename executable.path) = kExpectedProcessName),
      "process name mismatch"⟩ ] ++
    (if executable.versionMatches towlower then
      []
    else
      [ ⟨executable.isScanned,
          if versionStringsChecked then
            "version resources inconclusive; byte scan unreadable"
          else
            "version resources unavailable; byte scan unreadable"⟩,
        ⟨executable.markers.both,
          byteScanFailureReason versionStringsChecked executable.markers⟩ ])

/-- A result as a verdict; what is safe is to place hooks. -/
def Result.verdict (result : Result) : Verdict String where
  accepted := result.matched && result.processNameMatch
  safe := result.hooksAllowed
  reason := result.reason

/-- Without version strings none of them has a marker. -/
theorem versionMatches_eq (executable : Executable) :
    (!(readVersionStrings executable.versionInfo).isEmpty &&
        (containsValue towlower (readVersionStrings executable.versionInfo)
            kExpectedDate &&
          containsValue towlower
            (readVersionStrings executable.versionInfo) kExpectedTime)) =
      executable.versionMatches towlower := by
  unfold Executable.versionMatches
  cases readVersionStrings executable.versionInfo with
  | nil =>
      rfl
  | cons first rest =>
      rfl

/-- The evaluation refuses for the first gate that fails. -/
theorem evaluate_decided (executable : Executable) :
    (evaluate towlower executable).verdict.Decided
      (rof2Gates towlower executable) := by
  unfold evaluate rof2Gates
  by_cases hasPath : executable.path = []
  · rw [if_pos hasPath, decide_eq_false (not_not.mpr hasPath)]
    exact .failed rfl rfl rfl
  · rw [if_neg hasPath, decide_eq_true hasPath]
    refine .gate rfl ?_
    by_cases isNamed :
        toLower towlower (basename executable.path) = kExpectedProcessName
    · rw [if_neg (not_not.mpr isNamed), decide_eq_true isNamed]
      refine .gate rfl ?_
      dsimp only
      rw [versionMatches_eq]
      cases executable.versionMatches towlower with
      | true =>
          exact .passed rfl rfl
      | false =>
          obtain ⟨seen, isSeen, sameMarkers⟩ :=
            scanFileForKnownRof2Markers_reads hasPath
          rw [isSeen]
          cases isScanned : executable.isScanned with
          | false =>
              exact .failed rfl rfl rfl
          | true =>
              rw [sameMarkers isScanned]
              refine .gate rfl ?_
              simp only [Bool.false_eq_true, if_false]
              cases isBoth : executable.markers.both with
              | false =>
                  rw [if_neg (by
                    unfold MarkerPresence.both at isBoth
                    rw [isBoth]
                    exact Bool.false_ne_true)]
                  unfold MarkerPresence.both at isBoth
                  exact .failed rfl rfl rfl
              | true =>
                  unfold MarkerPresence.both at isBoth
                  rw [if_pos isBoth]
                  exact .gate rfl (.passed rfl rfl)
    · rw [if_pos isNamed, decide_eq_false isNamed]
      exact .failed rfl rfl rfl

end Evaluation

end MonomythClient.Fingerprint
