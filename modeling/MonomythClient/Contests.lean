import Mathlib.Data.Finset.Card
import Mathlib.Data.Finset.Dedup
import MonomythClient.KeyedList
import MonomythClient.Runs

namespace Contests

open KeyedList Runs

/-!
# Contests by line

Entries come one after another, and each belongs to a line.  The first entry of
a line takes a place, if there is one left; a later one takes over the place of
its line if it is better than the entry there.

The rules here say what is kept in the end: at most one entry of each line, and
with places for all lines the champion of each.  A champion has nothing better
in its line as soon as being better is transitive; whether it depends on the
order is another matter.
-/

variable {Entry Line : Type}

section Champions

variable (better : Entry → Entry → Bool)

/-- The one of two that stays. -/
def challenge (held entrant : Entry) : Entry :=
  if better entrant held then
    entrant
  else
    held

/-- What is left when each entry challenges the ones before it. -/
def champion : List Entry → Option Entry
  | [] => none
  | first :: later => some (later.foldl (challenge better) first)

variable {better}

theorem champion_append_singleton
    (earlier : List Entry)
    (entrant : Entry) :
    champion better (earlier ++ [entrant]) =
      some
        ((champion better earlier).elim entrant
          (challenge better · entrant)) := by
  cases earlier with
  | nil =>
      rfl
  | cons first later =>
      rw [List.cons_append, champion, champion, List.foldl_append]
      rfl

variable (better) in
/-- Whatever stays is one of the two. -/
theorem challenge_eq_or (held entrant : Entry) :
    challenge better held entrant = held ∨
      challenge better held entrant = entrant := by
  rw [challenge]
  split
  · exact .inr rfl
  · exact .inl rfl

variable (better) in
/-- There is a champion as soon as there is an entry. -/
theorem champion_isSome_iff {entries : List Entry} :
    (champion better entries).isSome = true ↔ entries ≠ [] := by
  cases entries with
  | nil =>
      simp [champion]
  | cons first later =>
      simp [champion]

/-- A champion is one of the entries. -/
theorem champion_mem
    {entries : List Entry}
    {winner : Entry}
    (isChampion : champion better entries = some winner) :
    winner ∈ entries := by
  induction entries using List.reverseRecOn generalizing winner with
  | nil =>
      cases isChampion
  | append_singleton earlier entrant inductionHypothesis =>
      rw [champion_append_singleton] at isChampion
      obtain rfl := Option.some.inj isChampion
      cases before : champion better earlier with
      | none =>
          exact List.mem_append_right _ (List.mem_singleton.mpr rfl)
      | some held =>
          rcases challenge_eq_or better held entrant with
            stays | taken
          · rw [Option.elim_some, stays]
            exact List.mem_append_left _ (inductionHypothesis before)
          · rw [Option.elim_some, taken]
            exact List.mem_append_right _ (List.mem_singleton.mpr rfl)

/-- No entry is better than the champion. -/
theorem champion_maximal
    (irreflexive : ∀ entry, better entry entry = false)
    (transitive :
      ∀ first second third,
        better first second = true → better second third = true →
          better first third = true)
    {entries : List Entry}
    {winner : Entry}
    (isChampion : champion better entries = some winner) :
    ∀ entry ∈ entries, better entry winner = false := by
  induction entries using List.reverseRecOn generalizing winner with
  | nil =>
      cases isChampion
  | append_singleton earlier entrant inductionHypothesis =>
      rw [champion_append_singleton] at isChampion
      obtain rfl := Option.some.inj isChampion
      intro entry member
      cases before : champion better earlier with
      | none =>
          rcases List.mem_append.mp member with isEarlier | isEntrant
          · have noEntries : earlier ≠ [] := List.ne_nil_of_mem isEarlier
            rw [← champion_isSome_iff better, before] at noEntries
            cases noEntries
          · obtain rfl := List.mem_singleton.mp isEntrant
            exact irreflexive entry
      | some held =>
          rw [Option.elim_some, challenge]
          split
          next takesOver =>
            rcases List.mem_append.mp member with isEarlier | isEntrant
            · refine Bool.eq_false_iff.mpr fun isBetter => ?_
              have aboveHeld := transitive entry entrant held isBetter takesOver
              rw [inductionHypothesis before entry isEarlier] at aboveHeld
              cases aboveHeld
            · obtain rfl := List.mem_singleton.mp isEntrant
              exact irreflexive entry
          next stays =>
            rcases List.mem_append.mp member with isEarlier | isEntrant
            · exact inductionHypothesis before entry isEarlier
            · obtain rfl := List.mem_singleton.mp isEntrant
              exact Bool.eq_false_iff.mpr stays

/-- The champion is better than all entries before it. -/
theorem champion_first
    (irreflexive : ∀ entry, better entry entry = false)
    (transitive :
      ∀ first second third,
        better first second = true → better second third = true →
          better first third = true)
    (comparable :
      ∀ first second third,
        better first third = true →
          better first second = true ∨ better second third = true)
    {entries : List Entry}
    {winner : Entry}
    (isChampion : champion better entries = some winner) :
    ∃ before after,
      entries = before ++ winner :: after ∧
        ∀ entry ∈ before, better winner entry = true := by
  induction entries using List.reverseRecOn generalizing winner with
  | nil =>
      cases isChampion
  | append_singleton earlier entrant inductionHypothesis =>
      rw [champion_append_singleton] at isChampion
      obtain rfl := Option.some.inj isChampion
      cases heldBefore : champion better earlier with
      | none =>
          have noEntries : earlier = [] := by
            by_contra entries
            rw [← Ne, ← champion_isSome_iff better, heldBefore] at entries
            cases entries
          subst noEntries
          exact ⟨[], [], rfl, fun _ member => absurd member List.not_mem_nil⟩
      | some held =>
          rw [Option.elim_some, challenge]
          split
          next takesOver =>
            refine ⟨earlier, [], rfl, fun entry member => ?_⟩
            have notAbove :=
              champion_maximal irreflexive transitive heldBefore entry member
            refine (comparable entrant entry held takesOver).resolve_right ?_
            rw [notAbove]
            exact Bool.false_ne_true
          next =>
            obtain ⟨before, after, shape, aboveBefore⟩ :=
              inductionHypothesis heldBefore
            refine ⟨before, after ++ [entrant], ?_, aboveBefore⟩
            rw [shape, List.append_assoc, List.cons_append]

/-- An entry better than all before it brings the champion among its like, if
nothing else afterwards is better than one of them. -/
theorem champion_among
    {like : Entry → Prop}
    {before after : List Entry}
    {entry : Entry}
    (aboveBefore : ∀ other ∈ before, better entry other = true)
    (isLike : like entry)
    (onlyLike :
      ∀ held, like held →
        ∀ other ∈ after, better other held = true → like other)
    {winner : Entry}
    (isChampion :
      champion better (before ++ entry :: after) = some winner) :
    like winner := by
  have likeAfter :
      ∀ later : List Entry, (∀ other ∈ later, other ∈ after) →
        ∀ held, like held → like (later.foldl (challenge better) held) := by
    intro later
    induction later with
    | nil =>
        intro _ held heldLike
        exact heldLike
    | cons other rest inductionHypothesis =>
        intro inside held heldLike
        refine
          inductionHypothesis (fun another member =>
            inside another (List.mem_cons_of_mem other member)) _ ?_
        rw [challenge]
        split
        next takesOver =>
          exact onlyLike held heldLike other
            (inside other List.mem_cons_self) takesOver
        next =>
          exact heldLike
  have likeFromEntry := likeAfter after (fun _ member => member) entry isLike
  cases before with
  | nil =>
      obtain rfl := Option.some.inj isChampion
      exact likeFromEntry
  | cons first others =>
      rw [List.cons_append, champion, List.foldl_append,
        List.foldl_cons] at isChampion
      obtain rfl := Option.some.inj isChampion
      have heldBefore :
          others.foldl (challenge better) first ∈ first :: others :=
        champion_mem rfl
      rw [challenge, if_pos (aboveBefore _ heldBefore)]
      exact likeFromEntry

end Champions

/-! ## Places -/

section Places

variable
  [DecidableEq Line]
  (capacity : Nat)
  (line : Entry → Line)
  (better : Entry → Entry → Bool)

/-- An entry challenges the one of its line, or takes a place that is left. -/
def enter (kept : List Entry) (entrant : Entry) : List Entry :=
  match lookup line (line entrant) kept with
  | some held => put line (challenge better held entrant) kept
  | none =>
      if kept.length < capacity then
        put line entrant kept
      else
        kept

/-- What is kept of some entries, in the order of their lines. -/
def contest (entries : List Entry) : List Entry :=
  run (enter capacity line better) [] entries

variable {capacity line better}

omit [DecidableEq Line] in
/-- An entry that challenges keeps to its line. -/
theorem line_challenge
    {held entrant : Entry}
    (sameLine : line held = line entrant) :
    line (challenge better held entrant) = line entrant := by
  rcases challenge_eq_or better held entrant with stays | taken
  · rw [stays]
    exact sameLine
  · rw [taken]

/-- No line has two places. -/
theorem unique_enter
    {kept : List Entry}
    (unique : Unique line kept)
    (entrant : Entry) :
    Unique line (enter capacity line better kept entrant) := by
  rw [enter]
  split
  · exact unique_put unique _
  · split
    · exact unique_put unique _
    · exact unique

theorem unique_contest (entries : List Entry) :
    Unique line (contest capacity line better entries) := by
  have staysUnique :
      ∀ (kept : List Entry) entrant, Unique line kept →
        Unique line (enter capacity line better kept entrant) :=
    fun _ entrant unique => unique_enter unique entrant
  exact invariant staysUnique unique_nil entries

/-- Whatever is kept was one of the entries. -/
theorem mem_contest
    {entries : List Entry}
    {entry : Entry}
    (member : entry ∈ contest capacity line better entries) :
    entry ∈ entries := by
  induction entries using List.reverseRecOn generalizing entry with
  | nil =>
      cases member
  | append_singleton earlier entrant inductionHypothesis =>
      rw [contest, run_append, run_cons, run_nil, enter] at member
      have isEntrant : entrant ∈ earlier ++ [entrant] :=
        List.mem_append_right _ (List.mem_singleton.mpr rfl)
      split at member
      next held found =>
        rcases mem_put member with isWinner | wasKept
        · rcases challenge_eq_or better held entrant with
            stays | taken
          · rw [isWinner, stays]
            exact List.mem_append_left _
              (inductionHypothesis (mem_of_lookup found).1)
          · rw [isWinner, taken]
            exact isEntrant
        · exact List.mem_append_left _ (inductionHypothesis wasKept)
      next =>
        split at member
        · rcases mem_put member with rfl | wasKept
          · exact isEntrant
          · exact List.mem_append_left _ (inductionHypothesis wasKept)
        · exact List.mem_append_left _ (inductionHypothesis member)

/-- Each line has as many places as it has entries, or fewer. -/
theorem length_contest_le (entries : List Entry) :
    (contest capacity line better entries).length ≤
      (entries.map line).toFinset.card := by
  have ownLines :
      ((contest capacity line better entries).map line).toFinset ⊆
        (entries.map line).toFinset := by
    intro keptLine member
    obtain ⟨entry, isKept, rfl⟩ :=
      List.mem_map.mp (List.mem_toFinset.mp member)
    exact List.mem_toFinset.mpr
      (List.mem_map_of_mem (mem_contest isKept))
  calc
    (contest capacity line better entries).length =
        ((contest capacity line better entries).map line).toFinset.card := by
      rw [List.toFinset_card_of_nodup (unique_contest entries),
        List.length_map]
    _ ≤ (entries.map line).toFinset.card := Finset.card_le_card ownLines

/-- No more is kept than there are places. -/
theorem length_contest_le_capacity (entries : List Entry) :
    (contest capacity line better entries).length ≤ capacity := by
  have staysInside :
      ∀ (kept : List Entry) entrant, kept.length ≤ capacity →
        (enter capacity line better kept entrant).length ≤ capacity := by
    intro kept entrant inside
    rw [enter]
    split
    next held found =>
      obtain ⟨isKept, sameLine⟩ := mem_of_lookup found
      have present :
          line (challenge better held entrant) ∈ kept.map line := by
        rw [line_challenge sameLine, ← sameLine]
        exact List.mem_map_of_mem isKept
      have sameLines :
          (put line (challenge better held entrant) kept).map line =
            kept.map line := by
        rw [map_put, if_pos present]
      have sameLength := congrArg List.length sameLines
      rw [List.length_map, List.length_map] at sameLength
      rw [sameLength]
      exact inside
    next absent =>
      split
      next isRoom =>
        have notPresent : line entrant ∉ kept.map line := by
          intro present
          obtain ⟨held, isKept, sameLine⟩ := List.mem_map.mp present
          exact List.find?_eq_none.mp absent held isKept (by simp [sameLine])
        rw [put_of_absent notPresent, List.length_append]
        exact isRoom
      next =>
        exact inside
  have nothingYet : ([] : List Entry).length ≤ capacity :=
    Nat.zero_le capacity
  exact invariant staysInside nothingYet entries

/-- An entrant's line is left to its new champion, and the others to those they
had. -/
theorem lookup_put_champion
    {earlier kept : List Entry}
    {entrant winner : Entry}
    (before :
      ∀ wanted,
        lookup line wanted kept =
          champion better (earlier.filter fun entry => line entry = wanted))
    (sameLine : line winner = line entrant)
    (wins :
      (champion better
          (earlier.filter fun entry => line entry = line entrant)).elim entrant
            (challenge better · entrant) =
        winner)
    (wanted : Line) :
    lookup line wanted (put line winner kept) =
      champion better
        ((earlier ++ [entrant]).filter fun entry => line entry = wanted) := by
  rw [List.filter_append]
  by_cases isWanted : line entrant = wanted
  · subst isWanted
    rw [← sameLine, lookup_put_self, sameLine,
      List.filter_cons_of_pos (by simp), List.filter_nil,
      champion_append_singleton, wins]
  · rw [lookup_put_other (by rw [sameLine]; exact Ne.symm isWanted),
      List.filter_cons_of_neg (by simpa using isWanted), List.filter_nil,
      List.append_nil, before]

/-- With places for all lines, one is left for an entrant of a new line. -/
theorem room_of_places
    {earlier : List Entry}
    {entrant : Entry}
    (places :
      ((earlier ++ [entrant]).map line).toFinset.card ≤ capacity)
    (isNew : line entrant ∉ earlier.map line) :
    (contest capacity line better earlier).length < capacity := by
  have oneMore : (earlier.map line).toFinset.card + 1 ≤ capacity := by
    rw [List.map_append, List.map_singleton, List.toFinset_append,
      List.toFinset_cons, List.toFinset_nil, Finset.union_comm,
      Finset.insert_union, Finset.empty_union,
      Finset.card_insert_of_notMem (fun member =>
        isNew (List.mem_toFinset.mp member))] at places
    exact places
  exact Nat.lt_of_le_of_lt (length_contest_le earlier) oneMore

/-- With places for all lines, each is left to its champion. -/
theorem lookup_contest
    {entries : List Entry}
    (places : (entries.map line).toFinset.card ≤ capacity)
    (wanted : Line) :
    lookup line wanted (contest capacity line better entries) =
      champion better (entries.filter fun entry => line entry = wanted) := by
  induction entries using List.reverseRecOn generalizing wanted with
  | nil =>
      rfl
  | append_singleton earlier entrant inductionHypothesis =>
      have earlierPlaces :
          (earlier.map line).toFinset.card ≤ capacity := by
        refine (Finset.card_le_card ?_).trans places
        rw [List.map_append, List.toFinset_append]
        exact Finset.subset_union_left
      have before := inductionHypothesis earlierPlaces
      have entered :
          contest capacity line better (earlier ++ [entrant]) =
            enter capacity line better
              (contest capacity line better earlier) entrant := by
        rw [contest, run_append]
        rfl
      rw [entered, enter]
      cases found :
          lookup line (line entrant)
            (contest capacity line better earlier) with
      | some held =>
          refine
            lookup_put_champion before
              (line_challenge (mem_of_lookup found).2) ?_ wanted
          rw [← before, found]
          rfl
      | none =>
          have noneBefore :
              champion better
                  (earlier.filter fun entry => line entry = line entrant) =
                none :=
            (before (line entrant)).symm.trans found
          have isNew : line entrant ∉ earlier.map line := by
            intro member
            obtain ⟨entry, isEarlier, sameLine⟩ := List.mem_map.mp member
            have someBefore :
                (champion better
                  (earlier.filter fun entry =>
                    line entry = line entrant)).isSome = true :=
              (champion_isSome_iff better).mpr
                (List.ne_nil_of_mem
                  (List.mem_filter.mpr ⟨isEarlier, by simp [sameLine]⟩))
            rw [noneBefore] at someBefore
            cases someBefore
          dsimp only
          rw [if_pos (room_of_places places isNew)]
          refine lookup_put_champion before rfl ?_ wanted
          rw [noneBefore]
          rfl

/-- With places for all lines, an entry is kept when it is the champion of its
line. -/
theorem mem_contest_iff
    {entries : List Entry}
    (places : (entries.map line).toFinset.card ≤ capacity)
    {entry : Entry} :
    entry ∈ contest capacity line better entries ↔
      champion better
          (entries.filter fun other => line other = line entry) =
        some entry := by
  rw [← lookup_contest places]
  exact ⟨lookup_of_mem (unique_contest entries), fun found =>
    (mem_of_lookup found).1⟩

end Places

end Contests
