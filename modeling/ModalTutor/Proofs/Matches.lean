import Mathlib.Data.Set.Basic
import Mathlib.Order.Bounds.Defs
import ModalTutor.Editor.Search
import ModalTutor.Proofs.CursorRange

/-!
# Matches and the nearest of them

`Buffer.MatchesAt` says what a match is without going through the text, and
`Buffer.mem_occurrences` that a search finds just the matches, in document
order.  Of places in document order, `nearestMatch` is the index of the one
that `Direction.Lands` describes.
-/

namespace ModalTutor

namespace Position

theorem le_refl (position : Position) : position ≤ position :=
  .inr ⟨rfl, Nat.le_refl _⟩

theorem le_of_lt {left right : Position} (before : left < right) :
    left ≤ right := by
  rw [lt_def] at before
  rw [le_def]
  omega

end Position

/-- From the position on, the clusters of the line equal those of the term,
each taken in lower case. -/
def Buffer.MatchesAt (buffer : Buffer) (term : Text) (position : Position) :
    Prop :=
  ∃ line before found after,
    buffer.line? position.row = some line ∧
      clusters line = before ++ found ++ after ∧
      before.length = position.column ∧
      found.map Unicode.lowercase = (clusters term).map Unicode.lowercase

/-- The nearest place in a direction or, if there is none, the place at the
far end of the text. -/
def Direction.Lands (places : Set Position) (cursor landing : Position) :
    Direction → Prop
  | forward =>
      IsLeast {place ∈ places | cursor < place} landing ∨
        {place ∈ places | cursor < place} = ∅ ∧ IsLeast places landing
  | backward =>
      IsGreatest {place ∈ places | place < cursor} landing ∨
        {place ∈ places | place < cursor} = ∅ ∧ IsGreatest places landing

section Occurrences

variable {α : Type} [DecidableEq α] {needle list : List α} {offset index : Nat}

theorem mem_occurrences :
    index ∈ occurrences needle list offset ↔
      ∃ skipped < list.length, index = offset + skipped ∧
        needle <+: list.drop skipped := by
  induction list generalizing offset with
  | nil => simp [occurrences]
  | cons head rest ih =>
      have here : index ∈ occurrences needle (head :: rest) offset ↔
          (index = offset ∧ needle <+: head :: rest) ∨
            index ∈ occurrences needle rest (offset + 1) := by
        rw [occurrences, ← List.isPrefixOf_iff_prefix]
        split <;> simp [*]
      rw [here, ih]
      constructor
      · rintro (⟨rfl, found⟩ | ⟨skipped, inRange, rfl, found⟩)
        · exact ⟨0, Nat.succ_pos _, rfl, found⟩
        · exact ⟨skipped + 1, Nat.succ_lt_succ inRange, by omega, found⟩
      · rintro ⟨skipped, inRange, rfl, found⟩
        cases skipped with
        | zero => exact .inl ⟨rfl, found⟩
        | succ skipped =>
            exact .inr ⟨skipped, Nat.lt_of_succ_lt_succ inRange, by omega,
              found⟩

theorem occurrences_ascending :
    (occurrences needle list offset).Pairwise (· < ·) := by
  induction list generalizing offset with
  | nil => exact .nil
  | cons head rest ih =>
      rw [occurrences]
      split
      · refine .cons ?_ ih
        intro later member
        obtain ⟨skipped, _, rfl, _⟩ := mem_occurrences.mp member
        omega
      · exact ih

end Occurrences

/-- What equals a term in lower case takes up some clusters. -/
theorem length_pos_of_folded {term : Text} (nonempty : term ≠ [])
    {found : List Cluster}
    (folded : found.map Unicode.lowercase =
      (clusters term).map Unicode.lowercase) : 0 < found.length := by
  have lengths := congrArg List.length folded
  simp only [List.length_map] at lengths
  rw [lengths, List.length_pos_iff]
  simpa

theorem matchColumns_eq {term : Text} (nonempty : term ≠ []) (line : Text) :
    matchColumns term line =
      occurrences (foldedClusters term) (foldedClusters line) 0 := by
  have some : foldedClusters term ≠ [] := by simpa [foldedClusters]
  unfold matchColumns
  split
  · next none => exact absurd none some
  · rfl

theorem mem_matchColumns {term : Text} (nonempty : term ≠ []) {line : Text}
    {column : Nat} :
    column ∈ matchColumns term line ↔
      ∃ before found after, clusters line = before ++ found ++ after ∧
        before.length = column ∧
        found.map Unicode.lowercase =
          (clusters term).map Unicode.lowercase := by
  rw [matchColumns_eq nonempty, mem_occurrences]
  simp only [foldedClusters, Nat.zero_add, List.length_map, ← List.map_drop]
  constructor
  · rintro ⟨skipped, inRange, rfl, after, split⟩
    obtain ⟨found, rest, dropped, folded, _⟩ :=
      List.map_eq_append_iff.mp split.symm
    refine ⟨(clusters line).take column, found, rest, ?_, ?_, folded⟩
    · rw [List.append_assoc, ← dropped, List.take_append_drop]
    · rw [List.length_take, Nat.min_eq_left (Nat.le_of_lt inRange)]
  · rintro ⟨before, found, after, split, rfl, folded⟩
    refine ⟨before.length, ?_, rfl, ?_⟩
    · have found_pos := length_pos_of_folded nonempty folded
      simp only [split, List.length_append]
      omega
    · rw [split, List.append_assoc, List.drop_left, List.map_append, folded]
      exact List.prefix_append _ _

theorem mem_matchesFrom {term : Text} {lines : List Text} {row : Nat}
    {position : Position} :
    position ∈ matchesFrom term lines row ↔
      ∃ below line, position.row = row + below ∧ lines[below]? = some line ∧
        position.column ∈ matchColumns term line := by
  induction lines generalizing row with
  | nil => simp [matchesFrom]
  | cons first rest ih =>
      rw [matchesFrom, List.mem_append, ih]
      constructor
      · rintro (here | ⟨below, line, same, found, column⟩)
        · obtain ⟨column, member, rfl⟩ := List.mem_map.mp here
          exact ⟨0, first, rfl, rfl, member⟩
        · exact ⟨below + 1, line, by omega, found, column⟩
      · rintro ⟨below, line, same, found, column⟩
        cases below with
        | zero =>
            cases found
            rw [Nat.add_zero] at same
            exact .inl (List.mem_map.mpr ⟨_, column, by rw [← same]⟩)
        | succ below => exact .inr ⟨below, line, by omega, found, column⟩

theorem matchesFrom_ascending {term : Text} (nonempty : term ≠ [])
    (lines : List Text) (row : Nat) :
    (matchesFrom term lines row).Pairwise (· < ·) := by
  induction lines generalizing row with
  | nil => exact .nil
  | cons first rest ih =>
      rw [matchesFrom, List.pairwise_append]
      refine ⟨?_, ih (row + 1), ?_⟩
      · rw [List.pairwise_map, matchColumns_eq nonempty]
        exact occurrences_ascending.imp fun before => .inr ⟨rfl, before⟩
      · intro here member later laterMember
        obtain ⟨column, _, rfl⟩ := List.mem_map.mp member
        obtain ⟨below, _, same, _, _⟩ := mem_matchesFrom.mp laterMember
        refine .inl ?_
        rw [same]
        exact Nat.lt_of_lt_of_le (Nat.lt_succ_self row) (Nat.le_add_right _ _)

theorem Buffer.mem_occurrences {buffer : Buffer} {term : Text}
    (nonempty : term ≠ []) {position : Position} :
    position ∈ buffer.occurrences term ↔ buffer.MatchesAt term position := by
  rw [Buffer.occurrences, mem_matchesFrom]
  simp only [Nat.zero_add, mem_matchColumns nonempty]
  constructor
  · rintro ⟨_, line, rfl, present, before, found, after, matching⟩
    exact ⟨line, before, found, after, present, matching⟩
  · rintro ⟨line, before, found, after, present, matching⟩
    exact ⟨_, line, rfl, present, before, found, after, matching⟩

/-- There is a character at every match. -/
theorem Buffer.MatchesAt.onCharacter {buffer : Buffer} {term : Text}
    (nonempty : term ≠ []) {position : Position}
    (matching : buffer.MatchesAt term position) :
    position.onCharacter buffer = position := by
  obtain ⟨line, before, found, after, present, split, column, folded⟩ :=
    matching
  have found_pos := length_pos_of_folded nonempty folded
  have inText : position.row < buffer.lineCount :=
    (List.getElem?_eq_some_iff.mp present).1
  have width : position.column < buffer.width position.row := by
    have length := congrArg List.length split
    simp only [List.length_append] at length
    simp only [Buffer.width, Buffer.line, present, Option.getD_some, Line.width]
    omega
  exact Position.onCharacter_eq_self_iff.mpr
    ⟨inText, Nat.lt_of_lt_of_le width (Nat.le_max_left _ _)⟩

theorem Position.le_of_ascending {positions : List Position}
    (ascending : positions.Pairwise (· < ·)) {first second : Nat}
    (ordered : first ≤ second) (inRange : second < positions.length) :
    positions[first] ≤ positions[second] := by
  rcases Nat.eq_or_lt_of_le ordered with rfl | before
  · exact Position.le_refl _
  · exact Position.le_of_lt
      (List.pairwise_iff_getElem.mp ascending first second _ inRange before)

theorem lastIndex?_eq_none {property : α → Bool} {list : List α}
    (missed : lastIndex? property list = none) {element : α}
    (member : element ∈ list) : property element = false := by
  rw [lastIndex?, Option.map_eq_none_iff, List.findIdx?_eq_none_iff] at missed
  exact missed element (List.mem_reverse.mpr member)

/-- The last index has the property, and no later one does. -/
theorem lastIndex?_eq_some {property : α → Bool} {list : List α}
    {index : Nat} (last : lastIndex? property list = some index) :
    ∃ inRange : index < list.length, property list[index] ∧
      ∀ later (laterInRange : later < list.length), index < later →
        property list[later] = false := by
  obtain ⟨back, found, rfl⟩ := Option.map_eq_some_iff.mp last
  obtain ⟨inRange, holds, first⟩ := List.findIdx?_eq_some_iff_getElem.mp found
  simp only [List.getElem_reverse] at holds first
  rw [List.length_reverse] at inRange
  refine ⟨by omega, holds, ?_⟩
  intro later laterInRange after
  have missed := first (list.length - 1 - later) (by omega)
  have same : list.length - 1 - (list.length - 1 - later) = later := by omega
  simpa [same] using missed

/-- Of places in document order, the search lands on the one at its index. -/
theorem nearestMatch_lands {positions : List Position}
    (ascending : positions.Pairwise (· < ·)) (nonempty : positions ≠ [])
    (cursor : Position) (direction : Direction) :
    ∃ landing,
      positions[nearestMatch positions cursor direction]? = some landing ∧
        direction.Lands {place | place ∈ positions} cursor landing := by
  have positive := List.length_pos_iff.mpr nonempty
  cases direction with
  | forward =>
      unfold nearestMatch
      cases search : positions.findIdx? (cursor < ·) with
      | none =>
          have missed := List.findIdx?_eq_none_iff.mp search
          refine ⟨positions[0], List.getElem?_eq_getElem positive, .inr ?_⟩
          refine ⟨?_, List.getElem_mem positive, ?_⟩
          · rw [Set.eq_empty_iff_forall_notMem]
            rintro place ⟨member, after⟩
            exact of_decide_eq_false (missed place member) after
          · intro place member
            obtain ⟨index, inRange, rfl⟩ := List.getElem_of_mem member
            exact Position.le_of_ascending ascending (Nat.zero_le _) inRange
      | some index =>
          obtain ⟨inRange, holds, first⟩ :=
            List.findIdx?_eq_some_iff_getElem.mp search
          refine ⟨positions[index], List.getElem?_eq_getElem inRange, .inl ?_⟩
          refine ⟨⟨List.getElem_mem inRange, of_decide_eq_true holds⟩, ?_⟩
          rintro place ⟨member, after⟩
          obtain ⟨later, laterInRange, rfl⟩ := List.getElem_of_mem member
          refine Position.le_of_ascending ascending ?_ laterInRange
          by_contra before
          exact first later (Nat.lt_of_not_le before) (decide_eq_true after)
  | backward =>
      unfold nearestMatch
      cases search : lastIndex? (· < cursor) positions with
      | none =>
          have inRange : positions.length - 1 < positions.length := by omega
          refine ⟨positions[positions.length - 1],
            List.getElem?_eq_getElem inRange, .inr ?_⟩
          refine ⟨?_, List.getElem_mem inRange, ?_⟩
          · rw [Set.eq_empty_iff_forall_notMem]
            rintro place ⟨member, before⟩
            exact of_decide_eq_false (lastIndex?_eq_none search member) before
          · intro place member
            obtain ⟨index, _, rfl⟩ := List.getElem_of_mem member
            exact Position.le_of_ascending ascending (by omega) inRange
      | some index =>
          obtain ⟨inRange, holds, last⟩ := lastIndex?_eq_some search
          refine ⟨positions[index], List.getElem?_eq_getElem inRange, .inl ?_⟩
          refine ⟨⟨List.getElem_mem inRange, of_decide_eq_true holds⟩, ?_⟩
          rintro place ⟨member, before⟩
          obtain ⟨earlier, earlierInRange, rfl⟩ := List.getElem_of_mem member
          refine Position.le_of_ascending ascending ?_ inRange
          by_contra after
          exact of_decide_eq_false
            (last earlier earlierInRange (Nat.lt_of_not_le after)) before

end ModalTutor
