import ModalTutor.Proofs.CursorRange
import ModalTutor.Proofs.Walks
import ModalTutor.Text.Motion

/-!
# Paragraph motions

A paragraph begins below a blank row and ends above one.  The motions land on
the nearest such row or at the edge of the text, except that from the gap right
beside a paragraph they go past it: `Motion.paragraph_lands_iff` says just when.
-/

namespace ModalTutor

section Skipped

variable {places : Set Nat} {edge start next landing : Nat}

/-- Going past the nearest place lands right only if that place is the edge. -/
theorem leastOr_iff_of_skipped (inside : ∀ place ∈ places, place ≤ edge)
    (nearest : IsLeast {place ∈ places | start < place} next)
    (skips : LeastOr {place ∈ places | next < place} edge landing) :
    LeastOr {place ∈ places | start < place} edge landing ↔ edge ≤ next := by
  constructor
  · intro lands
    have arrived : landing = next := lands.unique (.inl nearest)
    rcases skips with beyond | ⟨_, atEdge⟩
    · exact absurd beyond.1.2 (by omega)
    · omega
  · intro atEdge
    rcases skips with beyond | ⟨_, rfl⟩
    · have := inside landing beyond.1.1
      exact absurd beyond.1.2 (by omega)
    · have := inside next nearest.1.1
      have same : landing = next := by omega
      exact .inl (same ▸ nearest)

theorem greatestOr_iff_of_skipped (inside : ∀ place ∈ places, edge ≤ place)
    (nearest : IsGreatest {place ∈ places | place < start} next)
    (skips : GreatestOr {place ∈ places | place < next} edge landing) :
    GreatestOr {place ∈ places | place < start} edge landing ↔
      next ≤ edge := by
  constructor
  · intro lands
    have arrived : landing = next := lands.unique (.inl nearest)
    rcases skips with beyond | ⟨_, atEdge⟩
    · exact absurd beyond.1.2 (by omega)
    · omega
  · intro atEdge
    rcases skips with beyond | ⟨_, rfl⟩
    · have := inside landing beyond.1.1
      exact absurd beyond.1.2 (by omega)
    · have := inside next nearest.1.1
      have same : landing = next := by omega
      exact .inl (same ▸ nearest)

end Skipped

namespace Buffer

variable {buffer : Buffer} {row : Nat}

/-- The rows that show something below a blank row. -/
def beginnings (buffer : Buffer) : Set Nat :=
  {row | 0 < row ∧ buffer.isBlankRow (row - 1) ∧ ¬ buffer.isBlankRow row}

/-- The rows that show something above a blank row. -/
def endings (buffer : Buffer) : Set Nat :=
  {row | row + 1 < buffer.lineCount ∧ ¬ buffer.isBlankRow row ∧
    buffer.isBlankRow (row + 1)}

instance : Decidable (row ∈ buffer.beginnings) :=
  inferInstanceAs (Decidable (_ ∧ _ ∧ _))

instance : Decidable (row ∈ buffer.endings) :=
  inferInstanceAs (Decidable (_ ∧ _ ∧ _))

theorem getElem?_blankRows (inText : row < buffer.lineCount) :
    buffer.blankRows[row]? = some (buffer.isBlankRow row) := by
  have present : buffer.line? row = some buffer.lines[row] :=
    List.getElem?_eq_getElem inText
  rw [blankRows, List.getElem?_map, ← line?, isBlankRow, line, present]
  rfl

/-- A row that shows something is there. -/
theorem lt_of_not_isBlankRow (shown : ¬ buffer.isBlankRow row) :
    row < buffer.lineCount := by
  by_contra beyond
  apply shown
  have missing : buffer.line? row = none :=
    List.getElem?_eq_none (Nat.le_of_not_lt beyond)
  rw [isBlankRow, line, missing]
  rfl

theorem le_lastRow_of_begins (begins : row ∈ buffer.beginnings) :
    row ≤ buffer.lastRow := by
  have := lt_of_not_isBlankRow begins.2.2
  have := buffer.lineCount_eq_lastRow_add_one
  omega

section Gap

variable {gap next first other : Nat}

/-- Down to the end of the gap no paragraph begins. -/
theorem le_of_begins
    (shown : WalksOver (!·) buffer.blankRows (row + 1) gap)
    (blank : WalksOver id buffer.blankRows gap next)
    (begins : other ∈ buffer.beginnings) (below : row + 1 < other) :
    next ≤ other := by
  by_contra before
  have otherInText := lt_of_not_isBlankRow begins.2.2
  by_cases inGap : gap ≤ other
  · exact begins.2.2 (blank.passed inGap (Nat.lt_of_not_le before)
      (getElem?_blankRows otherInText))
  · have present : other - 1 < buffer.lineCount := by omega
    have above := shown.passed (by omega) (by omega)
      (getElem?_blankRows present)
    simp [begins.2.1] at above

theorem begins_of_gapEnd
    (shown : WalksOver (!·) buffer.blankRows (row + 1) gap)
    (blank : WalksOver id buffer.blankRows gap next)
    (inText : next < buffer.lineCount) :
    next ∈ buffer.beginnings ∧ row + 1 < next := by
  have shownBefore := shown.ordered
  have blankBefore := blank.ordered
  have atNext : buffer.isBlankRow next = false :=
    blank.halted (getElem?_blankRows inText)
  have apart : gap ≠ next := by
    rintro rfl
    have atGap := shown.halted (getElem?_blankRows inText)
    simp [atNext] at atGap
  have above : buffer.isBlankRow (next - 1) :=
    blank.passed (by omega) (by omega) (getElem?_blankRows (by omega))
  exact ⟨⟨by omega, above, by simp [atNext]⟩, by omega⟩

/-- Up to the start of the gap no paragraph ends. -/
theorem lt_of_ends
    (shown : WalksBack (!·) buffer.blankRows row gap)
    (blank : WalksBack id buffer.blankRows gap first)
    (ends : other ∈ buffer.endings) (above : other < row - 1) :
    other < first := by
  by_contra after
  have otherInText := lt_of_not_isBlankRow ends.2.1
  by_cases inGap : other < gap
  · exact ends.2.1 (blank.passed (Nat.le_of_not_lt after) inGap
      (getElem?_blankRows otherInText))
  · have below := shown.passed (by omega) (by omega)
      (getElem?_blankRows ends.1)
    simp [ends.2.2] at below

theorem ends_of_gapStart (inText : row < buffer.lineCount)
    (shown : WalksBack (!·) buffer.blankRows row gap)
    (blank : WalksBack id buffer.blankRows gap first)
    (found : 0 < first) :
    first - 1 ∈ buffer.endings ∧ first - 1 < row - 1 := by
  have shownAfter := shown.ordered
  have blankAfter := blank.ordered
  have present : first - 1 < buffer.lineCount := by omega
  have atLast : buffer.isBlankRow (first - 1) = false :=
    blank.halted (by omega) (getElem?_blankRows present)
  have apart : first ≠ gap := by
    rintro rfl
    have atGap := shown.halted (by omega) (getElem?_blankRows present)
    simp [atLast] at atGap
  have below : buffer.isBlankRow (first - 1 + 1) :=
    blank.passed (by omega) (by omega) (getElem?_blankRows (by omega))
  exact ⟨⟨by omega, by simp [atLast], below⟩, by omega⟩

end Gap

/-- The next paragraph is looked for from the second row below on. -/
theorem nextParagraph_lands (buffer : Buffer) (row : Nat) :
    LeastOr {other ∈ buffer.beginnings | row + 1 < other} buffer.lastRow
      (buffer.nextParagraph row) := by
  have lastRow := buffer.lineCount_eq_lastRow_add_one
  have length : buffer.blankRows.length = buffer.lineCount := by
    simp [blankRows, lineCount]
  have shown := walksOver_walkEnd (!·) buffer.blankRows (row + 1)
  generalize gapStart : walkEnd (!·) buffer.blankRows (row + 1) = gap at shown
  have blank := walksOver_walkEnd id buffer.blankRows gap
  generalize gapEnd : walkEnd id buffer.blankRows gap = next at blank
  have landing : buffer.nextParagraph row = min next buffer.lastRow := by
    rw [nextParagraph, drop_walkEnd, gapStart, drop_walkEnd, gapEnd,
      List.length_drop]
    omega
  rw [landing]
  by_cases inText : next ≤ buffer.lastRow
  · rw [Nat.min_eq_left inText]
    refine .inl ⟨begins_of_gapEnd shown blank (by omega), ?_⟩
    rintro other ⟨begins, below⟩
    exact le_of_begins shown blank begins below
  · rw [Nat.min_eq_right (Nat.le_of_not_le inText)]
    refine .inr ⟨?_, rfl⟩
    rw [Set.eq_empty_iff_forall_notMem]
    rintro other ⟨begins, below⟩
    exact inText (Nat.le_trans (le_of_begins shown blank begins below)
      (le_lastRow_of_begins begins))

/-- The paragraph before is looked for from the second row above on. -/
theorem previousParagraph_lands (inText : row < buffer.lineCount) :
    GreatestOr {other ∈ buffer.endings | other < row - 1} 0
      (buffer.previousParagraph row) := by
  have shown := walksBack_walkStart (!·) buffer.blankRows row
  generalize gapEnd : walkStart (!·) buffer.blankRows row = gap at shown
  have blank := walksBack_walkStart id buffer.blankRows gap
  generalize gapStart : walkStart id buffer.blankRows gap = first at blank
  have landing : buffer.previousParagraph row = first - 1 := by
    rw [previousParagraph, take_walkStart, gapEnd, ← gapStart, walkStart]
  rw [landing]
  by_cases found : 0 < first
  · refine .inl ⟨ends_of_gapStart inText shown blank found, ?_⟩
    rintro other ⟨ends, above⟩
    exact Nat.le_sub_one_of_lt (lt_of_ends shown blank ends above)
  · refine .inr ⟨?_, by omega⟩
    rw [Set.eq_empty_iff_forall_notMem]
    rintro other ⟨ends, above⟩
    have := lt_of_ends shown blank ends above
    omega

/-- From any row, the next paragraph is found unless it begins right below,
where only the last row is still reached. -/
theorem nextParagraph_lands_iff (buffer : Buffer) (row : Nat) :
    LeastOr {other ∈ buffer.beginnings | row < other} buffer.lastRow
        (buffer.nextParagraph row) ↔
      ¬ (row + 1 ∈ buffer.beginnings ∧ row + 1 < buffer.lastRow) := by
  have lands := buffer.nextParagraph_lands row
  by_cases adjacent : row + 1 ∈ buffer.beginnings
  · have nearest :
        IsLeast {other ∈ buffer.beginnings | row < other} (row + 1) := by
      refine ⟨⟨adjacent, Nat.lt_succ_self row⟩, ?_⟩
      rintro other ⟨_, below⟩
      exact below
    rw [leastOr_iff_of_skipped (fun _ => le_lastRow_of_begins) nearest lands]
    simp only [adjacent, true_and, Nat.not_lt]
  · have same : {other ∈ buffer.beginnings | row < other} =
        {other ∈ buffer.beginnings | row + 1 < other} := by
      ext other
      constructor
      · rintro ⟨begins, below⟩
        have apart : other ≠ row + 1 := by
          rintro rfl
          exact adjacent begins
        exact ⟨begins, by omega⟩
      · rintro ⟨begins, below⟩
        exact ⟨begins, Nat.lt_of_succ_lt below⟩
    rw [same]
    simp only [adjacent, lands, false_and, not_false_eq_true]

/-- From any row, the paragraph before is found unless it ends right above,
where only row 0 is still reached. -/
theorem previousParagraph_lands_iff (inText : row < buffer.lineCount) :
    GreatestOr {other ∈ buffer.endings | other < row} 0
        (buffer.previousParagraph row) ↔
      ¬ (row - 1 ∈ buffer.endings ∧ 0 < row - 1) := by
  have lands := previousParagraph_lands inText
  by_cases adjacent : 0 < row ∧ row - 1 ∈ buffer.endings
  · have nearest :
        IsGreatest {other ∈ buffer.endings | other < row} (row - 1) := by
      refine ⟨⟨adjacent.2, by omega⟩, ?_⟩
      rintro other ⟨_, above⟩
      exact Nat.le_sub_one_of_lt above
    rw [greatestOr_iff_of_skipped (fun _ _ => Nat.zero_le _) nearest lands]
    simp only [adjacent.2, true_and, Nat.not_lt]
  · have same : {other ∈ buffer.endings | other < row} =
        {other ∈ buffer.endings | other < row - 1} := by
      ext other
      constructor
      · rintro ⟨ends, above⟩
        have apart : other ≠ row - 1 := by
          rintro rfl
          exact adjacent ⟨by omega, ends⟩
        exact ⟨ends, by omega⟩
      · rintro ⟨ends, above⟩
        exact ⟨ends, by omega⟩
    rw [same]
    constructor
    · rintro _ ⟨ends, positive⟩
      exact adjacent ⟨by omega, ends⟩
    · intro _
      exact lands

end Buffer

namespace Motion

/-- The paragraph motions land in column 0 of the nearest row that begins or
ends a paragraph in their direction, or of the row at the edge of the text, but
for one case: a row right beside the first one is passed, although it begins or
ends a paragraph, unless it is at the edge. -/
theorem paragraph_lands_iff {buffer : Buffer} {row : Nat}
    (inText : row < buffer.lineCount) (column : Nat) :
    let below := paragraphForward.apply buffer ⟨row, column⟩
    let above := paragraphBackward.apply buffer ⟨row, column⟩
    below.column = 0 ∧ above.column = 0 ∧
      (LeastOr {other ∈ buffer.beginnings | row < other} buffer.lastRow
          below.row ↔
        ¬ (row + 1 ∈ buffer.beginnings ∧ row + 1 < buffer.lastRow)) ∧
      (GreatestOr {other ∈ buffer.endings | other < row} 0 above.row ↔
        ¬ (row - 1 ∈ buffer.endings ∧ 0 < row - 1)) ∧
      LeastOr {other ∈ buffer.beginnings | row + 1 < other} buffer.lastRow
        below.row ∧
      GreatestOr {other ∈ buffer.endings | other < row - 1} 0 above.row := by
  intro below above
  have sameRow : min row buffer.lastRow = row := by
    have := buffer.lineCount_eq_lastRow_add_one
    omega
  have belowRow : below.row = buffer.nextParagraph row := by
    simp only [below, apply, sameRow]
  have aboveRow : above.row = buffer.previousParagraph row := by
    simp only [above, apply, sameRow]
  rw [belowRow, aboveRow]
  exact ⟨rfl, rfl, buffer.nextParagraph_lands_iff row,
    Buffer.previousParagraph_lands_iff inText,
    buffer.nextParagraph_lands row, Buffer.previousParagraph_lands inText⟩

/-- From within a gap of two rows the motion down finds the paragraph below,
and the motion up passes the one right above. -/
theorem paragraph_lands_from_gap :
    let buffer : Buffer :=
      .ofLines [['a'], [], ['b'], [' '], [], ['c'], [], ['d']]
    let below := paragraphForward.apply buffer ⟨3, 1⟩
    let above := paragraphBackward.apply buffer ⟨3, 1⟩
    3 < buffer.lineCount ∧ below.row = 5 ∧ above.row = 0 ∧
      LeastOr {other ∈ buffer.beginnings | 3 < other} buffer.lastRow
        below.row ∧
      ¬ GreatestOr {other ∈ buffer.endings | other < 3} 0 above.row := by
  intro buffer below above
  have inText : 3 < buffer.lineCount := by decide
  obtain ⟨_, _, next, previous, _, _⟩ := paragraph_lands_iff inText 1
  refine ⟨inText, by decide, by decide, next.mpr ?_, fun lands =>
    previous.mp lands ⟨?_, by decide⟩⟩
  · rintro ⟨begins, _⟩
    exact absurd begins (by decide)
  · show 2 ∈ buffer.endings
    decide

/-- Right above a paragraph that does not end the text, the motion down passes
its first row. -/
theorem adjacent_paragraph_is_skipped :
    ¬ ∀ (buffer : Buffer) (row column : Nat), row < buffer.lineCount →
      let below := paragraphForward.apply buffer ⟨row, column⟩
      let above := paragraphBackward.apply buffer ⟨row, column⟩
      (LeastOr {other ∈ buffer.beginnings | row < other} buffer.lastRow
          below.row ∧ below.column = 0) ∧
        GreatestOr {other ∈ buffer.endings | other < row} 0 above.row ∧
          above.column = 0 := by
  intro lands
  let buffer : Buffer := .ofLines [['a'], [], ['b'], [], ['c']]
  have landing := (lands buffer 1 0 (by decide)).1.1
  have least : 4 ≤ 2 := by
    rcases landing with nearest | ⟨none, _⟩
    · exact nearest.2 ⟨by decide, by decide⟩
    · have begins : 2 ∈ {other ∈ buffer.beginnings | 1 < other} :=
        ⟨by decide, by decide⟩
      rw [none] at begins
      exact begins.elim
  exact absurd least (by decide)

end Motion

end ModalTutor
