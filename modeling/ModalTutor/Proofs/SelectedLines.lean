import ModalTutor.Proofs.EditKeys
import ModalTutor.Proofs.TypingUnits
import ModalTutor.Proofs.WholeLines

/-!
# Deleting selected lines

Lines that are selected downwards and deleted at once go in one edit, and the
same number of lines deleted one after the other in as many.  Each way the rows
beside them are left, with the cursor in their place, as
`Session.delete_selected_lines` says.  It also says what an undo restores:
nothing is recorded just if an empty line was deleted that was the whole text.
-/

namespace ModalTutor

namespace Selection

/-- A selection starts where its fixed end is, if that is not below. -/
theorem between_rows {anchor cursor : Position}
    (ordered : anchor.row ≤ cursor.row) (extent : Extent) :
    (between anchor cursor extent).first.row = anchor.row ∧
      (between anchor cursor extent).last.row = cursor.row := by
  unfold between
  split
  · exact ⟨rfl, rfl⟩
  · next behind =>
      have sameRow : cursor.row = anchor.row := by
        rw [Position.le_def] at behind
        omega
      exact ⟨sameRow, sameRow.symm⟩

end Selection

theorem Motion.row_down {buffer : Buffer} {position : Position}
    (above : position.row + 1 < buffer.lineCount) :
    ((down.apply buffer position).onCharacter buffer).row =
      position.row + 1 := by
  rw [buffer.lineCount_eq_lastRow_add_one] at above
  simp only [apply, Position.onCharacter]
  omega

/-- Removing rows changes a text, unless it has nothing but an empty line. -/
theorem Buffer.ofLines_rowsBeside_eq_self_iff {buffer : Buffer}
    {row count : Nat} (positive : 0 < count)
    (inText : row + count ≤ buffer.lineCount) :
    ofLines (buffer.rowsBeside row count) = buffer ↔
      buffer.lines = [[]] := by
  have length := length_rowsBeside inText
  constructor
  · intro same
    by_cases beside : buffer.rowsBeside row count = []
    · rw [← same, beside]
      rfl
    · have counts := congrArg lineCount same
      rw [lineCount, lines_ofLines beside, length] at counts
      omega
  · intro blank
    have single : buffer.lineCount = 1 := congrArg List.length blank
    have beside : buffer.rowsBeside row count = [] :=
      List.eq_nil_of_length_eq_zero (by omega)
    apply eq_of_lines
    rw [beside, blank]
    rfl

namespace Editor

/-- The text is some buffer without some of its rows, and the cursor is in
their place, or in the last row if nothing is there. -/
structure LacksRows (editor : Editor) (whole : Buffer) (row count : Nat) :
    Prop where
  buffer : editor.buffer = .ofLines (whole.rowsBeside row count)
  cursor : editor.cursor = ⟨min row editor.buffer.lastRow, 0⟩

/-- With a row below, the removed rows leave nothing else in their place. -/
theorem LacksRows.of_row_below {editor : Editor} {whole : Buffer}
    {row count : Nat} (lacks : editor.LacksRows whole row count)
    (below : row + count < whole.lineCount) :
    editor.buffer.lines = whole.rowsBeside row count ∧
      editor.cursor.row = row := by
  have length := Buffer.length_rowsBeside (Nat.le_of_lt below)
  have beside : whole.rowsBeside row count ≠ [] :=
    List.ne_nil_of_length_pos (by omega)
  constructor
  · rw [lacks.buffer, Buffer.lines_ofLines beside]
  · rw [lacks.cursor, lacks.buffer, Buffer.lastRow_ofLines beside, length]
    exact Nat.min_eq_left (by omega)

theorem CarriedOut.lacksRows {before after : Editor} {edit : Edit}
    {row count : Nat} (carried : before.CarriedOut edit after)
    (cuts : edit.CutsRows before.buffer row count) :
    after.LacksRows before.buffer row count := by
  have left : after.buffer = .ofLines (before.buffer.rowsBeside row count) := by
    rw [carried.buffer, cuts.buffer]
    rfl
  refine ⟨left, ?_⟩
  rw [carried.cursor, cuts.cursor, ← left, Position.onCharacter]
  simp only [Nat.min_assoc, Nat.min_self, Nat.zero_min]

theorem selectionEdit_of_lines {editor : Editor} {selection : Selection}
    (whole : selection.extent = .lines)
    (operator : Buffer → Selection → Edit) :
    editor.selectionEdit operator selection =
      operator editor.buffer selection := by
  simp [selectionEdit, whole]

/-- Whole lines are selected, from the cursor at the start down to some row. -/
structure SelectsTo (start : Editor) (row : Nat) (editor : Editor) :
    Prop extends editor.Selecting .lines start.cursor where
  buffer : editor.buffer = start.buffer
  history : editor.history = start.history
  row : editor.cursor.row = row

end Editor

namespace Session

/-- The keys that select the cursor line with some lines below it and delete
them. -/
def deleteSelectedKeys (below : Nat) : List Key :=
  .char 'V' :: List.replicate below (.char 'j') ++ [.char 'd']

/-- The keys that delete the cursor line some times over. -/
def deleteLineKeys (count : Nat) : List Key :=
  (List.replicate count [.char 'd', .char 'd']).flatten

theorem deleteLineKeys_succ (count : Nat) :
    deleteLineKeys (count + 1) =
      [.char 'd', .char 'd'] ++ deleteLineKeys count :=
  rfl

variable {session : Session}

/-- A selection of lines starts in the cursor row. -/
theorem Idle.dispatch_select (idle : session.Idle)
    (allowed : session.allows .visualLine)
    (settled : session.editor.cursor.onCharacter session.editor.buffer =
      session.editor.cursor) :
    session.editor.SelectsTo session.editor.cursor.row
      (session.dispatch (.char 'V')).2.editor := by
  have runs : session.Runs (.char 'V') .visualLine :=
    idle.runs (by decide +kernel) allowed
  have started : (session.dispatch (.char 'V')).2.editor =
      { session.editor with
        mode := .visualLine
        pending := .none
        anchor := some session.editor.cursor
        notice := Mode.visualLine.banner? } := by
    refine (congrArg Prod.snd runs.dispatch_eq).trans ?_
    simp [Editor.run, Editor.perform, Editor.toggleVisual, Editor.enter,
      Editor.settle, idle.mode, Mode.isVisual, settled]
  rw [started]
  exact ⟨⟨rfl, rfl, rfl, settled⟩, rfl, rfl, rfl⟩

variable {start : Editor} {row : Nat}

/-- Going down takes one row more into the selection. -/
theorem dispatch_selectsTo (selects : start.SelectsTo row session.editor)
    (allowed : session.allows (.move .down))
    (above : row + 1 < start.buffer.lineCount) :
    start.SelectsTo (row + 1) (session.dispatch (.char 'j')).2.editor := by
  have runs : session.Runs (.char 'j') (.move .down) :=
    { commands := Mode.takesCommands_of_isVisual selects.visual
      completes := by
        rw [selects.mode, selects.pending]
        decide +kernel
      allowed := allowed }
  rw [runs.move]
  exact
    { mode := selects.mode
      pending := rfl
      anchor := selects.anchor
      buffer := selects.buffer
      history := selects.history
      row := by
        rw [← selects.row]
        apply Motion.row_down
        rwa [selects.row, selects.buffer]
      settled := Position.onCharacter_onCharacter _ _ }

theorem feed_selectsTo (count : Nat) :
    ∀ {session : Session} {row : Nat}, start.SelectsTo row session.editor →
      session.allows (.move .down) → row + count < start.buffer.lineCount →
      start.SelectsTo (row + count)
        (session.feed (List.replicate count (.char 'j'))).editor := by
  induction count with
  | zero =>
      intro session row selects _ _
      exact selects
  | succ count ih =>
      intro session row selects allowed above
      have down := dispatch_selectsTo selects allowed (by omega)
      have later := ih down (by simpa using allowed) (by omega)
      rw [Nat.add_right_comm] at later
      exact later

/-- Selected lines are deleted together. -/
theorem dispatch_delete_of_selectsTo
    (selects : start.SelectsTo row session.editor)
    (allowed : session.allows .visualDelete)
    (ordered : start.cursor.row ≤ row)
    (inText : row < start.buffer.lineCount) :
    let after := (session.dispatch (.char 'd')).2.editor
    after.LacksRows start.buffer start.cursor.row
        (row + 1 - start.cursor.row) ∧
      ∃ edit, session.editor.CarriedOut edit after := by
  let selection := Selection.between start.cursor session.editor.cursor .lines
  have whole : selection.extent = .lines := Selection.between_extent _ _ _
  obtain ⟨first, last⟩ : selection.first.row = start.cursor.row ∧
      selection.last.row = row := by
    rw [← selects.row] at ordered ⊢
    exact Selection.between_rows ordered .lines
  have carried := (dispatch_operator .deletes allowed selects.toSelecting).2
  rw [Editor.selectionEdit_of_lines whole] at carried
  rw [← selects.buffer] at inText ⊢
  have cut : Edit.LineCut session.editor.buffer start.cursor.row row
      (Edit.deleteSelection session.editor.buffer selection) :=
    .selection selection whole first last
  exact ⟨carried.lacksRows (cut.cutsRows ordered inText), _, carried⟩

/-- The cursor line is deleted. -/
theorem Idle.feed_deleteLine (idle : session.Idle)
    (allowed : session.allows .deleteLine)
    (inText : session.editor.cursor.row < session.editor.buffer.lineCount) :
    let after := session.feed [.char 'd', .char 'd']
    after.Idle ∧ after.editor.LacksRows session.editor.buffer
      session.editor.cursor.row 1 := by
  let begun := (session.dispatch (.char 'd')).2
  have waits : begun.editor =
      { session.editor with
        pending := .keys ['d']
        notice := some (.shown ['d']) } := by
    have found : Interpretation.ofKey session.editor.mode
        session.editor.pending (.char 'd') = (.pending, .keys ['d']) := by
      rw [idle.mode, idle.pending]
      decide +kernel
    exact congrArg Prod.snd
      (dispatch_pending (by rw [idle.mode]; rfl) found)
  have mode : begun.editor.mode = .normal := by
    rw [waits]
    exact idle.mode
  have runs : begun.Runs (.char 'd') .deleteLine :=
    { commands := by rw [mode]; rfl
      completes := by
        simp only [waits, idle.mode]
        decide +kernel
      allowed := by simpa [begun] using allowed }
  have cuts := Edit.deleteLine_cutsRows inText session.editor.cursor.column
  have carried : begun.editor.CarriedOut
      (Edit.deleteLine session.editor.buffer session.editor.cursor)
      (begun.dispatch (.char 'd')).2.editor :=
    runs.carriedOut (by rw [waits]; exact fun _ => rfl) cuts.entersInsert mode
  rw [waits] at carried
  have deleted := carried.of_same rfl rfl rfl rfl
  exact ⟨⟨deleted.mode, deleted.pending⟩, deleted.lacksRows cuts⟩

/-- As long as there is a row below, the cursor stays in its row. -/
theorem Idle.feed_deleteLines (count : Nat) :
    ∀ {session : Session}, session.Idle → session.allows .deleteLine →
      session.editor.cursor.row + count < session.editor.buffer.lineCount →
      (session.feed (deleteLineKeys (count + 1))).editor.LacksRows
        session.editor.buffer session.editor.cursor.row (count + 1) := by
  induction count with
  | zero =>
      intro session idle allowed inText
      exact (idle.feed_deleteLine allowed inText).2
  | succ count ih =>
      intro session idle allowed inText
      -- The row below comes up into the cursor row, so what is left to delete
      -- starts in the same row of a shorter text.
      obtain ⟨still, lacks⟩ := idle.feed_deleteLine allowed (by omega)
      obtain ⟨lines, row⟩ := lacks.of_row_below (by omega)
      have lineCount := congrArg List.length lines
      rw [Buffer.length_rowsBeside (by omega)] at lineCount
      have later := ih still (by simpa using allowed)
        (by rw [row, Buffer.lineCount, lineCount]; omega)
      rw [row] at later
      rw [deleteLineKeys_succ, feed_append]
      refine ⟨?_, later.cursor⟩
      rw [later.buffer, Buffer.rowsBeside_of_removed (by omega) lines]

/-- Selecting downwards and deleting is an edit of the text as it was. -/
theorem Idle.feed_deleteSelected (idle : session.Idle)
    (settled : session.editor.cursor.onCharacter session.editor.buffer =
      session.editor.cursor)
    (allows : ∀ command, session.allows command) (count : Nat)
    (inText : session.editor.cursor.row + count <
      session.editor.buffer.lineCount) :
    let after := (session.feed (deleteSelectedKeys count)).editor
    after.LacksRows session.editor.buffer session.editor.cursor.row
        (count + 1) ∧
      ∃ (before : Editor) (edit : Edit), before.CarriedOut edit after ∧
        before.buffer = session.editor.buffer ∧
        before.history = session.editor.history := by
  intro after
  let selecting := (session.dispatch (.char 'V')).2.feed
    (List.replicate count (.char 'j'))
  have last : after = (selecting.dispatch (.char 'd')).2.editor := by
    simp only [after, selecting, deleteSelectedKeys, feed_cons, feed_append,
      feed_nil]
  have started := idle.dispatch_select (allows .visualLine) settled
  have selects : session.editor.SelectsTo
      (session.editor.cursor.row + count) selecting.editor :=
    feed_selectsTo count started (by simpa using allows (.move .down)) inText
  have deleted := dispatch_delete_of_selectsTo selects
    (by simpa [selecting] using allows .visualDelete)
    (Nat.le_add_right _ _) inText
  rw [Nat.add_assoc, Nat.add_sub_cancel_left] at deleted
  obtain ⟨lacks, edit, carried⟩ := deleted
  rw [last]
  exact ⟨lacks, selecting.editor, edit, carried, selects.buffer,
    selects.history⟩

/-- An edit that leaves the text as it was leaves the history, too. -/
theorem history_of_same_text {before after : Editor} {edit : Edit}
    (carried : before.CarriedOut edit after)
    (buffer : before.buffer = session.editor.buffer)
    (history : before.history = session.editor.history)
    (same : after.buffer = session.editor.buffer) :
    after.history = session.editor.history := by
  rw [carried.history, buffer, if_pos same, history]

/-- What an edit of a text leaves, an undo takes back if it differs; if not,
the undo takes back what it would have taken back before. -/
theorem undo_after_edit {after : Session} (idle : session.Idle)
    (allowed : session.allows .undo) (allowedAfter : after.allows .undo)
    {before : Editor} {edit : Edit}
    (carried : before.CarriedOut edit after.editor)
    (buffer : before.buffer = session.editor.buffer)
    (history : before.history = session.editor.history) :
    (after.dispatch .undo).2.editor.buffer =
      if after.editor.buffer = session.editor.buffer then
        (session.dispatch .undo).2.editor.buffer
      else session.editor.buffer := by
  split
  · next same =>
      have still : after.Idle := ⟨carried.mode, carried.pending⟩
      have kept := history_of_same_text carried buffer history same
      rw [idle.undo_buffer allowed, still.undo_buffer allowedAfter, kept, same]
  · next changed =>
      rw [← buffer] at changed ⊢
      exact (dispatch_undo_of_carriedOut carried allowedAfter changed).1

/-- Deleting selected lines leaves what deleting as many lines one after the
other leaves.  An undo then restores the text before, unless it was one empty
line: this deletion changes no line and records nothing, so the undo comes to
what it would have come to before. -/
theorem delete_selected_lines (reachable : Reachable session)
    (unrestricted : session.allowed = none) (idle : session.Idle) (count : Nat)
    (inText : session.editor.cursor.row + count ≤
      session.editor.buffer.lastRow) :
    let selected := session.feed (deleteSelectedKeys count)
    let repeated := session.feed (deleteLineKeys (count + 1))
    let undone := (selected.dispatch .undo).2
    selected.editor.buffer.lines = repeated.editor.buffer.lines ∧
    selected.editor.cursor = repeated.editor.cursor ∧
    (session.editor.buffer.lines ≠ [[]] ∨ session.editor.history.past = [] →
      undone.editor.buffer.lines = session.editor.buffer.lines) ∧
    (session.editor.buffer.lines = [[]] →
      selected.editor.buffer.lines = [[]] ∧
      selected.editor.history = session.editor.history ∧
      undone.editor.buffer.lines =
        (session.dispatch .undo).2.editor.buffer.lines) := by
  intro selected repeated undone
  have allows (command : Command) : session.allows command := by
    simp [Session.allows, unrestricted]
  have settled := reachable.sound.settled (by rw [idle.mode]; rfl)
  have rows := session.editor.buffer.lineCount_eq_lastRow_add_one
  obtain ⟨lacks, before, edit, carried, text, history⟩ :=
    idle.feed_deleteSelected settled allows count (by omega)
  have again := idle.feed_deleteLines count (allows .deleteLine) (by omega)
  have sameText : selected.editor.buffer = repeated.editor.buffer :=
    lacks.buffer.trans again.buffer.symm
  have sameCursor : selected.editor.cursor = repeated.editor.cursor := by
    rw [lacks.cursor, again.cursor, ← sameText]
  have unchanged : selected.editor.buffer = session.editor.buffer ↔
      session.editor.buffer.lines = [[]] := by
    rw [lacks.buffer]
    exact Buffer.ofLines_rowsBeside_eq_self_iff (by omega) (by omega)
  have undoing := undo_after_edit idle (allows .undo)
    (by simpa [selected] using allows .undo) carried text history
  refine ⟨congrArg Buffer.lines sameText, sameCursor, ?_, ?_⟩
  · intro restorable
    by_cases blank : session.editor.buffer.lines = [[]]
    · have past := restorable.resolve_left (not_not_intro blank)
      rw [if_pos (unchanged.mpr blank), idle.undo_buffer (allows .undo),
        past] at undoing
      exact congrArg Buffer.lines undoing
    · rw [if_neg (mt unchanged.mp blank)] at undoing
      exact congrArg Buffer.lines undoing
  · intro blank
    have same := unchanged.mpr blank
    rw [if_pos same] at undoing
    exact ⟨(congrArg Buffer.lines same).trans blank,
      history_of_same_text carried text history same,
      congrArg Buffer.lines undoing⟩

/-- The last two of three lines, which leaves the cursor above them. -/
theorem delete_selected_lines_at_bottom :
    let session := (ofBuffer (.ofLines [['a'], [], ['b', 'c']]) 3).feed
      [.char 'j']
    Reachable session ∧ session.allowed = none ∧ session.Idle ∧
    session.editor.cursor.row + 1 ≤ session.editor.buffer.lastRow ∧
    session.editor.buffer.lines ≠ [[]] ∧
    (session.feed (deleteSelectedKeys 1)).editor.buffer.lines =
      (session.feed (deleteLineKeys (1 + 1))).editor.buffer.lines ∧
    (session.feed (deleteSelectedKeys 1)).editor.cursor =
      (session.feed (deleteLineKeys (1 + 1))).editor.cursor ∧
    (session.feed (deleteSelectedKeys 1)).editor.cursor = ⟨0, 0⟩ ∧
    ((session.feed (deleteSelectedKeys 1)).dispatch
      .undo).2.editor.buffer.lines = session.editor.buffer.lines := by
  intro session
  have reachable : Reachable session :=
    (Reachable.ofBuffer (.ofLines [['a'], [], ['b', 'c']]) 3).feed _
  have idle : session.Idle := ⟨rfl, rfl⟩
  have inText : session.editor.cursor.row + 1 ≤
      session.editor.buffer.lastRow := by
    decide +kernel
  have text : session.editor.buffer.lines ≠ [[]] := by decide +kernel
  obtain ⟨sameText, sameCursor, restored, _⟩ :=
    delete_selected_lines reachable rfl idle 1 inText
  exact ⟨reachable, rfl, idle, inText, text, sameText, sameCursor,
    by decide +kernel, restored (.inl text)⟩

/-- An undo goes behind a deletion that changed nothing. -/
theorem undo_passes_deleted_blank_text :
    ¬ ∀ (session : Session) (count : Nat), Reachable session →
      session.allowed = none → session.Idle →
      session.editor.cursor.row + count ≤ session.editor.buffer.lastRow →
      let selected := session.feed (deleteSelectedKeys count)
      let repeated := session.feed (deleteLineKeys (count + 1))
      selected.editor.buffer.lines = repeated.editor.buffer.lines ∧
      selected.editor.cursor = repeated.editor.cursor ∧
      (selected.dispatch .undo).2.editor.buffer.lines =
        session.editor.buffer.lines := by
  intro restores
  let session := (ofBuffer (.ofLines [['a']]) 3).feed [.char 'x']
  have reachable : Reachable session :=
    (Reachable.ofBuffer (.ofLines [['a']]) 3).feed _
  have undone : ((session.feed (deleteSelectedKeys 0)).dispatch
      .undo).2.editor.buffer.lines = [['a']] := by
    decide +kernel
  have blank : session.editor.buffer.lines = [[]] := by decide +kernel
  obtain ⟨_, _, restored⟩ :=
    restores session 0 reachable rfl ⟨rfl, rfl⟩ (by decide +kernel)
  have same : [['a']] = [[]] := undone.symm.trans (restored.trans blank)
  cases same

end Session

end ModalTutor
