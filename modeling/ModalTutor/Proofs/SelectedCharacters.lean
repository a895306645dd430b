import ModalTutor.Proofs.CharacterCuts
import ModalTutor.Proofs.EditKeys

/-!
# Operators on selected characters

A selection of characters reaches from the smaller to the larger column of its
two ends, both of them included, whichever of the two is the cursor.  Both ends
are on characters, so in a row that is not empty there is something to take.
`Session.operators_on_selected_characters` says what deleting and copying make
of it, and that in more than one row neither makes anything.
-/

namespace ModalTutor

theorem Line.width_pos {line : Text} (nonempty : line ≠ []) :
    0 < width line := by
  apply List.length_pos_of_ne_nil
  intro none
  apply nonempty
  rw [← clusters_flatten line, none, List.flatten_nil]

/-- A column of the line is already on a character. -/
theorem Position.onCharacter_of_lt_width {buffer : Buffer} {row column : Nat}
    (inLine : column < buffer.width row) :
    (⟨row, column⟩ : Position).onCharacter buffer = ⟨row, column⟩ := by
  have inText : row < buffer.lineCount := Buffer.row_lt_of_lt_width inLine
  exact onCharacter_eq_self_iff.mpr
    ⟨inText, Nat.lt_of_lt_of_le inLine (Nat.le_max_left _ _)⟩

namespace Selection

variable {anchor cursor : Position} {extent : Extent}

theorem between_of_row_eq (same : anchor.row = cursor.row) :
    between anchor cursor extent =
      ⟨⟨cursor.row, min anchor.column cursor.column⟩,
        ⟨cursor.row, max anchor.column cursor.column⟩, extent⟩ := by
  obtain ⟨row, first⟩ := anchor
  obtain ⟨_, last⟩ := cursor
  cases same
  unfold between
  split
  · next ordered =>
      have columns : first ≤ last := by
        simpa [Position.le_def] using ordered
      rw [Nat.min_eq_left columns, Nat.max_eq_right columns]
  · next behind =>
      have columns : last < first := by
        simpa [Position.le_def] using behind
      rw [Nat.min_eq_right (Nat.le_of_lt columns),
        Nat.max_eq_left (Nat.le_of_lt columns)]

theorem isInOneRow_between (anchor cursor : Position) (extent : Extent) :
    (between anchor cursor extent).isInOneRow =
      decide (anchor.row = cursor.row) := by
  unfold between
  split
  · rfl
  · exact decide_eq_decide.mpr eq_comm

end Selection

namespace Edit

variable {buffer : Buffer} {row first last : Nat}

section InLine

variable (ordered : first ≤ last) (inLine : last < buffer.width row)

include ordered inLine

theorem deleteSelection_in_line :
    deleteSelection buffer ⟨⟨row, first⟩, ⟨row, last⟩, .characters⟩ =
      cut buffer ⟨row, first⟩ first (last + 1) .deletedSelection := by
  have within : min (last + 1) (buffer.width row) = last + 1 :=
    Nat.min_eq_left inLine
  simp only [deleteSelection, within]
  exact if_pos (Nat.lt_succ_of_le ordered)

theorem yankSelection_in_line :
    (yankSelection buffer ⟨⟨row, first⟩, ⟨row, last⟩, .characters⟩).register =
      some ⟨Line.between (buffer.line row) first (last + 1), .characters⟩ := by
  have longer : first ≤ last + 1 := Nat.le_succ_of_le ordered
  simp only [yankSelection, Buffer.slice_eq_between longer]
  apply holding?_characters
  exact Line.between_ne_nil (Nat.lt_succ_of_le ordered)
    (Nat.lt_of_le_of_lt ordered inLine)

/-- Both operators fill the register with the selected text. -/
theorem operator_register {command : Command} {key : Char}
    {operator : Buffer → Selection → Edit}
    (operates : command.Operates key operator) :
    (operator buffer ⟨⟨row, first⟩, ⟨row, last⟩, .characters⟩).register =
      some ⟨Line.between (buffer.line row) first (last + 1), .characters⟩ := by
  cases operates with
  | deletes =>
      rw [deleteSelection_in_line ordered inLine]
      exact cut_register (Nat.lt_succ_of_le ordered)
        (Nat.lt_of_le_of_lt ordered inLine) .deletedSelection
  | yanks => exact yankSelection_in_line ordered inLine

end InLine

/-- In an empty row there is nothing to take. -/
theorem operator_takesNothing {command : Command} {key : Char}
    {operator : Buffer → Selection → Edit}
    (operates : command.Operates key operator)
    (blank : buffer.line row = []) :
    (operator buffer
      ⟨⟨row, first⟩, ⟨row, last⟩, .characters⟩).TakesNothing := by
  have width : buffer.width row = 0 := by
    rw [Buffer.width, blank]
    rfl
  cases operates with
  | deletes =>
      simp [deleteSelection, width, unchanged, TakesNothing]
  | yanks =>
      simp [yankSelection, Buffer.slice, blank, Line.between, unchanged,
        TakesNothing, Register.holding?, Register.isEmpty]

end Edit

namespace Editor

/-- Characters are selected from one end, on a character, to the cursor. -/
structure SelectsFrom (editor : Editor) (start : Position) :
    Prop extends editor.Selecting .characters start where
  anchored : start.onCharacter editor.buffer = start

/-- What takes nothing leaves the text, the register and the history alone. -/
theorem CarriedOut.of_takesNothing {before after : Editor} {edit : Edit}
    (carried : before.CarriedOut edit after) (nothing : edit.TakesNothing) :
    after.buffer = before.buffer ∧ after.register = before.register ∧
      after.history = before.history := by
  have buffer : after.buffer = before.buffer := by
    rw [carried.buffer, nothing.1]
    rfl
  refine ⟨buffer, ?_, ?_⟩
  · rw [carried.register, nothing.2]
    rfl
  · rw [carried.history, if_pos buffer]

variable {editor : Editor} {start : Position}

theorem selectionEdit_takesNothing {command : Command} {key : Char}
    {operator : Buffer → Selection → Edit}
    (operates : command.Operates key operator)
    (empty : start.row ≠ editor.cursor.row ∨
      editor.buffer.line editor.cursor.row = []) :
    (editor.selectionEdit operator
      (.between start editor.cursor .characters)).TakesNothing := by
  unfold selectionEdit
  rw [Selection.between_extent, Selection.isInOneRow_between]
  by_cases same : start.row = editor.cursor.row
  · have blank := empty.resolve_left (not_not_intro same)
    rw [if_neg (by simp [same]), Selection.between_of_row_eq same]
    exact Edit.operator_takesNothing operates blank
  · rw [if_pos (by simp [same])]
    exact ⟨rfl, rfl⟩

theorem selectionEdit_in_row (same : start.row = editor.cursor.row)
    (operator : Buffer → Selection → Edit) :
    let row := editor.cursor.row
    let low := min start.column editor.cursor.column
    let high := max start.column editor.cursor.column
    editor.selectionEdit operator (.between start editor.cursor .characters) =
      operator editor.buffer ⟨⟨row, low⟩, ⟨row, high⟩, .characters⟩ := by
  unfold selectionEdit
  rw [Selection.between_extent, Selection.isInOneRow_between,
    if_neg (by simp [same]), Selection.between_of_row_eq same]

/-- Both ends are in the line. -/
theorem SelectsFrom.max_column_lt (selects : editor.SelectsFrom start)
    (same : start.row = editor.cursor.row)
    (nonempty : editor.buffer.line editor.cursor.row ≠ []) :
    max start.column editor.cursor.column <
      editor.buffer.width editor.cursor.row := by
  have first := Position.column_lt_of_settled selects.anchored
  have last := Position.column_lt_of_settled selects.settled
  have positive : 0 < editor.buffer.width editor.cursor.row :=
    Line.width_pos nonempty
  rw [same] at first
  omega

end Editor

namespace Session

variable {session : Session} {start : Position}

section InRow

variable (selects : session.editor.SelectsFrom start)
  (same : start.row = session.editor.cursor.row)
  (nonempty : session.editor.buffer.line session.editor.cursor.row ≠ [])

include selects same nonempty

theorem operator_fills_register {command : Command} {key : Char}
    {operator : Buffer → Selection → Edit}
    (operates : command.Operates key operator)
    (allowed : session.allows command) :
    let before := session.editor
    let low := min start.column before.cursor.column
    let high := max start.column before.cursor.column
    (session.dispatch (.char key)).2.editor.register =
      ⟨Line.between (before.buffer.line before.cursor.row) low (high + 1),
        .characters⟩ := by
  intro before low high
  have carried := (dispatch_operator operates allowed selects.toSelecting).2
  rw [carried.register, Editor.selectionEdit_in_row same,
    Edit.operator_register (by omega) (selects.max_column_lt same nonempty)
      operates]
  rfl

/-- Copying only brings the cursor to the first column. -/
theorem yank_of_selectsFrom (allowed : session.allows .visualYank) :
    let before := session.editor
    let yanked := (session.dispatch (.char 'y')).2.editor
    yanked.buffer = before.buffer ∧ yanked.history = before.history ∧
      yanked.cursor =
        ⟨before.cursor.row, min start.column before.cursor.column⟩ := by
  intro before yanked
  have carried := (dispatch_operator .yanks allowed selects.toSelecting).2
  rw [Editor.selectionEdit_in_row same] at carried
  have buffer : yanked.buffer = before.buffer := carried.buffer
  have inLine : min start.column before.cursor.column <
      before.buffer.width before.cursor.row :=
    Nat.lt_of_le_of_lt (Nat.min_le_left _ _)
      (Nat.lt_of_le_of_lt (Nat.le_max_left _ _)
        (selects.max_column_lt same nonempty))
  refine ⟨buffer, ?_, ?_⟩
  · rw [carried.history, if_pos buffer]
  · have first := carried.cursor
    rw [buffer] at first
    exact first.trans (Position.onCharacter_of_lt_width inLine)

/-- Deleting takes the selected text out of its row. -/
theorem delete_of_selectsFrom (allowed : session.allows .visualDelete)
    (undoAllowed : session.allows .undo) :
    let before := session.editor
    let deleted := (session.dispatch (.char 'd')).2
    let undone := (deleted.dispatch .undo).2.editor
    let row := before.cursor.row
    let low := min start.column before.cursor.column
    let high := max start.column before.cursor.column
    before.buffer.Loses deleted.editor.buffer ⟨row, low⟩
        (Line.between (before.buffer.line row) low (high + 1)) ∧
      deleted.editor.cursor =
        ⟨row, min low (deleted.editor.buffer.width row - 1)⟩ ∧
      undone.buffer = before.buffer ∧ undone.cursor = before.cursor := by
  intro before deleted undone row low high
  have inLine : high < before.buffer.width row :=
    selects.max_column_lt same nonempty
  have inText : row < before.buffer.lineCount :=
    Buffer.row_lt_of_lt_width inLine
  have ordered : low ≤ high := by omega
  have carried := (dispatch_operator .deletes allowed selects.toSelecting).2
  rw [Editor.selectionEdit_in_row same,
    Edit.deleteSelection_in_line ordered inLine] at carried
  have left : deleted.editor.buffer =
      before.buffer.splice row low (high + 1) [] :=
    carried.buffer
  have loses := Buffer.splice_loses inText (Nat.le_succ_of_le ordered)
  rw [← left] at loses
  have changed : deleted.editor.buffer ≠ before.buffer :=
    loses.ne (Line.between_ne_nil (Nat.lt_succ_of_le ordered)
      (Nat.lt_of_le_of_lt ordered inLine))
  -- The mode is left before the snapshot is taken, but the cursor stays, so an
  -- undo finds it at the end of the selection where it was.
  have restored := dispatch_undo_of_carriedOut carried
    (by simpa [deleted] using undoAllowed) changed
  refine ⟨loses, ?_, restored.1, restored.2.trans selects.settled⟩
  have still : row < deleted.editor.buffer.lineCount := by
    rwa [left, Buffer.lineCount_splice]
  exact carried.cursor.trans (Position.onCharacter_of_row_lt still)

end InRow

/-- An operator ends the selection.  It puts the selected text into the
register, and does nothing where there is none. -/
theorem operator_ends_selection
    (selects : session.editor.SelectsFrom start) {command : Command}
    {key : Char} {operator : Buffer → Selection → Edit}
    (operates : command.Operates key operator)
    (allowed : session.allows command) :
    let before := session.editor
    let after := (session.dispatch (.char key)).2.editor
    let row := before.cursor.row
    let line := before.buffer.line row
    let low := min start.column before.cursor.column
    let high := max start.column before.cursor.column
    after.mode = .normal ∧ after.anchor = none ∧ after.selection? = none ∧
      (start.row ≠ row ∨ line = [] →
        after.buffer.lines = before.buffer.lines ∧
          after.register = before.register ∧
          after.history = before.history) ∧
      (start.row = row → line ≠ [] →
        after.register =
          ⟨Line.between line low (high + 1), .characters⟩) := by
  intro before after row line low high
  obtain ⟨unfixed, carried⟩ :=
    dispatch_operator operates allowed selects.toSelecting
  refine ⟨carried.mode, unfixed, ?_, ?_, ?_⟩
  · rw [Editor.selection?, show after.mode = _ from carried.mode]
  · intro empty
    obtain ⟨buffer, register, history⟩ := carried.of_takesNothing
      (Editor.selectionEdit_takesNothing operates empty)
    exact ⟨congrArg Buffer.lines buffer, register, history⟩
  · intro same nonempty
    exact operator_fills_register selects same nonempty operates allowed

/-- Deleting and copying a selection of characters both end the selection.  In
more than one row, or in an empty one, they do nothing else.  In one row they
put into the register the text from the smaller to the larger column of the two
ends, both included, and leave the cursor at the smaller one.  Deleting takes
just that text out of the row, and an undo brings back text and cursor. -/
theorem operators_on_selected_characters (reachable : Reachable session)
    (unrestricted : session.allowed = none)
    (mode : session.editor.mode = .visual)
    (pending : session.editor.pending = .none) :
    ∃ anchor, session.editor.anchor = some anchor ∧
      let before := session.editor
      let deleted := (session.dispatch (.char 'd')).2
      let yanked := (session.dispatch (.char 'y')).2.editor
      let undone := (deleted.dispatch .undo).2.editor
      let row := before.cursor.row
      let line := before.buffer.line row
      let low := min anchor.column before.cursor.column
      let high := max anchor.column before.cursor.column
      let selected := Line.between line low (high + 1)
      (∀ key ∈ ['d', 'y'],
        let after := (session.dispatch (.char key)).2.editor
        after.mode = .normal ∧ after.anchor = none ∧
          after.selection? = none ∧
          (anchor.row ≠ row ∨ line = [] →
            after.buffer.lines = before.buffer.lines ∧
              after.register = before.register ∧
              after.history = before.history) ∧
          (anchor.row = row → line ≠ [] →
            after.register = ⟨selected, .characters⟩)) ∧
      (anchor.row = row → line ≠ [] →
        high < Line.width line ∧
        (yanked.buffer.lines = before.buffer.lines ∧
          yanked.history = before.history ∧ yanked.cursor = ⟨row, low⟩) ∧
        before.buffer.Loses deleted.editor.buffer ⟨row, low⟩ selected ∧
        deleted.editor.cursor =
          ⟨row, min low (deleted.editor.buffer.width row - 1)⟩ ∧
        undone.buffer.lines = before.buffer.lines ∧
        undone.cursor = before.cursor) := by
  have visual : session.editor.mode.isVisual := by
    rw [mode]
    rfl
  have allows (command : Command) : session.allows command := by
    simp [Session.allows, unrestricted]
  have settled := reachable.sound.settled (by rw [mode]; rfl)
  obtain ⟨anchor, fixed, anchored⟩ := reachable.coherent.selecting visual
  have selects : session.editor.SelectsFrom anchor :=
    ⟨⟨mode, pending, fixed, settled⟩, anchored⟩
  refine ⟨anchor, fixed, ?_⟩
  intro before deleted yanked undone row line low high selected
  constructor
  · intro key member
    rcases List.mem_pair.mp member with rfl | rfl
    · exact operator_ends_selection selects .deletes (allows .visualDelete)
    · exact operator_ends_selection selects .yanks (allows .visualYank)
  · intro same nonempty
    obtain ⟨buffer, history, cursor⟩ :=
      yank_of_selectsFrom selects same nonempty (allows .visualYank)
    obtain ⟨loses, clamped, restored, back⟩ := delete_of_selectsFrom selects
      same nonempty (allows .visualDelete) (allows .undo)
    exact ⟨selects.max_column_lt same nonempty,
      ⟨congrArg Buffer.lines buffer, history, cursor⟩, loses, clamped,
      congrArg Buffer.lines restored, back⟩

/-- A selection backward over a letter with a mark, which are one column. -/
theorem operators_on_marked_letter :
    let session := (ofBuffer (.ofLines [['a', 'e', '\u0301', 'c']]) 3).feed
      [.char '$', .char 'v', .char 'h']
    let before := session.editor
    Reachable session ∧ session.allowed = none ∧
    before.mode = .visual ∧ before.pending = .none ∧
    before.anchor = some ⟨0, 2⟩ ∧ before.cursor = ⟨0, 1⟩ ∧
    (session.dispatch (.char 'y')).2.editor.register =
      ⟨['e', '\u0301', 'c'], .characters⟩ ∧
    before.buffer.Loses (session.dispatch (.char 'd')).2.editor.buffer
      ⟨0, 1⟩ ['e', '\u0301', 'c'] := by
  intro session before
  have reachable : Reachable session :=
    (Reachable.ofBuffer (.ofLines [['a', 'e', '\u0301', 'c']]) 3).feed _
  have mode : before.mode = .visual := by decide +kernel
  have pending : before.pending = .none := by decide +kernel
  have start : before.anchor = some ⟨0, 2⟩ := by decide +kernel
  have cursor : before.cursor = ⟨0, 1⟩ := by decide +kernel
  have nonempty : before.buffer.line 0 ≠ [] := by decide +kernel
  have selected : Line.between (before.buffer.line 0) 1 3 =
      ['e', '\u0301', 'c'] := by
    decide +kernel
  obtain ⟨anchor, fixed, operated, acted⟩ :=
    operators_on_selected_characters reachable rfl mode pending
  have same : anchor = ⟨0, 2⟩ := Option.some.inj (fixed.symm.trans start)
  subst same
  dsimp only at operated acted
  rw [show session.editor.cursor = _ from cursor] at operated acted
  obtain ⟨-, -, -, -, filled⟩ := operated 'y' (by decide)
  obtain ⟨-, -, loses, -⟩ := acted rfl nonempty
  have register := filled rfl nonempty
  rw [← selected]
  exact ⟨reachable, rfl, mode, pending, start, cursor, register, loses⟩

end Session

end ModalTutor
