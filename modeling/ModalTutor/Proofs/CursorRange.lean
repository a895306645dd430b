import ModalTutor.Text.Buffer

/-!
# Positions in range

Both ways of settling a position find a row of the buffer, and settling twice
is settling once.  The operations on one line keep the number of lines.
-/

namespace ModalTutor

namespace Buffer

theorem lineCount_eq_lastRow_add_one (buffer : Buffer) :
    buffer.lineCount = buffer.lastRow + 1 := by
  have := buffer.lineCount_pos
  unfold lastRow
  omega

@[simp] theorem lineCount_modifyLine (buffer : Buffer) (row : Nat)
    (change : Text → Text) :
    (buffer.modifyLine row change).lineCount = buffer.lineCount := by
  simp [lineCount, modifyLine]

@[simp] theorem lineCount_setLine (buffer : Buffer) (row : Nat)
    (text : Text) : (buffer.setLine row text).lineCount = buffer.lineCount :=
  lineCount_modifyLine buffer row _

@[simp] theorem lineCount_splice (buffer : Buffer) (row first last : Nat)
    (text : Text) :
    (buffer.splice row first last text).lineCount = buffer.lineCount :=
  lineCount_modifyLine buffer row _

@[simp] theorem lineCount_insertLine (buffer : Buffer) (row : Nat)
    (text : Text) :
    (buffer.insertLine row text).lineCount = buffer.lineCount + 1 := by
  simp only [lineCount, insertLine, List.length_append, List.length_take,
    List.length_cons, List.length_drop]
  omega

/-- Breaking a line that is there makes one line more. -/
theorem lineCount_breakLine {buffer : Buffer} {row : Nat} (column : Nat)
    (inRange : row < buffer.lineCount) :
    (buffer.breakLine row column).lineCount = buffer.lineCount + 1 := by
  have present : buffer.line? row = some buffer.lines[row] :=
    List.getElem?_eq_getElem inRange
  simp [breakLine, present]

end Buffer

namespace Position

theorem onCharacter_row_lt (position : Position) (buffer : Buffer) :
    (position.onCharacter buffer).row < buffer.lineCount := by
  rw [buffer.lineCount_eq_lastRow_add_one]
  exact Nat.lt_succ_of_le (Nat.min_le_right _ _)

theorem betweenCharacters_row_lt (position : Position) (buffer : Buffer) :
    (position.betweenCharacters buffer).row < buffer.lineCount := by
  rw [buffer.lineCount_eq_lastRow_add_one]
  exact Nat.lt_succ_of_le (Nat.min_le_right _ _)

@[simp] theorem onCharacter_onCharacter (position : Position)
    (buffer : Buffer) :
    (position.onCharacter buffer).onCharacter buffer =
      position.onCharacter buffer := by
  simp [onCharacter]

/-- A settled position is on a character, or in column 0 of an empty line. -/
theorem column_lt_of_settled {position : Position} {buffer : Buffer}
    (settled : position.onCharacter buffer = position) :
    position.column < max (buffer.width position.row) 1 := by
  have row : min position.row buffer.lastRow = position.row :=
    congrArg Position.row settled
  have column := congrArg Position.column settled
  simp only [onCharacter, row] at column
  omega

theorem onCharacter_of_row_lt {position : Position} {buffer : Buffer}
    (inRange : position.row < buffer.lineCount) :
    position.onCharacter buffer =
      ⟨position.row,
        min position.column (buffer.width position.row - 1)⟩ := by
  rw [buffer.lineCount_eq_lastRow_add_one] at inRange
  have row : min position.row buffer.lastRow = position.row :=
    Nat.min_eq_left (Nat.le_of_lt_succ inRange)
  simp [onCharacter, row]

/-- The cursor stays where it is exactly on a character or in column 0 of an
empty line. -/
theorem onCharacter_eq_self_iff {position : Position} {buffer : Buffer} :
    position.onCharacter buffer = position ↔
      position.row < buffer.lineCount ∧
        position.column < max (buffer.width position.row) 1 := by
  constructor
  · intro settled
    refine ⟨?_, column_lt_of_settled settled⟩
    rw [← settled]
    exact position.onCharacter_row_lt buffer
  · rintro ⟨inText, inLine⟩
    have column : min position.column (buffer.width position.row - 1) =
        position.column := by omega
    rw [onCharacter_of_row_lt inText, column]

/-- A row in range stays when the position is settled for typing. -/
theorem betweenCharacters_of_row_lt {position : Position} {buffer : Buffer}
    (inRange : position.row < buffer.lineCount) :
    position.betweenCharacters buffer =
      ⟨position.row, min position.column (buffer.width position.row)⟩ := by
  rw [buffer.lineCount_eq_lastRow_add_one] at inRange
  have row : min position.row buffer.lastRow = position.row :=
    Nat.min_eq_left (Nat.le_of_lt_succ inRange)
  simp [betweenCharacters, row]

end Position

end ModalTutor
