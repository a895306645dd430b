import ModalTutor.Proofs.CursorRange
import ModalTutor.Proofs.LinedText
import ModalTutor.Proofs.TextChange

/-!
# Cutting and pasting whole lines

Removing the line at a row over and over leaves the rows beside the removed
ones or, if there are none, one empty line.  The register holds the removed
rows as one text, which its line feeds take apart again as long as no line
holds one itself.  `Edit.cut_lines_paste_back` puts the two together: pasting
where a cut has left the cursor restores the text.
-/

namespace ModalTutor

namespace Register

theorem pieces_eq_splitOn (text : Text) : pieces text = text.splitOn '\n' := by
  induction text with
  | nil => rfl
  | cons character rest ih =>
      have nonempty : pieces rest ≠ [] := by
        rw [ih]
        exact List.splitOnP_ne_nil _ _
      rw [List.splitOn, List.splitOnP_cons_eq_if_modifyHead, ← List.splitOn,
        ← ih, pieces]
      by_cases feed : character = '\n'
      · simp [feed]
      · cases shape : pieces rest with
        | nil => exact absurd shape nonempty
        | cons piece later => simp [feed]

/-- Lines that hold no line feed come out of the register as they went in. -/
theorem pieces_joined {lines : List Text} (nonempty : lines ≠ [])
    (free : ∀ line ∈ lines, '\n' ∉ line) : pieces (joined lines) = lines := by
  rw [pieces_eq_splitOn]
  exact List.splitOn_intercalate '\n' free nonempty

end Register

namespace Buffer

/-- Some rows from `row` on. -/
def rows (buffer : Buffer) (row count : Nat) : List Text :=
  (buffer.lines.drop row).take count

/-- The rows above and below these. -/
def rowsBeside (buffer : Buffer) (row count : Nat) : List Text :=
  buffer.lines.take row ++ buffer.lines.drop (row + count)

variable {buffer : Buffer} {row count : Nat}

theorem ofLines_lines (buffer : Buffer) : ofLines buffer.lines = buffer :=
  eq_of_lines (lines_ofLines buffer.lines_ne_nil)

theorem length_rowsBeside (inText : row + count ≤ buffer.lineCount) :
    (buffer.rowsBeside row count).length = buffer.lineCount - count := by
  unfold lineCount at inText ⊢
  simp only [rowsBeside, List.length_append, List.length_take,
    List.length_drop]
  omega

theorem rows_ne_nil (inText : row < buffer.lineCount) (positive : 0 < count) :
    buffer.rows row count ≠ [] := by
  unfold lineCount at inText
  apply List.ne_nil_of_length_pos
  simp only [rows, List.length_take, List.length_drop]
  omega

theorem rows_one (inText : row < buffer.lineCount) :
    buffer.rows row 1 = [buffer.line row] := by
  have present : buffer.lines[row]? = some (buffer.line row) :=
    line?_eq_some inText
  rw [rows, List.take_one, List.head?_drop, present]
  rfl

theorem Lined.rows (lined : buffer.Lined) (row count : Nat) :
    ∀ line ∈ buffer.rows row count, '\n' ∉ line := by
  intro line member
  exact lined line (List.mem_of_mem_drop (List.mem_of_mem_take member))

theorem removeLine_eq (buffer : Buffer) (row : Nat) :
    buffer.removeLine row = ofLines (buffer.rowsBeside row 1) := by
  rw [removeLine, List.eraseIdx_eq_take_drop_succ]
  rfl

/-- While another row is left, removing a line leaves nothing in its place. -/
theorem lines_removeLine (inText : row < buffer.lineCount)
    (others : 1 < buffer.lineCount) :
    (buffer.removeLine row).lines = buffer.rowsBeside row 1 := by
  have nonempty : buffer.rowsBeside row 1 ≠ [] := by
    apply List.ne_nil_of_length_pos
    rw [length_rowsBeside inText]
    omega
  rw [removeLine_eq]
  exact lines_ofLines nonempty

section FirstRemoved

variable {left : Buffer} (inText : row < buffer.lineCount)
  (removed : left.lines = buffer.rowsBeside row 1)

include inText removed

theorem rows_of_removed (count : Nat) :
    buffer.rows row (count + 1) = buffer.line row :: left.rows row count := by
  have above : (buffer.lines.take row).length = row :=
    List.length_take_of_le (Nat.le_of_lt inText)
  rw [rows, rows, removed, rowsBeside, List.drop_left' above,
    List.drop_eq_getElem_cons inText, List.take_succ_cons,
    line_eq_getElem inText]

theorem rowsBeside_of_removed (count : Nat) :
    buffer.rowsBeside row (count + 1) = left.rowsBeside row count := by
  have above : (buffer.lines.take row).length = row :=
    List.length_take_of_le (Nat.le_of_lt inText)
  have below : (buffer.rowsBeside row 1).drop (row + count) =
      buffer.lines.drop (row + (count + 1)) := by
    rw [rowsBeside, ← List.drop_drop, List.drop_left' above, List.drop_drop,
      Nat.add_assoc, Nat.add_comm 1]
  rw [rowsBeside, rowsBeside, removed, below, rowsBeside,
    List.take_left' above]

end FirstRemoved

theorem removeLines_eq (inText : row + count ≤ buffer.lineCount) :
    removeLines row count buffer =
      (buffer.rows row count, ofLines (buffer.rowsBeside row count)) := by
  induction count generalizing buffer with
  | zero => simp [removeLines, rows, rowsBeside, ofLines_lines]
  | succ count ih =>
      have here : row < buffer.lineCount := by omega
      simp only [removeLines, line?_eq_some here]
      cases count with
      | zero =>
          -- The last removal may leave nothing, which is filled up only then.
          rw [Nat.zero_add, rows_one here, removeLines, removeLine_eq]
      | succ count =>
          have left := lines_removeLine here (by omega)
          have fewer : row + (count + 1) ≤
              (buffer.removeLine row).lineCount := by
            rw [lineCount, left, length_rowsBeside here]
            omega
          rw [ih fewer, rows_of_removed here left,
            rowsBeside_of_removed here left]

/-- Inserting removed rows where they were restores the text. -/
theorem insertLines_rows (inText : row ≤ buffer.lineCount)
    (beside : buffer.rowsBeside row count ≠ []) :
    (ofLines (buffer.rowsBeside row count)).insertLines row
      (buffer.rows row count) = buffer := by
  have above : (buffer.lines.take row).length = row :=
    List.length_take_of_le inText
  apply eq_of_lines
  change (ofLines _).lines.take row ++ _ ++ (ofLines _).lines.drop row = _
  rw [lines_ofLines beside, rowsBeside, List.take_left' above,
    List.drop_left' above, rows, List.append_assoc, ← List.drop_drop,
    List.take_append_drop, List.take_append_drop]

theorem lastRow_ofLines {lines : List Text} (nonempty : lines ≠ []) :
    (ofLines lines).lastRow = lines.length - 1 := by
  rw [lastRow, lineCount, lines_ofLines nonempty]

end Buffer

namespace Edit

/-- The edit takes some rows into the register and leaves the cursor in the row
that comes to be in their place, or in the last one. -/
structure CutsRows (before : Buffer) (row count : Nat) (edit : Edit) :
    Prop where
  buffer : edit.buffer = some (.ofLines (before.rowsBeside row count))
  cursor : edit.cursor =
    ⟨min row (Buffer.ofLines (before.rowsBeside row count)).lastRow, 0⟩
  register : edit.register =
    some ⟨Register.joined (before.rows row count), .lines⟩
  entersInsert : edit.entersInsert = false

variable {buffer : Buffer}

theorem holding?_lines (content : Text) :
    Register.holding? content .lines = some ⟨content, .lines⟩ := by
  simp [Register.holding?, Register.isEmpty]

theorem deleteLine_cutsRows {row : Nat} (inText : row < buffer.lineCount)
    (column : Nat) :
    CutsRows buffer row 1 (deleteLine buffer ⟨row, column⟩) := by
  unfold deleteLine
  simp only [Buffer.line?_eq_some inText, Buffer.removeLine_eq]
  refine ⟨rfl, rfl, ?_, rfl⟩
  rw [holding?_lines, Buffer.rows_one inText, Register.joined,
    List.intercalate_singleton]

theorem deleteSelection_cutsRows {selection : Selection}
    (whole : selection.extent = .lines)
    (inText : selection.first.row + selection.rowCount ≤ buffer.lineCount) :
    CutsRows buffer selection.first.row selection.rowCount
      (deleteSelection buffer selection) := by
  unfold deleteSelection
  simp only [whole, Buffer.removeLines_eq inText]
  exact ⟨rfl, rfl, holding?_lines _, rfl⟩

theorem pasteBefore_lines (buffer : Buffer) (cursor : Position)
    (content : Text) :
    (pasteBefore buffer cursor ⟨content, .lines⟩).buffer =
      some (buffer.insertLines cursor.row (Register.pieces content)) := by
  simp [pasteBefore, Register.isEmpty, pasteLines, Register.lines]

theorem pasteAfter_lines (buffer : Buffer) (cursor : Position)
    (content : Text) :
    (pasteAfter buffer cursor ⟨content, .lines⟩).buffer =
      some (buffer.insertLines (cursor.row + 1)
        (Register.pieces content)) := by
  simp [pasteAfter, Register.isEmpty, pasteLines, Register.lines]

/-- The edits that cut the rows from `first` to `last`. -/
inductive LineCut (buffer : Buffer) (first last : Nat) : Edit → Prop where
  | selection (selection : Selection) (whole : selection.extent = .lines)
      (starts : selection.first.row = first)
      (ends : selection.last.row = last) :
      LineCut buffer first last (deleteSelection buffer selection)
  | line (column : Nat) (only : first = last) :
      LineCut buffer first last (deleteLine buffer ⟨first, column⟩)

theorem LineCut.cutsRows {first last : Nat} {edit : Edit}
    (cuts : LineCut buffer first last edit) (ordered : first ≤ last)
    (inText : last < buffer.lineCount) :
    CutsRows buffer first (last + 1 - first) edit := by
  cases cuts with
  | selection selection whole starts ends =>
      subst starts ends
      refine deleteSelection_cutsRows whole ?_
      unfold Selection.rowCount
      omega
  | line column only =>
      subst only
      rw [Nat.add_sub_cancel_left]
      exact deleteLine_cutsRows inText column

section PasteBack

variable {row count : Nat} (lined : buffer.Lined) (positive : 0 < count)
  (inText : row + count ≤ buffer.lineCount)

include lined positive inText

/-- The register gives the rows back as they were. -/
theorem insertLines_pieces (left : Buffer) (place : Nat) :
    left.insertLines place
        (Register.pieces (Register.joined (buffer.rows row count))) =
      left.insertLines place (buffer.rows row count) := by
  rw [Register.pieces_joined]
  · exact Buffer.rows_ne_nil (by omega) positive
  · exact lined.rows row count

/-- With a row left below, the cursor is in the place of the cut. -/
theorem CutsRows.pasteBefore_restores {edit : Edit}
    (cuts : CutsRows buffer row count edit)
    (below : row + count < buffer.lineCount) :
    (pasteBefore (.ofLines (buffer.rowsBeside row count)) edit.cursor
      ⟨Register.joined (buffer.rows row count), .lines⟩).buffer =
        some buffer := by
  have length := Buffer.length_rowsBeside inText
  have beside : buffer.rowsBeside row count ≠ [] :=
    List.ne_nil_of_length_pos (by omega)
  have place : edit.cursor.row = row := by
    rw [cuts.cursor, Buffer.lastRow_ofLines beside, length]
    exact Nat.min_eq_left (by omega)
  rw [pasteBefore_lines, insertLines_pieces lined positive inText, place,
    Buffer.insertLines_rows (by omega) beside]

/-- Without one, the cursor is in the row above the cut. -/
theorem CutsRows.pasteAfter_restores {edit : Edit}
    (cuts : CutsRows buffer row count edit)
    (bottom : row + count = buffer.lineCount) (above : 0 < row) :
    (pasteAfter (.ofLines (buffer.rowsBeside row count)) edit.cursor
      ⟨Register.joined (buffer.rows row count), .lines⟩).buffer =
        some buffer := by
  have length := Buffer.length_rowsBeside inText
  have beside : buffer.rowsBeside row count ≠ [] :=
    List.ne_nil_of_length_pos (by omega)
  have place : edit.cursor.row + 1 = row := by
    rw [cuts.cursor, Buffer.lastRow_ofLines beside, length]
    dsimp only
    omega
  rw [pasteAfter_lines, insertLines_pieces lined positive inText, place,
    Buffer.insertLines_rows (by omega) beside]

/-- Of a cut of the whole text an empty line is left, which stays below. -/
theorem CutsRows.pasteBefore_whole {edit : Edit}
    (cuts : CutsRows buffer row count edit) (top : row = 0)
    (bottom : row + count = buffer.lineCount) :
    (pasteBefore (.ofLines (buffer.rowsBeside row count)) edit.cursor
      ⟨Register.joined (buffer.rows row count), .lines⟩).buffer.map
        Buffer.lines = some (buffer.lines ++ [[]]) := by
  have beside : buffer.rowsBeside row count = [] := by
    apply List.eq_nil_of_length_eq_zero
    rw [Buffer.length_rowsBeside inText]
    omega
  have all : buffer.rows row count = buffer.lines := by
    subst top
    rw [Buffer.rows, List.drop_zero]
    exact List.take_of_length_le (by unfold Buffer.lineCount at bottom; omega)
  have place : edit.cursor.row = 0 := by
    rw [cuts.cursor, top]
    exact Nat.zero_min _
  rw [pasteBefore_lines, insertLines_pieces lined positive inText, place, all,
    beside]
  rfl

end PasteBack

/-- Pasting cut rows at the cursor that the cut has left restores the text: in
front of the cursor row if there was a row below them, behind it if there were
only rows above.  After a cut of the whole text, the empty line that stood in
for it comes to be the last. -/
theorem cut_lines_paste_back (lined : buffer.Lined) {first last : Nat}
    (ordered : first ≤ last) (inText : last < buffer.lineCount) {edit : Edit}
    (cut : LineCut buffer first last edit) :
    ∃ left register, edit.buffer = some left ∧
      edit.register = some register ∧
      (last ≠ buffer.lastRow →
        (pasteBefore left edit.cursor register).buffer.map Buffer.lines =
          some buffer.lines) ∧
      (last = buffer.lastRow → 0 < first →
        (pasteAfter left edit.cursor register).buffer.map Buffer.lines =
          some buffer.lines) ∧
      (first = 0 → last = buffer.lastRow →
        (pasteBefore left edit.cursor register).buffer.map Buffer.lines =
          some (buffer.lines ++ [[]])) := by
  have cuts := cut.cutsRows ordered inText
  have count := buffer.lineCount_eq_lastRow_add_one
  have positive : 0 < last + 1 - first := by omega
  have within : first + (last + 1 - first) ≤ buffer.lineCount := by omega
  refine ⟨_, _, cuts.buffer, cuts.register, ?_, ?_, ?_⟩
  · intro inside
    rw [cuts.pasteBefore_restores lined positive within (by omega)]
    rfl
  · intro bottom above
    rw [cuts.pasteAfter_restores lined positive within (by omega) above]
    rfl
  · intro top bottom
    exact cuts.pasteBefore_whole lined positive within top (by omega)

/-- Two rows cut from the bottom, both of them empty. -/
theorem cut_empty_lines_paste_back :
    let buffer := Buffer.ofLines [['a'], [], []]
    let edit := deleteSelection buffer ⟨⟨1, 0⟩, ⟨2, 0⟩, .lines⟩
    buffer.Lined ∧ 1 ≤ 2 ∧ 2 < buffer.lineCount ∧
    LineCut buffer 1 2 edit ∧ 2 = buffer.lastRow ∧
    ∃ left register, edit.buffer = some left ∧
      edit.register = some register ∧
      (pasteAfter left edit.cursor register).buffer.map Buffer.lines =
        some buffer.lines := by
  intro buffer edit
  have lined : buffer.Lined := by decide
  have cut : LineCut buffer 1 2 edit :=
    .selection ⟨⟨1, 0⟩, ⟨2, 0⟩, .lines⟩ rfl rfl rfl
  obtain ⟨left, register, made, filled, _, below, _⟩ :=
    cut_lines_paste_back lined (by decide) (by decide) cut
  exact ⟨lined, by decide, by decide, cut, rfl, left, register, made, filled,
    below rfl (by decide)⟩

end Edit

end ModalTutor
