import ModalTutor.Proofs.BreakRules
import ModalTutor.Proofs.Segmentation
import ModalTutor.Proofs.TextChange

/-!
# Columns and the rules of clusters

A column is found by its place in the UTF-8 form of the line, and what is cut
there is cut into clusters anew when it is read again.
`cuts_respect_clusters` says that this never makes other clusters than the line
had: the pieces of a line are made of whole clusters by the rules, as if the
rest of the line still stood beside them.
-/

namespace ModalTutor

namespace Line

/-- The place of a column in the UTF-8 form lies where the column does. -/
theorem cutAtByte_byteOffset (line : Text) (column : Nat) :
    cutAtByte line (byteOffset line column) =
      (upTo line column, onward line column) := by
  have cut :=
    cutAtByte_byteLength (upTo line column) (onward line column)
  rwa [upTo_append_onward] at cut

/-- Up to a column, the line is the text up to an earlier one and the text
between the two. -/
theorem upTo_append_between (line : Text) {first last : Nat}
    (ordered : first ≤ last) :
    upTo line first ++ between line first last = upTo line last := by
  have whole := upTo_append_between_append_onward line ordered
  exact List.append_cancel_right
    (whole.trans (upTo_append_onward line last).symm)

theorem cutAtByte_upTo (line : Text) {first last : Nat}
    (ordered : first ≤ last) :
    cutAtByte (upTo line last) (byteOffset line first) =
      (upTo line first, between line first last) := by
  rw [← upTo_append_between line ordered]
  exact cutAtByte_byteLength _ _

theorem clusters_between (line : Text) (first last : Nat) :
    clusters (between line first last) =
      ((clusters line).take last).drop first := by
  have piece := clusters_drop (upTo line last) first
  rwa [clusters_upTo] at piece

@[simp] theorem between_zero (line : Text) (column : Nat) :
    between line 0 column = upTo line column := rfl

theorem between_width (line : Text) (column : Nat) :
    between line column (width line) = onward line column := by
  rw [between, onward, width, List.take_length]

end Line

namespace Buffer

variable {buffer : Buffer} {row : Nat}

theorem modifyLine_eq_setLine (buffer : Buffer) (row : Nat)
    (change : Text → Text) :
    buffer.modifyLine row change =
      buffer.setLine row (change (buffer.line row)) := by
  refine eq_of_lines ?_
  rcases Nat.lt_or_ge row buffer.lines.length with inRange | beyond
  · rw [line_eq_getElem inRange]
    simp [modifyLine, setLine, List.modify_eq_set,
      List.getElem?_eq_getElem inRange]
  · simp [modifyLine, setLine, List.modify_eq_self beyond]

/-- What is exchanged is what lies between the columns. -/
theorem exchange_eq (buffer : Buffer) (row first last : Nat) (text : Text) :
    buffer.exchange row first last text =
      (buffer.slice row first last, buffer.splice row first last text) := by
  have ordered : min first last ≤ max first last := by omega
  rw [splice, modifyLine_eq_setLine, slice, exchange]
  simp only [Line.cutAtByte_byteOffset, Line.cutAtByte_upTo _ ordered]

theorem slice_zero (buffer : Buffer) (row column : Nat) :
    buffer.slice row 0 column = Line.upTo (buffer.line row) column := by
  rw [slice_eq_between (Nat.zero_le column), Line.between_zero]

/-- Beyond the end there is nothing left, from which side one may look. -/
theorem slice_width (buffer : Buffer) (row column : Nat) :
    buffer.slice row column (buffer.width row) =
      Line.onward (buffer.line row) column := by
  rcases Nat.le_total column (buffer.width row) with inLine | beyond
  · rw [slice_eq_between inLine]
    exact Line.between_width _ _
  · rw [slice, Nat.min_eq_right beyond, Nat.max_eq_left beyond,
      Line.onward_of_width_le beyond, Line.between, List.drop_eq_nil_of_le,
      List.flatten_nil]
    exact List.length_take_le' _ _

theorem lines_setLine {row : Nat} (inText : row < buffer.lineCount)
    (text : Text) :
    (buffer.setLine row text).lines =
      buffer.lines.take row ++ text :: buffer.lines.drop (row + 1) := by
  simp only [setLine, modifyLine, List.modify_eq_take_cons_drop inText]

theorem lines_breakLine (inText : row < buffer.lineCount) (column : Nat) :
    (buffer.breakLine row column).lines =
      buffer.lines.take row ++
        Line.upTo (buffer.line row) column ::
          Line.onward (buffer.line row) column ::
            buffer.lines.drop (row + 1) := by
  let upper := Line.upTo (buffer.line row) column
  have changed : (buffer.setLine row upper).lines =
      buffer.lines.take row ++ [upper] ++ buffer.lines.drop (row + 1) := by
    rw [lines_setLine inText, List.append_cons]
  have above : (buffer.lines.take row ++ [upper]).length = row + 1 := by
    rw [List.length_append, List.length_take_of_le (Nat.le_of_lt inText)]
    rfl
  rw [breakLine, line?_eq_some inText]
  simp only [insertLine]
  rw [changed, List.take_left' above, List.drop_left' above,
    List.append_assoc]
  rfl

/-- For a line whose clusters by the rules are `parts`: the walk finds just
these; a slice consists of the parts between its columns; a broken line leaves
the parts before the column on the row and those behind it on the next one; and
an exchange gives the slice and puts the text between what is left on both
sides.  A column beyond the end stands for the end throughout. -/
theorem cuts_respect_clusters (buffer : Buffer) {row : Nat} {line : Text}
    (present : buffer.line? row = some line) {parts : List Cluster}
    (segmented : Segmented line parts) {first last : Nat}
    (ordered : first ≤ last) (column : Nat) (text : Text) :
    let count := parts.length
    let cut := Line.cutAtByte line (Line.byteOffset line column)
    clusters line = parts ∧
    Segmented (buffer.slice row first last)
      ((parts.take (min last count)).drop first) ∧
    (buffer.breakLine row column).lines =
      buffer.lines.take row ++ cut.1 :: cut.2 :: buffer.lines.drop (row + 1) ∧
    Segmented cut.1 (parts.take (min column count)) ∧
    Segmented cut.2 (parts.drop (min column count)) ∧
    buffer.exchange row first last text =
      (buffer.slice row first last, buffer.splice row first last text) ∧
    (buffer.splice row first last text).lines = buffer.lines.take row ++
      (buffer.slice row 0 first ++ text ++ buffer.slice row last count) ::
        buffer.lines.drop (row + 1) := by
  intro count cut
  obtain rfl := segmented_iff.mp segmented
  have inText : row < buffer.lineCount :=
    (List.getElem?_eq_some_iff.mp present).1
  have content : buffer.line row = line := by
    rw [Buffer.line, present, Option.getD_some]
  have width : buffer.width row = count := by
    rw [Buffer.width, content]
    rfl
  have cutThere : cut = (Line.upTo line column, Line.onward line column) :=
    Line.cutAtByte_byteOffset line column
  have sliced : clusters (buffer.slice row first last) =
      ((clusters line).take (min last count)).drop first := by
    rw [slice_eq_between ordered, content, Line.clusters_between,
      ← List.take_eq_take_min]
  have upper : clusters cut.1 = (clusters line).take (min column count) := by
    rw [cutThere, Line.clusters_upTo, ← List.take_eq_take_min]
  have lower : clusters cut.2 = (clusters line).drop (min column count) := by
    rw [cutThere, Line.clusters_onward, ← List.drop_eq_drop_min]
  have spliced : buffer.splice row first last text =
      buffer.setLine row (buffer.slice row 0 first ++ text ++
        buffer.slice row last count) := by
    rw [← width, slice_zero, slice_width, splice, modifyLine_eq_setLine,
      Nat.min_eq_left ordered, Nat.max_eq_right ordered]
  refine ⟨rfl, segmented_iff.mpr sliced.symm, ?_, segmented_iff.mpr upper.symm,
    segmented_iff.mpr lower.symm, exchange_eq _ _ _ _ _, ?_⟩
  · rw [cutThere, ← content]
    exact lines_breakLine inText column
  · rw [spliced]
    exact lines_setLine inText _

/-- A cut between two flags and a regional indicator left over, and one behind
a conjunct. -/
theorem cuts_respect_clusters_of_flags :
    let line : Text := ['a', '🇩', '🇪', '🇫', '🇷', '🇮', '\u0915', '\u094D',
      '\u0937', '👩', '\u200D', '🔬', '\u1112', '\u1161', '\u11AB']
    let parts : List Cluster := [['a'], ['🇩', '🇪'], ['🇫', '🇷'], ['🇮'],
      ['\u0915', '\u094D', '\u0937'], ['👩', '\u200D', '🔬'],
      ['\u1112', '\u1161', '\u11AB']]
    let buffer := ofLines [[], line]
    let cut := Line.cutAtByte line (Line.byteOffset line 3)
    buffer.line? 1 = some line ∧ Segmented line parts ∧ 2 ≤ 5 ∧
    clusters line = parts ∧
    Segmented (buffer.slice 1 2 5) ((parts.take (min 5 7)).drop 2) ∧
    (buffer.breakLine 1 3).lines =
      buffer.lines.take 1 ++ cut.1 :: cut.2 :: buffer.lines.drop 2 ∧
    Segmented cut.1 (parts.take (min 3 7)) ∧
    Segmented cut.2 (parts.drop (min 3 7)) ∧
    buffer.exchange 1 2 5 ['b'] =
      (buffer.slice 1 2 5, buffer.splice 1 2 5 ['b']) ∧
    (buffer.splice 1 2 5 ['b']).lines = buffer.lines.take 1 ++
      (buffer.slice 1 0 2 ++ ['b'] ++ buffer.slice 1 5 7) ::
        buffer.lines.drop 2 := by
  intro line parts buffer cut
  have present : buffer.line? 1 = some line := rfl
  have segmented : Segmented line parts :=
    segmented_iff.mpr (by decide +kernel)
  exact ⟨present, segmented, by decide,
    cuts_respect_clusters buffer present segmented (by decide) 3 ['b']⟩

end Buffer

end ModalTutor
