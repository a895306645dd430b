import ModalTutor.Proofs.CursorRange

/-!
# Operations that change a text

A new line always makes another text.  Putting a text in the place of another
one does so unless the two are equal, and no column of a line is empty.
-/

namespace ModalTutor

namespace Line

@[simp] theorem between_self (line : Text) (column : Nat) :
    between line column column = [] := by
  rw [between, List.drop_eq_nil_of_le, List.flatten_nil]
  exact List.length_take_le _ _

/-- A column beyond the end stands for the end. -/
theorem between_min_width (line : Text) (first last : Nat) :
    between line first (min last (width line)) = between line first last := by
  rw [between, between, width, ← List.take_eq_take_min]

theorem between_add_one (line : Text) (column : Nat) :
    between line column (column + 1) = (clusterAt? line column).getD [] := by
  unfold between clusterAt?
  rw [List.drop_take, Nat.add_sub_cancel_left, List.take_one,
    List.head?_drop]
  cases (clusters line)[column]? with
  | none => rfl
  | some cluster => simp

theorem between_ne_nil {line : Text} {first last : Nat}
    (ordered : first < last) (inLine : first < width line) :
    between line first last ≠ [] := by
  intro empty
  have inside : first < (clusters line).length := inLine
  have allEmpty := List.flatten_eq_nil_iff.mp empty
  have member : (clusters line)[first] ∈
      ((clusters line).take last).drop first := by
    apply List.mem_drop_iff_getElem.mpr
    refine ⟨0, ?_, ?_⟩
    · rw [List.length_take]
      omega
    · simp only [List.getElem_take, Nat.add_zero]
  exact ne_nil_of_mem_clusters (List.getElem_mem _) (allEmpty _ member)

end Line

namespace Buffer

/-- Buffers with the same lines are the same. -/
theorem eq_of_lines {left right : Buffer} (same : left.lines = right.lines) :
    left = right := by
  cases left
  cases right
  cases same
  rfl

theorem line_eq_getElem {buffer : Buffer} {row : Nat}
    (inRange : row < buffer.lines.length) :
    buffer.line row = buffer.lines[row] := by
  rw [line, line?, List.getElem?_eq_getElem inRange]
  rfl

theorem line?_eq_some {buffer : Buffer} {row : Nat}
    (inText : row < buffer.lineCount) :
    buffer.line? row = some (buffer.line row) := by
  rw [line_eq_getElem inText]
  exact List.getElem?_eq_getElem inText

theorem modifyLine_eq_self_iff {buffer : Buffer} {row : Nat}
    {change : Text → Text} (inRange : row < buffer.lines.length) :
    buffer.modifyLine row change = buffer ↔
      change (buffer.line row) = buffer.line row := by
  rw [line_eq_getElem inRange]
  constructor
  · intro same
    have rows := congrArg (fun other => other.lines[row]?) same
    simpa [modifyLine, List.getElem?_eq_getElem inRange] using rows
  · intro same
    have lines : buffer.lines.modify row change = buffer.lines := by
      rw [List.modify_eq_set, List.getElem?_eq_getElem inRange,
        Option.getD_some, same, List.set_getElem_self]
    simp only [modifyLine, lines]

theorem slice_eq_between {buffer : Buffer} {row first last : Nat}
    (ordered : first ≤ last) :
    buffer.slice row first last =
      Line.between (buffer.line row) first last := by
  rw [slice, Nat.min_eq_left ordered, Nat.max_eq_right ordered]

/-- Only the same text in its own place leaves everything as it is. -/
theorem splice_eq_self_iff {buffer : Buffer} {row first last : Nat}
    {text : Text} (inRange : row < buffer.lineCount)
    (ordered : first ≤ last) :
    buffer.splice row first last text = buffer ↔
      Line.between (buffer.line row) first last = text := by
  have whole :=
    Line.upTo_append_between_append_onward (buffer.line row) ordered
  rw [splice, modifyLine_eq_self_iff inRange, Nat.min_eq_left ordered,
    Nat.max_eq_right ordered]
  constructor
  · intro same
    have middle := List.append_cancel_right (same.trans whole.symm)
    exact (List.append_cancel_left middle).symm
  · intro same
    rw [← same]
    exact whole

theorem insertLine_ne_self (buffer : Buffer) (row : Nat) (text : Text) :
    buffer.insertLine row text ≠ buffer := by
  intro same
  have counts := congrArg lineCount same
  rw [lineCount_insertLine] at counts
  exact Nat.succ_ne_self _ counts

theorem breakLine_ne_self {buffer : Buffer} {row : Nat} (column : Nat)
    (inRange : row < buffer.lineCount) :
    buffer.breakLine row column ≠ buffer := by
  intro same
  have counts := congrArg lineCount same
  rw [lineCount_breakLine column inRange] at counts
  exact Nat.succ_ne_self _ counts

end Buffer

end ModalTutor
