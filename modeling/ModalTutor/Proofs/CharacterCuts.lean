import ModalTutor.Proofs.LinedText
import ModalTutor.Proofs.TextChange
import ModalTutor.Proofs.Words

/-!
# Deleting characters

The operators that delete characters of the cursor row differ only in how far
they reach.  Each takes out the text from the cursor up to some later column,
or does nothing at all if the cursor is not on a character.
`Edit.deletions_lose_nothing` says that what is taken out is just what the
register holds then.
-/

namespace ModalTutor

namespace Buffer

/-- The buffer `after` is `before` without the text `removed`, which stood at a
column of one row. -/
structure Loses (before after : Buffer) (place : Position) (removed : Text) :
    Prop where
  row : ∃ rest,
    before.line? place.row =
        some (Line.upTo (before.line place.row) place.column ++ removed ++
          rest) ∧
      after.line? place.row =
        some (Line.upTo (before.line place.row) place.column ++ rest)
  others : ∀ row, row ≠ place.row → after.line? row = before.line? row

theorem Loses.ne {before after : Buffer} {place : Position} {removed : Text}
    (loses : before.Loses after place removed) (nonempty : removed ≠ []) :
    after ≠ before := by
  rintro rfl
  obtain ⟨rest, whole, left⟩ := loses.row
  have lengths := congrArg List.length (Option.some.inj (whole.symm.trans left))
  have positive := List.length_pos_iff.mpr nonempty
  simp only [List.length_append] at lengths
  omega

variable {buffer : Buffer} {row : Nat}

theorem line?_modifyLine (inText : row < buffer.lineCount)
    (change : Text → Text) :
    (buffer.modifyLine row change).line? row =
      some (change (buffer.line row)) := by
  have present : buffer.lines[row]? = some (buffer.line row) :=
    line?_eq_some inText
  simp [modifyLine, line?, present]

theorem line?_modifyLine_of_ne {other : Nat} (apart : other ≠ row)
    (change : Text → Text) :
    (buffer.modifyLine row change).line? other = buffer.line? other := by
  simp [modifyLine, line?, apart.symm]

theorem splice_loses (inText : row < buffer.lineCount) {first last : Nat}
    (ordered : first ≤ last) :
    buffer.Loses (buffer.splice row first last []) ⟨row, first⟩
      (Line.between (buffer.line row) first last) where
  row := by
    refine ⟨Line.onward (buffer.line row) last, ?_, ?_⟩
    · rw [Line.upTo_append_between_append_onward _ ordered]
      exact line?_eq_some inText
    · rw [splice, line?_modifyLine inText, Nat.min_eq_left ordered,
        Nat.max_eq_right ordered, List.append_nil]
  others other apart := line?_modifyLine_of_ne apart _

end Buffer

namespace Line

variable {line : Text} {column : Nat}

theorem lt_runEnd {classes : List CharClass}
    (inside : column < classes.length) : column < runEnd classes column := by
  rw [runEnd, List.drop_eq_getElem_cons inside]
  dsimp only
  omega

theorem runEnd_of_length_le {classes : List CharClass}
    (beyond : classes.length ≤ column) : runEnd classes column = column := by
  rw [runEnd, List.drop_eq_nil_of_le beyond]

theorem lt_changeSpan (inLine : column < width line) :
    column < (changeSpan line column).2 :=
  lt_runEnd (by rwa [length_charClasses])

theorem changeSpan_of_width_le (beyond : width line ≤ column) :
    changeSpan line column = (column, column) := by
  rw [changeSpan, runEnd_of_length_le (by rwa [length_charClasses])]

/-- A word reaches at least as far as its first run. -/
theorem changeSpan_le_wordSpan (line : Text) (column : Nat) :
    (changeSpan line column).2 ≤ (wordSpan line column).2 := by
  unfold wordSpan changeSpan
  dsimp only
  split
  · exact Nat.le_refl _
  · exact Nat.le_add_right _ _

theorem wordSpan_fst (line : Text) (column : Nat) :
    (wordSpan line column).1 = column := by
  rw [wordSpan_eq]

theorem wordSpan_of_width_le (beyond : width line ≤ column) :
    wordSpan line column = (column, column) := by
  have outside : (charClasses line).length ≤ column := by
    rwa [length_charClasses]
  simp [wordSpan, runEnd_of_length_le outside,
    List.getElem?_eq_none outside, List.drop_eq_nil_of_le outside]

end Line

/-- The operators that delete characters of the cursor row. -/
inductive Deletion where
  | character
  | word
  | toLineEnd
  /-- The word is to be typed anew. -/
  | change
  deriving DecidableEq, Repr

/-- The edit that an operator makes at a cursor. -/
def Deletion.edit : Deletion → Buffer → Position → Edit
  | character => Edit.deleteChar
  | word => Edit.deleteWord
  | toLineEnd => Edit.deleteToLineEnd
  | change => Edit.changeWord

namespace Edit

/-- The edit leaves both the text and the register alone. -/
def TakesNothing (edit : Edit) : Prop :=
  edit.buffer = none ∧ edit.register = none

/-- The edit takes a text out at the cursor and into the register. -/
def TakesOut (edit : Edit) (buffer : Buffer) (cursor : Position) : Prop :=
  ∃ after removed, edit.buffer = some after ∧ after ≠ buffer ∧
    buffer.Loses after cursor removed ∧ removed ≠ [] ∧
    edit.register = some ⟨removed, .characters⟩

/-- A cut from the cursor on, or nothing if the cursor is on no character. -/
inductive DeletesFrom (buffer : Buffer) (cursor : Position) : Edit → Prop where
  | cut (last : Nat) (notice : Notice) (entersInsert : Bool)
      (ordered : cursor.column < last)
      (inLine : cursor.column < buffer.width cursor.row) :
      DeletesFrom buffer cursor
        { cut buffer cursor cursor.column last notice with entersInsert }
  | nothing (notice : Option Notice) (entersInsert : Bool)
      (beyond : buffer.width cursor.row ≤ cursor.column) :
      DeletesFrom buffer cursor { unchanged cursor notice with entersInsert }

theorem holding?_characters {content : Text} (nonempty : content ≠ []) :
    Register.holding? content .characters = some ⟨content, .characters⟩ := by
  simp [Register.holding?, Register.isEmpty, nonempty]

variable {buffer : Buffer} {cursor : Position}

theorem cut_register {last : Nat} (ordered : cursor.column < last)
    (inLine : cursor.column < buffer.width cursor.row) (notice : Notice) :
    (cut buffer cursor cursor.column last notice).register =
      some ⟨Line.between (buffer.line cursor.row) cursor.column last,
        .characters⟩ := by
  rw [cut, Buffer.slice_eq_between (Nat.le_of_lt ordered)]
  exact holding?_characters (Line.between_ne_nil ordered inLine)

theorem cut_takesOut {last : Nat} (ordered : cursor.column < last)
    (inLine : cursor.column < buffer.width cursor.row) (notice : Notice) :
    (cut buffer cursor cursor.column last notice).TakesOut buffer cursor := by
  have nonempty := Line.between_ne_nil ordered inLine
  have loses := Buffer.splice_loses (Buffer.row_lt_of_lt_width inLine)
    (Nat.le_of_lt ordered)
  exact ⟨_, _, rfl, loses.ne nonempty, loses, nonempty,
    cut_register ordered inLine notice⟩

theorem DeletesFrom.cursor_eq {edit : Edit}
    (deletes : DeletesFrom buffer cursor edit) : edit.cursor = cursor := by
  cases deletes <;> rfl

/-- Text is taken out just where there is some. -/
theorem DeletesFrom.takes {edit : Edit}
    (deletes : DeletesFrom buffer cursor edit) :
    if cursor.column < buffer.width cursor.row then
      edit.TakesOut buffer cursor
    else edit.TakesNothing := by
  cases deletes with
  | cut last notice entersInsert ordered inLine =>
      rw [if_pos inLine]
      exact cut_takesOut ordered inLine notice
  | nothing notice entersInsert beyond =>
      rw [if_neg (Nat.not_lt_of_le beyond)]
      exact ⟨rfl, rfl⟩

theorem deleteChar_deletesFrom (buffer : Buffer) (cursor : Position) :
    DeletesFrom buffer cursor (deleteChar buffer cursor) := by
  unfold deleteChar
  split
  · next inLine =>
      exact .cut _ .deletedCharacter false (Nat.lt_succ_self _) inLine
  · next beyond => exact .nothing _ false (Nat.le_of_not_lt beyond)

theorem deleteToLineEnd_deletesFrom (buffer : Buffer) (cursor : Position) :
    DeletesFrom buffer cursor (deleteToLineEnd buffer cursor) := by
  unfold deleteToLineEnd
  dsimp only
  split
  · next inLine => exact .cut _ .deletedToLineEnd false inLine inLine
  · next beyond => exact .nothing _ false (Nat.le_of_not_lt beyond)

theorem deleteWord_deletesFrom (buffer : Buffer) (cursor : Position) :
    DeletesFrom buffer cursor (deleteWord buffer cursor) := by
  unfold deleteWord
  dsimp only
  rw [Line.wordSpan_fst]
  rcases Nat.lt_or_ge cursor.column (buffer.width cursor.row)
    with inLine | beyond
  · have ordered := Nat.lt_of_lt_of_le (Line.lt_changeSpan inLine)
      (Line.changeSpan_le_wordSpan _ _)
    rw [if_neg (Nat.ne_of_lt ordered)]
    exact .cut _ .deletedWord false ordered inLine
  · rw [Line.wordSpan_of_width_le beyond, if_pos rfl]
    exact .nothing _ false beyond

theorem changeWord_deletesFrom (buffer : Buffer) (cursor : Position) :
    DeletesFrom buffer cursor (changeWord buffer cursor) := by
  unfold changeWord
  dsimp only
  rcases Nat.lt_or_ge cursor.column (buffer.width cursor.row)
    with inLine | beyond
  · have ordered := Line.lt_changeSpan inLine
    have apart : (Line.changeSpan (buffer.line cursor.row) cursor.column).1 ≠
        (Line.changeSpan (buffer.line cursor.row) cursor.column).2 :=
      Nat.ne_of_lt ordered
    rw [if_neg apart]
    exact .cut _ .changedWord true ordered inLine
  · rw [Line.changeSpan_of_width_le beyond, if_pos rfl]
    exact .nothing _ true beyond

theorem deletion_deletesFrom (deletion : Deletion) (buffer : Buffer)
    (cursor : Position) :
    DeletesFrom buffer cursor (deletion.edit buffer cursor) := by
  cases deletion with
  | character => exact deleteChar_deletesFrom buffer cursor
  | word => exact deleteWord_deletesFrom buffer cursor
  | toLineEnd => exact deleteToLineEnd_deletesFrom buffer cursor
  | change => exact changeWord_deletesFrom buffer cursor

/-- Copying a word fills the register as deleting it does. -/
theorem yankWord_register (buffer : Buffer) (cursor : Position) :
    (yankWord buffer cursor).register =
      (deleteWord buffer cursor).register := by
  unfold yankWord deleteWord
  dsimp only
  split
  · next empty =>
      rw [empty, Buffer.slice_eq_between (Nat.le_refl _), Line.between_self]
      rfl
  · rfl

/-- A deletion takes a text out of the cursor row at the cursor, and the
register holds that very text; or it takes nothing, which it does just if the
cursor is in no row or not on a character.  Copying a word fills the register
as deleting it does. -/
theorem deletions_lose_nothing (deletion : Deletion) (buffer : Buffer)
    (cursor : Position) :
    let edit := deletion.edit buffer cursor
    edit.cursor = cursor ∧
    (edit.TakesOut buffer cursor ∨ edit.TakesNothing) ∧
    (edit.TakesNothing ↔
      buffer.lineCount ≤ cursor.row ∨
        buffer.width cursor.row ≤ cursor.column) ∧
    (yankWord buffer cursor).register =
      (deleteWord buffer cursor).register := by
  intro edit
  have deletes := deletion_deletesFrom deletion buffer cursor
  have takes := deletes.takes
  refine ⟨deletes.cursor_eq, ?_, ?_, yankWord_register buffer cursor⟩
  · split at takes
    · exact .inl takes
    · exact .inr takes
  · split at takes
    · next inLine =>
        obtain ⟨after, removed, made, _⟩ := takes
        have inText := Buffer.row_lt_of_lt_width inLine
        constructor
        · rintro ⟨unmade, _⟩
          rw [made] at unmade
          cases unmade
        · omega
    · next beyond =>
        exact ⟨fun _ => .inr (Nat.le_of_not_lt beyond), fun _ => takes⟩

/-- From inside a word, deleting it takes the white space behind it along. -/
example :
    let buffer := Buffer.ofLines [['a', 'b', ' ', ' ', 'c']]
    (Deletion.word.edit buffer ⟨0, 1⟩).register =
        some ⟨['b', ' ', ' '], .characters⟩ ∧
      (Deletion.change.edit buffer ⟨0, 1⟩).register =
        some ⟨['b'], .characters⟩ := by
  decide +kernel

end Edit

end ModalTutor
