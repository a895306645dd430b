import ModalTutor.Text.Line
import ModalTutor.Text.Position

/-!
# Buffers

A buffer is a list of lines that is never empty: when its only line goes, one
empty line stands in for it.  Rows and columns beyond the text stand for its
end, so every operation is total.
-/

namespace ModalTutor

structure Buffer where
  lines : List Text
  lines_ne_nil : lines ≠ []
  deriving DecidableEq, Repr

/-- A line ends at a line feed, and a carriage return right before the line
feed is part of the ending.  What follows the last ending is a line only if it
holds something. -/
def splitLines : Text → List Text
  | [] => []
  | '\n' :: rest => [] :: splitLines rest
  | '\r' :: '\n' :: rest => [] :: splitLines rest
  | character :: rest =>
      match splitLines rest with
      | [] => [[character]]
      | line :: later => (character :: line) :: later

namespace Buffer

/-- No lines at all are read as one empty line. -/
def ofLines : List Text → Buffer
  | [] => ⟨[[]], by simp⟩
  | line :: rest => ⟨line :: rest, by simp⟩

def ofText (text : Text) : Buffer :=
  ofLines (splitLines text)

theorem lines_ofLines {lines : List Text} (nonempty : lines ≠ []) :
    (ofLines lines).lines = lines := by
  cases lines with
  | nil => exact absurd rfl nonempty
  | cons line rest => rfl

def lineCount (buffer : Buffer) : Nat :=
  buffer.lines.length

def lastRow (buffer : Buffer) : Nat :=
  buffer.lineCount - 1

theorem lineCount_pos (buffer : Buffer) : 0 < buffer.lineCount :=
  List.length_pos_iff.mpr buffer.lines_ne_nil

def line? (buffer : Buffer) (row : Nat) : Option Text :=
  buffer.lines[row]?

/-- A missing line reads as an empty one. -/
def line (buffer : Buffer) (row : Nat) : Text :=
  (buffer.line? row).getD []

def width (buffer : Buffer) (row : Nat) : Nat :=
  Line.width (buffer.line row)

def isBlankRow (buffer : Buffer) (row : Nat) : Bool :=
  isBlank (buffer.line row)

/-- Changes one line; a missing line stays missing. -/
def modifyLine (buffer : Buffer) (row : Nat) (change : Text → Text) :
    Buffer where
  lines := buffer.lines.modify row change
  lines_ne_nil := by simpa using buffer.lines_ne_nil

def setLine (buffer : Buffer) (row : Nat) (text : Text) : Buffer :=
  buffer.modifyLine row fun _ => text

/-- The new line becomes line `row`, or the last one. -/
def insertLine (buffer : Buffer) (row : Nat) (text : Text) : Buffer where
  lines := buffer.lines.take row ++ text :: buffer.lines.drop row
  lines_ne_nil := by simp

/-- The lines from `row` on move down to make room for `block`. -/
def insertLines (buffer : Buffer) (row : Nat) (block : List Text) :
    Buffer where
  lines := buffer.lines.take row ++ block ++ buffer.lines.drop row
  lines_ne_nil := by
    have nonempty := List.length_pos_iff.mpr buffer.lines_ne_nil
    intro empty
    have := congrArg List.length empty
    simp only [List.length_append, List.length_take, List.length_drop,
      List.length_nil] at this
    omega

def removeLine (buffer : Buffer) (row : Nat) : Buffer :=
  ofLines (buffer.lines.eraseIdx row)

/-- The text between two columns of a row, in whichever order they come. -/
def slice (buffer : Buffer) (row first last : Nat) : Text :=
  Line.between (buffer.line row) (min first last) (max first last)

/-- Puts `text` in the place of what lies between two columns of a row. -/
def splice (buffer : Buffer) (row first last : Nat) (text : Text) : Buffer :=
  buffer.modifyLine row fun line =>
    Line.upTo line (min first last) ++ text ++
      Line.onward line (max first last)

/-- Puts `text` in the place of what lies between two columns of a row, and
gives what lay there. -/
def exchange (buffer : Buffer) (row first last : Nat) (text : Text) :
    Text × Buffer :=
  let line := buffer.line row
  let start := Line.byteOffset line (min first last)
  let stop := Line.byteOffset line (max first last)
  let kept := Line.cutAtByte line start
  let removed := Line.cutAtByte (Line.cutAtByte line stop).1 start
  (removed.2,
    buffer.setLine row (kept.1 ++ text ++ (Line.cutAtByte line stop).2))

/-- The text from `column` on becomes a line of its own below. -/
def breakLine (buffer : Buffer) (row column : Nat) : Buffer :=
  match buffer.line? row with
  | none => buffer
  | some line =>
      (buffer.setLine row (Line.upTo line column)).insertLine (row + 1)
        (Line.onward line column)

def joined (buffer : Buffer) (separator : Text) : Text :=
  List.intercalate separator buffer.lines

end Buffer

namespace Position

/-- The nearest position on a character, or column 0 of an empty line. -/
def onCharacter (position : Position) (buffer : Buffer) : Position :=
  let row := min position.row buffer.lastRow
  ⟨row, min position.column (buffer.width row - 1)⟩

/-- The nearest position on a character or right after the last one. -/
def betweenCharacters (position : Position) (buffer : Buffer) : Position :=
  let row := min position.row buffer.lastRow
  ⟨row, min position.column (buffer.width row)⟩

end Position

end ModalTutor
