import ModalTutor.Editor.Basic

/-!
# Edits

The text operators as functions of a buffer and a cursor.  An edit says what
becomes of these and of the register; whether it goes into the history is not
its concern.
-/

namespace ModalTutor

namespace Line

/-- Where the run of the class at a column ends. -/
def runEnd (classes : List CharClass) (column : Nat) : Nat :=
  match classes.drop column with
  | [] => column
  | first :: rest => column + 1 + (rest.takeWhile (· = first)).length

/-- The columns of the word at a column and of the white space after it, or of
a run of white space. -/
def wordSpan (line : Text) (column : Nat) : Nat × Nat :=
  let classes := charClasses line
  let runEnd := runEnd classes column
  if classes[column]? = some .whitespace then (column, runEnd)
  else
    let space := (classes.drop runEnd).takeWhile (· = .whitespace)
    (column, runEnd + space.length)

/-- The columns of the run at a column. -/
def changeSpan (line : Text) (column : Nat) : Nat × Nat :=
  (column, runEnd (charClasses line) column)

end Line

namespace Buffer

/-- Removes the line at a row several times over.  Gives the lines that went
and the buffer that is left. -/
def removeLines (row : Nat) : Nat → Buffer → List Text × Buffer
  | 0, buffer => ([], buffer)
  | count + 1, buffer =>
      match buffer.line? row with
      | none => ([], buffer)
      | some line =>
          let after := removeLines row count (buffer.removeLine row)
          (line :: after.1, after.2)

end Buffer

structure Edit where
  /-- The new buffer, if the edit makes one. -/
  buffer : Option Buffer
  cursor : Position
  notice : Option Notice
  /-- The new register, if the edit fills it. -/
  register : Option Register
  /-- Typing is to follow. -/
  entersInsert : Bool
  deriving DecidableEq, Repr

namespace Edit

def unchanged (cursor : Position) (notice : Option Notice) : Edit :=
  ⟨none, cursor, notice, none, false⟩

/-- Takes the text between two columns out of the cursor row. -/
def cut (buffer : Buffer) (cursor : Position) (first last : Nat)
    (notice : Notice) : Edit where
  buffer := some (buffer.splice cursor.row first last [])
  cursor := cursor
  notice := some notice
  register :=
    Register.holding? (buffer.slice cursor.row first last) .characters
  entersInsert := false

def deleteChar (buffer : Buffer) (cursor : Position) : Edit :=
  if cursor.column < buffer.width cursor.row then
    cut buffer cursor cursor.column (cursor.column + 1) .deletedCharacter
  else unchanged cursor (some .nothingToDelete)

def deleteLine (buffer : Buffer) (cursor : Position) : Edit :=
  match buffer.line? cursor.row with
  | none => unchanged cursor (some .nothingToDelete)
  | some line =>
      let rest := buffer.removeLine cursor.row
      { buffer := some rest
        cursor := ⟨min cursor.row rest.lastRow, 0⟩
        notice := some .deletedLine
        register := Register.holding? line .lines
        entersInsert := false }

def deleteWord (buffer : Buffer) (cursor : Position) : Edit :=
  let span := Line.wordSpan (buffer.line cursor.row) cursor.column
  if span.1 = span.2 then unchanged cursor (some .nothingToDelete)
  else cut buffer cursor span.1 span.2 .deletedWord

def deleteToLineEnd (buffer : Buffer) (cursor : Position) : Edit :=
  let width := buffer.width cursor.row
  if cursor.column < width then
    cut buffer cursor cursor.column width .deletedToLineEnd
  else unchanged cursor (some .nothingToDelete)

/-- Typing follows even when there was nothing to delete. -/
def changeWord (buffer : Buffer) (cursor : Position) : Edit :=
  let span := Line.changeSpan (buffer.line cursor.row) cursor.column
  if span.1 = span.2 then { unchanged cursor none with entersInsert := true }
  else
    { cut buffer cursor span.1 span.2 .changedWord with
      entersInsert := true }

def yankNotice (text : Text) : Notice :=
  if text = [] then .nothingToYank else .yanked text

def yankLine (buffer : Buffer) (cursor : Position) : Edit :=
  let line := buffer.line cursor.row
  { unchanged cursor (some (.yanked line)) with
    register := Register.holding? line .lines }

def yankWord (buffer : Buffer) (cursor : Position) : Edit :=
  let span := Line.wordSpan (buffer.line cursor.row) cursor.column
  let text := buffer.slice cursor.row span.1 span.2
  { unchanged cursor (some (yankNotice text)) with
    register := Register.holding? text .characters }

def replaceChar (buffer : Buffer) (cursor : Position) (character : Char) :
    Edit :=
  if cursor.column < buffer.width cursor.row then
    let column := cursor.column
    { unchanged cursor (some (.replacedWith character)) with
      buffer :=
        some (buffer.splice cursor.row column (column + 1) [character]) }
  else unchanged cursor (some .nothingToReplace)

/-- Puts whole lines in front of a row; the cursor goes to the first. -/
def pasteLines (buffer : Buffer) (cursor : Position) (row : Nat)
    (lines : List Text) (notice : Notice) : Edit :=
  let pasted := buffer.insertLines row lines
  { unchanged cursor (some notice) with
    buffer := some pasted
    cursor := ⟨min row pasted.lastRow, 0⟩ }

/-- Puts characters in front of a column; the cursor goes to the last. -/
def pasteCharacters (buffer : Buffer) (cursor : Position) (column : Nat)
    (text : Text) (notice : Notice) : Edit :=
  { unchanged cursor (some notice) with
    buffer := some (buffer.splice cursor.row column column text)
    cursor := ⟨cursor.row, column + (Line.width text - 1)⟩ }

def pasteAfter (buffer : Buffer) (cursor : Position) (register : Register) :
    Edit :=
  if register.isEmpty then unchanged cursor (some .registerEmpty)
  else
    match register.extent with
    | .lines =>
        pasteLines buffer cursor (cursor.row + 1) register.lines .pastedBelow
    | .characters =>
        pasteCharacters buffer cursor
          (min (cursor.column + 1) (buffer.width cursor.row))
          register.content .pastedAfter

def pasteBefore (buffer : Buffer) (cursor : Position) (register : Register) :
    Edit :=
  if register.isEmpty then unchanged cursor (some .registerEmpty)
  else
    match register.extent with
    | .lines =>
        pasteLines buffer cursor cursor.row register.lines .pastedAbove
    | .characters =>
        pasteCharacters buffer cursor
          (min cursor.column (buffer.width cursor.row))
          register.content .pastedBefore

/-- Of a selection of characters only the first row counts. -/
def deleteSelection (buffer : Buffer) (selection : Selection) : Edit :=
  let start := selection.first
  match selection.extent with
  | .characters =>
      let last := min (selection.last.column + 1) (buffer.width start.row)
      if start.column < last then
        cut buffer start start.column last .deletedSelection
      else unchanged start (some .nothingToDelete)
  | .lines =>
      let parts := buffer.removeLines start.row selection.rowCount
      { buffer := some parts.2
        cursor := ⟨min start.row parts.2.lastRow, 0⟩
        notice := some .deletedSelection
        register := Register.holding? (Register.joined parts.1) .lines
        entersInsert := false }

/-- The cursor goes to the start of what was copied. -/
def yankSelection (buffer : Buffer) (selection : Selection) : Edit :=
  let start := selection.first
  match selection.extent with
  | .characters =>
      let text :=
        buffer.slice start.row start.column (selection.last.column + 1)
      { unchanged start (some (yankNotice text)) with
        register := Register.holding? text .characters }
  | .lines =>
      let lines := (buffer.lines.drop start.row).take selection.rowCount
      let notice : Notice :=
        match lines with
        | [line] => .yanked line
        | _ => .yankedLines lines.length
      { unchanged ⟨start.row, 0⟩ (some notice) with
        register := Register.holding? (Register.joined lines) .lines }

end Edit

end ModalTutor
