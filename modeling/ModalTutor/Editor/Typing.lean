import ModalTutor.Editor.Basic
import ModalTutor.Editor.Response
import ModalTutor.Key.Basic

/-!
# Typing

Keys in the insert, replace and search modes.  All text typed in one go shares
one snapshot of the history; a new line or an arrow key ends the run.
-/

namespace ModalTutor

/-- The row and column next to a position in the direction of an arrow. -/
def KeyCode.arrow? (code : KeyCode) (position : Position) : Option Position :=
  match code with
  | left => some ⟨position.row, position.column - 1⟩
  | right => some ⟨position.row, position.column + 1⟩
  | up => some ⟨position.row - 1, position.column⟩
  | down => some ⟨position.row + 1, position.column⟩
  | _ => none

namespace Editor

/-- Lets the cursor stand right after the last character. -/
def settleTyping (editor : Editor) : Editor :=
  { editor with cursor := editor.cursor.betweenCharacters editor.buffer }

/-- Changes the text as part of a typing run. -/
def typeChange (editor : Editor) (buffer : Buffer) (cursor : Position) :
    Editor :=
  { editor.recordTyping with buffer, cursor }

def moveTyping (editor : Editor) (target : Position) : Editor :=
  { editor with cursor := target.betweenCharacters editor.buffer }.closeRun

def typeCharacter (editor : Editor) (character : Char) : Editor :=
  let row := editor.cursor.row
  let column := editor.cursor.column
  editor.typeChange (editor.buffer.splice row column column [character])
    ⟨row, column + 1⟩

def typeOver (editor : Editor) (character : Char) : Editor :=
  let row := editor.cursor.row
  let column := editor.cursor.column
  let last := min (column + 1) (editor.buffer.width row)
  editor.typeChange (editor.buffer.splice row column last [character])
    ⟨row, column + 1⟩

def typeNewline (editor : Editor) : Editor :=
  let row := editor.cursor.row
  let column := editor.cursor.column
  (editor.typeChange (editor.buffer.breakLine row column)
    ⟨row + 1, 0⟩).closeRun

/-- Removes the character before the cursor. -/
def typeBackspace (editor : Editor) : Editor :=
  let row := editor.cursor.row
  let column := editor.cursor.column
  editor.typeChange (editor.buffer.splice row (column - 1) column [])
    ⟨row, column - 1⟩

def insertKey (editor : Editor) (key : Key) : Response × Editor :=
  let editor := editor.settleTyping
  match key.code with
  | .enter => (.changed, editor.typeNewline)
  | .backspace =>
      if editor.cursor.column = 0 then (.clean, editor)
      else (.changed, editor.typeBackspace)
  | code =>
      match code.arrow? editor.cursor with
      | some target => (.shown, editor.moveTyping target)
      | none =>
          match key.printable? with
          | some character => (.changed, editor.typeCharacter character)
          | none => (.clean, editor)

/-- Backspace only moves, since what was typed over is gone. -/
def replaceKey (editor : Editor) (key : Key) : Response × Editor :=
  let editor := editor.settleTyping
  match key.code with
  | .backspace =>
      (.shown, { editor with
        cursor := ⟨editor.cursor.row, editor.cursor.column - 1⟩ })
  | code =>
      match code.arrow? editor.cursor with
      | some target => (.shown, editor.moveTyping target)
      | none =>
          match key.printable? with
          | some character => (.changed, editor.typeOver character)
          | none => (.clean, editor)

def showPrompt (editor : Editor) (prompt : Prompt) : Editor :=
  { editor with prompt }.say (.shown prompt.display)

end Editor

end ModalTutor
