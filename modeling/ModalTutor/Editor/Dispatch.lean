import ModalTutor.Editor.Edit
import ModalTutor.Editor.Interpretation
import ModalTutor.Editor.Typing

/-!
# Running commands

What every command does to an editor.  Whether a command is allowed is decided
before it comes here.
-/

namespace ModalTutor

namespace Editor

/-- Ends whatever the mode was doing and goes back to the normal mode. -/
def leave (editor : Editor) : Editor :=
  let editor :=
    match editor.mode with
    | .insert | .replace => editor.closeRun
    | .visual | .visualLine => { editor with anchor := none }
    | .search => { editor with prompt := editor.prompt.clear }
    | .normal => editor
  { editor with mode := .normal, pending := .none, notice := none }.settle

def enter (editor : Editor) (mode : Mode) : Editor :=
  { editor with mode, notice := mode.banner? }

def moveBy (editor : Editor) (motion : Motion) : Response × Editor :=
  let moved :=
    { editor with
      cursor := motion.apply editor.buffer editor.cursor }.settle
  (if editor.cursor = moved.cursor then .clean else .shown, moved)

/-- Goes into typing from a column of the cursor row. -/
def insertFrom (editor : Editor) (column : Nat) : Response × Editor :=
  let placed := { editor with cursor := ⟨editor.cursor.row, column⟩ }
  (.shown, placed.closeRun.enter .insert)

/-- Opens an empty line at a row and types there. -/
def openLine (editor : Editor) (row : Nat) : Response × Editor :=
  let opened :=
    { editor.record with
      buffer := editor.buffer.insertLine row []
      cursor := ⟨row, 0⟩ }
  (.changed, opened.openRun.enter .insert)

def startReplacing (editor : Editor) : Response × Editor :=
  (.shown, editor.closeRun.enter .replace)

/-- Starts selecting, goes over to the other extent, or stops. -/
def toggleVisual (editor : Editor) (mode : Mode) : Response × Editor :=
  if editor.mode = mode then (.shown, editor.leave)
  else if editor.mode.isVisual then (.shown, editor.enter mode)
  else (.shown, { editor with anchor := some editor.cursor }.enter mode)

def startSearch (editor : Editor) (direction : Direction) :
    Response × Editor :=
  (.shown, { editor with mode := .search }.showPrompt ⟨[], direction⟩)

/-- Carries out an edit, which is recorded only if it changes the text. -/
def applyEdit (editor : Editor) (edit : Edit) : Editor :=
  let changed :=
    match edit.buffer with
    | none => editor
    | some buffer =>
        if buffer = editor.buffer then editor
        else { editor.record with buffer }
  { changed with
    cursor := edit.cursor
    register := edit.register.getD editor.register
    notice := edit.notice.or editor.notice }

/-- The edit makes another text. -/
def changedBy (editor : Editor) (edit : Edit) : Bool :=
  match edit.buffer with
  | none => false
  | some buffer => buffer ≠ editor.buffer

/-- An edit that leads on to typing is one change with what is typed. -/
def runEdit (editor : Editor) (edit : Edit) : Response × Editor :=
  let changed := editor.changedBy edit
  let edited := editor.applyEdit edit
  let result :=
    if edit.entersInsert then
      (if changed then edited.openRun else edited.closeRun).enter .insert
    else edited
  (if changed then .changed else .shown, result)

/-- Applies an edit to the selection.  The mode is left first, and a selection
of characters has to stay in one row. -/
def runSelection (editor : Editor) (edit : Buffer → Selection → Edit) :
    Response × Editor :=
  match editor.selection? with
  | none => (.shown, editor.leave)
  | some selection =>
      let left := editor.leave
      if selection.extent = .characters ∧ ¬ selection.isInOneRow then
        (.shown, left.say .selectionSpansLines)
      else
        let result := left.runEdit (edit left.buffer selection)
        (result.1, result.2.settle)

/-- Goes to the current match of a search and keeps the search. -/
def reach (editor : Editor) (search : Search) : Editor :=
  match search.current? with
  | some position =>
      { editor with
        cursor := position.onCharacter editor.buffer
        search := some search }.say
        (.matchReached (search.index + 1) search.positions.length)
  | none => { editor with search := some search }.say .patternNotFound

def stepSearch (editor : Editor) (step : Search → Search) :
    Response × Editor :=
  match editor.search with
  | none => (.shown, editor.say .noPreviousSearch)
  | some search => (.shown, editor.reach (step search))

/-- Searches for the typed term, or for the last one if none was typed. -/
def submitSearch (editor : Editor) : Response × Editor :=
  let typed := editor.prompt.typed
  let last : Text :=
    match editor.search with
    | some search => search.term
    | none => []
  let term := if typed = [] then last else typed
  let left := editor.leave
  if term = [] then (.shown, left.say .noPreviousSearch)
  else
    (.shown, left.reach
      (.run left.buffer term left.cursor editor.prompt.direction))

def searchKey (editor : Editor) (key : Key) : Response × Editor :=
  match key.code with
  | .enter => editor.submitSearch
  | .backspace => (.shown, editor.showPrompt editor.prompt.backspace)
  | _ =>
      match key.printable? with
      | some character =>
          (.shown, editor.showPrompt (editor.prompt.push character))
      | none => (.clean, editor)

def runUndo (editor : Editor) : Response × Editor :=
  match editor.undo? with
  | some restored => (.undone, restored.settle.say .undone)
  | none => (.undoneNothing, editor)

def runRedo (editor : Editor) : Response × Editor :=
  match editor.redo? with
  | some restored => (.changed, restored.settle.say .redone)
  | none => (.clean, editor)

/-- Waits for the character that completes a command. -/
def await (editor : Editor) (pending : Pending) : Response × Editor :=
  (.shown, { editor with
    pending
    notice := pending.prompt?.map .shown })

/-- What a command does, wherever that leaves the cursor. -/
def perform (editor : Editor) (command : Command) : Response × Editor :=
  let row := editor.cursor.row
  let column := editor.cursor.column
  let width := editor.buffer.width row
  let edit (operator : Buffer → Position → Edit) : Response × Editor :=
    editor.runEdit (operator editor.buffer editor.cursor)
  match command with
  | .move motion => editor.moveBy motion
  | .insert => editor.insertFrom (min column width)
  | .append => editor.insertFrom (min (column + 1) width)
  | .appendLineEnd => editor.insertFrom width
  | .insertLineStart =>
      editor.insertFrom (Line.firstNonBlank (editor.buffer.line row))
  | .openBelow => editor.openLine (row + 1)
  | .openAbove => editor.openLine row
  | .escape => (.shown, editor.leave)
  | .visualChar => editor.toggleVisual .visual
  | .visualLine => editor.toggleVisual .visualLine
  | .visualDelete => editor.runSelection Edit.deleteSelection
  | .visualYank => editor.runSelection Edit.yankSelection
  | .searchForward => editor.startSearch .forward
  | .searchBackward => editor.startSearch .backward
  | .searchNext => editor.stepSearch Search.advance
  | .searchPrevious => editor.stepSearch Search.retreat
  | .undo => editor.runUndo
  | .redo => editor.runRedo
  | .deleteChar => edit Edit.deleteChar
  | .deleteLine => edit Edit.deleteLine
  | .deleteWord => edit Edit.deleteWord
  | .deleteToLineEnd => edit Edit.deleteToLineEnd
  | .yankLine => edit Edit.yankLine
  | .yankWord => edit Edit.yankWord
  | .changeWord => edit Edit.changeWord
  | .pasteAfter => edit fun buffer cursor =>
      Edit.pasteAfter buffer cursor editor.register
  | .pasteBefore => edit fun buffer cursor =>
      Edit.pasteBefore buffer cursor editor.register
  | .replaceChar => editor.await .replacement
  | .replaceMode => editor.startReplacing
  | .setMark => editor.await .markToSet
  | .jumpMark => editor.await .markToReach

/-- Outside of typing the cursor stands on a character after a command. -/
def run (editor : Editor) (command : Command) : Response × Editor :=
  let result := editor.perform command
  match result.2.mode with
  | .normal | .visual | .visualLine => (result.1, result.2.settle)
  | _ => result

def setMark (editor : Editor) (name : Char) : Response × Editor :=
  if Marks.isName name then
    (.shown, { editor with
      marks := editor.marks.set name editor.cursor }.say (.markSet name))
  else (.clean, editor)

/-- A mark may lie beyond a text that has shrunk since. -/
def jumpToMark (editor : Editor) (name : Char) : Response × Editor :=
  match editor.marks.get? name with
  | some position =>
      (.shown, { editor with
        cursor := position.onCharacter editor.buffer }.say
          (.markReached name))
  | none => (.shown, editor.say (.markMissing name))

/-- A command with the character that it waited for. -/
def runWithArgument (editor : Editor) (command : Command)
    (character : Char) : Response × Editor :=
  let editor := { editor with notice := none }
  let result :=
    match command with
    | .replaceChar =>
        editor.runEdit
          (Edit.replaceChar editor.buffer editor.cursor character)
    | .setMark => editor.setMark character
    | .jumpMark => editor.jumpToMark character
    | _ => (.clean, editor)
  (result.1, result.2.settle)

/-- A key that the mode takes as text. -/
def typeKey (editor : Editor) (key : Key) : Response × Editor :=
  match editor.mode with
  | .insert => editor.insertKey key
  | .replace => editor.replaceKey key
  | .search => editor.searchKey key
  | _ => (.clean, editor)

end Editor

end ModalTutor
