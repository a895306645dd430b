import ModalTutor.Editor.Notice
import ModalTutor.Editor.Register
import ModalTutor.Editor.Marks
import ModalTutor.Editor.History
import ModalTutor.Editor.Search

/-!
# The editor

All that an editor holds: a buffer with its cursor and history, the mode, and
what the modes and commands keep for each other.
-/

namespace ModalTutor

/-- Input that is not a whole command yet. -/
inductive Pending where
  | none
  /-- The characters of keys that begin a command. -/
  | keys (typed : Text)
  /-- The replacement character is to come. -/
  | replacement
  /-- The name of a mark to set is to come. -/
  | markToSet
  /-- The name of a mark to jump to is to come. -/
  | markToReach
  deriving DecidableEq, Repr

/-- What the status line shows of incomplete input. -/
def Pending.prompt? : Pending → Option Text
  | none => .none
  | keys typed => some typed
  | replacement => some ['r', '_']
  | markToSet => some ['m', '_']
  | markToReach => some ['\'', '_']

structure Editor where
  buffer : Buffer
  cursor : Position
  mode : Mode
  notice : Option Notice
  register : Register
  marks : Marks
  search : Option Search
  prompt : Prompt
  /-- The fixed end of the selection. -/
  anchor : Option Position
  pending : Pending
  history : History
  deriving DecidableEq, Repr

namespace Editor

/-- A fresh editor, which keeps up to `depth` snapshots. -/
def ofBuffer (buffer : Buffer) (depth : Nat) : Editor where
  buffer := buffer
  cursor := .origin
  mode := .normal
  notice := none
  register := .empty
  marks := .empty
  search := none
  prompt := .empty
  anchor := none
  pending := .none
  history := .ofDepth depth

def snapshot (editor : Editor) : Snapshot :=
  ⟨editor.buffer, editor.cursor⟩

def say (editor : Editor) (notice : Notice) : Editor :=
  { editor with notice := some notice }

/-- Puts the cursor on a character. -/
def settle (editor : Editor) : Editor :=
  { editor with cursor := editor.cursor.onCharacter editor.buffer }

/-- The selection that the mode makes of the anchor and the cursor. -/
def selection? (editor : Editor) : Option Selection :=
  match editor.mode with
  | .visual =>
      editor.anchor.map (Selection.between · editor.cursor .characters)
  | .visualLine =>
      editor.anchor.map (Selection.between · editor.cursor .lines)
  | _ => none

/-- Records the present state before a change. -/
def record (editor : Editor) : Editor :=
  { editor with history := editor.history.record editor.snapshot }

/-- Records the present state before a typed change. -/
def recordTyping (editor : Editor) : Editor :=
  { editor with history := editor.history.recordTyping editor.snapshot }

def openRun (editor : Editor) : Editor :=
  { editor with history := editor.history.openRun }

def closeRun (editor : Editor) : Editor :=
  { editor with history := editor.history.closeRun }

def restore (editor : Editor) (snapshot : Snapshot) (history : History) :
    Editor :=
  { editor with
    buffer := snapshot.buffer
    cursor := snapshot.cursor
    history }

/-- Goes one snapshot back, if there is one. -/
def undo? (editor : Editor) : Option Editor :=
  (editor.history.undo? editor.snapshot).map fun (snapshot, history) =>
    editor.restore snapshot history

/-- Goes one snapshot forward, if there is one. -/
def redo? (editor : Editor) : Option Editor :=
  (editor.history.redo? editor.snapshot).map fun (snapshot, history) =>
    editor.restore snapshot history

end Editor

end ModalTutor
