import ModalTutor.Editor.Dispatch
import ModalTutor.Lesson.Evaluation

/-!
# Sessions

A session is an editor with the rules of a lesson: commands that are not
allowed are refused and counted as mistakes, and the first time the goal is
met is recorded.
-/

namespace ModalTutor

structure Session where
  editor : Editor
  /-- The commands allowed, or all of them. -/
  allowed : Option CommandSet
  depth : Nat
  mistakes : UInt32
  undoPerformed : Bool
  /-- Some key was taken. -/
  interacted : Bool
  completion : Option Completion
  deriving DecidableEq

namespace Session

/-- A session without rules. -/
def ofBuffer (buffer : Buffer) (depth : Nat) : Session where
  editor := .ofBuffer buffer depth
  allowed := none
  depth := depth
  mistakes := 0
  undoPerformed := false
  interacted := false
  completion := none

def ofLesson (lesson : Lesson) (depth : Nat) : Session :=
  { ofBuffer lesson.initialBuffer depth with allowed := some lesson.allowed }

/-- Starts over with other lines and no rules. -/
def reset (session : Session) (lines : List Text) : Session :=
  ofBuffer (.ofLines lines) session.depth

def startLesson (session : Session) (lesson : Lesson) : Session :=
  ofLesson lesson session.depth

def allows (session : Session) (command : Command) : Bool :=
  match session.allowed with
  | none => true
  | some commands => commands.contains command

/-- Refuses a command, which drops all pending input. -/
def reject (session : Session) (command : Command) : Session :=
  { session with
    mistakes := session.mistakes + 1
    editor :=
      { session.editor with pending := .none }.say
        (.commandRejected command) }

/-- Takes over what an action of the editor came to. -/
def adopt (session : Session) (result : Response × Editor) :
    Response × Session :=
  (result.1, { session with editor := result.2 })

/-- Runs an action of the editor for a command that is allowed. -/
def guarded (session : Session) (command : Command)
    (action : Editor → Response × Editor) : Response × Session :=
  if session.allows command then session.adopt (action session.editor)
  else (.shown, session.reject command)

/-- A key in the normal mode or a visual one. -/
def commandKey (session : Session) (key : Key) : Response × Session :=
  let editor := session.editor
  let mode := editor.mode
  let interpreted := Interpretation.ofKey mode editor.pending key
  let pending := interpreted.2
  let session := { session with editor := { editor with pending } }
  match interpreted.1 with
  | .command command =>
      session.guarded command fun editor =>
        { editor with notice := mode.banner? }.run command
  | .withArgument command character =>
      session.adopt (session.editor.runWithArgument command character)
  | .escape =>
      if mode.isVisual then session.guarded .escape (·.run .escape)
      else (.clean, session)
  | .ignored => (.clean, session)
  | .pending =>
      (.shown, { session with
        editor :=
          { session.editor with notice := pending.prompt?.map .shown } })
  | .cancelled =>
      (.shown, { session with
        editor := { session.editor with notice := mode.banner? } })

/-- Only escape needs leave to end the typing of text. -/
def takeKey (session : Session) (key : Key) : Response × Session :=
  match session.editor.mode with
  | .normal | .visual | .visualLine => session.commandKey key
  | .search =>
      if key.isEscape then session.adopt (.shown, session.editor.leave)
      else session.adopt (session.editor.typeKey key)
  | .insert | .replace =>
      if key.isEscape then session.guarded .escape (·.run .escape)
      else session.adopt (session.editor.typeKey key)

def dispatch (session : Session) (key : Key) : Response × Session :=
  let taken := { session with interacted := true }.takeKey key
  (taken.1, { taken.2 with
    undoPerformed := taken.2.undoPerformed || taken.1.undoIssued })

/-- The session after some keys. -/
def feed (session : Session) (keys : List Key) : Session :=
  keys.foldl (fun session key => (session.dispatch key).2) session

def attempt (session : Session) : Attempt where
  buffer := session.editor.buffer
  cursor := session.editor.cursor
  marks := session.editor.marks
  mistakes := session.mistakes
  undoPerformed := session.undoPerformed

/-- Checks the goal once some key was taken, until it was met once.  Gives the
record the first time. -/
def evaluate (session : Session) (lesson : Lesson) (seconds : Nat) :
    Option Completion × Session :=
  if session.interacted ∧ session.completion = none then
    match lesson.check session.attempt seconds with
    | none => (none, session)
    | some completion =>
        (some completion, { session with completion := some completion })
  else (none, session)

end Session

end ModalTutor
