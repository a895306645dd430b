import ModalTutor.Json.Basic
import ModalTutor.Replay

/-!
# Reports

Lessons, sessions and replays as JSON values, with the members in a fixed
order.
-/

namespace ModalTutor

def Position.toJson (position : Position) : Json :=
  .object [("row", .number position.row), ("col", .number position.column)]

def Mode.label : Mode → String
  | normal => "Normal"
  | insert => "Insert"
  | replace => "Replace"
  | visual => "Visual"
  | visualLine => "VisualLine"
  | search => "Search"

def Register.toJson (register : Register) : Json :=
  .object
    [("content", .text register.content),
      ("kind", .string
        (match register.extent with
        | .characters => "Char"
        | .lines => "Line"))]

def Marks.toJson (marks : Marks) : Json :=
  .object (marks.entries.map fun (name, position) =>
    (String.ofList [name], position.toJson))

def Direction.label : Direction → String
  | forward => "Forward"
  | backward => "Backward"

def Search.toJson (search : Search) : Json :=
  .object
    [("term", .text search.term),
      ("direction", .string search.direction.label),
      ("matches", .ofList Position.toJson search.positions),
      ("current_index", .number search.index)]

def Extent.label : Extent → String
  | characters => "Characterwise"
  | lines => "Linewise"

def Selection.toJson (selection : Selection) : Json :=
  .object
    [("start", selection.first.toJson),
      ("end", selection.last.toJson),
      ("kind", .string selection.extent.label)]

def Session.toJson (session : Session) : Json :=
  let editor := session.editor
  .object
    [("mode", .string editor.mode.label),
      ("cursor", editor.cursor.toJson),
      ("lines", .ofList .text editor.buffer.lines),
      ("mistakes", .number session.mistakes.toNat),
      ("message", .ofOption (fun notice => .text notice.text) editor.notice),
      ("marks", editor.marks.toJson),
      ("register", editor.register.toJson),
      ("undo_depth", .number editor.history.past.length),
      ("redo_depth", .number editor.history.future.length),
      ("pending_command", .ofOption .text editor.pending.prompt?),
      ("search", .ofOption Search.toJson editor.search),
      ("selection", .ofOption Selection.toJson editor.selection?),
      ("undo_performed", .boolean session.undoPerformed)]

def Completion.toJson (completion : Completion) : Json :=
  .object
    [("lesson_id", .number completion.lessonId.toNat),
      ("completed", .boolean true),
      ("score", .number completion.score),
      ("time_taken_seconds", .number completion.seconds),
      ("mistakes", .number completion.mistakes.toNat)]

def Replay.toJson (replay : Replay) : Json :=
  .object
    [("lesson_id", .number replay.lessonId.toNat),
      ("keys", .number replay.keyCount),
      ("completed_after", .ofOption .number replay.completedAfter),
      ("completion",
        .ofOption Completion.toJson replay.session.completion),
      ("state", replay.session.toJson)]

def Difficulty.label : Difficulty → String
  | beginner => "beginner"
  | intermediate => "intermediate"
  | advanced => "advanced"
  | developer => "developer"

/-- A count is written only if there is one. -/
def Goal.toJson : Goal → Json
  | targetPosition position =>
      .object
        [("kind", .string "target_position"), ("row", .number position.row),
          ("col", .number position.column)]
  | targetText text count =>
      .object
        ([("kind", .string "target_text"), ("text", .text text)] ++
          (count.map fun count => ("count", Json.number count)).toList)
  | targetState lines =>
      .object
        [("kind", .string "target_state"), ("lines", .ofList .text lines)]
  | undoRequired => .object [("kind", .string "undo_required")]
  | duplicateLine => .object [("kind", .string "duplicate_line")]
  | changedFromInitial => .object [("kind", .string "changed_from_initial")]
  | requiredMarks names =>
      .object
        [("kind", .string "required_marks"),
          ("marks", .ofList (fun name => .text [name]) names)]

def CommandSet.toJson (commands : CommandSet) : Json :=
  .ofList (fun command => .string command.name) commands.toList

def Lesson.toJson (lesson : Lesson) : Json :=
  .object
    [("id", .number lesson.id.toNat),
      ("title", .string lesson.title),
      ("description", .string lesson.description),
      ("difficulty", .string lesson.difficulty.label),
      ("instructions", .string lesson.instructions),
      ("initial_text", .ofList .text lesson.initialText),
      ("goal", lesson.goal.toJson),
      ("allowed_commands", lesson.allowed.toJson),
      ("hints", .ofList .string lesson.hints)]

end ModalTutor
