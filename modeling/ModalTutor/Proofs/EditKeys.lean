import ModalTutor.Proofs.ModeCoherence
import ModalTutor.Proofs.UndoRedo

/-!
# Edits by keys

An operator leaves the mode that selects, if it is in one, and carries out an
edit: text, cursor and register come from the edit, and the text before is
recorded just if it changes.  `Editor.CarriedOut` says so in one place for the
operators of the normal mode and those of a selection, and an undo after it
restores the text and the cursor before.
-/

namespace ModalTutor

@[simp] theorem Selection.between_extent (anchor cursor : Position)
    (extent : Extent) : (between anchor cursor extent).extent = extent := by
  unfold between
  split <;> rfl

/-- The mode in which text is selected this way. -/
def Extent.mode : Extent → Mode
  | characters => .visual
  | lines => .visualLine

/-- The operators of a selection, each with its key and its edit. -/
inductive Command.Operates :
    Command → Char → (Buffer → Selection → Edit) → Prop where
  | deletes : Operates visualDelete 'd' Edit.deleteSelection
  | yanks : Operates visualYank 'y' Edit.yankSelection

theorem Interpretation.ofKey_operates {command : Command} {key : Char}
    {operator : Buffer → Selection → Edit}
    (operates : command.Operates key operator) {mode : Mode}
    (visual : mode.isVisual) :
    ofKey mode .none (.char key) = (.command command, .none) := by
  rw [ofKey_of_isVisual visual]
  cases operates <;> decide +kernel

theorem Command.Operates.entersInsert {command : Command} {key : Char}
    {operator : Buffer → Selection → Edit}
    (operates : command.Operates key operator) (buffer : Buffer)
    (selection : Selection) :
    (operator buffer selection).entersInsert = false := by
  cases operates with
  | deletes => grind [Edit.deleteSelection, Edit.cut, Edit.unchanged]
  | yanks => grind [Edit.yankSelection, Edit.unchanged]

namespace Editor

/-- An edit was carried out, and a command is waited for. -/
structure CarriedOut (before : Editor) (edit : Edit) (after : Editor) :
    Prop where
  mode : after.mode = .normal
  pending : after.pending = .none
  buffer : after.buffer = edit.buffer.getD before.buffer
  cursor : after.cursor = edit.cursor.onCharacter after.buffer
  register : after.register = edit.register.getD before.register
  history : after.history =
    if after.buffer = before.buffer then before.history
    else before.history.record before.snapshot

variable {editor : Editor} {edit : Edit}

/-- Neither the mode nor what it keeps matters to an edit. -/
theorem CarriedOut.of_same {before other after : Editor}
    (carried : CarriedOut other edit after)
    (buffer : other.buffer = before.buffer)
    (cursor : other.cursor = before.cursor)
    (register : other.register = before.register)
    (history : other.history = before.history) :
    CarriedOut before edit after where
  mode := carried.mode
  pending := carried.pending
  buffer := by rw [carried.buffer, buffer]
  cursor := carried.cursor
  register := by rw [carried.register, register]
  history := by
    rw [carried.history, snapshot, snapshot, buffer, cursor, history]

theorem applyEdit_register (editor : Editor) (edit : Edit) :
    (editor.applyEdit edit).register =
      edit.register.getD editor.register := by
  unfold applyEdit
  split
  · rfl
  · split <;> rfl

/-- The text before an edit is recorded just if the edit changes it. -/
theorem applyEdit_history_eq (editor : Editor) (edit : Edit) :
    (editor.applyEdit edit).history =
      if (editor.applyEdit edit).buffer = editor.buffer then editor.history
      else editor.history.record editor.snapshot := by
  rw [applyEdit_buffer]
  unfold applyEdit
  cases edit.buffer with
  | none => simp
  | some buffer =>
      by_cases same : buffer = editor.buffer
      · simp [same]
      · simp [same, record]

theorem applyEdit_carriedOut (mode : editor.mode = .normal)
    (pending : editor.pending = .none) (edit : Edit) :
    CarriedOut editor edit (editor.applyEdit edit).settle where
  mode := (applyEdit_mode editor edit).trans mode
  pending := (applyEdit_keepsAside editor edit).pending.trans pending
  buffer := applyEdit_buffer editor edit
  cursor := by
    rw [settle, applyEdit_cursor]
  register := applyEdit_register editor edit
  history := applyEdit_history_eq editor edit

@[simp] theorem settle_settle (editor : Editor) :
    editor.settle.settle = editor.settle := by
  simp [settle]

theorem run_of_normal {command : Command}
    (normal : (editor.perform command).2.mode = .normal) :
    (editor.run command).2 = (editor.perform command).2.settle := by
  simp only [run, normal]

theorem run_carriedOut {command : Command}
    (performs : editor.perform command = editor.runEdit edit)
    (stays : edit.entersInsert = false) (mode : editor.mode = .normal)
    (pending : editor.pending = .none) :
    CarriedOut editor edit (editor.run command).2 := by
  have made : (editor.runEdit edit).2 = editor.applyEdit edit := by
    simp [runEdit, stays]
  have normal : (editor.perform command).2.mode = .normal := by
    rw [performs, made]
    exact (applyEdit_mode editor edit).trans mode
  rw [run_of_normal normal, performs, made]
  exact applyEdit_carriedOut mode pending edit

/-- A selection reaches from some position to the cursor, and a command is
waited for. -/
structure Selecting (editor : Editor) (extent : Extent) (start : Position) :
    Prop where
  mode : editor.mode = extent.mode
  pending : editor.pending = .none
  anchor : editor.anchor = some start
  settled : editor.cursor.onCharacter editor.buffer = editor.cursor

theorem Selecting.visual {extent : Extent} {start : Position}
    (selecting : editor.Selecting extent start) : editor.mode.isVisual := by
  rw [selecting.mode]
  cases extent <;> rfl

theorem Selecting.selection {extent : Extent} {start : Position}
    (selecting : editor.Selecting extent start) :
    editor.selection? = some (.between start editor.cursor extent) := by
  unfold selection?
  rw [selecting.mode, selecting.anchor]
  cases extent <;> rfl

theorem leave_of_isVisual (visual : editor.mode.isVisual)
    (settled : editor.cursor.onCharacter editor.buffer = editor.cursor) :
    editor.leave =
      { editor with
        anchor := none
        mode := .normal
        pending := .none
        notice := none } := by
  unfold leave
  cases mode : editor.mode with
  | visual | visualLine => simp [settle, settled]
  | normal | insert | replace | search =>
      rw [mode] at visual
      cases visual

/-- A selection of characters in more than one row is left alone. -/
def selectionEdit (editor : Editor) (operator : Buffer → Selection → Edit)
    (selection : Selection) : Edit :=
  if selection.extent = .characters ∧ ¬ selection.isInOneRow then
    .unchanged editor.cursor (some .selectionSpansLines)
  else operator editor.buffer selection

theorem run_operator {command : Command} {key : Char}
    {operator : Buffer → Selection → Edit}
    (operates : command.Operates key operator) {extent : Extent}
    {start : Position} (selecting : editor.Selecting extent start) :
    (editor.run command).2 =
      (editor.leave.applyEdit (editor.selectionEdit operator
        (.between start editor.cursor extent))).settle := by
  have stays := operates.entersInsert editor.buffer
    (.between start editor.cursor extent)
  have performs : editor.perform command = editor.runSelection operator := by
    cases operates <;> rfl
  have left := leave_of_isVisual selecting.visual selecting.settled
  have result : (editor.runSelection operator).2 =
      (editor.leave.applyEdit (editor.selectionEdit operator
        (.between start editor.cursor extent))).settle := by
    simp only [runSelection, selecting.selection, selectionEdit, left]
    split
    · simp [applyEdit, Edit.unchanged, say, settle, selecting.settled]
    · simp [runEdit, stays]
  have normal : (editor.perform command).2.mode = .normal := by
    rw [performs, result, left]
    exact applyEdit_mode _ _
  rw [run_of_normal normal, performs, result, settle_settle]

end Editor

namespace Session

variable {session : Session}

/-- A command of the normal mode carries out its edit. -/
theorem Runs.carriedOut {key : Key} {command : Command} {edit : Edit}
    (runs : session.Runs key command)
    (performs : ∀ notice,
      let ready := { session.editor with pending := .none, notice }
      ready.perform command = ready.runEdit edit)
    (stays : edit.entersInsert = false)
    (mode : session.editor.mode = .normal) :
    session.editor.CarriedOut edit (session.dispatch key).2.editor := by
  have ran := congrArg Prod.snd runs.dispatch_eq
  dsimp only at ran
  rw [ran]
  have carried := Editor.run_carriedOut
    (performs session.editor.mode.banner?) stays mode rfl
  exact carried.of_same rfl rfl rfl rfl

/-- An operator ends the selection and carries out its edit. -/
theorem dispatch_operator {command : Command} {key : Char}
    {operator : Buffer → Selection → Edit}
    (operates : command.Operates key operator)
    (allowed : session.allows command) {extent : Extent} {start : Position}
    (selecting : session.editor.Selecting extent start) :
    let after := (session.dispatch (.char key)).2.editor
    after.anchor = none ∧
      session.editor.CarriedOut (session.editor.selectionEdit operator
        (.between start session.editor.cursor extent)) after := by
  intro after
  have runs : session.Runs (.char key) command :=
    { commands := Mode.takesCommands_of_isVisual selecting.visual
      completes := by
        rw [selecting.pending]
        exact Interpretation.ofKey_operates operates selecting.visual
      allowed := allowed }
  let ready : Editor :=
    { session.editor with
      pending := .none
      notice := session.editor.mode.banner? }
  let left : Editor :=
    { ready with
      anchor := none
      mode := .normal
      pending := .none
      notice := none }
  let edit := session.editor.selectionEdit operator
    (.between start session.editor.cursor extent)
  have still : ready.Selecting extent start :=
    ⟨selecting.mode, rfl, selecting.anchor, selecting.settled⟩
  have operated : (ready.run command).2 = (ready.leave.applyEdit edit).settle :=
    Editor.run_operator operates still
  have ran : after = (left.applyEdit edit).settle := by
    rw [Editor.leave_of_isVisual still.visual still.settled] at operated
    exact (congrArg Prod.snd runs.dispatch_eq).trans operated
  rw [ran]
  constructor
  · exact (Editor.applyEdit_keepsAside left edit).anchor
  · have carried : left.CarriedOut edit (left.applyEdit edit).settle :=
      Editor.applyEdit_carriedOut rfl rfl edit
    exact carried.of_same rfl rfl rfl rfl

/-- An undo brings back the text of the nearest snapshot, if there is one. -/
theorem Idle.undo_buffer (idle : session.Idle)
    (allowed : session.allows .undo) :
    (session.dispatch .undo).2.editor.buffer =
      (session.editor.history.past.head?.map Snapshot.buffer).getD
        session.editor.buffer := by
  cases past : session.editor.history.past with
  | nil =>
      have runs : session.Runs .undo .undo := idle.runs rfl allowed
      have ran := congrArg Prod.snd runs.dispatch_eq
      dsimp only at ran
      rw [ran]
      simp [Editor.run, Editor.perform, Editor.runUndo, Editor.undo?,
        History.undo?, past, idle.mode, Editor.settle]
  | cons previous rest =>
      rw [idle.dispatch_undo allowed past]
      rfl

/-- A change by an edit is undone at once. -/
theorem dispatch_undo_of_carriedOut {before : Editor} {edit : Edit}
    (carried : before.CarriedOut edit session.editor)
    (allowed : session.allows .undo)
    (changed : session.editor.buffer ≠ before.buffer) :
    let undone := (session.dispatch .undo).2.editor
    undone.buffer = before.buffer ∧
      undone.cursor = before.cursor.onCharacter before.buffer := by
  have idle : session.Idle := ⟨carried.mode, carried.pending⟩
  obtain ⟨earlier, past⟩ : ∃ earlier,
      session.editor.history.past = before.snapshot :: earlier := by
    rw [carried.history, if_neg changed]
    exact History.record_past_eq_cons _ _
  rw [idle.dispatch_undo allowed past]
  exact ⟨rfl, rfl⟩

end Session

end ModalTutor
