import ModalTutor.Proofs.KeyOutcome
import ModalTutor.Proofs.TextChange

/-!
# How the history grows

`Editor.KeepsText` holds when text and history stay as they are, except that
a typing run may end.  `Editor.Growth` lists what else becomes of the two as
long as nothing comes out of the history: a change of the text records the
text before, or belongs to a typing run that is open already.  All commands
but undo and redo and all keys that type text keep to that, with one
exception: a character typed over itself, `Editor.Retypes`, begins a run
without a change.
-/

namespace ModalTutor

namespace History

/-- Recording drops one snapshot at most, however many are beyond the limit. -/
theorem record_past (history : History) (snapshot : Snapshot) :
    (history.record snapshot).past =
      (snapshot :: history.past).take
        (max history.limit history.past.length) := by
  unfold record
  dsimp only
  rw [List.length_cons]
  split
  · next full =>
      rw [Nat.max_eq_right (Nat.le_of_lt_succ full), List.dropLast_eq_take,
        List.length_cons, Nat.add_sub_cancel]
  · next room =>
      rw [List.take_of_length_le]
      exact Nat.le_trans (Nat.not_lt.mp room) (Nat.le_max_left _ _)

theorem length_record_past_le (history : History) (snapshot : Snapshot) :
    (history.record snapshot).past.length ≤ history.past.length + 1 := by
  rw [record_past]
  exact List.length_take_le' _ _

/-- Nothing but the snapshot that is recorded comes into the past. -/
theorem mem_of_mem_record_past {history : History} {snapshot other : Snapshot}
    (member : other ∈ (history.record snapshot).past) :
    other ∈ snapshot :: history.past := by
  rw [record_past] at member
  exact List.mem_of_mem_take member

/-- With room for one more snapshot, recording drops none. -/
theorem record_past_of_room {history : History} {snapshot : Snapshot}
    (room : history.past.length < history.limit) :
    (history.record snapshot).past = snapshot :: history.past :=
  if_neg (Nat.not_lt.mpr room)

/-- What is recorded last is the nearest of the past. -/
theorem record_past_eq_cons (history : History) (snapshot : Snapshot) :
    ∃ earlier, (history.record snapshot).past = snapshot :: earlier := by
  have some : max history.limit history.past.length ≠ 0 := by
    unfold limit
    omega
  rw [record_past]
  exact ⟨_, List.take_cons (Nat.pos_of_ne_zero some)⟩

/-- However small the depth, what is recorded last is kept. -/
theorem record_past_ne_nil (history : History) (snapshot : Snapshot) :
    (history.record snapshot).past ≠ [] := by
  obtain ⟨earlier, past⟩ := record_past_eq_cons history snapshot
  rw [past]
  exact List.cons_ne_nil _ _

end History

namespace Editor

/-- Text and history stay, except that a typing run may end. -/
structure KeepsText (before after : Editor) : Prop where
  buffer : after.buffer = before.buffer
  depth : after.history.depth = before.history.depth
  past : after.history.past = before.history.past
  future : after.history.future = before.history.future
  typing : after.history.typing → before.history.typing

namespace KeepsText

theorem refl (editor : Editor) : KeepsText editor editor :=
  ⟨rfl, rfl, rfl, rfl, id⟩

theorem trans {first second third : Editor}
    (left : KeepsText first second) (right : KeepsText second third) :
    KeepsText first third where
  buffer := right.buffer.trans left.buffer
  depth := right.depth.trans left.depth
  past := right.past.trans left.past
  future := right.future.trans left.future
  typing := left.typing ∘ right.typing

theorem of_history {before after : Editor} {typing : Bool}
    (buffer : after.buffer = before.buffer)
    (history : after.history = { before.history with typing })
    (closing : typing → before.history.typing) : KeepsText before after where
  buffer := buffer
  depth := by rw [history]
  past := by rw [history]
  future := by rw [history]
  typing := by
    rw [history]
    exact closing

theorem history {before after : Editor} (kept : KeepsText before after) :
    after.history =
      { before.history with typing := after.history.typing } :=
  calc
    after.history = ⟨after.history.depth, after.history.past,
        after.history.future, after.history.typing⟩ := rfl
    _ = _ := by rw [kept.depth, kept.past, kept.future]

/-- With no run to end, the history does not change at all. -/
theorem history_eq {before after : Editor} (kept : KeepsText before after)
    (closed : before.history.typing = false) :
    after.history = before.history := by
  have stillClosed : after.history.typing = before.history.typing := by
    rw [closed]
    simpa [closed] using kept.typing
  rw [kept.history, stillClosed]

end KeepsText

/-- What becomes of the text and its history where nothing is undone or redone.
The cursor of a new snapshot need not be the one before the key. -/
inductive Growth (before after : Editor) : Prop where
  | kept (kept : KeepsText before after)
  | recorded (cursor : Position) (typing : Bool)
      (history : after.history =
        { before.history.record ⟨before.buffer, cursor⟩ with typing })
      (changed : after.buffer ≠ before.buffer)
  /-- A change in an open typing run. -/
  | continued (typing : Bool) (running : before.history.typing)
      (history : after.history = { before.history with typing })

namespace Growth

theorem after_kept {before middle after : Editor}
    (kept : KeepsText before middle) (growth : Growth middle after) :
    Growth before after := by
  have history := kept.history
  cases growth with
  | kept later => exact .kept (kept.trans later)
  | recorded cursor typing recorded changed =>
      rw [kept.buffer] at recorded changed
      refine .recorded cursor typing ?_ changed
      rw [recorded, history]
      rfl
  | continued typing running continued =>
      refine .continued typing (kept.typing running) ?_
      rw [continued, history]

theorem then_kept {before middle after : Editor}
    (growth : Growth before middle) (kept : KeepsText middle after) :
    Growth before after := by
  have history := kept.history
  cases growth with
  | kept earlier => exact .kept (earlier.trans kept)
  | recorded cursor typing recorded changed =>
      rw [← kept.buffer] at changed
      refine .recorded cursor after.history.typing ?_ changed
      rw [history, recorded]
  | continued typing running continued =>
      refine .continued after.history.typing running ?_
      rw [history, continued]

/-- Without a change of the text the snapshots stay. -/
theorem history_of_unchanged {before after : Editor}
    (growth : Growth before after) (same : after.buffer = before.buffer) :
    after.history.past = before.history.past ∧
      after.history.future = before.history.future := by
  cases growth with
  | kept kept => exact ⟨kept.past, kept.future⟩
  | recorded cursor typing history changed => exact absurd same changed
  | continued typing running history =>
      rw [history]
      exact ⟨rfl, rfl⟩

/-- A change of the text has something recorded before it and nothing to redo
after it, if that holds of an open run already. -/
theorem history_of_changed {before after : Editor}
    (growth : Growth before after)
    (runRecorded : before.history.typing →
      before.history.past ≠ [] ∧ before.history.future = [])
    (changed : after.buffer ≠ before.buffer) :
    after.history.past ≠ [] ∧ after.history.future = [] := by
  cases growth with
  | kept kept => exact absurd kept.buffer changed
  | recorded cursor typing history _ =>
      rw [history]
      exact ⟨History.record_past_ne_nil _ _, rfl⟩
  | continued typing running history =>
      rw [history]
      exact runRecorded running

end Growth

theorem settle_keepsText (editor : Editor) :
    KeepsText editor editor.settle := ⟨rfl, rfl, rfl, rfl, id⟩

theorem leave_keepsText (editor : Editor) : KeepsText editor editor.leave := by
  unfold leave
  cases mode : editor.mode with
  | insert | replace => exact ⟨rfl, rfl, rfl, rfl, nofun⟩
  | normal | visual | visualLine | search => exact ⟨rfl, rfl, rfl, rfl, id⟩

theorem toggleVisual_keepsText (editor : Editor) (mode : Mode) :
    KeepsText editor (editor.toggleVisual mode).2 := by
  unfold toggleVisual
  split
  · exact leave_keepsText editor
  · split <;> exact ⟨rfl, rfl, rfl, rfl, id⟩

theorem reach_keepsText (editor : Editor) (search : Search) :
    KeepsText editor (editor.reach search) := by
  unfold reach
  split <;> exact ⟨rfl, rfl, rfl, rfl, id⟩

theorem stepSearch_keepsText (editor : Editor) (step : Search → Search) :
    KeepsText editor (editor.stepSearch step).2 := by
  unfold stepSearch
  split
  · exact ⟨rfl, rfl, rfl, rfl, id⟩
  · exact reach_keepsText editor _

theorem submitSearch_keepsText (editor : Editor) :
    KeepsText editor editor.submitSearch.2 := by
  have left := leave_keepsText editor
  unfold submitSearch
  extract_lets typed last term leaving
  by_cases empty : term = []
  · rw [if_pos empty]
    exact left.trans ⟨rfl, rfl, rfl, rfl, id⟩
  · rw [if_neg empty]
    exact left.trans (reach_keepsText _ _)

theorem searchKey_keepsText (editor : Editor) (key : Key) :
    KeepsText editor (editor.searchKey key).2 := by
  unfold searchKey
  split
  · exact submitSearch_keepsText editor
  · exact ⟨rfl, rfl, rfl, rfl, id⟩
  · split <;> exact ⟨rfl, rfl, rfl, rfl, id⟩

theorem setMark_keepsText (editor : Editor) (name : Char) :
    KeepsText editor (editor.setMark name).2 := by
  unfold setMark
  split <;> exact ⟨rfl, rfl, rfl, rfl, id⟩

theorem jumpToMark_keepsText (editor : Editor) (name : Char) :
    KeepsText editor (editor.jumpToMark name).2 := by
  unfold jumpToMark
  split <;> exact ⟨rfl, rfl, rfl, rfl, id⟩

/-- An edit that leaves the text alone records nothing. -/
theorem applyEdit_keepsText {editor : Editor} {edit : Edit}
    (unchanged : editor.changedBy edit = false) :
    KeepsText editor (editor.applyEdit edit) := by
  unfold changedBy at unchanged
  unfold applyEdit
  split at unchanged
  · exact ⟨rfl, rfl, rfl, rfl, id⟩
  · next buffer _ =>
      have same : buffer = editor.buffer := by simpa using unchanged
      simp only [if_pos same]
      exact ⟨rfl, rfl, rfl, rfl, id⟩

/-- An edit that changes the text records the text before. -/
theorem applyEdit_history {editor : Editor} {edit : Edit}
    (changed : editor.changedBy edit) :
    (editor.applyEdit edit).history =
      editor.history.record editor.snapshot := by
  unfold changedBy at changed
  unfold applyEdit
  split at changed
  · cases changed
  · next buffer _ =>
      have different : buffer ≠ editor.buffer := by simpa using changed
      simp only [if_neg different]
      rfl

/-- An edit that changes the text does change it. -/
theorem applyEdit_buffer_ne {editor : Editor} {edit : Edit}
    (changed : editor.changedBy edit) :
    (editor.applyEdit edit).buffer ≠ editor.buffer := by
  unfold changedBy at changed
  unfold applyEdit
  split at changed
  · cases changed
  · next buffer _ =>
      have different : buffer ≠ editor.buffer := by simpa using changed
      simpa only [if_neg different] using different

theorem openLine_growth (editor : Editor) (row : Nat) :
    Growth editor (editor.openLine row).2 :=
  .recorded editor.cursor true rfl
    (editor.buffer.insertLine_ne_self row [])

theorem runEdit_growth (editor : Editor) (edit : Edit) :
    Growth editor (editor.runEdit edit).2 := by
  unfold runEdit
  dsimp only
  cases changed : editor.changedBy edit with
  | false =>
      have kept := applyEdit_keepsText changed
      split
      · exact .kept (kept.trans ⟨rfl, rfl, rfl, rfl, nofun⟩)
      · exact .kept kept
  | true =>
      have recorded := applyEdit_history changed
      have different := applyEdit_buffer_ne changed
      split
      · refine .recorded editor.cursor true ?_ different
        exact congrArg History.openRun recorded
      · refine .recorded editor.cursor editor.history.typing ?_ different
        exact recorded

theorem runSelection_growth (editor : Editor)
    (edit : Buffer → Selection → Edit) :
    Growth editor (editor.runSelection edit).2 := by
  unfold runSelection
  split
  · exact .kept (leave_keepsText editor)
  · dsimp only
    split
    · exact .kept ((leave_keepsText editor).trans ⟨rfl, rfl, rfl, rfl, id⟩)
    · exact ((runEdit_growth _ _).then_kept
        (settle_keepsText _)).after_kept (leave_keepsText editor)

theorem perform_growth (editor : Editor) {command : Command}
    (noUndo : command ≠ .undo) (noRedo : command ≠ .redo) :
    Growth editor (editor.perform command).2 := by
  cases command with
  | undo => exact absurd rfl noUndo
  | redo => exact absurd rfl noRedo
  | move motion => exact .kept ⟨rfl, rfl, rfl, rfl, id⟩
  | insert | append | appendLineEnd | insertLineStart | replaceMode =>
      exact .kept ⟨rfl, rfl, rfl, rfl, nofun⟩
  | openBelow | openAbove => exact openLine_growth editor _
  | escape => exact .kept (leave_keepsText editor)
  | visualChar | visualLine => exact .kept (toggleVisual_keepsText editor _)
  | visualDelete | visualYank => exact runSelection_growth editor _
  | searchForward | searchBackward | replaceChar | setMark | jumpMark =>
      exact .kept ⟨rfl, rfl, rfl, rfl, id⟩
  | searchNext | searchPrevious => exact .kept (stepSearch_keepsText editor _)
  | deleteChar | deleteLine | deleteWord | deleteToLineEnd | yankLine
  | yankWord | changeWord | pasteAfter | pasteBefore =>
      exact runEdit_growth editor _

/-- Running a command may settle the cursor after it is performed. -/
theorem run_keepsText (editor : Editor) (command : Command) :
    KeepsText (editor.perform command).2 (editor.run command).2 := by
  unfold run
  dsimp only
  split
  · exact settle_keepsText _
  · exact settle_keepsText _
  · exact settle_keepsText _
  · exact .refl _

theorem escape_keepsText (editor : Editor) :
    KeepsText editor (editor.run .escape).2 :=
  (leave_keepsText editor).trans (run_keepsText editor .escape)

theorem run_growth (editor : Editor) {command : Command}
    (noUndo : command ≠ .undo) (noRedo : command ≠ .redo) :
    Growth editor (editor.run command).2 :=
  (perform_growth editor noUndo noRedo).then_kept
    (run_keepsText editor command)

theorem runWithArgument_growth (editor : Editor) (command : Command)
    (character : Char) :
    Growth editor (editor.runWithArgument command character).2 := by
  unfold runWithArgument
  dsimp only
  refine Growth.then_kept ?_ (settle_keepsText _)
  have silenced : KeepsText editor { editor with notice := none } :=
    ⟨rfl, rfl, rfl, rfl, id⟩
  split
  · exact (runEdit_growth _ _).after_kept silenced
  · exact .kept (silenced.trans (setMark_keepsText _ _))
  · exact .kept (silenced.trans (jumpToMark_keepsText _ _))
  · exact .kept silenced

/-- A typed change that opens a run has to change the text. -/
theorem typeChange_growth (editor : Editor) {buffer : Buffer}
    (cursor : Position)
    (changed : editor.history.typing = false → buffer ≠ editor.buffer) :
    Growth editor (editor.typeChange buffer cursor) := by
  unfold typeChange recordTyping History.recordTyping
  split
  · next running => exact .continued editor.history.typing running rfl
  · next closed =>
      exact .recorded editor.cursor true rfl (changed (by simpa using closed))

theorem settleTyping_keepsText (editor : Editor) :
    KeepsText editor editor.settleTyping := ⟨rfl, rfl, rfl, rfl, id⟩

theorem settleTyping_row_lt (editor : Editor) :
    editor.settleTyping.cursor.row < editor.settleTyping.buffer.lineCount :=
  Position.betweenCharacters_row_lt _ _

theorem settleTyping_column_le (editor : Editor) :
    editor.settleTyping.cursor.column ≤
      editor.settleTyping.buffer.width editor.settleTyping.cursor.row :=
  Nat.min_le_right _ _

theorem typeNewline_growth {editor : Editor}
    (inText : editor.cursor.row < editor.buffer.lineCount) :
    Growth editor editor.typeNewline := by
  have closed (changed : Editor) : KeepsText changed changed.closeRun :=
    ⟨rfl, rfl, rfl, rfl, fun running => by cases running⟩
  refine Growth.then_kept (typeChange_growth _ _ ?_) (closed _)
  intro _
  exact Buffer.breakLine_ne_self _ inText

theorem typeBackspace_growth {editor : Editor}
    (inText : editor.cursor.row < editor.buffer.lineCount)
    (inLine : editor.cursor.column ≤ editor.buffer.width editor.cursor.row)
    (inside : editor.cursor.column ≠ 0) :
    Growth editor editor.typeBackspace := by
  apply typeChange_growth
  intro _ same
  have removed := (Buffer.splice_eq_self_iff inText (Nat.sub_le _ 1)).mp same
  exact Line.between_ne_nil (by omega) (Nat.lt_of_lt_of_le (by omega) inLine)
    removed

theorem typeCharacter_growth {editor : Editor} (character : Char)
    (inText : editor.cursor.row < editor.buffer.lineCount) :
    Growth editor (editor.typeCharacter character) := by
  apply typeChange_growth
  intro _ same
  have replaced := (Buffer.splice_eq_self_iff inText (Nat.le_refl _)).mp same
  rw [Line.between_self] at replaced
  cases replaced

theorem insertKey_growth (editor : Editor) (key : Key) :
    Growth editor (editor.insertKey key).2 := by
  have settled := settleTyping_keepsText editor
  have inText := settleTyping_row_lt editor
  have inLine := settleTyping_column_le editor
  unfold insertKey
  dsimp only
  split
  · exact (typeNewline_growth inText).after_kept settled
  · split
    · exact .kept settled
    · next inside =>
        exact (typeBackspace_growth inText inLine inside).after_kept settled
  · split
    · exact .kept (settled.trans ⟨rfl, rfl, rfl, rfl, nofun⟩)
    · split
      · exact (typeCharacter_growth _ inText).after_kept settled
      · exact .kept settled

/-- The key types over the character at the cursor with the same one, and no
typing run is open. -/
structure Retypes (editor : Editor) (key : Key) : Prop where
  mode : editor.mode = .replace
  closed : editor.history.typing = false
  same : ∃ character, key.printable? = some character ∧
    Line.clusterAt?
      (editor.buffer.line editor.settleTyping.cursor.row)
      editor.settleTyping.cursor.column = some [character]

theorem typeOver_growth {editor : Editor} {character : Char}
    (inText : editor.cursor.row < editor.buffer.lineCount)
    (inLine : editor.cursor.column ≤ editor.buffer.width editor.cursor.row)
    (novel : editor.history.typing = false →
      Line.clusterAt? (editor.buffer.line editor.cursor.row)
        editor.cursor.column ≠ some [character]) :
    Growth editor (editor.typeOver character) := by
  apply typeChange_growth
  intro closed same
  have ordered : editor.cursor.column ≤ min (editor.cursor.column + 1)
      (editor.buffer.width editor.cursor.row) := by omega
  have replaced := (Buffer.splice_eq_self_iff inText ordered).mp same
  rw [Buffer.width, Line.between_min_width, Line.between_add_one] at replaced
  cases found : Line.clusterAt? (editor.buffer.line editor.cursor.row)
      editor.cursor.column with
  | none =>
      rw [found] at replaced
      cases replaced
  | some cluster =>
      rw [found] at replaced
      have equal : cluster = [character] := replaced
      exact novel closed (found.trans (congrArg some equal))

theorem replaceKey_growth {editor : Editor} {key : Key}
    (mode : editor.mode = .replace) (novel : ¬ editor.Retypes key) :
    Growth editor (editor.replaceKey key).2 := by
  have settled := settleTyping_keepsText editor
  have inText := settleTyping_row_lt editor
  have inLine := settleTyping_column_le editor
  unfold replaceKey
  dsimp only
  split
  · exact .kept (settled.trans ⟨rfl, rfl, rfl, rfl, id⟩)
  · split
    · exact .kept (settled.trans ⟨rfl, rfl, rfl, rfl, nofun⟩)
    · split
      · next character printable =>
          refine (typeOver_growth inText inLine ?_).after_kept settled
          intro closed same
          exact novel ⟨mode, closed, character, printable, same⟩
      · exact .kept settled

theorem typeKey_growth {editor : Editor} {key : Key}
    (novel : ¬ editor.Retypes key) :
    Growth editor (editor.typeKey key).2 := by
  unfold typeKey
  split
  · exact insertKey_growth editor key
  · next mode => exact replaceKey_growth mode novel
  · exact .kept (searchKey_keepsText editor key)
  · exact .kept (.refl editor)

theorem replaceKey_printable (editor : Editor) {key : Key}
    {character : Char} (printable : key.printable? = some character) :
    editor.replaceKey key =
      (.changed, editor.settleTyping.typeOver character) := by
  obtain ⟨shift, rfl⟩ := Key.printable?_eq_some printable
  rfl

namespace Retypes

variable {editor : Editor} {key : Key}

theorem typeKey_eq (retypes : editor.Retypes key) :
    ∃ character, key.printable? = some character ∧
      editor.typeKey key =
        (.changed, editor.settleTyping.typeOver character) := by
  obtain ⟨character, printable, _⟩ := retypes.same
  refine ⟨character, printable, ?_⟩
  rw [typeKey, retypes.mode]
  exact replaceKey_printable editor printable

/-- The text before is recorded although it does not change. -/
theorem typeKey_history (retypes : editor.Retypes key) :
    (editor.typeKey key).2.history =
      { editor.history.record editor.settleTyping.snapshot with
        typing := true } := by
  obtain ⟨character, _, taken⟩ := retypes.typeKey_eq
  have closed : editor.settleTyping.history.typing = false := retypes.closed
  rw [taken]
  simp only [typeOver, typeChange, recordTyping, History.recordTyping, closed]
  rfl

theorem typeKey_buffer (retypes : editor.Retypes key) :
    (editor.typeKey key).2.buffer = editor.buffer := by
  obtain ⟨character, printable, taken⟩ := retypes.typeKey_eq
  obtain ⟨other, typed, same⟩ := retypes.same
  have equal : other = character :=
    Option.some.inj (typed.symm.trans printable)
  have inLine := settleTyping_column_le editor
  rw [taken]
  apply (Buffer.splice_eq_self_iff (settleTyping_row_lt editor) ?_).mpr
  · rw [Buffer.width, Line.between_min_width, Line.between_add_one]
    rw [show editor.settleTyping.buffer = editor.buffer from rfl, same, equal]
    rfl
  · omega

end Retypes

end Editor

namespace Session

theorem Runs.ne {session : Session} {key : Key} {command other : Command}
    (runs : session.Runs key command) (unrun : ¬ session.Runs key other) :
    command ≠ other := by
  rintro rfl
  exact unrun runs

theorem Taken.growth {session : Session} {key : Key}
    {result : Response × Session} (taken : session.Taken key result)
    (noUndo : ¬ session.Runs key .undo) (noRedo : ¬ session.Runs key .redo)
    (novel : ¬ session.editor.Retypes key) :
    session.editor.Growth result.2.editor := by
  have ready (pending : Pending) (notice : Option Notice) :
      session.editor.KeepsText { session.editor with pending, notice } :=
    ⟨rfl, rfl, rfl, rfl, id⟩
  cases taken with
  | ran command runs =>
      exact (Editor.run_growth _ (runs.ne noUndo) (runs.ne noRedo)).after_kept
        (ready _ _)
  | completed waiting character _ _ =>
      exact (Editor.runWithArgument_growth _ waiting character).after_kept
        (ready .none session.editor.notice)
  | escaped _ _ => exact .kept (Editor.escape_keepsText _)
  | abandoned _ _ => exact .kept (Editor.leave_keepsText _)
  | typed _ _ => exact Editor.typeKey_growth novel
  | refused command _ => exact .kept (ready _ _)
  | ignored kept _ => exact .kept (ready kept session.editor.notice)
  | waiting typed _ _ => exact .kept (ready _ _)
  | cancelled _ => exact .kept (ready _ _)

/-- Every key that neither undoes nor redoes lets the history grow with the
text, unless it types a character over itself. -/
theorem dispatch_growth {session : Session} {key : Key}
    (noUndo : ¬ session.Runs key .undo) (noRedo : ¬ session.Runs key .redo)
    (novel : ¬ session.editor.Retypes key) :
    session.editor.Growth (session.dispatch key).2.editor := by
  have taken := takeKey_taken { session with interacted := true } key
  refine taken.growth ?_ ?_ novel
  · intro runs
    exact noUndo ⟨runs.commands, runs.completes, runs.allowed⟩
  · intro runs
    exact noRedo ⟨runs.commands, runs.completes, runs.allowed⟩

theorem dispatch_of_retypes {session : Session} {key : Key}
    (retypes : session.editor.Retypes key) :
    (session.dispatch key).2.editor = (session.editor.typeKey key).2 := by
  obtain ⟨character, printable, _⟩ := retypes.same
  have typing : session.editor.mode.isTyping := by rw [retypes.mode]; rfl
  exact congrArg Prod.snd
    (dispatch_typing typing (Key.isEscape_of_printable? printable))

end Session

end ModalTutor
