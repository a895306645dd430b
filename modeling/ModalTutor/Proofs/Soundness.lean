import ModalTutor.Proofs.HistoryEffect
import ModalTutor.Proofs.CursorRange

/-!
# Sound editors

An editor is sound if its cursor is in the text, on a character wherever
nothing is being typed, and if a typing run is open only while typing and only
after something was recorded.  `Session.Reachable.sound` says that every
reachable session has a sound editor.
-/

namespace ModalTutor

namespace Editor

structure Sound (editor : Editor) : Prop where
  row_lt : editor.cursor.row < editor.buffer.lineCount
  settled : editor.mode.isTyping = false →
    editor.cursor.onCharacter editor.buffer = editor.cursor
  run_mode : editor.history.typing → editor.mode.isTyping
  run_recorded : editor.history.typing →
    editor.history.past ≠ [] ∧ editor.history.future = []

/-- What is left to ask of an editor whose cursor is settled next, unless the
mode forbids it. -/
structure Unsettled (editor : Editor) : Prop where
  row_lt : editor.mode.takesCommands = false →
    editor.cursor.row < editor.buffer.lineCount
  settled : editor.mode = .search →
    editor.cursor.onCharacter editor.buffer = editor.cursor
  run_mode : editor.history.typing → editor.mode.isTyping

/-- No typing run is open while commands are taken. -/
theorem Sound.closed {editor : Editor} (sound : editor.Sound)
    (commands : editor.mode.isTyping = false) :
    editor.history.typing = false := by
  cases running : editor.history.typing with
  | false => rfl
  | true =>
      have typing := sound.run_mode running
      rw [commands] at typing
      cases typing

/-- The record of an open run outlasts every key. -/
theorem Effect.run_recorded {before after : Editor}
    (effect : Effect before after)
    (recorded : before.history.typing →
      before.history.past ≠ [] ∧ before.history.future = []) :
    after.history.typing →
      after.history.past ≠ [] ∧ after.history.future = [] := by
  intro running
  cases effect with
  | kept kept =>
      rw [kept.past, kept.future]
      exact recorded (kept.typing running)
  | recorded cursor typing history =>
      rw [history]
      exact ⟨History.record_past_ne_nil _ _, rfl⟩
  | continued typing before history =>
      rw [history]
      exact recorded before
  | undone cursor previous rest past undone _ =>
      rw [undone] at running
      cases running
  | redone cursor next rest future redone _ =>
      rw [redone] at running
      cases running

theorem leave_closed {editor : Editor} (sound : editor.Sound) :
    editor.leave.history.typing = false := by
  unfold leave
  cases mode : editor.mode with
  | insert | replace => rfl
  | normal | visual | visualLine | search =>
      exact sound.closed (by rw [mode]; rfl)

theorem leave_settled (editor : Editor) :
    editor.leave.cursor.onCharacter editor.leave.buffer =
      editor.leave.cursor :=
  Position.onCharacter_onCharacter _ _

theorem leave_sound {editor : Editor} (sound : editor.Sound) :
    editor.leave.Sound where
  row_lt := Position.onCharacter_row_lt _ _
  settled _ := leave_settled editor
  run_mode running := by
    rw [leave_closed sound] at running
    cases running
  run_recorded running := by
    rw [leave_closed sound] at running
    cases running

theorem Unsettled.ofClosed {editor : Editor}
    (commands : editor.mode.takesCommands)
    (closed : editor.history.typing = false) : editor.Unsettled where
  row_lt text := by
    rw [commands] at text
    cases text
  settled searching := by
    rw [searching] at commands
    cases commands
  run_mode running := by
    rw [closed] at running
    cases running

theorem Unsettled.ofTyping {editor : Editor} (typing : editor.mode.isTyping)
    (row_lt : editor.cursor.row < editor.buffer.lineCount) :
    editor.Unsettled where
  row_lt _ := row_lt
  settled searching := by
    rw [searching] at typing
    cases typing
  run_mode _ := typing

theorem applyEdit_mode (editor : Editor) (edit : Edit) :
    (editor.applyEdit edit).mode = editor.mode := by
  unfold applyEdit
  split
  · rfl
  · split <;> rfl

theorem applyEdit_cursor (editor : Editor) (edit : Edit) :
    (editor.applyEdit edit).cursor = edit.cursor := by
  unfold applyEdit
  split
  · rfl
  · split <;> rfl

theorem applyEdit_typing (editor : Editor) (edit : Edit) :
    (editor.applyEdit edit).history.typing = editor.history.typing := by
  unfold applyEdit
  split
  · rfl
  · split <;> rfl

theorem applyEdit_buffer (editor : Editor) (edit : Edit) :
    (editor.applyEdit edit).buffer = edit.buffer.getD editor.buffer := by
  unfold applyEdit
  cases edit.buffer with
  | none => rfl
  | some buffer =>
      by_cases same : buffer = editor.buffer
      · simp [same]
      · simp [same]

/-- An edit that leads on to typing leaves the cursor in the text. -/
theorem runEdit_unsettled {editor : Editor} {edit : Edit}
    (commands : editor.mode.takesCommands)
    (closed : editor.history.typing = false)
    (inText : edit.entersInsert →
      edit.cursor.row < (edit.buffer.getD editor.buffer).lineCount) :
    (editor.runEdit edit).2.Unsettled := by
  unfold runEdit
  dsimp only
  split
  · next enters =>
      have row_lt := inText enters
      rw [← applyEdit_buffer, ← applyEdit_cursor editor edit] at row_lt
      split
      · exact .ofTyping rfl row_lt
      · exact .ofTyping rfl row_lt
  · refine .ofClosed ?_ ?_
    · rw [applyEdit_mode]
      exact commands
    · rw [applyEdit_typing]
      exact closed

theorem runSelection_unsettled {editor : Editor} (sound : editor.Sound)
    (edit : Buffer → Selection → Edit)
    (leaves : ∀ buffer selection,
      (edit buffer selection).entersInsert = false) :
    (editor.runSelection edit).2.Unsettled := by
  have closed := leave_closed sound
  unfold runSelection
  split
  · exact .ofClosed rfl closed
  · next selection _ =>
      dsimp only
      split
      · exact .ofClosed rfl closed
      · have stays := leaves editor.leave.buffer selection
        have normal : editor.leave.mode = .normal := rfl
        refine .ofClosed ?_ ?_
        · simp [runEdit, stays, settle, applyEdit_mode, normal,
            Mode.takesCommands]
        · simp [runEdit, stays, settle, applyEdit_typing, closed]

theorem toggleVisual_unsettled {editor : Editor} (sound : editor.Sound)
    (commands : editor.mode.takesCommands) {mode : Mode}
    (visual : mode.takesCommands) :
    (editor.toggleVisual mode).2.Unsettled := by
  have closed := sound.closed (Mode.isTyping_eq_false commands)
  unfold toggleVisual
  split
  · exact .ofClosed rfl (leave_closed sound)
  · split
    · exact .ofClosed visual closed
    · exact .ofClosed visual closed

theorem stepSearch_unsettled {editor : Editor} (sound : editor.Sound)
    (commands : editor.mode.takesCommands) (step : Search → Search) :
    (editor.stepSearch step).2.Unsettled := by
  have closed := sound.closed (Mode.isTyping_eq_false commands)
  unfold stepSearch
  split
  · exact .ofClosed commands closed
  · unfold reach
    split
    · exact .ofClosed commands closed
    · exact .ofClosed commands closed

theorem startSearch_unsettled {editor : Editor} (sound : editor.Sound)
    (commands : editor.mode.takesCommands) (direction : Direction) :
    (editor.startSearch direction).2.Unsettled where
  row_lt _ := sound.row_lt
  settled _ := sound.settled (Mode.isTyping_eq_false commands)
  run_mode running := by
    have closed := sound.closed (Mode.isTyping_eq_false commands)
    rw [show (editor.startSearch direction).2.history = editor.history
      from rfl, closed] at running
    cases running

theorem openLine_unsettled (editor : Editor) {row : Nat}
    (inText : row ≤ editor.buffer.lineCount) :
    (editor.openLine row).2.Unsettled := by
  refine .ofTyping rfl ?_
  change row < (editor.buffer.insertLine row []).lineCount
  rw [Buffer.lineCount_insertLine]
  exact Nat.lt_succ_of_le inText

theorem runUndo_unsettled {editor : Editor}
    (commands : editor.mode.takesCommands)
    (closed : editor.history.typing = false) :
    editor.runUndo.2.Unsettled := by
  unfold runUndo undo?
  cases step : editor.history.undo? editor.snapshot with
  | none => exact .ofClosed commands closed
  | some result =>
      obtain ⟨rest, _, undone⟩ := History.undo?_eq_some step
      exact .ofClosed commands (congrArg History.typing undone)

theorem runRedo_unsettled {editor : Editor}
    (commands : editor.mode.takesCommands)
    (closed : editor.history.typing = false) :
    editor.runRedo.2.Unsettled := by
  unfold runRedo redo?
  cases step : editor.history.redo? editor.snapshot with
  | none => exact .ofClosed commands closed
  | some result =>
      obtain ⟨rest, _, redone⟩ := History.redo?_eq_some step
      exact .ofClosed commands (congrArg History.typing redone)

theorem changeWord_inText {buffer : Buffer} {cursor : Position}
    (row_lt : cursor.row < buffer.lineCount) :
    (Edit.changeWord buffer cursor).cursor.row <
      ((Edit.changeWord buffer cursor).buffer.getD buffer).lineCount := by
  unfold Edit.changeWord
  dsimp only
  split
  · exact row_lt
  · simpa [Edit.cut] using row_lt

theorem perform_unsettled {editor : Editor} (sound : editor.Sound)
    (commands : editor.mode.takesCommands) (command : Command) :
    (editor.perform command).2.Unsettled := by
  have closed := sound.closed (Mode.isTyping_eq_false commands)
  cases command with
  | move motion => exact .ofClosed commands closed
  | insert | append | appendLineEnd | insertLineStart | replaceMode =>
      exact .ofTyping rfl sound.row_lt
  | openBelow => exact openLine_unsettled editor sound.row_lt
  | openAbove => exact openLine_unsettled editor (Nat.le_of_lt sound.row_lt)
  | escape => exact .ofClosed rfl (leave_closed sound)
  | visualChar | visualLine =>
      exact toggleVisual_unsettled sound commands rfl
  | visualDelete =>
      refine runSelection_unsettled sound _ fun buffer selection => ?_
      grind [Edit.deleteSelection, Edit.cut, Edit.unchanged]
  | visualYank =>
      refine runSelection_unsettled sound _ fun buffer selection => ?_
      grind [Edit.yankSelection, Edit.unchanged]
  | searchForward | searchBackward =>
      exact startSearch_unsettled sound commands _
  | searchNext | searchPrevious => exact stepSearch_unsettled sound commands _
  | undo => exact runUndo_unsettled commands closed
  | redo => exact runRedo_unsettled commands closed
  | changeWord =>
      exact runEdit_unsettled commands closed fun _ =>
        changeWord_inText sound.row_lt
  | deleteChar | deleteLine | deleteWord | deleteToLineEnd | yankLine
  | yankWord | pasteAfter | pasteBefore =>
      -- Of the operators only a change leads on to typing.
      refine runEdit_unsettled commands closed fun enters => ?_
      grind [Edit.deleteChar, Edit.deleteLine, Edit.deleteWord,
        Edit.deleteToLineEnd, Edit.yankLine, Edit.yankWord, Edit.pasteAfter,
        Edit.pasteBefore, Edit.pasteLines, Edit.pasteCharacters, Edit.cut,
        Edit.unchanged]
  | replaceChar | setMark | jumpMark => exact .ofClosed commands closed

theorem settle_sound {editor : Editor}
    (run_mode : editor.history.typing → editor.mode.isTyping)
    (run_recorded : editor.history.typing →
      editor.history.past ≠ [] ∧ editor.history.future = []) :
    editor.settle.Sound where
  row_lt := Position.onCharacter_row_lt _ _
  settled _ := Position.onCharacter_onCharacter _ _
  run_mode := run_mode
  run_recorded := run_recorded

theorem typing_sound {editor : Editor} (typing : editor.mode.isTyping)
    (row_lt : editor.cursor.row < editor.buffer.lineCount)
    (run_recorded : editor.history.typing →
      editor.history.past ≠ [] ∧ editor.history.future = []) :
    editor.Sound where
  row_lt := row_lt
  settled commands := by
    rw [typing] at commands
    cases commands
  run_mode _ := typing
  run_recorded := run_recorded

/-- Running a command settles the cursor where that is still to be done. -/
theorem run_sound {editor : Editor} (command : Command)
    (unsettled : (editor.perform command).2.Unsettled)
    (run_recorded : editor.history.typing →
      editor.history.past ≠ [] ∧ editor.history.future = []) :
    (editor.run command).2.Sound := by
  have recorded := (perform_effect editor command).run_recorded run_recorded
  unfold run
  dsimp only
  cases mode : (editor.perform command).2.mode with
  | normal | visual | visualLine =>
      exact settle_sound unsettled.run_mode recorded
  | search =>
      exact ⟨unsettled.row_lt (by rw [mode]; rfl),
        fun _ => unsettled.settled mode, unsettled.run_mode, recorded⟩
  | insert | replace =>
      have typing : (editor.perform command).2.mode.isTyping := by
        rw [mode]; rfl
      exact typing_sound typing (unsettled.row_lt (by rw [mode]; rfl))
        recorded

theorem replaceChar_entersInsert (buffer : Buffer) (cursor : Position)
    (character : Char) :
    (Edit.replaceChar buffer cursor character).entersInsert = false := by
  unfold Edit.replaceChar
  split <;> rfl

theorem runEdit_replaceChar_history (editor : Editor) (character : Char) :
    (editor.runEdit (Edit.replaceChar editor.buffer editor.cursor
      character)).2.history.typing = editor.history.typing := by
  have stays := replaceChar_entersInsert editor.buffer editor.cursor character
  simp [runEdit, stays, applyEdit_typing]

theorem runWithArgument_sound {editor : Editor} (sound : editor.Sound)
    (commands : editor.mode.takesCommands) (command : Command)
    (character : Char) :
    (editor.runWithArgument command character).2.Sound := by
  have closed := sound.closed (Mode.isTyping_eq_false commands)
  have stillClosed :
      (editor.runWithArgument command character).2.history.typing = false := by
    unfold runWithArgument settle
    dsimp only
    split
    · rw [runEdit_replaceChar_history]
      exact closed
    · unfold setMark
      split <;> exact closed
    · unfold jumpToMark
      split <;> exact closed
    · exact closed
  refine settle_sound ?_ ?_
  · intro running
    exact absurd (stillClosed.symm.trans running) Bool.false_ne_true
  · intro running
    exact absurd (stillClosed.symm.trans running) Bool.false_ne_true

theorem moveTyping_row_lt (editor : Editor) (target : Position) :
    (editor.moveTyping target).cursor.row <
      (editor.moveTyping target).buffer.lineCount :=
  Position.betweenCharacters_row_lt target editor.buffer

theorem insertKey_mode (editor : Editor) (key : Key) :
    (editor.insertKey key).2.mode = editor.mode := by
  unfold insertKey
  dsimp only
  split
  · rfl
  · split <;> rfl
  · split
    · rfl
    · split <;> rfl

theorem replaceKey_mode (editor : Editor) (key : Key) :
    (editor.replaceKey key).2.mode = editor.mode := by
  unfold replaceKey
  dsimp only
  split
  · rfl
  · split
    · rfl
    · split <;> rfl

theorem insertKey_row_lt (editor : Editor) (key : Key) :
    (editor.insertKey key).2.cursor.row <
      (editor.insertKey key).2.buffer.lineCount := by
  have inText : editor.settleTyping.cursor.row <
      editor.settleTyping.buffer.lineCount :=
    Position.betweenCharacters_row_lt _ _
  unfold insertKey
  dsimp only
  split
  · change _ + 1 < (Buffer.breakLine _ _ _).lineCount
    rw [Buffer.lineCount_breakLine _ inText]
    exact Nat.succ_lt_succ inText
  · split
    · exact inText
    · change _ < (Buffer.splice _ _ _ _ _).lineCount
      rw [Buffer.lineCount_splice]
      exact inText
  · split
    · exact moveTyping_row_lt _ _
    · split
      · change _ < (Buffer.splice _ _ _ _ _).lineCount
        rw [Buffer.lineCount_splice]
        exact inText
      · exact inText

theorem replaceKey_row_lt (editor : Editor) (key : Key) :
    (editor.replaceKey key).2.cursor.row <
      (editor.replaceKey key).2.buffer.lineCount := by
  have inText : editor.settleTyping.cursor.row <
      editor.settleTyping.buffer.lineCount :=
    Position.betweenCharacters_row_lt _ _
  unfold replaceKey
  dsimp only
  split
  · exact inText
  · split
    · exact moveTyping_row_lt _ _
    · split
      · change _ < (Buffer.splice _ _ _ _ _).lineCount
        rw [Buffer.lineCount_splice]
        exact inText
      · exact inText

theorem reach_sound {editor : Editor} (sound : editor.Sound)
    (search : Search) : (editor.reach search).Sound := by
  unfold reach
  split
  · exact ⟨Position.onCharacter_row_lt _ _,
      fun _ => Position.onCharacter_onCharacter _ _, sound.run_mode,
      sound.run_recorded⟩
  · exact ⟨sound.row_lt, sound.settled, sound.run_mode, sound.run_recorded⟩

theorem searchKey_sound {editor : Editor} (sound : editor.Sound) (key : Key) :
    (editor.searchKey key).2.Sound := by
  have left := leave_sound sound
  unfold searchKey
  split
  · unfold submitSearch
    extract_lets typed last term leaving
    by_cases empty : term = []
    · rw [if_pos empty]
      exact ⟨left.row_lt, left.settled, left.run_mode, left.run_recorded⟩
    · rw [if_neg empty]
      exact reach_sound left _
  · exact ⟨sound.row_lt, sound.settled, sound.run_mode, sound.run_recorded⟩
  · split
    · exact ⟨sound.row_lt, sound.settled, sound.run_mode,
        sound.run_recorded⟩
    · exact sound

theorem typeKey_sound {editor : Editor} (sound : editor.Sound) (key : Key) :
    (editor.typeKey key).2.Sound := by
  have recorded := (typeKey_effect editor key).run_recorded sound.run_recorded
  unfold typeKey at recorded ⊢
  split
  · next mode =>
      simp only [mode] at recorded
      refine typing_sound ?_ (insertKey_row_lt editor key) recorded
      rw [insertKey_mode, mode]
      rfl
  · next mode =>
      simp only [mode] at recorded
      refine typing_sound ?_ (replaceKey_row_lt editor key) recorded
      rw [replaceKey_mode, mode]
      rfl
  · exact searchKey_sound sound key
  · exact sound

theorem escape_unsettled {editor : Editor} (sound : editor.Sound) :
    (editor.perform .escape).2.Unsettled :=
  .ofClosed rfl (leave_closed sound)

theorem Outcome.sound {editor : Editor} {result : Response × Editor}
    (outcome : editor.Outcome result) (sound : editor.Sound) :
    result.2.Sound := by
  have same (pending : Pending) (notice : Option Notice) :
      { editor with pending, notice }.Sound :=
    ⟨sound.row_lt, sound.settled, sound.run_mode, sound.run_recorded⟩
  cases outcome with
  | ran command commands =>
      exact run_sound command
        (perform_unsettled (same .none editor.mode.banner?) commands command)
        sound.run_recorded
  | completed waiting character commands _ _ =>
      exact runWithArgument_sound (same .none editor.notice) commands waiting
        character
  | escaped _ =>
      exact run_sound .escape (escape_unsettled sound) sound.run_recorded
  | abandoned _ => exact leave_sound sound
  | typed key _ _ => exact typeKey_sound sound key
  | refused command => exact same _ _
  | ignored kept _ => exact same kept editor.notice
  | waiting typed _ => exact same _ _
  | cancelled _ => exact same _ _

theorem ofBuffer_sound (buffer : Buffer) (depth : Nat) :
    (ofBuffer buffer depth).Sound where
  row_lt := buffer.lineCount_pos
  settled _ := by simp [ofBuffer, Position.origin, Position.onCharacter]
  run_mode running := by cases running
  run_recorded running := by cases running

end Editor

/-- The editor of every reachable session is sound. -/
theorem Session.Reachable.sound {session : Session}
    (reachable : Reachable session) : session.editor.Sound :=
  reachable.editor_invariant Editor.ofBuffer_sound fun session key =>
    (session.dispatch_outcome key).sound

/-- There is always a line with the cursor in it, and except while typing the
cursor is on a character of the line or in column 0 of an empty one. -/
theorem Session.Reachable.cursor_in_text {session : Session}
    (reachable : Reachable session) :
    let buffer := session.editor.buffer
    let cursor := session.editor.cursor
    0 < buffer.lineCount ∧ cursor.row < buffer.lineCount ∧
      (session.editor.mode.isTyping = false →
        cursor.column < max (buffer.width cursor.row) 1) := by
  intro buffer cursor
  have sound := reachable.sound
  refine ⟨buffer.lineCount_pos, sound.row_lt, ?_⟩
  intro still
  exact Position.column_lt_of_settled (sound.settled still)

/-- A mark beyond the text that is left, and a selection from there. -/
theorem Session.cursor_in_text_at_stale_mark :
    let lesson : Lesson := .plain 1 [['a'], ['b', 'c', 'd']] .duplicateLine
      [.move .down, .move .lineEnd, .setMark, .deleteLine, .jumpMark,
        .visualChar]
    let session := (ofLesson lesson 2).feed
      [.char 'j', .char '$', .char 'm', .char 'q', .char 'd', .char 'd',
        .char '\'', .char 'q', .char 'v']
    let buffer := session.editor.buffer
    let cursor := session.editor.cursor
    Reachable session ∧ session.editor.marks.get? 'q' = some ⟨1, 2⟩ ∧
      buffer.lineCount = 1 ∧ session.editor.mode = .visual ∧
      0 < buffer.lineCount ∧ cursor.row < buffer.lineCount ∧
      cursor.column < max (buffer.width cursor.row) 1 := by
  intro lesson session buffer cursor
  have reachable : Reachable session := (Reachable.ofLesson lesson 2).feed _
  have visual : session.editor.mode = .visual := by decide +kernel
  obtain ⟨lines, row, column⟩ := reachable.cursor_in_text
  exact ⟨reachable, by decide +kernel, by decide +kernel, visual, lines, row,
    column (by rw [visual]; rfl)⟩

end ModalTutor
