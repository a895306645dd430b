import ModalTutor.Proofs.Soundness

/-!
# Going back and forth in the history

What the keys for undo and redo do to a session that waits for a command.
Every step settles the cursor, so a snapshot that comes back from an undo may
differ from the one that was recorded; `redo_after_undo_restores` says that
going back any number of steps and forth again restores the session none the
less, because the cursor that one starts from is settled already.
-/

namespace ModalTutor

/-- The key of the undo command. -/
def Key.undo : Key := .char 'u'

/-- The key of the redo command. -/
def Key.redo : Key := ⟨.char 'r', ⟨true, false, false⟩⟩

/-- The text in which going back through some snapshots ends, the nearest of
them first. -/
def oldestText (present : Buffer) : List Snapshot → Buffer
  | [] => present
  | nearest :: older => oldestText nearest.buffer older

theorem oldestText_append (present : Buffer) (nearer older : List Snapshot) :
    oldestText present (nearer ++ older) =
      oldestText (oldestText present nearer) older := by
  induction nearer generalizing present with
  | nil => rfl
  | cons nearest nearer ih => exact ih nearest.buffer

namespace Editor

theorem run_undo {editor : Editor} {previous : Snapshot}
    {rest : List Snapshot} (mode : editor.mode = .normal)
    (past : editor.history.past = previous :: rest) :
    (editor.run .undo).2 =
      { editor with
        buffer := previous.buffer
        cursor := previous.cursor.onCharacter previous.buffer
        notice := some .undone
        history := { editor.history with
          past := rest
          future := editor.snapshot :: editor.history.future
          typing := false } } := by
  simp [run, perform, runUndo, undo?, History.undo?, past, restore, settle,
    say, mode]

theorem run_redo {editor : Editor} {next : Snapshot} {rest : List Snapshot}
    (mode : editor.mode = .normal)
    (future : editor.history.future = next :: rest) :
    (editor.run .redo).2 =
      { editor with
        buffer := next.buffer
        cursor := next.cursor.onCharacter next.buffer
        notice := some .redone
        history := { editor.history with
          past := editor.snapshot :: editor.history.past
          future := rest
          typing := false } } := by
  simp [run, perform, runRedo, redo?, History.redo?, future, restore, settle,
    say, mode]

/-- Alike in everything but the status line and the snapshots of the past, of
which there are equally many. -/
structure Restored (before after : Editor) : Prop where
  buffer : after.buffer = before.buffer
  cursor : after.cursor = before.cursor
  mode : after.mode = before.mode
  pending : after.pending = before.pending
  register : after.register = before.register
  marks : after.marks = before.marks
  search : after.search = before.search
  past : after.history.past.length = before.history.past.length
  future : after.history.future = before.history.future

theorem Restored.refl (editor : Editor) : Restored editor editor :=
  ⟨rfl, rfl, rfl, rfl, rfl, rfl, rfl, rfl, rfl⟩

end Editor

namespace Session

/-- The session waits for a command in the normal mode. -/
structure Idle (session : Session) : Prop where
  mode : session.editor.mode = .normal
  pending : session.editor.pending = .none

/-- A key that stands for a command on its own runs it if it is allowed. -/
theorem Idle.runs {session : Session} (idle : session.Idle) {key : Key}
    {command : Command}
    (completes : Interpretation.ofKey .normal .none key =
      (.command command, .none))
    (allowed : session.allows command) : session.Runs key command where
  commands := by rw [idle.mode]; rfl
  completes := by rw [idle.mode, idle.pending, completes]
  allowed := allowed

theorem Idle.dispatch_undo {session : Session} (idle : session.Idle)
    (allowed : session.allows .undo) {previous : Snapshot}
    {rest : List Snapshot}
    (past : session.editor.history.past = previous :: rest) :
    (session.dispatch .undo).2.editor =
      { session.editor with
        buffer := previous.buffer
        cursor := previous.cursor.onCharacter previous.buffer
        pending := .none
        notice := some .undone
        history := { session.editor.history with
          past := rest
          future := session.editor.snapshot :: session.editor.history.future
          typing := false } } := by
  have runs : session.Runs .undo .undo := idle.runs rfl allowed
  exact (congrArg Prod.snd runs.dispatch_eq).trans
    (Editor.run_undo idle.mode past)

theorem Idle.dispatch_redo {session : Session} (idle : session.Idle)
    (allowed : session.allows .redo) {next : Snapshot} {rest : List Snapshot}
    (future : session.editor.history.future = next :: rest) :
    (session.dispatch .redo).2.editor =
      { session.editor with
        buffer := next.buffer
        cursor := next.cursor.onCharacter next.buffer
        pending := .none
        notice := some .redone
        history := { session.editor.history with
          past := session.editor.snapshot :: session.editor.history.past
          future := rest
          typing := false } } := by
  have runs : session.Runs .redo .redo := idle.runs rfl allowed
  exact (congrArg Prod.snd runs.dispatch_eq).trans
    (Editor.run_redo idle.mode future)

theorem Idle.after_undo {session : Session} (idle : session.Idle)
    (allowed : session.allows .undo) {previous : Snapshot}
    {rest : List Snapshot}
    (past : session.editor.history.past = previous :: rest) :
    (session.dispatch .undo).2.Idle where
  mode := by rw [idle.dispatch_undo allowed past]; exact idle.mode
  pending := by rw [idle.dispatch_undo allowed past]

/-- Undoing as often as there are recorded snapshots goes through all of
them. -/
theorem Idle.undo_recorded (recorded : List Snapshot) :
    ∀ {session : Session} (rest : List Snapshot), session.Idle →
      session.allows .undo →
      session.editor.history.past = recorded ++ rest →
      let undone := session.feed (List.replicate recorded.length .undo)
      undone.editor.history.past = rest ∧
        undone.editor.buffer =
          oldestText session.editor.buffer recorded := by
  induction recorded with
  | nil =>
      intro session rest _ _ past
      exact ⟨past, rfl⟩
  | cons previous recorded ih =>
      intro session rest idle allowed past
      have undone := idle.dispatch_undo allowed past
      have stillAllowed : (session.dispatch .undo).2.allows .undo := by
        rw [dispatch_allows]
        exact allowed
      have later := ih rest (idle.after_undo allowed past) stillAllowed
        (by rw [undone]; rfl)
      refine ⟨later.1, later.2.trans ?_⟩
      rw [undone]
      rfl

/-- A redo brings back what an undo took, if in between the session was
restored to what the undo had left. -/
theorem Idle.redo_restores {session between : Session} (idle : session.Idle)
    (settled : session.editor.cursor.onCharacter session.editor.buffer =
      session.editor.cursor)
    (undoAllowed : session.allows .undo) (redoAllowed : between.allows .redo)
    {previous : Snapshot} {rest : List Snapshot}
    (past : session.editor.history.past = previous :: rest)
    (restored : (session.dispatch .undo).2.editor.Restored between.editor) :
    session.editor.Restored (between.dispatch .redo).2.editor := by
  rw [idle.dispatch_undo undoAllowed past] at restored
  have future : between.editor.history.future =
      session.editor.snapshot :: session.editor.history.future :=
    restored.future
  have betweenIdle : between.Idle :=
    ⟨restored.mode.trans idle.mode, restored.pending⟩
  have pastLength : between.editor.history.past.length = rest.length :=
    restored.past
  rw [betweenIdle.dispatch_redo redoAllowed future]
  exact
    { buffer := rfl
      cursor := settled
      mode := restored.mode
      pending := idle.pending.symm
      register := restored.register
      marks := restored.marks
      search := restored.search
      past := by simp [pastLength, past]
      future := rfl }

theorem Idle.restored_by_redo (count : Nat) :
    ∀ {session : Session}, session.Idle →
      session.editor.cursor.onCharacter session.editor.buffer =
        session.editor.cursor →
      session.allows .undo → session.allows .redo →
      count ≤ session.editor.history.past.length →
      session.editor.Restored
        ((session.feed (List.replicate count .undo)).feed
          (List.replicate count .redo)).editor := by
  induction count with
  | zero =>
      intro session _ _ _ _ _
      exact .refl session.editor
  | succ count ih =>
      intro session idle settled undoAllowed redoAllowed enough
      cases past : session.editor.history.past with
      | nil => simp [past] at enough
      | cons previous rest =>
          have undone := idle.dispatch_undo undoAllowed past
          have settledAgain :
              (session.dispatch .undo).2.editor.cursor.onCharacter
                  (session.dispatch .undo).2.editor.buffer =
                (session.dispatch .undo).2.editor.cursor := by
            rw [undone]
            exact Position.onCharacter_onCharacter _ _
          have enoughLeft : count ≤
              (session.dispatch .undo).2.editor.history.past.length := by
            rw [undone]
            simpa [past] using enough
          have restored := ih (idle.after_undo undoAllowed past) settledAgain
            (by simpa using undoAllowed) (by simpa using redoAllowed)
            enoughLeft
          rw [List.replicate_succ, feed_cons, List.replicate_succ',
            feed_append]
          exact idle.redo_restores settled undoAllowed
            (by simpa using redoAllowed) past restored

/-- Going back and then forth again by equally many steps restores text,
cursor, depths of the history, register, marks, search and mode. -/
theorem redo_after_undo_restores {session : Session}
    (reachable : Reachable session) (idle : session.Idle)
    (undoAllowed : session.allows .undo) (redoAllowed : session.allows .redo)
    (count : Nat) (enough : count ≤ session.editor.history.past.length) :
    let after :=
      ((session.feed (List.replicate count .undo)).feed
        (List.replicate count .redo)).editor
    after.buffer.lines = session.editor.buffer.lines ∧
      after.cursor = session.editor.cursor ∧
      after.history.past.length = session.editor.history.past.length ∧
      after.history.future.length = session.editor.history.future.length ∧
      after.register = session.editor.register ∧
      after.marks = session.editor.marks ∧
      after.search = session.editor.search ∧
      after.mode = session.editor.mode := by
  have settled := reachable.sound.settled (by rw [idle.mode]; rfl)
  have restored :=
    idle.restored_by_redo count settled undoAllowed redoAllowed enough
  exact ⟨congrArg Buffer.lines restored.buffer, restored.cursor,
    restored.past, congrArg List.length restored.future, restored.register,
    restored.marks, restored.search, restored.mode⟩

/-- The undos lead to another text, in which the cursor of the older snapshot
does not fit and is clamped. -/
theorem redo_after_undo_restores_clamped :
    let session := (ofBuffer (.ofLines [['a', 'b'], ['c']]) 5).feed
      [.char 'A', .char 'c', .plain .escape, .char 'h', .char 'x', .char 'j',
        .char 'x', .undo]
    let undone := session.feed (List.replicate 2 .undo)
    session.Idle ∧ 2 ≤ session.editor.history.past.length ∧
      session.editor.buffer.lines = [['a', 'c'], ['c']] ∧
      undone.editor.buffer.lines = [['a', 'b'], ['c']] ∧
      session.editor.history.past.map Snapshot.cursor = [⟨0, 1⟩, ⟨0, 2⟩] ∧
      undone.editor.cursor = ⟨0, 1⟩ ∧
      let after :=
        ((session.feed (List.replicate 2 .undo)).feed
          (List.replicate 2 .redo)).editor
      after.buffer.lines = session.editor.buffer.lines ∧
        after.cursor = session.editor.cursor ∧
        after.history.past.length = session.editor.history.past.length ∧
        after.history.future.length = session.editor.history.future.length ∧
        after.register = session.editor.register ∧
        after.marks = session.editor.marks ∧
        after.search = session.editor.search ∧
        after.mode = session.editor.mode := by
  intro session undone
  have reachable : Reachable session :=
    (Reachable.ofBuffer (.ofLines [['a', 'b'], ['c']]) 5).feed _
  have idle : session.Idle := ⟨rfl, rfl⟩
  have enough : 2 ≤ session.editor.history.past.length := by decide +kernel
  exact ⟨idle, enough, by decide +kernel, by decide +kernel,
    by decide +kernel, by decide +kernel,
    redo_after_undo_restores reachable idle rfl rfl 2 enough⟩

end Session

end ModalTutor
