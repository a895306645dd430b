import ModalTutor.Proofs.Soundness

/-!
# Changes and records of them

Where a key neither undoes nor redoes, a change of the text ends the future of
the history and leaves something to undo, and without a change the history
stays as it is.  Only a character typed over itself breaks the second rule:
it begins a typing run, which records the text before and drops the future
although the text is the same.
-/

namespace ModalTutor

namespace Session

/-- A key that leaves the text as it is leaves the history as it is, unless it
types a character over itself without an open run.  Such a key changes nothing
in the text, yet records it, for which the oldest snapshot goes at the limit,
and drops the future. -/
theorem unchanged_text_keeps_history {session : Session} {key : Key}
    (noUndo : ¬ session.Runs key .undo)
    (noRedo : ¬ session.Runs key .redo) :
    let before := session.editor
    let after := (session.dispatch key).2.editor
    (¬ before.Retypes key → after.buffer.lines = before.buffer.lines →
      after.history.past = before.history.past ∧
        after.history.future = before.history.future) ∧
    (before.Retypes key →
      after.buffer.lines = before.buffer.lines ∧
        after.history.past =
          (before.settleTyping.snapshot :: before.history.past).take
            (max before.history.limit before.history.past.length) ∧
        after.history.future = []) := by
  intro before after
  constructor
  · intro novel same
    have growth := dispatch_growth noUndo noRedo novel
    exact growth.history_of_unchanged (Buffer.eq_of_lines same)
  · intro retypes
    have reached : after = (before.typeKey key).2 :=
      dispatch_of_retypes retypes
    rw [reached, retypes.typeKey_history, retypes.typeKey_buffer]
    exact ⟨rfl, before.history.record_past before.settleTyping.snapshot, rfl⟩

/-- A character typed over itself is recorded just if no run is open. -/
theorem retyping_records_without_open_run :
    let start := ofBuffer (.ofLines [['a', 'b']]) 3
    let running := start.feed [.char 'R', .char 'x']
    let inRun := (running.dispatch (.char 'b')).2.editor
    let closed := start.feed [.char 'x', .char 'u', .char 'R']
    let opened := (closed.dispatch (.char 'a')).2.editor
    (¬ running.Runs (.char 'b') .undo ∧ ¬ running.Runs (.char 'b') .redo ∧
      ¬ running.editor.Retypes (.char 'b') ∧
      inRun.buffer.lines = running.editor.buffer.lines ∧
      inRun.history.past = running.editor.history.past ∧
      inRun.history.future = running.editor.history.future) ∧
    (¬ closed.Runs (.char 'a') .undo ∧ ¬ closed.Runs (.char 'a') .redo ∧
      closed.editor.Retypes (.char 'a') ∧
      opened.buffer.lines = closed.editor.buffer.lines ∧
      opened.history.past =
        (closed.editor.settleTyping.snapshot ::
          closed.editor.history.past).take
            (max closed.editor.history.limit
              closed.editor.history.past.length) ∧
      opened.history.future = []) := by
  intro start running inRun closed opened
  have unrunInRun (command : Command) : ¬ running.Runs (.char 'b') command :=
    not_runs_of_isTyping (.char 'b') command (by decide +kernel)
  have unrun (command : Command) : ¬ closed.Runs (.char 'a') command :=
    not_runs_of_isTyping (.char 'a') command (by decide +kernel)
  have novel : ¬ running.editor.Retypes (.char 'b') := by
    intro retypes
    exact absurd retypes.closed (by decide +kernel)
  have retypes : closed.editor.Retypes (.char 'a') :=
    ⟨by decide +kernel, by decide +kernel, 'a', rfl, by decide +kernel⟩
  have same : inRun.buffer.lines = running.editor.buffer.lines := by
    decide +kernel
  -- The keys before no longer matter, and unifying must not run them again.
  clear_value running closed
  exact ⟨⟨unrunInRun .undo, unrunInRun .redo, novel, same,
      (unchanged_text_keeps_history (unrunInRun .undo)
        (unrunInRun .redo)).1 novel same⟩,
    unrun .undo, unrun .redo, retypes,
    (unchanged_text_keeps_history (unrun .undo) (unrun .redo)).2 retypes⟩

/-- A character typed over itself takes away what could be redone. -/
theorem retyping_drops_future :
    ¬ ∀ (session : Session) (key : Key), Reachable session →
      ¬ session.Runs key .undo → ¬ session.Runs key .redo →
      let before := session.editor
      let after := (session.dispatch key).2.editor
      after.buffer.lines = before.buffer.lines →
        after.history.past = before.history.past ∧
          after.history.future = before.history.future := by
  intro kept
  let session := (ofBuffer (.ofLines [['a', 'b']]) 3).feed
    [.char 'x', .char 'u', .char 'R']
  have reachable : Reachable session :=
    (Reachable.ofBuffer (.ofLines [['a', 'b']]) 3).feed _
  have unrun (command : Command) : ¬ session.Runs (.char 'a') command :=
    not_runs_of_isTyping (.char 'a') command (by decide +kernel)
  have histories := kept session (.char 'a') reachable (unrun .undo)
    (unrun .redo) (by decide +kernel)
  revert histories
  decide +kernel

/-- A change of the text that is neither undone nor redone ends the future and
leaves something to undo, also inside an open typing run. -/
theorem changed_text_ends_future {session : Session}
    (reachable : Reachable session) {key : Key}
    (noUndo : ¬ session.Runs key .undo) (noRedo : ¬ session.Runs key .redo)
    (changed : (session.dispatch key).2.editor.buffer.lines ≠
      session.editor.buffer.lines) :
    let after := (session.dispatch key).2.editor.history
    after.future.length = 0 ∧ 1 ≤ after.past.length := by
  intro after
  have novel : ¬ session.editor.Retypes key := by
    intro retypes
    apply changed
    rw [dispatch_of_retypes retypes, retypes.typeKey_buffer]
  have growth := dispatch_growth noUndo noRedo novel
  have different : (session.dispatch key).2.editor.buffer ≠
      session.editor.buffer := fun same => changed (congrArg Buffer.lines same)
  obtain ⟨past, future⟩ :=
    growth.history_of_changed reachable.sound.run_recorded different
  exact ⟨List.length_eq_zero_iff.mpr future, List.length_pos_iff.mpr past⟩

/-- After an undo, typing in the run that a new line has opened. -/
theorem future_ended_in_open_run :
    let session := (ofBuffer (.ofLines [['a', 'b']]) 1).feed
      [.char 'x', .char 'x', .char 'u', .char 'o']
    let key : Key := .char 'q'
    let after := (session.dispatch key).2.editor
    Reachable session ∧ session.editor.history.typing ∧
      ¬ session.Runs key .undo ∧ ¬ session.Runs key .redo ∧
      after.buffer.lines ≠ session.editor.buffer.lines ∧
      after.history.future.length = 0 ∧ 1 ≤ after.history.past.length := by
  intro session key after
  have reachable : Reachable session :=
    (Reachable.ofBuffer (.ofLines [['a', 'b']]) 1).feed _
  have unrun (command : Command) : ¬ session.Runs key command :=
    not_runs_of_isTyping key command (by decide +kernel)
  have changed : after.buffer.lines ≠ session.editor.buffer.lines := by
    decide +kernel
  exact ⟨reachable, by decide +kernel, unrun .undo, unrun .redo, changed,
    changed_text_ends_future reachable (unrun .undo) (unrun .redo) changed⟩

end Session

end ModalTutor
