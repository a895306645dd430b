import ModalTutor.Json.Report
import ModalTutor.Proofs.ModeCoherence

/-!
# What a clean response leaves

A key with a clean response runs no more than a motion, an undo or a redo that
comes to nothing, or it is not taken at all.  So a report after it can only
differ in what is done before that, and in that an undo was asked for.
`Session.clean_keeps_report` says what stays, and when.
-/

namespace ModalTutor

namespace Editor

variable {editor : Editor}

theorem moveBy_of_clean {motion : Motion}
    (clean : (editor.moveBy motion).1.visible = false) :
    editor.moveBy motion = (.clean, editor) := by
  unfold moveBy at clean ⊢
  dsimp only at clean ⊢
  split at clean
  · next still =>
      rw [if_pos still, Prod.mk.injEq]
      refine ⟨rfl, ?_⟩
      have cursor := still.symm
      simp only [settle] at cursor ⊢
      rw [cursor]
  · cases clean

theorem runUndo_of_clean (clean : editor.runUndo.1.visible = false) :
    editor.runUndo = (.undoneNothing, editor) ∧
      editor.history.past = [] := by
  unfold runUndo undo? at clean ⊢
  cases past : editor.history.past with
  | nil => simp [History.undo?, past]
  | cons previous rest => simp [History.undo?, past, Response.undone] at clean

theorem runRedo_of_clean (clean : editor.runRedo.1.visible = false) :
    editor.runRedo = (.clean, editor) := by
  unfold runRedo at clean ⊢
  split
  · next found =>
      rw [found] at clean
      cases clean
  · rfl

theorem runEdit_visible (editor : Editor) (edit : Edit) :
    (editor.runEdit edit).1.visible = true := by
  unfold runEdit
  dsimp only
  split <;> rfl

theorem runSelection_visible (editor : Editor)
    (edit : Buffer → Selection → Edit) :
    (editor.runSelection edit).1.visible = true := by
  unfold runSelection
  split
  · rfl
  · dsimp only
    split
    · rfl
    · exact runEdit_visible _ _

theorem toggleVisual_visible (editor : Editor) (mode : Mode) :
    (editor.toggleVisual mode).1.visible = true := by
  unfold toggleVisual
  split
  · rfl
  · split <;> rfl

theorem stepSearch_visible (editor : Editor) (step : Search → Search) :
    (editor.stepSearch step).1.visible = true := by
  unfold stepSearch
  split <;> rfl

theorem setMark_visible {name : Char} (named : Marks.isName name) :
    (editor.setMark name).1.visible = true := by
  simp [setMark, named, Response.shown]

theorem jumpToMark_visible (editor : Editor) (name : Char) :
    (editor.jumpToMark name).1.visible = true := by
  unfold jumpToMark
  split <;> rfl

/-- A command that has nothing to show changes nothing, and what it did not
undo was not there. -/
theorem perform_of_clean {command : Command}
    (clean : (editor.perform command).1.visible = false) :
    (editor.perform command).2 = editor ∧
      ((editor.perform command).1.undoIssued →
        command = .undo ∧ editor.history.past = []) := by
  have unshown {result : Response × Editor}
      (visible : result.1.visible = true) (clean : result.1.visible = false) :
      False := by
    rw [visible] at clean
    cases clean
  cases command with
  | move motion =>
      have same : editor.perform (.move motion) = (.clean, editor) :=
        moveBy_of_clean clean
      rw [same]
      exact ⟨rfl, fun issued => by cases issued⟩
  | undo =>
      obtain ⟨same, past⟩ := runUndo_of_clean clean
      exact ⟨congrArg Prod.snd same, fun _ => ⟨rfl, past⟩⟩
  | redo =>
      have same : editor.perform .redo = (.clean, editor) :=
        runRedo_of_clean clean
      rw [same]
      exact ⟨rfl, fun issued => by cases issued⟩
  | insert | append | appendLineEnd | insertLineStart | openBelow | openAbove
  | escape | replaceMode | replaceChar | setMark | jumpMark | searchForward
  | searchBackward => cases clean
  | visualChar | visualLine =>
      exact (unshown (toggleVisual_visible editor _) clean).elim
  | visualDelete | visualYank =>
      exact (unshown (runSelection_visible editor _) clean).elim
  | searchNext | searchPrevious =>
      exact (unshown (stepSearch_visible editor _) clean).elim
  | deleteChar | deleteLine | deleteWord | deleteToLineEnd | yankLine
  | yankWord | changeWord | pasteAfter | pasteBefore =>
      exact (unshown (runEdit_visible editor _) clean).elim

theorem run_response (editor : Editor) (command : Command) :
    (editor.run command).1 = (editor.perform command).1 := by
  unfold run
  dsimp only
  split <;> rfl

/-- The same with the cursor settled, where it was settled before. -/
theorem run_of_clean {command : Command}
    (clean : (editor.run command).1.visible = false)
    (settled : editor.cursor.onCharacter editor.buffer = editor.cursor) :
    (editor.run command).2 = editor ∧
      ((editor.run command).1.undoIssued →
        command = .undo ∧ editor.history.past = []) := by
  rw [run_response] at clean ⊢
  obtain ⟨same, issued⟩ := perform_of_clean clean
  have unmoved : editor.settle = editor := by
    rw [settle, settled]
  refine ⟨?_, issued⟩
  unfold run
  dsimp only
  rw [same]
  split
  · exact unmoved
  · exact unmoved
  · exact unmoved
  · exact same

theorem runWithArgument_visible {waiting : Command} {character : Char}
    {pending : Pending} (awaited : pending.awaits? = some waiting)
    (accepted : waiting.acceptsArgument character) :
    (editor.runWithArgument waiting character).1.visible = true := by
  cases pending with
  | none | keys => cases awaited
  | replacement =>
      cases awaited
      exact runEdit_visible _ _
  | markToSet =>
      cases awaited
      exact setMark_visible (by simpa [Command.acceptsArgument] using accepted)
  | markToReach =>
      cases awaited
      exact jumpToMark_visible _ _

/-- Backspace has nothing to remove in column 0, and the other keys without
effect are those that stand for no text. -/
theorem insertKey_of_clean {key : Key}
    (clean : (editor.insertKey key).1.visible = false) :
    editor.insertKey key = (.clean, editor.settleTyping) := by
  unfold insertKey at clean ⊢
  dsimp only at clean ⊢
  split at clean
  · cases clean
  · split at clean
    · next first => rw [if_pos first]
    · cases clean
  · split at clean
    · cases clean
    · split at clean
      · cases clean
      · rfl

theorem replaceKey_of_clean {key : Key}
    (clean : (editor.replaceKey key).1.visible = false) :
    editor.replaceKey key = (.clean, editor.settleTyping) := by
  unfold replaceKey at clean ⊢
  dsimp only at clean ⊢
  split at clean
  · cases clean
  · split at clean
    · cases clean
    · split at clean
      · cases clean
      · rfl

theorem submitSearch_visible (editor : Editor) :
    editor.submitSearch.1.visible = true := by
  unfold submitSearch
  dsimp only
  generalize (if editor.prompt.typed = [] then _ else _ : Text) = term
  split <;> rfl

theorem searchKey_of_clean {key : Key}
    (clean : (editor.searchKey key).1.visible = false) :
    editor.searchKey key = (.clean, editor) := by
  unfold searchKey at clean ⊢
  split at clean
  · rw [submitSearch_visible] at clean
    cases clean
  · cases clean
  · split at clean
    · cases clean
    · rfl

/-- A column in the line stays when the cursor is settled for typing. -/
theorem settleTyping_of_inLine
    (inText : editor.cursor.row < editor.buffer.lineCount)
    (inLine : editor.cursor.column ≤
      editor.buffer.width editor.cursor.row) :
    editor.settleTyping = editor := by
  rw [settleTyping, Position.betweenCharacters_of_row_lt inText,
    Nat.min_eq_left inLine]

/-- Typing that has nothing to show only settles the cursor. -/
theorem typeKey_of_clean {key : Key}
    (clean : (editor.typeKey key).1.visible = false) :
    editor.typeKey key =
      (.clean, if editor.mode.isTyping then editor.settleTyping
        else editor) := by
  unfold typeKey at clean ⊢
  split at clean
  · next mode => simpa [mode, Mode.isTyping] using insertKey_of_clean clean
  · next mode => simpa [mode, Mode.isTyping] using replaceKey_of_clean clean
  · next mode => simpa [mode, Mode.isTyping] using searchKey_of_clean clean
  · next insert replace _ =>
      have still : editor.mode.isTyping = false := by
        cases mode : editor.mode with
        | insert => exact (insert mode).elim
        | replace => exact (replace mode).elim
        | normal | visual | visualLine | search => rfl
      rw [still]
      rfl

end Editor

namespace Session

/-- What a key with nothing to show leaves of a session.  Only the cursor, the
notice and the pending input can be others, each under a condition. -/
structure Quiet (session : Session) (key : Key)
    (result : Response × Session) : Prop where
  frame : result.2 = { session with
    editor := { session.editor with
      cursor := result.2.editor.cursor
      notice := result.2.editor.notice
      pending := result.2.editor.pending } }
  cursor : (session.editor.mode.isTyping →
      session.editor.cursor.column ≤
        session.editor.buffer.width session.editor.cursor.row) →
    result.2.editor.cursor = session.editor.cursor
  notice : (∀ command, ¬ session.Runs key command) ∨
      session.editor.notice = session.editor.mode.banner? →
    result.2.editor.notice = session.editor.notice
  pending : (∀ typed, session.editor.pending ≠ .keys typed) →
    result.2.editor.pending = session.editor.pending
  issued : result.1.undoIssued →
    session.Runs key .undo ∧ session.editor.history.past = []

/-- Input that waits for no character is none, or begins a command. -/
theorem pending_eq_none {pending : Pending}
    (unawaited : pending.awaits? = none)
    (unbegun : ∀ typed, pending ≠ .keys typed) : pending = .none := by
  cases pending with
  | none => rfl
  | keys typed => exact (unbegun typed rfl).elim
  | replacement | markToSet | markToReach => cases unawaited

/-- A key may settle the cursor and drop pending input without a word. -/
theorem Quiet.of_clean {session : Session} (key : Key) {cursor : Position}
    {kept : Pending}
    (still : (session.editor.mode.isTyping →
        session.editor.cursor.column ≤
          session.editor.buffer.width session.editor.cursor.row) →
      cursor = session.editor.cursor)
    (unbegun : (∀ typed, session.editor.pending ≠ .keys typed) →
      kept = session.editor.pending) :
    session.Quiet key (session.adopt
      (.clean, { session.editor with cursor, pending := kept })) where
  frame := rfl
  cursor := still
  notice _ := rfl
  pending := unbegun
  issued issued := by cases issued

/-- Unless the key that was awaited has come, the response is clean only for a
command without effect, a key that stands for no text, or one that is
ignored. -/
theorem Taken.quiet {session : Session} {key : Key}
    {result : Response × Session} (taken : session.Taken key result)
    (sound : session.editor.Sound)
    (unawaited : session.editor.pending.awaits? = none)
    (clean : result.1.visible = false) : session.Quiet key result := by
  cases taken with
  | ran command runs =>
      have settled := sound.settled (Mode.isTyping_eq_false runs.commands)
      obtain ⟨same, issued⟩ := Editor.run_of_clean clean settled
      -- The command changes nothing, but the pending input and the old notice
      -- are gone before it runs.
      constructor
      case frame => simp only [adopt, same]
      case cursor => exact fun _ => by simp only [adopt, same]
      case notice =>
        rintro (unrun | banner)
        · exact (unrun command runs).elim
        · simp only [adopt, same, banner]
      case pending =>
        intro unbegun
        simp only [adopt, same, pending_eq_none unawaited unbegun]
      case issued =>
        intro undone
        obtain ⟨rfl, past⟩ := issued undone
        exact ⟨runs, past⟩
  | completed waiting character commands read =>
      have reading := Interpretation.ofKey_reading session.editor.mode
        session.editor.pending key
      rw [read] at reading
      cases reading with
      | withArgument _ _ awaited _ _ =>
          rw [unawaited] at awaited
          cases awaited
  | typed text unescaped =>
      have typed := Editor.typeKey_of_clean clean
      simp only [adopt, typed]
      cases typing : session.editor.mode.isTyping with
      | false => exact .of_clean key (fun _ => rfl) (fun _ => rfl)
      | true =>
          refine .of_clean key ?_ (fun _ => rfl)
          intro inLine
          exact congrArg Editor.cursor
            (Editor.settleTyping_of_inLine sound.row_lt (inLine typing))
  | ignored kept dropped =>
      refine .of_clean key (fun _ => rfl) ?_
      intro unbegun
      rcases dropped with same | dropped
      · exact same
      · rw [dropped, pending_eq_none unawaited unbegun]
  | escaped | abandoned | refused | waiting | cancelled => cases clean

/-- A key that completes or drops an awaited argument has that to show. -/
theorem commandKey_visible_of_awaits {session : Session} {key : Key}
    {waiting : Command}
    (awaited : session.editor.pending.awaits? = some waiting) :
    (session.commandKey key).1.visible = true := by
  unfold commandKey Interpretation.ofKey
  simp only [awaited]
  cases printable : key.printable? with
  | none => rfl
  | some character =>
      by_cases accepted : waiting.acceptsArgument character
      · simp only [accepted, if_true]
        exact Editor.runWithArgument_visible awaited accepted
      · simp only [accepted]
        rfl

theorem unawaited_of_clean {session : Session}
    (coherent : session.editor.Coherent) {key : Key}
    (clean : (session.takeKey key).1.visible = false) :
    session.editor.pending.awaits? = none := by
  cases commands : session.editor.mode.takesCommands with
  | false => rw [coherent.awaits.eq_none commands]; rfl
  | true =>
      rw [takeKey_of_takesCommands key commands] at clean
      cases awaited : session.editor.pending.awaits? with
      | none => rfl
      | some waiting =>
          rw [commandKey_visible_of_awaits awaited] at clean
          cases clean

/-- After a clean response the report is as before, but for an undo that found
nothing and counts all the same.  The notice stays unless the key has completed
a command while another notice than that of the mode was shown, the pending
input unless it begins a command, and the cursor unless it was beyond the end
of a line while typing. -/
theorem clean_keeps_report {session : Session}
    (reachable : Reachable session) {key : Key}
    (clean : (session.dispatch key).1.visible = false) :
    let editor := session.editor
    let response := (session.dispatch key).1
    let after := (session.dispatch key).2
    after.toJson =
      { session with
        editor := { editor with
          cursor := after.editor.cursor
          notice := after.editor.notice
          pending := after.editor.pending }
        undoPerformed :=
          session.undoPerformed || response.undoIssued }.toJson ∧
    ((editor.mode.isTyping →
        editor.cursor.column ≤ editor.buffer.width editor.cursor.row) →
      after.editor.cursor = editor.cursor) ∧
    ((∀ command, ¬ session.Runs key command) ∨
        editor.notice = editor.mode.banner? →
      after.editor.notice = editor.notice) ∧
    ((∀ typed, editor.pending ≠ .keys typed) →
      after.editor.pending = editor.pending) ∧
    (response.undoIssued →
      session.Runs key .undo ∧ editor.history.past = []) := by
  intro editor response after
  -- Which command a key runs does not depend on whether there were others.
  let begun : Session := { session with interacted := true }
  have unseen : (begun.takeKey key).1.visible = false := clean
  have coherent : begun.editor.Coherent := reachable.coherent
  have unawaited := unawaited_of_clean coherent unseen
  have quiet : begun.Quiet key (begun.takeKey key) :=
    (takeKey_taken begun key).quiet reachable.sound unawaited clean
  have runs {command : Command} (runs : begun.Runs key command) :
      session.Runs key command :=
    ⟨runs.commands, runs.completes, runs.allowed⟩
  refine ⟨?_, quiet.cursor, ?_, quiet.pending, ?_⟩
  · exact congrArg
      (fun left : Session => { left with
        undoPerformed := left.undoPerformed || response.undoIssued }.toJson)
      quiet.frame
  · rintro (unrun | banner)
    · exact quiet.notice (.inl fun command ran => unrun command (runs ran))
    · exact quiet.notice (.inr banner)
  · intro issued
    obtain ⟨undo, past⟩ := quiet.issued issued
    exact ⟨runs undo, past⟩

/-- An undo with nothing to undo, after a search and a mark. -/
theorem clean_undo_keeps_report :
    let session := (ofBuffer (.ofLines [['a', 'b'], ['b']]) 3).feed
      [.char '/', .char 'b', .plain .enter, .char 'm', .char 'q', .char 'h']
    let key : Key := .char 'u'
    let editor := session.editor
    let response := (session.dispatch key).1
    let after := (session.dispatch key).2
    Reachable session ∧ response.visible = false ∧
    response.undoIssued = true ∧
    after.toJson =
      { session with
        editor := { editor with
          cursor := after.editor.cursor
          notice := after.editor.notice
          pending := after.editor.pending }
        undoPerformed :=
          session.undoPerformed || response.undoIssued }.toJson ∧
    after.editor.cursor = editor.cursor ∧
    after.editor.notice = editor.notice ∧
    after.editor.pending = editor.pending ∧
    session.Runs key .undo ∧ editor.history.past = [] := by
  intro session key editor response after
  have reachable : Reachable session :=
    (Reachable.ofBuffer (.ofLines [['a', 'b'], ['b']]) 3).feed _
  have clean : response.visible = false := by decide +kernel
  have issued : response.undoIssued = true := by decide +kernel
  have still : ¬ editor.mode.isTyping := by decide +kernel
  have banner : editor.notice = editor.mode.banner? := by decide +kernel
  have unbegun (typed : Text) : editor.pending ≠ .keys typed := by
    have pending : editor.pending = .none := by decide +kernel
    rw [pending]
    exact Pending.noConfusion
  obtain ⟨report, cursor, notice, waiting, undone⟩ :=
    clean_keeps_report reachable clean
  exact ⟨reachable, clean, issued, report,
    cursor fun typing => absurd typing still, notice (.inr banner),
    waiting unbegun, undone issued⟩

/-- The undo shows in the report even if nothing else does. -/
theorem clean_undo_is_reported :
    ¬ ∀ (session : Session) (key : Key), Reachable session →
      (session.dispatch key).1.visible = false →
        (session.dispatch key).2.toJson = session.toJson := by
  intro same
  let session := ofBuffer (.ofLines [['a', 'b']]) 3
  have unchanged := same session (.char 'u') (.ofBuffer _ _)
    (by decide +kernel)
  have performed : (session.dispatch (.char 'u')).2.undoPerformed = true := by
    decide +kernel
  have unperformed : session.undoPerformed = false := rfl
  have members := congrArg List.getLast? (Json.object.inj unchanged)
  simp [performed, unperformed] at members

-- Each condition on what stays is needed: a motion that goes nowhere takes the
-- notice of a deletion away, a key that ends no command drops its beginning,
-- and a key without text brings the cursor back into the line.
example :
    let before := (ofBuffer (.ofLines [['a', 'b']]) 3).feed [.char 'x']
    (before.dispatch (.char 'h')).1.visible = false ∧
      before.editor.notice = some .deletedCharacter ∧
      (before.dispatch (.char 'h')).2.editor.notice = none := by
  decide +kernel

example :
    let before := (ofBuffer (.ofLines [['a', 'b']]) 3).feed [.char 'd']
    (before.dispatch (.char 'z')).1.visible = false ∧
      before.editor.pending = .keys ['d'] ∧
      (before.dispatch (.char 'z')).2.editor.pending = .none := by
  decide +kernel

example :
    let before := (ofBuffer (.ofLines [['a']]) 3).feed
      [.char 'a', .char '\u0301']
    (before.dispatch (.plain .tab)).1.visible = false ∧
      before.editor.cursor = ⟨0, 2⟩ ∧
      (before.dispatch (.plain .tab)).2.editor.cursor = ⟨0, 1⟩ := by
  decide +kernel

end Session

end ModalTutor
