import ModalTutor.Proofs.HistoryGrowth

/-!
# What a key does to the text and its history

`Editor.Effect` lists all that can become of the two: a change of the text
either records the text before, or belongs to a typing run that is already
open, or comes out of the history.  `Session.dispatch_effect` says so of every
key.
-/

namespace ModalTutor

namespace History

theorem undo?_eq_some {history after : History}
    {present previous : Snapshot}
    (step : history.undo? present = some (previous, after)) :
    ∃ rest, history.past = previous :: rest ∧
      after = { history with
        past := rest
        future := present :: history.future
        typing := false } := by
  unfold undo? at step
  split at step
  · cases step
  · next rest shape =>
      cases step
      exact ⟨rest, shape, rfl⟩

theorem redo?_eq_some {history after : History} {present next : Snapshot}
    (step : history.redo? present = some (next, after)) :
    ∃ rest, history.future = next :: rest ∧
      after = { history with
        past := present :: history.past
        future := rest
        typing := false } := by
  unfold redo? at step
  split at step
  · cases step
  · next rest shape =>
      cases step
      exact ⟨rest, shape, rfl⟩

end History

namespace Editor

/-- What can become of the text and its history.  The cursor of a new snapshot
need not be the one before the key. -/
inductive Effect (before after : Editor) : Prop where
  | kept (kept : KeepsText before after)
  | recorded (cursor : Position) (typing : Bool)
      (history : after.history =
        { before.history.record ⟨before.buffer, cursor⟩ with typing })
  /-- A change in an open typing run. -/
  | continued (typing : Bool) (running : before.history.typing)
      (history : after.history = { before.history with typing })
  | undone (cursor : Position) (previous : Snapshot) (rest : List Snapshot)
      (past : before.history.past = previous :: rest)
      (history : after.history = { before.history with
        past := rest
        future := ⟨before.buffer, cursor⟩ :: before.history.future
        typing := false })
      (buffer : after.buffer = previous.buffer)
  | redone (cursor : Position) (next : Snapshot) (rest : List Snapshot)
      (future : before.history.future = next :: rest)
      (history : after.history = { before.history with
        past := ⟨before.buffer, cursor⟩ :: before.history.past
        future := rest
        typing := false })
      (buffer : after.buffer = next.buffer)

namespace Effect

theorem after_kept {before middle after : Editor}
    (kept : KeepsText before middle) (effect : Effect middle after) :
    Effect before after := by
  have history := kept.history
  cases effect with
  | kept later => exact .kept (kept.trans later)
  | recorded cursor typing recorded =>
      refine .recorded cursor typing ?_
      rw [recorded, history, kept.buffer]
      rfl
  | continued typing running continued =>
      refine .continued typing (kept.typing running) ?_
      rw [continued, history]
  | undone cursor previous rest past undone buffer =>
      refine .undone cursor previous rest (kept.past ▸ past) ?_ buffer
      rw [undone, history, kept.buffer]
  | redone cursor next rest future redone buffer =>
      refine .redone cursor next rest (kept.future ▸ future) ?_ buffer
      rw [redone, history, kept.buffer]

theorem then_kept {before middle after : Editor}
    (effect : Effect before middle) (kept : KeepsText middle after) :
    Effect before after := by
  have history := kept.history
  cases effect with
  | kept earlier => exact .kept (earlier.trans kept)
  | recorded cursor typing recorded =>
      refine .recorded cursor after.history.typing ?_
      rw [history, recorded]
  | continued typing running continued =>
      refine .continued after.history.typing running ?_
      rw [history, continued]
  | undone cursor previous rest past undone buffer =>
      have closed : middle.history.typing = false := by rw [undone]
      refine .undone cursor previous rest past ?_ (kept.buffer.trans buffer)
      rw [kept.history_eq closed, undone]
  | redone cursor next rest future redone buffer =>
      have closed : middle.history.typing = false := by rw [redone]
      refine .redone cursor next rest future ?_ (kept.buffer.trans buffer)
      rw [kept.history_eq closed, redone]

end Effect

theorem Growth.effect {before after : Editor}
    (growth : Growth before after) : Effect before after := by
  cases growth with
  | kept kept => exact .kept kept
  | recorded cursor typing history _ => exact .recorded cursor typing history
  | continued typing running history =>
      exact .continued typing running history

theorem runUndo_effect (editor : Editor) : Effect editor editor.runUndo.2 := by
  unfold runUndo undo?
  cases step : editor.history.undo? editor.snapshot with
  | none => exact .kept (.refl editor)
  | some result =>
      obtain ⟨previous, history⟩ := result
      obtain ⟨rest, past, undone⟩ := History.undo?_eq_some step
      exact .undone editor.cursor previous rest past undone rfl

theorem runRedo_effect (editor : Editor) : Effect editor editor.runRedo.2 := by
  unfold runRedo redo?
  cases step : editor.history.redo? editor.snapshot with
  | none => exact .kept (.refl editor)
  | some result =>
      obtain ⟨next, history⟩ := result
      obtain ⟨rest, future, redone⟩ := History.redo?_eq_some step
      exact .redone editor.cursor next rest future redone rfl

theorem perform_effect (editor : Editor) (command : Command) :
    Effect editor (editor.perform command).2 := by
  by_cases undo : command = .undo
  · rw [undo]
    exact runUndo_effect editor
  · by_cases redo : command = .redo
    · rw [redo]
      exact runRedo_effect editor
    · exact (perform_growth editor undo redo).effect

theorem run_effect (editor : Editor) (command : Command) :
    Effect editor (editor.run command).2 :=
  (perform_effect editor command).then_kept (run_keepsText editor command)

/-- A typed change opens a run or belongs to the one that is open. -/
theorem typeKey_effect (editor : Editor) (key : Key) :
    Effect editor (editor.typeKey key).2 := by
  by_cases retypes : editor.Retypes key
  · exact .recorded editor.settleTyping.cursor true retypes.typeKey_history
  · exact (typeKey_growth retypes).effect

end Editor

namespace Session

theorem Runs.effect {session : Session} {key : Key} {command : Command}
    (runs : session.Runs key command) :
    session.editor.Effect (session.dispatch key).2.editor := by
  have ready : session.editor.KeepsText { session.editor with
      pending := .none
      notice := session.editor.mode.banner? } := ⟨rfl, rfl, rfl, rfl, id⟩
  have ran : (session.dispatch key).2.editor =
      ({ session.editor with
        pending := .none
        notice := session.editor.mode.banner? }.run command).2 :=
    congrArg Prod.snd runs.dispatch_eq
  rw [ran]
  exact (Editor.run_effect _ command).after_kept ready

theorem dispatch_effect (session : Session) (key : Key) :
    session.editor.Effect (session.dispatch key).2.editor := by
  by_cases undo : session.Runs key .undo
  · exact undo.effect
  by_cases redo : session.Runs key .redo
  · exact redo.effect
  by_cases retypes : session.editor.Retypes key
  · rw [dispatch_of_retypes retypes]
    exact Editor.typeKey_effect session.editor key
  · exact (dispatch_growth undo redo retypes).effect

end Session

end ModalTutor
