import ModalTutor.Proofs.UndoRedo

/-!
# The history covers every change

`Editor.origin` is the oldest text that undo can reach.  As long as no
snapshot is dropped, no key moves it: a change that records nothing belongs to
an open typing run, and behind an open run there is a snapshot.  So undoing
everything leads back to the initial text.
-/

namespace ModalTutor

namespace Editor

/-- The oldest text in reach of undo. -/
def origin (editor : Editor) : Buffer :=
  oldestText editor.buffer editor.history.past

/-- How many snapshots there are on both sides of the present. -/
def snapshotCount (editor : Editor) : Nat :=
  editor.history.past.length + editor.history.future.length

namespace Effect

theorem limit_eq {before after : Editor} (effect : Effect before after) :
    after.history.limit = before.history.limit := by
  cases effect with
  | kept kept => simp only [History.limit, kept.depth]
  | recorded cursor typing history => rw [history]; rfl
  | continued typing running history => rw [history]; rfl
  | undone cursor previous rest past history buffer => rw [history]; rfl
  | redone cursor next rest future history buffer => rw [history]; rfl

/-- A key adds at most one snapshot. -/
theorem snapshotCount_le {before after : Editor}
    (effect : Effect before after) :
    after.snapshotCount ≤ before.snapshotCount + 1 := by
  unfold snapshotCount
  cases effect with
  | kept kept =>
      rw [kept.past, kept.future]
      omega
  | recorded cursor typing history =>
      rw [history]
      exact Nat.le_trans (before.history.length_record_past_le _)
        (Nat.add_le_add_right (Nat.le_add_right _ _) 1)
  | continued typing running history =>
      simp only [history]
      omega
  | undone cursor previous rest past history buffer =>
      simp only [history, past, List.length_cons]
      omega
  | redone cursor next rest future history buffer =>
      simp only [history, future, List.length_cons]
      omega

/-- No key moves the oldest text in reach if there is room for one more
snapshot. -/
theorem origin_eq {before after : Editor} (effect : Effect before after)
    (recorded : before.history.typing → before.history.past ≠ [])
    (room : before.history.past.length < before.history.limit) :
    after.origin = before.origin := by
  unfold origin
  cases effect with
  | kept kept => rw [kept.past, kept.buffer]
  | recorded cursor typing history =>
      rw [history]
      dsimp only
      rw [History.record_past_of_room room]
      rfl
  | continued typing running history =>
      rw [history]
      -- The present text does not matter behind a snapshot.
      cases past : before.history.past with
      | nil => exact absurd past (recorded running)
      | cons nearest older => rfl
  | undone cursor previous rest past history buffer =>
      rw [history, past, buffer]
      rfl
  | redone cursor next rest future history buffer =>
      rw [history]
      rfl

end Effect

end Editor

namespace Session

/-- Keys for which there is room do not move the oldest text in reach. -/
theorem Reachable.feed_origin {session : Session}
    (reachable : Reachable session) (keys : List Key)
    (room : session.editor.snapshotCount + keys.length ≤
      session.editor.history.limit) :
    (session.feed keys).editor.origin = session.editor.origin := by
  induction keys generalizing session with
  | nil => rfl
  | cons key keys ih =>
      have effect := session.dispatch_effect key
      have count := effect.snapshotCount_le
      have limit := effect.limit_eq
      rw [List.length_cons] at room
      have later := ih (reachable.dispatch key) (by omega)
      have roomNow : session.editor.history.past.length <
          session.editor.history.limit := by
        unfold Editor.snapshotCount at room
        omega
      have recorded : session.editor.history.typing →
          session.editor.history.past ≠ [] :=
        fun running => (reachable.sound.run_recorded running).1
      rw [feed_cons, later, effect.origin_eq recorded roomNow]

/-- After at most as many keys as there is room for snapshots, undoing
everything leads back to the initial text. -/
theorem undo_all_restores_initial_text (buffer : Buffer) (depth : Nat)
    (keys : List Key) (short : keys.length ≤ max depth 1)
    (idle : ((ofBuffer buffer depth).feed keys).Idle) :
    let session := (ofBuffer buffer depth).feed keys
    let undone := session.feed
      (List.replicate session.editor.history.past.length .undo)
    undone.editor.buffer.lines = buffer.lines ∧
      undone.editor.history.past.length = 0 := by
  intro session undone
  have allowed : session.allows .undo := by
    simp [session, allows, ofBuffer]
  have room : (ofBuffer buffer depth).editor.snapshotCount + keys.length ≤
      (ofBuffer buffer depth).editor.history.limit := by
    change 0 + keys.length ≤ max depth 1
    omega
  have origin := (Reachable.ofBuffer buffer depth).feed_origin keys room
  have all := Idle.undo_recorded session.editor.history.past [] idle allowed
    (List.append_nil _).symm
  constructor
  · exact congrArg Buffer.lines (all.2.trans origin)
  · exact congrArg List.length all.1

/-- A character typed, undone and redone, and another one deleted: two
snapshots lead back. -/
theorem undo_all_restores_initial_text_after_redo :
    let keys : List Key :=
      [.char 'a', .char 'x', .plain .escape, .undo, .redo, .char 'x']
    let session := (ofBuffer (.ofLines [['a', 'b']]) 6).feed keys
    keys.length ≤ max 6 1 ∧ session.Idle ∧
      session.editor.buffer.lines = [['a', 'x']] ∧
      session.editor.history.past.length = 2 ∧
      let undone := session.feed
        (List.replicate session.editor.history.past.length .undo)
      undone.editor.buffer.lines = [['a', 'b']] ∧
        undone.editor.history.past.length = 0 := by
  intro keys session
  have short : keys.length ≤ max 6 1 := by decide
  have idle : session.Idle := ⟨rfl, rfl⟩
  exact ⟨short, idle, by decide +kernel, by decide +kernel,
    undo_all_restores_initial_text (.ofLines [['a', 'b']]) 6 keys short idle⟩

end Session

end ModalTutor
