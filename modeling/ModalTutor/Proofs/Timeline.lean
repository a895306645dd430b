import ModalTutor.Proofs.HistoryCoverage

/-!
# The history is a bounded timeline

`Editor.Operation` lists all that can be done to the text and its history.
Whatever is done, the snapshots on both sides of the present together stay
within the limit: a redo records without dropping anything, but it takes from
the future what it adds to the past.  Undo and redo themselves only move the
present along a timeline that stays as it is.
-/

namespace ModalTutor

/-- A step along the timeline. -/
inductive Travel where
  | undo
  | redo
  deriving DecidableEq, Repr

namespace Travel

/-- Where a step leads from a place in a timeline of so many snapshots, if it
does not lead beyond the ends. -/
def target? (count : Nat) : Travel → Nat → Option Nat
  | undo, 0 => none
  | undo, place + 1 => some place
  | redo, place => if place + 1 < count then some (place + 1) else none

def run? : Travel → Editor → Option Editor
  | undo => Editor.undo?
  | redo => Editor.redo?

end Travel

namespace Editor

/-- All snapshots from the oldest to the newest, the present one among them. -/
def timeline (editor : Editor) : List Snapshot :=
  editor.history.timeline editor.snapshot

/-- The place of the present in the timeline. -/
def focus (editor : Editor) : Nat :=
  editor.history.past.length

/-- Takes a step, and says whether there was a snapshot to go to. -/
def travel (editor : Editor) (step : Travel) : Bool × Editor :=
  match step.run? editor with
  | some restored => (true, restored)
  | none => (false, editor)

def travelAll (editor : Editor) (steps : List Travel) : Editor :=
  steps.foldl (fun reached step => (reached.travel step).2) editor

/-- What can be done to the text and its history. -/
inductive Operation where
  | record
  /-- Records what was the present before a change already made. -/
  | recordPrior (snapshot : Snapshot)
  | recordTyping
  | openRun
  | closeRun
  | travel (step : Travel)
  | write (buffer : Buffer) (cursor : Position)

def operate (editor : Editor) : Operation → Editor
  | .record => editor.record
  | .recordPrior snapshot =>
      { editor with history := editor.history.record snapshot }
  | .recordTyping => editor.recordTyping
  | .openRun => editor.openRun
  | .closeRun => editor.closeRun
  | .travel step => (editor.travel step).2
  | .write buffer cursor => { editor with buffer, cursor }

def operateAll (editor : Editor) (operations : List Operation) : Editor :=
  operations.foldl operate editor

@[simp] theorem length_timeline (editor : Editor) :
    editor.timeline.length = editor.snapshotCount + 1 := by
  simp [timeline, History.timeline, snapshotCount, Nat.add_assoc]

/-- The present stands at its place in the timeline. -/
theorem getElem?_timeline_focus (editor : Editor) :
    editor.timeline[editor.focus]? = some editor.snapshot := by
  simp [timeline, History.timeline, focus]

/-- Only the place of the present differs. -/
structure SameTimeline (before after : Editor) : Prop where
  timeline : after.timeline = before.timeline
  limit : after.history.limit = before.history.limit

theorem SameTimeline.trans {first second third : Editor}
    (left : SameTimeline first second) (right : SameTimeline second third) :
    SameTimeline first third :=
  ⟨right.timeline.trans left.timeline, right.limit.trans left.limit⟩

theorem SameTimeline.snapshotCount_eq {before after : Editor}
    (same : SameTimeline before after) :
    after.snapshotCount = before.snapshotCount := by
  have lengths := congrArg List.length same.timeline
  rw [length_timeline, length_timeline] at lengths
  exact Nat.succ.inj lengths

theorem undo?_eq_some {editor restored : Editor}
    (step : editor.undo? = some restored) :
    SameTimeline editor restored ∧ editor.focus = restored.focus + 1 := by
  obtain ⟨⟨previous, history⟩, undone, rfl⟩ := Option.map_eq_some_iff.mp step
  have same := History.timeline_undo? undone
  obtain ⟨rest, past, rfl⟩ := History.undo?_eq_some undone
  exact ⟨⟨same, rfl⟩, congrArg List.length past⟩

theorem redo?_eq_some {editor restored : Editor}
    (step : editor.redo? = some restored) :
    SameTimeline editor restored ∧ restored.focus = editor.focus + 1 := by
  obtain ⟨⟨next, history⟩, redone, rfl⟩ := Option.map_eq_some_iff.mp step
  have same := History.timeline_redo? redone
  obtain ⟨rest, future, rfl⟩ := History.redo?_eq_some redone
  exact ⟨⟨same, rfl⟩, rfl⟩

theorem undo?_eq_none {editor : Editor} (step : editor.undo? = none) :
    editor.focus = 0 := by
  unfold undo? History.undo? at step
  cases past : editor.history.past with
  | nil => exact congrArg List.length past
  | cons previous rest => simp [past] at step

theorem redo?_eq_none {editor : Editor} (step : editor.redo? = none) :
    editor.timeline.length = editor.focus + 1 := by
  unfold redo? History.redo? at step
  cases future : editor.history.future with
  | nil => simp [snapshotCount, focus, future]
  | cons next rest => simp [future] at step

/-- A step leads to the neighbouring place, or it changes nothing at all. -/
theorem travel_lands (editor : Editor) (step : Travel) :
    SameTimeline editor (editor.travel step).2 ∧
      match step.target? editor.timeline.length editor.focus with
      | some place => (editor.travel step).1 = true ∧
          (editor.travel step).2.focus = place
      | none => editor.travel step = (false, editor) := by
  cases step with
  | undo =>
      cases undone : editor.undo? with
      | none =>
          have oldest := undo?_eq_none undone
          simp [travel, Travel.run?, undone, Travel.target?, oldest,
            SameTimeline.mk]
      | some restored =>
          obtain ⟨same, moved⟩ := undo?_eq_some undone
          simp [travel, Travel.run?, undone, Travel.target?, moved, same]
  | redo =>
      cases redone : editor.redo? with
      | none =>
          have newest := redo?_eq_none redone
          simp only [travel, Travel.run?, redone, Travel.target?, newest]
          simp [SameTimeline.mk]
      | some restored =>
          obtain ⟨same, moved⟩ := redo?_eq_some redone
          have inside : editor.focus + 1 < editor.timeline.length := by
            have present := restored.getElem?_timeline_focus
            rw [same.timeline, moved] at present
            exact (List.getElem?_eq_some_iff.mp present).1
          simp only [travel, Travel.run?, redone, Travel.target?, inside]
          simp [moved, same]

theorem travelAll_sameTimeline (editor : Editor) (steps : List Travel) :
    SameTimeline editor (editor.travelAll steps) := by
  induction steps generalizing editor with
  | nil => exact ⟨rfl, rfl⟩
  | cons step steps ih =>
      exact (editor.travel_lands step).1.trans (ih (editor.travel step).2)

/-- No more snapshots than the history has room for. -/
structure Bounded (depth : Nat) (editor : Editor) : Prop where
  limit : editor.history.limit = max depth 1
  count : editor.snapshotCount ≤ max depth 1

namespace Bounded

variable {depth : Nat} {editor : Editor}

theorem of_record (bounded : Bounded depth editor) (snapshot : Snapshot)
    (typing : Bool) :
    Bounded depth { editor with
      history := { editor.history.record snapshot with typing } } where
  limit := bounded.limit
  count := by
    have within : editor.history.past.length ≤ editor.history.limit := by
      rw [bounded.limit]
      exact Nat.le_trans (Nat.le_add_right _ _) bounded.count
    have room : (editor.history.record snapshot).past.length ≤
        editor.history.limit := by
      rw [History.record_past, Nat.max_eq_left within]
      exact List.length_take_le _ _
    rw [bounded.limit] at room
    exact room

theorem of_sameTimeline (bounded : Bounded depth editor) {after : Editor}
    (same : SameTimeline editor after) : Bounded depth after where
  limit := same.limit.trans bounded.limit
  count := same.snapshotCount_eq ▸ bounded.count

/-- Recording makes room by dropping the oldest, and undo and redo add to one
side what they take from the other. -/
theorem operate (bounded : Bounded depth editor) (operation : Operation) :
    Bounded depth (editor.operate operation) := by
  cases operation with
  | record => exact bounded.of_record editor.snapshot _
  | recordPrior snapshot => exact bounded.of_record snapshot _
  | recordTyping =>
      by_cases running : editor.history.typing
      · simpa [Editor.operate, Editor.recordTyping, History.recordTyping,
          running] using bounded
      · simpa [Editor.operate, Editor.recordTyping, History.recordTyping,
          running] using bounded.of_record editor.snapshot true
  | openRun => exact ⟨bounded.limit, bounded.count⟩
  | closeRun => exact ⟨bounded.limit, bounded.count⟩
  | travel step => exact bounded.of_sameTimeline (editor.travel_lands step).1
  | write buffer cursor => exact ⟨bounded.limit, bounded.count⟩

theorem operateAll (bounded : Bounded depth editor)
    (operations : List Operation) :
    Bounded depth (editor.operateAll operations) := by
  induction operations generalizing editor with
  | nil => exact bounded
  | cons operation operations ih => exact ih (bounded.operate operation)

end Bounded

theorem ofBuffer_bounded (buffer : Buffer) (depth : Nat) :
    Bounded depth (ofBuffer buffer depth) :=
  ⟨rfl, Nat.zero_le _⟩

/-- Whatever has been done to a text, its history is within the limit, and
undo and redo only move the present along the timeline, step by step and not
beyond the ends. -/
theorem history_is_bounded_timeline (buffer : Buffer) (depth : Nat)
    (operations : List Operation) :
    let editor := (ofBuffer buffer depth).operateAll operations
    editor.history.past.length + editor.history.future.length ≤
        max depth 1 ∧
      ∀ steps,
        let reached := editor.travelAll steps
        reached.timeline = editor.timeline ∧
          reached.timeline[reached.focus]? = some reached.snapshot ∧
          ∀ step : Travel,
            match step.target? editor.timeline.length reached.focus with
            | some place => (reached.travel step).1 = true ∧
                (reached.travel step).2.focus = place
            | none => reached.travel step = (false, reached) := by
  intro editor
  have bounded : Bounded depth editor :=
    (ofBuffer_bounded buffer depth).operateAll operations
  refine ⟨bounded.count, ?_⟩
  intro steps reached
  have same : reached.timeline = editor.timeline :=
    (editor.travelAll_sameTimeline steps).timeline
  refine ⟨same, reached.getElem?_timeline_focus, ?_⟩
  intro step
  rw [← same]
  exact (reached.travel_lands step).2

/-- Of three snapshots the limit of two keeps two, and a third undo leads
nowhere. -/
example :
    let editor := (ofBuffer (.ofLines [['a']]) 2).operateAll
      [.record, .write (.ofLines [['b']]) ⟨0, 0⟩, .record, .record]
    let reached := editor.travelAll [.undo, .undo]
    editor.timeline.length = 3 ∧ reached.focus = 0 ∧
      reached.snapshot = ⟨.ofLines [['b']], ⟨0, 0⟩⟩ ∧
      reached.travel .undo = (false, reached) := by
  decide

end Editor

end ModalTutor
