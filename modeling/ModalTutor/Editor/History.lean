import ModalTutor.Text.Buffer

/-!
# History

The undo history is a timeline: the snapshots before the present one, and those
after it that an undo has left.  A new snapshot cuts off the future and, at
the depth limit, drops the oldest past.  While a typing run is open, its edits
share one snapshot.
-/

namespace ModalTutor

structure Snapshot where
  buffer : Buffer
  cursor : Position
  deriving DecidableEq, Repr

structure History where
  depth : Nat
  /-- The nearest snapshot comes first. -/
  past : List Snapshot
  /-- The nearest snapshot comes first. -/
  future : List Snapshot
  /-- A typing run is open. -/
  typing : Bool
  deriving DecidableEq, Repr

namespace History

def defaultDepth : Nat := 200

def ofDepth (depth : Nat) : History := ⟨depth, [], [], false⟩

/-- At least one snapshot is kept, whatever the depth. -/
def limit (history : History) : Nat :=
  max history.depth 1

/-- A snapshot more, for which the oldest one makes room. -/
def record (history : History) (snapshot : Snapshot) : History :=
  let past := snapshot :: history.past
  { history with
    past := if history.limit < past.length then past.dropLast else past
    future := [] }

/-- An edit of a typing run records a snapshot only if it opens the run. -/
def recordTyping (history : History) (snapshot : Snapshot) : History :=
  if history.typing then history
  else { history.record snapshot with typing := true }

/-- The edits that follow belong to the last snapshot. -/
def openRun (history : History) : History :=
  { history with typing := true }

def closeRun (history : History) : History :=
  { history with typing := false }

/-- The snapshot before `present`, which becomes the nearest future. -/
def undo? (history : History) (present : Snapshot) :
    Option (Snapshot × History) :=
  match history.past with
  | [] => none
  | previous :: past =>
      some (previous, { history with
        past
        future := present :: history.future
        typing := false })

/-- The snapshot after `present`, which becomes the nearest past. -/
def redo? (history : History) (present : Snapshot) :
    Option (Snapshot × History) :=
  match history.future with
  | [] => none
  | next :: future =>
      some (next, { history with
        past := present :: history.past
        future
        typing := false })

/-- All snapshots from the oldest to the newest. -/
def timeline (history : History) (present : Snapshot) : List Snapshot :=
  history.past.reverse ++ present :: history.future

theorem timeline_undo? {history after : History}
    {present previous : Snapshot}
    (step : history.undo? present = some (previous, after)) :
    after.timeline previous = history.timeline present := by
  cases pastShape : history.past with
  | nil => simp [undo?, pastShape] at step
  | cons snapshot past =>
      simp only [undo?, pastShape, Option.some.injEq, Prod.mk.injEq] at step
      obtain ⟨rfl, rfl⟩ := step
      simp [timeline, pastShape]

theorem timeline_redo? {history after : History} {present next : Snapshot}
    (step : history.redo? present = some (next, after)) :
    after.timeline next = history.timeline present := by
  cases futureShape : history.future with
  | nil => simp [redo?, futureShape] at step
  | cons snapshot future =>
      simp only [redo?, futureShape, Option.some.injEq, Prod.mk.injEq] at step
      obtain ⟨rfl, rfl⟩ := step
      simp [timeline, futureShape]

end History

end ModalTutor
