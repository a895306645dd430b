import ModalTutor.Proofs.CatalogConstruction
import ModalTutor.Proofs.KeyNotation
import ModalTutor.Proofs.ReplayExactness
import ModalTutor.Proofs.UndoRedo

/-!
# Targets can be reached

A catalog only takes lessons whose target is a place for the cursor, and the
motions go down and then right to any such place, one key a step.  So the way
of as many keys as the target has rows and columns meets the goal with its last
key and without a mistake, as `Replay.target_reached` says.
-/

namespace ModalTutor

namespace Catalog

/-- No lesson of a catalog has a fault. -/
theorem fault?_of_ofLessons {lessons : List Lesson} {catalog : Catalog}
    (accepted : ofLessons lessons = .ok catalog) {lesson : Lesson}
    (member : lesson ∈ lessons) : lesson.fault? = none := by
  have sound := (ofLessons_eq_ok_iff.mp accepted).1
  exact Lesson.fault?_eq_none_iff.mpr
    ⟨sound.nonempty lesson member, sound.inText lesson member⟩

end Catalog

namespace Lesson

/-- A target without fault is a place of the initial text. -/
structure HasTarget (lesson : Lesson) (target : Position) : Prop where
  row : target.row ≤ lesson.initialBuffer.lastRow
  column : target.column ≤ lesson.initialBuffer.width target.row - 1

theorem hasTarget_of_fault? {lesson : Lesson} {target : Position}
    (faultless : lesson.fault? = none)
    (goal : lesson.goal = .targetPosition target) :
    lesson.HasTarget target := by
  have settled := (fault?_eq_none_iff.mp faultless).2 target goal
  obtain ⟨inText, inLine⟩ := Position.onCharacter_eq_self_iff.mp settled
  rw [Buffer.lineCount_eq_lastRow_add_one] at inText
  constructor <;> omega

end Lesson

namespace Motion

theorem apply_down {buffer : Buffer} {row : Nat}
    (inText : row + 1 ≤ buffer.lastRow) :
    (down.apply buffer ⟨row, 0⟩).onCharacter buffer = ⟨row + 1, 0⟩ := by
  simp only [apply, Position.onCharacter, Position.mk.injEq]
  omega

theorem apply_right {buffer : Buffer} {row column : Nat}
    (inText : row ≤ buffer.lastRow)
    (inLine : column + 1 ≤ buffer.width row - 1) :
    (right.apply buffer ⟨row, column⟩).onCharacter buffer =
      ⟨row, column + 1⟩ := by
  have sameRow : min row buffer.lastRow = row := Nat.min_eq_left inText
  simp only [apply, Position.onCharacter, sameRow, Position.mk.injEq,
    true_and]
  omega

end Motion

namespace Session

/-- A motion moves the cursor and does away with the notice. -/
theorem Idle.dispatch_move {session : Session} (idle : session.Idle)
    {key : Key} {motion : Motion}
    (completes : Interpretation.ofKey .normal .none key =
      (.command (.move motion), .none))
    (allowed : session.allows (.move motion)) :
    (session.dispatch key).2.editor =
      { session.editor with
        pending := .none
        notice := none
        cursor := (motion.apply session.editor.buffer
          session.editor.cursor).onCharacter session.editor.buffer } := by
  have silent : session.editor.mode.banner? = none := by
    rw [idle.mode]
    rfl
  rw [(idle.runs completes allowed).move, silent]

/-- The keys down some rows and then right some columns. -/
def wayTo (target : Position) : List Key :=
  List.replicate target.row (.char 'j') ++
    List.replicate target.column (.char 'l')

/-- The session of a lesson in which only the cursor has moved. -/
structure StandsAt (session : Session) (lesson : Lesson)
    (position : Position) : Prop where
  idle : session.Idle
  buffer : session.editor.buffer = lesson.initialBuffer
  cursor : session.editor.cursor = position
  mistakes : session.mistakes = 0
  allowed : session.allowed = some lesson.allowed

variable {session : Session} {lesson : Lesson} {position : Position}

theorem ofLesson_standsAt (lesson : Lesson) (depth : Nat) :
    (ofLesson lesson depth).StandsAt lesson .origin :=
  ⟨⟨rfl, rfl⟩, rfl, rfl, rfl, rfl⟩

/-- A motion that is allowed takes the session to where it leads. -/
theorem StandsAt.dispatch (stands : session.StandsAt lesson position)
    {key : Key} {motion : Motion}
    (completes : Interpretation.ofKey .normal .none key =
      (.command (.move motion), .none))
    (allowed : lesson.allowed.contains (.move motion)) {target : Position}
    (leads : (motion.apply lesson.initialBuffer position).onCharacter
      lesson.initialBuffer = target) :
    (session.dispatch key).2.StandsAt lesson target := by
  have allows : session.allows (.move motion) := by
    rw [Session.allows, stands.allowed]
    exact allowed
  have moved := stands.idle.dispatch_move completes allows
  have accepted : session.refuses key = false := by
    simp only [refuses, demand?, stands.idle.mode, stands.idle.pending,
      completes, Interpretation.demand?, allows, Bool.not_true]
  constructor
  · exact ⟨by rw [moved]; exact stands.idle.mode, by rw [moved]⟩
  · rw [moved]
    exact stands.buffer
  · rw [moved, stands.buffer, stands.cursor]
    exact leads
  · rw [dispatch_mistakes, accepted]
    exact stands.mistakes
  · rw [dispatch_allowed]
    exact stands.allowed

theorem standsAt_below (depth : Nat)
    (allowed : lesson.allowed.contains (.move .down)) {row : Nat}
    (inText : row ≤ lesson.initialBuffer.lastRow) :
    ((ofLesson lesson depth).feed
      (List.replicate row (.char 'j'))).StandsAt lesson ⟨row, 0⟩ := by
  induction row with
  | zero => exact ofLesson_standsAt lesson depth
  | succ row ih =>
      rw [List.replicate_succ', feed_append]
      exact (ih (Nat.le_of_succ_le inText)).dispatch (by rfl) allowed
        (Motion.apply_down inText)

theorem StandsAt.feed_right {row : Nat}
    (stands : session.StandsAt lesson ⟨row, 0⟩)
    (allowed : lesson.allowed.contains (.move .right))
    (inText : row ≤ lesson.initialBuffer.lastRow) {column : Nat}
    (inLine : column ≤ lesson.initialBuffer.width row - 1) :
    (session.feed (List.replicate column (.char 'l'))).StandsAt lesson
      ⟨row, column⟩ := by
  induction column with
  | zero => exact stands
  | succ column ih =>
      rw [List.replicate_succ', feed_append]
      exact (ih (Nat.le_of_succ_le inLine)).dispatch (by rfl) allowed
        (Motion.apply_right inText inLine)

/-- Wherever the way is broken off, no more than its part so far has been
gone. -/
theorem standsAt_of_take (depth : Nat) {target : Position}
    (inText : lesson.HasTarget target)
    (down : lesson.allowed.contains (.move .down))
    (right : lesson.allowed.contains (.move .right)) (count : Nat) :
    ((ofLesson lesson depth).feed ((wayTo target).take count)).StandsAt lesson
      ⟨min count target.row, min (count - target.row) target.column⟩ := by
  rw [wayTo, List.take_append, List.take_replicate, List.take_replicate,
    List.length_replicate, feed_append]
  -- Going right begins only in the row of the target.
  by_cases above : count ≤ target.row
  · have none : count - target.row = 0 := Nat.sub_eq_zero_of_le above
    rw [none, Nat.zero_min]
    exact standsAt_below depth down
      (Nat.le_trans (Nat.min_le_right _ _) inText.row)
  · have all : min count target.row = target.row :=
      Nat.min_eq_right (Nat.le_of_not_le above)
    rw [all]
    exact (standsAt_below depth down inText.row).feed_right right inText.row
      (Nat.le_trans (Nat.min_le_right _ _) inText.column)

/-- The goal to stand somewhere is met just there. -/
theorem StandsAt.meets_iff (stands : session.StandsAt lesson position)
    {target : Position} (goal : lesson.goal = .targetPosition target) :
    session.meets lesson ↔ position = target := by
  simp [meets, Lesson.isMet, goal, attempt, stands.cursor]

theorem firstMeets_wayTo (depth : Nat) {target : Position}
    (inText : lesson.HasTarget target)
    (goal : lesson.goal = .targetPosition target) (away : target ≠ .origin)
    (down : lesson.allowed.contains (.move .down))
    (right : lesson.allowed.contains (.move .right)) :
    (ofLesson lesson depth).FirstMeets lesson (wayTo target)
      (target.row + target.column) := by
  have stands := standsAt_of_take depth inText down right
  have apart : 0 < target.row + target.column := by
    obtain ⟨row, column⟩ := target
    rw [Nat.pos_iff_ne_zero]
    intro none
    obtain ⟨rfl, rfl⟩ := Nat.add_eq_zero_iff.mp none
    exact away rfl
  constructor
  · exact apart
  · simp [wayTo]
  · rw [(stands _).meets_iff goal]
    simp
  · intro earlier positive before
    rw [← Bool.not_eq_true, (stands earlier).meets_iff goal]
    intro arrived
    have row : min earlier target.row = target.row :=
      congrArg Position.row arrived
    have column : min (earlier - target.row) target.column = target.column :=
      congrArg Position.column arrived
    omega

end Session

namespace Replay

/-- The way down and then right to the target of an accepted lesson meets its
goal with the last key, for the full score. -/
theorem target_reached {lessons : List Lesson} {catalog : Catalog}
    (accepted : Catalog.ofLessons lessons = .ok catalog) {lesson : Lesson}
    (member : lesson ∈ lessons) {target : Position}
    (goal : lesson.goal = .targetPosition target) (away : target ≠ .origin)
    (down : lesson.allowed.contains (.move .down))
    (right : lesson.allowed.contains (.move .right)) (depth : Nat) :
    let script := List.replicate target.row 'j' ++
      List.replicate target.column 'l'
    ∃ replay, ofScript lesson depth script = .ok replay ∧
      replay.completedAfter = some (target.row + target.column) ∧
      replay.session.completion = some ⟨lesson.id, 100, 0, 0⟩ ∧
      replay.session.mistakes = 0 := by
  intro script
  have inText := Lesson.hasTarget_of_fault?
    (Catalog.fault?_of_ofLessons accepted member) goal
  have first := Session.firstMeets_wayTo depth inText goal away down right
  have arrived := Session.standsAt_of_take depth inText down right
    (target.row + target.column)
  have whole : (Session.wayTo target).take (target.row + target.column) =
      Session.wayTo target := List.take_of_length_le (by simp [Session.wayTo])
  have unopened : '<' ∉ script := by simp [script, List.mem_replicate]
  have parsed : KeyScript.parse script = .ok (Session.wayTo target) := by
    rw [KeyScript.parse, KeyScript.parseFrom_plain unopened]
    simp [script, Session.wayTo]
  refine ⟨ofKeys lesson depth (Session.wayTo target),
    by rw [ofScript, parsed]; rfl, ?_⟩
  rw [ofKeys_of_firstMeets first]
  refine ⟨rfl, ?_, ?_⟩
  · simp [Session.withCompletion, Session.record, arrived.mistakes, scoreFor]
  · rw [whole] at arrived
    exact arrived.mistakes

/-- A target behind a cluster of two characters, below an empty line. -/
theorem target_reached_below_empty_line :
    let lesson : Lesson :=
      .plain 2 [['a', 'b'], [], ['e', '\u0301', 'x']] (.targetPosition ⟨2, 1⟩)
        [.move .down, .move .right]
    let other : Lesson := .plain 1 [['a']] .duplicateLine []
    let script := ['j', 'j', 'l']
    Catalog.ofLessons [lesson, other] = .ok ⟨[other, lesson]⟩ ∧
    lesson.allowed.contains (.move .down) ∧
    lesson.allowed.contains (.move .right) ∧
    ∃ replay, ofScript lesson 5 script = .ok replay ∧
      replay.completedAfter = some 3 ∧
      replay.session.completion = some ⟨2, 100, 0, 0⟩ ∧
      replay.session.mistakes = 0 := by
  intro lesson other script
  have accepted : Catalog.ofLessons [lesson, other] =
      .ok ⟨[other, lesson]⟩ := rfl
  have down : lesson.allowed.contains (.move .down) := by decide
  have right : lesson.allowed.contains (.move .right) := by decide
  have goal : lesson.goal = .targetPosition ⟨2, 1⟩ := rfl
  exact ⟨accepted, down, right,
    target_reached accepted List.mem_cons_self goal (by decide) down right 5⟩

end Replay

end ModalTutor
