import ModalTutor.Session

/-!
# Reachable sessions

A session is reachable if it comes from a fresh one by keys, by starting over
and by checking goals, in any order.  `Reachable.editor_invariant` carries a
property of editors from fresh editors along keys to every reachable session:
starting over makes the editor fresh again, and checking a goal leaves it as
it is.
-/

namespace ModalTutor

namespace Session

inductive Reachable : Session → Prop where
  | ofBuffer (buffer : Buffer) (depth : Nat) : Reachable (ofBuffer buffer depth)
  | ofLesson (lesson : Lesson) (depth : Nat) : Reachable (ofLesson lesson depth)
  | dispatch {session : Session} (key : Key) :
      Reachable session → Reachable (session.dispatch key).2
  | reset {session : Session} (lines : List Text) :
      Reachable session → Reachable (session.reset lines)
  | startLesson {session : Session} (lesson : Lesson) :
      Reachable session → Reachable (session.startLesson lesson)
  | evaluate {session : Session} (lesson : Lesson) (seconds : Nat) :
      Reachable session → Reachable (session.evaluate lesson seconds).2

@[simp] theorem feed_nil (session : Session) : session.feed [] = session := rfl

@[simp] theorem feed_cons (session : Session) (key : Key) (keys : List Key) :
    session.feed (key :: keys) = (session.dispatch key).2.feed keys := rfl

@[simp] theorem feed_append (session : Session) (first second : List Key) :
    session.feed (first ++ second) = (session.feed first).feed second := by
  simp [feed]

theorem Reachable.feed {session : Session} (reachable : Reachable session)
    (keys : List Key) : Reachable (session.feed keys) := by
  induction keys generalizing session with
  | nil => exact reachable
  | cons key keys ih => exact ih (reachable.dispatch key)

@[simp] theorem evaluate_editor (session : Session) (lesson : Lesson)
    (seconds : Nat) :
    (session.evaluate lesson seconds).2.editor = session.editor := by
  unfold evaluate
  split
  · split <;> rfl
  · rfl

/-- What holds of every fresh editor and outlasts every key holds of the
editor of every reachable session. -/
theorem Reachable.editor_invariant {property : Editor → Prop}
    (fresh : ∀ buffer depth, property (.ofBuffer buffer depth))
    (step : ∀ (session : Session) (key : Key),
      property session.editor → property (session.dispatch key).2.editor)
    {session : Session} (reachable : Reachable session) :
    property session.editor := by
  induction reachable with
  | ofBuffer buffer depth => exact fresh buffer depth
  | ofLesson lesson depth => exact fresh lesson.initialBuffer depth
  | @dispatch session key _ ih => exact step session key ih
  | @reset session lines _ _ => exact fresh (.ofLines lines) session.depth
  | @startLesson session lesson _ _ =>
      exact fresh lesson.initialBuffer session.depth
  | evaluate lesson seconds _ ih => simpa using ih

@[simp] theorem adopt_allowed (session : Session)
    (result : Response × Editor) :
    (session.adopt result).2.allowed = session.allowed := rfl

@[simp] theorem guarded_allowed (session : Session) (command : Command)
    (action : Editor → Response × Editor) :
    (session.guarded command action).2.allowed = session.allowed := by
  unfold guarded
  split <;> rfl

@[simp] theorem commandKey_allowed (session : Session) (key : Key) :
    (session.commandKey key).2.allowed = session.allowed := by
  unfold commandKey
  dsimp only
  split
  · rw [guarded_allowed]
  · rfl
  · split
    · rw [guarded_allowed]
    · rfl
  · rfl
  · rfl
  · rfl

@[simp] theorem takeKey_allowed (session : Session) (key : Key) :
    (session.takeKey key).2.allowed = session.allowed := by
  unfold takeKey
  split
  · exact commandKey_allowed session key
  · exact commandKey_allowed session key
  · exact commandKey_allowed session key
  · split <;> rfl
  all_goals
    split
    · exact guarded_allowed session _ _
    · rfl

/-- No key changes which commands are allowed. -/
@[simp] theorem dispatch_allowed (session : Session) (key : Key) :
    (session.dispatch key).2.allowed = session.allowed :=
  takeKey_allowed { session with interacted := true } key

@[simp] theorem feed_allowed (session : Session) (keys : List Key) :
    (session.feed keys).allowed = session.allowed := by
  induction keys generalizing session with
  | nil => rfl
  | cons key keys ih => rw [feed_cons, ih, dispatch_allowed]

@[simp] theorem dispatch_allows (session : Session) (key : Key)
    (command : Command) :
    (session.dispatch key).2.allows command = session.allows command := by
  simp [allows]

@[simp] theorem feed_allows (session : Session) (keys : List Key)
    (command : Command) :
    (session.feed keys).allows command = session.allows command := by
  simp [allows]

end Session

end ModalTutor
