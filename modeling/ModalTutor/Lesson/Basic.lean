import ModalTutor.Command.Basic

/-!
# Lessons

A lesson is a text to start from, a goal to reach and the commands that may be
used on the way.
-/

namespace ModalTutor

inductive Difficulty where
  | beginner
  | intermediate
  | advanced
  | developer
  deriving DecidableEq, Repr

inductive Goal where
  /-- The cursor stands exactly there. -/
  | targetPosition (position : Position)
  /-- The text occurs often enough, once if no count is given. -/
  | targetText (text : Text) (count : Option Nat)
  /-- The lines are these, blank lines and trailing white space aside. -/
  | targetState (lines : List Text)
  /-- The initial text is back, and something was undone. -/
  | undoRequired
  /-- Some line that is not blank stands there twice. -/
  | duplicateLine
  /-- The text is not the initial one. -/
  | changedFromInitial
  /-- All of these marks are set. -/
  | requiredMarks (names : List Char)
  deriving DecidableEq, Repr

structure Lesson where
  id : UInt32
  title : String
  description : String
  difficulty : Difficulty
  instructions : String
  initialText : List Text
  goal : Goal
  allowed : CommandSet
  hints : List String
  deriving DecidableEq

namespace Lesson

/-- A lesson that says no more than it has to. -/
def plain (id : UInt32) (initialText : List Text) (goal : Goal)
    (allowed : List Command) : Lesson where
  id := id
  title := "Lesson " ++ toString id.toNat
  description := ""
  difficulty := .beginner
  instructions := ""
  initialText := initialText
  goal := goal
  allowed := .ofList allowed
  hints := []

def initialBuffer (lesson : Lesson) : Buffer :=
  .ofLines lesson.initialText

end Lesson

end ModalTutor
