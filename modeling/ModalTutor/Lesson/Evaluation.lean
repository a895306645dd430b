import ModalTutor.Lesson.Basic
import ModalTutor.Editor.Marks
import ModalTutor.Unicode.Lowercase

/-!
# Completion

Whether an attempt has reached the goal of its lesson, and the record of an
attempt that has.
-/

namespace ModalTutor

/-- What a goal can look at. -/
structure Attempt where
  buffer : Buffer
  cursor : Position
  marks : Marks
  mistakes : UInt32
  undoPerformed : Bool
  deriving DecidableEq, Repr

/-- The record of a lesson that was completed. -/
structure Completion where
  lessonId : UInt32
  score : Nat
  /-- The whole seconds that the attempt took. -/
  seconds : Nat
  mistakes : UInt32
  deriving DecidableEq, Repr

/-- Occurrences that do not overlap, counted from the left after the next
`skip` characters. -/
def countAfter (needle : Text) : Nat → Text → Nat
  | _, [] => 0
  | skip + 1, _ :: rest => countAfter needle skip rest
  | 0, character :: rest =>
      if needle.isPrefixOf (character :: rest) then
        countAfter needle (needle.length - 1) rest + 1
      else countAfter needle 0 rest

/-- Occurrences that do not overlap, in lower case; an empty text has none. -/
def countOccurrences (haystack needle : Text) : Nat :=
  if needle = [] then 0
  else countAfter (Unicode.lowercase needle) 0 (Unicode.lowercase haystack)

/-- The lines that are not blank, without the white space at their ends. -/
def essentialLines (lines : List Text) : List Text :=
  (lines.map trimEnd).filter (!isBlank ·)

def hasRepetition : List Text → Bool
  | [] => false
  | line :: rest => rest.contains line || hasRepetition rest

/-- Each mistake costs ten points of a hundred. -/
def scoreFor (mistakes : UInt32) : Nat :=
  100 - 10 * mistakes.toNat

namespace Lesson

def isMet (lesson : Lesson) (attempt : Attempt) : Bool :=
  match lesson.goal with
  | .targetPosition position => attempt.cursor = position
  | .targetText text count =>
      max (count.getD 1) 1 ≤ countOccurrences (attempt.buffer.joined [' ']) text
  | .targetState lines =>
      essentialLines attempt.buffer.lines = essentialLines lines
  | .undoRequired =>
      attempt.undoPerformed && attempt.buffer.lines = lesson.initialText
  | .duplicateLine =>
      hasRepetition (attempt.buffer.lines.filter (!isBlank ·))
  | .changedFromInitial => attempt.buffer.lines ≠ lesson.initialText
  | .requiredMarks names => names.all attempt.marks.contains

/-- The record of an attempt that took some whole seconds, if it has reached
the goal. -/
def check (lesson : Lesson) (attempt : Attempt) (seconds : Nat) :
    Option Completion :=
  if lesson.isMet attempt then
    some ⟨lesson.id, scoreFor attempt.mistakes, seconds, attempt.mistakes⟩
  else none

end Lesson

end ModalTutor
