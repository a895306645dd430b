import ModalTutor.Lesson.Basic

/-!
# Catalogs

A catalog holds lessons in ascending order of their ids.  It is made only of
lessons that have ids of their own, some text to start from, and targets that
a cursor can reach.
-/

namespace ModalTutor

inductive LessonError where
  | duplicateId (id : UInt32)
  | emptyInitialText (id : UInt32)
  | targetOutOfRange (id : UInt32) (target : Position)
  | notFound (id : UInt32)
  deriving DecidableEq, Repr

def LessonError.message : LessonError → String
  | duplicateId id => "duplicate lesson id " ++ toString id.toNat
  | emptyInitialText id =>
      "lesson " ++ toString id.toNat ++ " has no initial text"
  | targetOutOfRange id target =>
      "lesson " ++ toString id.toNat ++ " targets (" ++ toString target.row ++
        "," ++ toString target.column ++ ") outside its initial text"
  | notFound id => "no lesson with id " ++ toString id.toNat

/-- The target is a place where the cursor can stand in the initial text. -/
def Lesson.hasCell (lesson : Lesson) (target : Position) : Bool :=
  match lesson.initialText[target.row]? with
  | none => false
  | some line => target.column < max (Line.width line) 1

/-- What is wrong with a lesson by itself. -/
def Lesson.fault? (lesson : Lesson) : Option LessonError :=
  if lesson.initialText = [] then some (.emptyInitialText lesson.id)
  else
    match lesson.goal with
    | .targetPosition target =>
        if lesson.hasCell target then none
        else some (.targetOutOfRange lesson.id target)
    | _ => none

structure Catalog where
  lessons : List Lesson
  deriving DecidableEq

namespace Catalog

/-- The first fault of a list of lessons that come after the ids `seen`. -/
def firstFault? (seen : List UInt32) : List Lesson → Option LessonError
  | [] => none
  | lesson :: rest =>
      if lesson.id ∈ seen then some (.duplicateId lesson.id)
      else (lesson.fault?).or (firstFault? (lesson.id :: seen) rest)

/-- Puts a lesson in front of the first one that has a greater id. -/
def insertById (lesson : Lesson) : List Lesson → List Lesson
  | [] => [lesson]
  | head :: rest =>
      if lesson.id < head.id then lesson :: head :: rest
      else head :: insertById lesson rest

def sortById : List Lesson → List Lesson
  | [] => []
  | lesson :: rest => insertById lesson (sortById rest)

def ofLessons (lessons : List Lesson) : Except LessonError Catalog :=
  match firstFault? [] lessons with
  | some error => .error error
  | none => .ok ⟨sortById lessons⟩

def get (catalog : Catalog) (id : UInt32) : Except LessonError Lesson :=
  match catalog.lessons.find? (·.id = id) with
  | some lesson => .ok lesson
  | none => .error (.notFound id)

end Catalog

end ModalTutor
