import ModalTutor.Text.Position

/-!
# Marks

A mark gives one of the letters from `a` to `z` to a position.  Marks are kept
in the order of their letters.
-/

namespace ModalTutor

structure Marks where
  entries : List (Char × Position)
  deriving DecidableEq, Repr

namespace Marks

def empty : Marks := ⟨[]⟩

def isName (name : Char) : Bool :=
  'a' ≤ name && name ≤ 'z'

/-- Puts an entry in its place, instead of an older one of the same name. -/
def place (name : Char) (position : Position) :
    List (Char × Position) → List (Char × Position)
  | [] => [(name, position)]
  | (other, old) :: rest =>
      if name < other then (name, position) :: (other, old) :: rest
      else if name = other then (name, position) :: rest
      else (other, old) :: place name position rest

def find (name : Char) : List (Char × Position) → Option Position
  | [] => none
  | (other, position) :: rest =>
      if name = other then some position else find name rest

/-- A name that is no letter sets nothing. -/
def set (marks : Marks) (name : Char) (position : Position) : Marks :=
  if isName name then ⟨place name position marks.entries⟩ else marks

def get? (marks : Marks) (name : Char) : Option Position :=
  find name marks.entries

def contains (marks : Marks) (name : Char) : Bool :=
  (marks.get? name).isSome

theorem find_place (name other : Char) (position : Position)
    (entries : List (Char × Position)) :
    find other (place name position entries) =
      if other = name then some position else find other entries := by
  induction entries with
  | nil => simp [place, find]
  | cons entry rest ih => grind [place, find]

theorem get?_set {marks : Marks} {name other : Char} {position : Position}
    (valid : isName name) :
    (marks.set name position).get? other =
      if other = name then some position else marks.get? other := by
  simp [set, get?, valid, find_place]

end Marks

end ModalTutor
