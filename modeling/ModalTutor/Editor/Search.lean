import ModalTutor.Text.Buffer
import ModalTutor.Unicode.Lowercase

/-!
# Search

A term is found wherever the clusters of a line equal its own, each taken in
lower case.  Matches may overlap and are listed in document order.  A search
lands on the nearest match in its direction, and going past either end of the
list comes in again at the other.
-/

namespace ModalTutor

inductive Direction where
  | forward
  | backward
  deriving DecidableEq, Repr

def Direction.promptChar : Direction → Char
  | forward => '/'
  | backward => '?'

/-- The term that is being typed. -/
structure Prompt where
  typed : Text
  direction : Direction
  deriving DecidableEq, Repr

namespace Prompt

def empty : Prompt := ⟨[], .forward⟩

def clear (prompt : Prompt) : Prompt := { prompt with typed := [] }

def push (prompt : Prompt) (character : Char) : Prompt :=
  { prompt with typed := prompt.typed ++ [character] }

def backspace (prompt : Prompt) : Prompt :=
  { prompt with typed := prompt.typed.dropLast }

def display (prompt : Prompt) : Text :=
  prompt.direction.promptChar :: prompt.typed

end Prompt

/-- The clusters of a text as a search compares them. -/
def foldedClusters (text : Text) : List Cluster :=
  (clusters text).map Unicode.lowercase

/-- The offsets in a list at which another list begins. -/
def occurrences [DecidableEq α] (needle : List α) : List α → Nat → List Nat
  | [], _ => []
  | head :: rest, offset =>
      let later := occurrences needle rest (offset + 1)
      if needle.isPrefixOf (head :: rest) then offset :: later else later

/-- The columns of a line at which a term begins; an empty term has none. -/
def matchColumns (term line : Text) : List Nat :=
  match foldedClusters term with
  | [] => []
  | needle => occurrences needle (foldedClusters line) 0

def matchesFrom (term : Text) : List Text → Nat → List Position
  | [], _ => []
  | line :: rest, row =>
      (matchColumns term line).map (⟨row, ·⟩) ++ matchesFrom term rest (row + 1)

/-- Where a term begins in a buffer, in document order. -/
def Buffer.occurrences (buffer : Buffer) (term : Text) : List Position :=
  matchesFrom term buffer.lines 0

/-- The index of the last element with a property. -/
def lastIndex? (property : α → Bool) (list : List α) : Option Nat :=
  (list.reverse.findIdx? property).map fun index => list.length - 1 - index

/-- The index of the match that a search from the cursor lands on. -/
def nearestMatch (positions : List Position) (cursor : Position) :
    Direction → Nat
  | .forward => (positions.findIdx? (cursor < ·)).getD 0
  | .backward => (lastIndex? (· < cursor) positions).getD (positions.length - 1)

/-- The last search and the match that it has reached. -/
structure Search where
  term : Text
  direction : Direction
  positions : List Position
  index : Nat
  deriving DecidableEq, Repr

namespace Search

def run (buffer : Buffer) (term : Text) (cursor : Position)
    (direction : Direction) : Search :=
  let positions := buffer.occurrences term
  ⟨term, direction, positions, nearestMatch positions cursor direction⟩

def current? (search : Search) : Option Position :=
  search.positions[search.index]?

/-- Goes on to the next match, in document order whatever the direction. -/
def advance (search : Search) : Search :=
  if search.positions = [] then search
  else { search with
    index := (search.index + 1) % search.positions.length }

def retreat (search : Search) : Search :=
  if search.positions = [] then search
  else { search with
    index := (search.index + search.positions.length - 1) %
      search.positions.length }

end Search

end ModalTutor
