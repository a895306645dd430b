import ModalTutor.Text.Cluster
import ModalTutor.Unicode.WhiteSpace
import ModalTutor.Unicode.Alphanumeric

/-!
# Character classes

The three classes that word motions and word operators tell apart.  A cluster
has the class of its first character.
-/

namespace ModalTutor

open Unicode (isWhiteSpace isAlphanumeric)

inductive CharClass where
  | whitespace
  | word
  | punctuation
  deriving DecidableEq, Repr

def CharClass.ofCluster : Cluster → CharClass
  | [] => .whitespace
  | character :: _ =>
      if isWhiteSpace character then .whitespace
      else if character = '_' ∨ isAlphanumeric character then .word
      else .punctuation

/-- The class of every column of a line. -/
def charClasses (line : Text) : List CharClass :=
  (clusters line).map CharClass.ofCluster

/-- The text holds nothing to see. -/
def isBlank (text : Text) : Bool :=
  text.all isWhiteSpace

/-- The text without the white space at its end. -/
def trimEnd (text : Text) : Text :=
  (text.reverse.dropWhile isWhiteSpace).reverse

end ModalTutor
