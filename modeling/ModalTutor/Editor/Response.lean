/-!
# Responses

What an editor reports of a key that it has taken.
-/

namespace ModalTutor

structure Response where
  /-- Something that can be seen may have changed. -/
  visible : Bool
  /-- The text may have changed. -/
  edited : Bool
  /-- An undo was asked for, whether or not there was one left. -/
  undoIssued : Bool
  deriving DecidableEq, Repr

namespace Response

def clean : Response := ⟨false, false, false⟩

def shown : Response := ⟨true, false, false⟩

def changed : Response := ⟨true, true, false⟩

def undone : Response := ⟨true, true, true⟩

def undoneNothing : Response := ⟨false, false, true⟩

end Response

end ModalTutor
