/-!
# Keys

A key is what was struck together with the modifiers held meanwhile.  Shift is
already part of a character, so only control and alt keep a key from typing
its character.
-/

namespace ModalTutor

inductive KeyCode where
  | char (character : Char)
  | enter
  | escape
  | backspace
  | tab
  | up
  | down
  | left
  | right
  deriving DecidableEq, Repr

structure Modifiers where
  control : Bool
  alt : Bool
  shift : Bool
  deriving DecidableEq, Repr

namespace Modifiers

def none : Modifiers := ⟨false, false, false⟩

def union (left right : Modifiers) : Modifiers :=
  ⟨left.control || right.control, left.alt || right.alt,
    left.shift || right.shift⟩

end Modifiers

structure Key where
  code : KeyCode
  modifiers : Modifiers
  deriving DecidableEq, Repr

namespace Key

/-- A key struck with no modifier held. -/
def plain (code : KeyCode) : Key := ⟨code, .none⟩

def char (character : Char) : Key := plain (.char character)

/-- The character that the key types, if it types one. -/
def printable? (key : Key) : Option Char :=
  match key.code with
  | .char character =>
      if key.modifiers.control || key.modifiers.alt then none
      else some character
  | _ => none

end Key

end ModalTutor
