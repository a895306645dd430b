import ModalTutor.Key.Basic

/-!
# Key patterns

A pattern stands for the keys that may take one step of a command.
-/

namespace ModalTutor

inductive Pattern where
  /-- Any key that types the character. -/
  | typed (character : Char)
  /-- The character struck under control. -/
  | control (character : Char)
  /-- The key struck without modifiers. -/
  | bare (code : KeyCode)
  deriving DecidableEq, Repr

def Pattern.accepts : Pattern → Key → Bool
  | typed character, key => key.printable? = some character
  | control character, key =>
      key.code = .char character && key.modifiers.control
  | bare code, key => key.code = code && key.modifiers = .none

end ModalTutor
