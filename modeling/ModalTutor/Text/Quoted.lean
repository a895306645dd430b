import ModalTutor.Text.Cluster
import ModalTutor.Unicode.Visible

/-!
# Quoted text

Text between double quotes in which everything can be seen: characters without
a glyph of their own are written as escapes.
-/

namespace ModalTutor

namespace Quoted

/-- The digits of a number in base sixteen, in lower case. -/
def hexDigits (number : Nat) : List Char :=
  Nat.toDigits 16 number

def escape (character : Char) : List Char :=
  match character with
  | '\x00' => ['\\', '0']
  | '\t' => ['\\', 't']
  | '\n' => ['\\', 'n']
  | '\r' => ['\\', 'r']
  | '"' => ['\\', '"']
  | '\\' => ['\\', '\\']
  | character =>
      if Unicode.isVisible character then [character]
      else ['\\', 'u', '{'] ++ hexDigits character.toNat ++ ['}']

def quote (text : Text) : Text :=
  '"' :: text.flatMap escape ++ ['"']

end Quoted

end ModalTutor
