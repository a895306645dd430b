import ModalTutor.Unicode.Ranges

/-!
# White space

The characters with the property `White_Space`.  They separate words, and a
line that holds nothing else is blank.
-/

namespace ModalTutor.Unicode

def whiteSpaceRanges : Ranges where
  list :=
    [(0x0009, 0x000D), (0x0020, 0x0020), (0x0085, 0x0085), (0x00A0, 0x00A0),
      (0x1680, 0x1680), (0x2000, 0x200A), (0x2028, 0x2029), (0x202F, 0x202F),
      (0x205F, 0x205F), (0x3000, 0x3000)]

def isWhiteSpace (character : Char) : Bool :=
  character.toNat ∈ whiteSpaceRanges

end ModalTutor.Unicode
