import ModalTutor.Keymap.Trie

/-!
# The bindings of the modes

Motions are bound alike everywhere.  The normal mode adds all other commands,
and the visual modes add what can be done with a selection.
-/

namespace ModalTutor

namespace Binding

def motions : List Binding :=
  [typed ['h'] (.move .left), typed ['j'] (.move .down),
    typed ['k'] (.move .up), typed ['l'] (.move .right),
    single (.bare .left) (.move .left), single (.bare .down) (.move .down),
    single (.bare .up) (.move .up), single (.bare .right) (.move .right),
    typed ['w'] (.move .wordForward), typed ['b'] (.move .wordBackward),
    typed ['e'] (.move .wordEnd), typed ['0'] (.move .lineStart),
    typed ['$'] (.move .lineEnd), typed ['^'] (.move .firstNonBlank),
    typed ['g', 'g'] (.move .bufferStart), typed ['G'] (.move .bufferEnd),
    typed ['{'] (.move .paragraphBackward),
    typed ['}'] (.move .paragraphForward)]

def normal : List Binding :=
  motions ++
    [typed ['i'] .insert, typed ['a'] .append, typed ['o'] .openBelow,
      typed ['O'] .openAbove, typed ['A'] .appendLineEnd,
      typed ['I'] .insertLineStart, typed ['v'] .visualChar,
      typed ['V'] .visualLine, typed ['/'] .searchForward,
      typed ['?'] .searchBackward, typed ['n'] .searchNext,
      typed ['N'] .searchPrevious, typed ['u'] .undo,
      single (.control 'r') .redo, typed ['x'] .deleteChar,
      typed ['d', 'd'] .deleteLine, typed ['d', 'w'] .deleteWord,
      typed ['d', '$'] .deleteToLineEnd, typed ['y', 'y'] .yankLine,
      typed ['y', 'w'] .yankWord, typed ['c', 'w'] .changeWord,
      typed ['p'] .pasteAfter, typed ['P'] .pasteBefore,
      typed ['r'] .replaceChar, typed ['R'] .replaceMode,
      typed ['m'] .setMark, typed ['\''] .jumpMark]

def visual : List Binding :=
  motions ++
    [typed ['d'] .visualDelete, typed ['y'] .visualYank,
      typed ['v'] .visualChar, typed ['V'] .visualLine]

end Binding

namespace Trie

def normal : Trie := ofBindings Binding.normal

def visual : Trie := ofBindings Binding.visual

end Trie

end ModalTutor
