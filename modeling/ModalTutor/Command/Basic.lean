import ModalTutor.Text.Motion

/-!
# Commands

Everything that keys can ask for outside of typing.  A command has one
canonical name, which lessons use to list the commands they allow.
`Command.ofName?_name` says that the names tell all commands apart.
-/

namespace ModalTutor

inductive Command where
  | move (motion : Motion)
  | insert
  | append
  | openBelow
  | openAbove
  | appendLineEnd
  | insertLineStart
  | escape
  | visualChar
  | visualLine
  | visualDelete
  | visualYank
  | searchForward
  | searchBackward
  | searchNext
  | searchPrevious
  | undo
  | redo
  | deleteChar
  | deleteLine
  | deleteWord
  | deleteToLineEnd
  | yankLine
  | yankWord
  | changeWord
  | pasteAfter
  | pasteBefore
  | replaceChar
  | replaceMode
  | setMark
  | jumpMark
  deriving DecidableEq, Repr

namespace Command

/-- All commands in their listing order. -/
def all : List Command :=
  [move .left, move .down, move .up, move .right, move .wordForward,
    move .wordBackward, move .wordEnd, move .lineStart, move .lineEnd,
    move .firstNonBlank, move .bufferStart, move .bufferEnd,
    move .paragraphBackward, move .paragraphForward, insert, append,
    openBelow, openAbove, appendLineEnd, insertLineStart, escape, visualChar,
    visualLine, visualDelete, visualYank, searchForward, searchBackward,
    searchNext, searchPrevious, undo, redo, deleteChar, deleteLine,
    deleteWord, deleteToLineEnd, yankLine, yankWord, changeWord, pasteAfter,
    pasteBefore, replaceChar, replaceMode, setMark, jumpMark]

def name : Command → String
  | move .left => "h"
  | move .down => "j"
  | move .up => "k"
  | move .right => "l"
  | move .wordForward => "w"
  | move .wordBackward => "b"
  | move .wordEnd => "e"
  | move .lineStart => "0"
  | move .lineEnd => "$"
  | move .firstNonBlank => "^"
  | move .bufferStart => "gg"
  | move .bufferEnd => "G"
  | move .paragraphBackward => "\x7b"
  | move .paragraphForward => "\x7d"
  | insert => "i"
  | append => "a"
  | openBelow => "o"
  | openAbove => "O"
  | appendLineEnd => "A"
  | insertLineStart => "I"
  | escape => "ESC"
  | visualChar => "v"
  | visualLine => "V"
  | visualDelete => "d"
  | visualYank => "y"
  | searchForward => "/"
  | searchBackward => "?"
  | searchNext => "n"
  | searchPrevious => "N"
  | undo => "u"
  | redo => "ctrl+r"
  | deleteChar => "x"
  | deleteLine => "dd"
  | deleteWord => "dw"
  | deleteToLineEnd => "d$"
  | yankLine => "yy"
  | yankWord => "yw"
  | changeWord => "cw"
  | pasteAfter => "p"
  | pasteBefore => "P"
  | replaceChar => "r"
  | replaceMode => "R"
  | setMark => "m"
  | jumpMark => "'"

/-- The two keys without a character have other spellings in use. -/
def canonicalName : String → String
  | "Escape" | "esc" | "<Esc>" => "ESC"
  | "<C-r>" | "Ctrl+r" | "C-r" => "ctrl+r"
  | other => other

def ofName? (spelling : String) : Option Command :=
  all.find? fun command => command.name = canonicalName spelling

theorem mem_all (command : Command) : command ∈ all := by
  cases command with
  | move motion => cases motion <;> decide
  | _ => decide

theorem ofName?_name (command : Command) :
    ofName? command.name = some command := by
  cases command with
  | move motion => cases motion <;> rfl
  | _ => rfl

/-- What is said of a name that belongs to no command. -/
def unknownMessage (spelling : String) : String :=
  "unknown command token `" ++ spelling ++ "`"

end Command

/-- A set of commands, kept in listing order. -/
structure CommandSet where
  toList : List Command
  deriving DecidableEq, Repr

namespace CommandSet

def ofList (commands : List Command) : CommandSet :=
  ⟨Command.all.filter fun command => commands.contains command⟩

def contains (set : CommandSet) (command : Command) : Bool :=
  set.toList.contains command

theorem contains_ofList {commands : List Command} {command : Command} :
    (ofList commands).contains command = commands.contains command := by
  rw [Bool.eq_iff_iff]
  simp [contains, ofList, Command.mem_all]

end CommandSet

end ModalTutor
