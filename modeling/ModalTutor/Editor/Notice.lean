import ModalTutor.Command.Basic

/-!
# Notices

What the status line has to say.  A notice keeps the facts, and `Notice.text`
words them.
-/

namespace ModalTutor

inductive Mode where
  | normal
  | insert
  /-- Typing overwrites. -/
  | replace
  /-- Selecting characters. -/
  | visual
  /-- Selecting whole lines. -/
  | visualLine
  /-- Typing a search term. -/
  | search
  deriving DecidableEq, Repr

def Mode.isVisual : Mode → Bool
  | visual | visualLine => true
  | _ => false

inductive Notice where
  /-- Text shown as it is, such as input that is not complete yet. -/
  | shown (text : Text)
  | inserting
  | replacing
  | selecting
  | selectingLines
  | nothingToDelete
  | deletedCharacter
  | deletedLine
  | deletedWord
  | deletedToLineEnd
  | deletedSelection
  | changedWord
  | nothingToYank
  | yanked (text : Text)
  | yankedLines (count : Nat)
  | nothingToReplace
  | replacedWith (character : Char)
  | registerEmpty
  | pastedAbove
  | pastedBelow
  | pastedBefore
  | pastedAfter
  | undone
  | redone
  /-- One of the matches of a search, counted from one. -/
  | matchReached (number total : Nat)
  | patternNotFound
  | noPreviousSearch
  | markSet (name : Char)
  | markReached (name : Char)
  | markMissing (name : Char)
  | selectionSpansLines
  | commandRejected (command : Command)
  deriving DecidableEq, Repr

namespace Notice

private def quoted (before : String) (text : Text) (after : String) : Text :=
  before.toList ++ text ++ after.toList

def text : Notice → Text
  | shown text => text
  | inserting => "-- INSERT --".toList
  | replacing => "-- REPLACE --".toList
  | selecting => "-- VISUAL --".toList
  | selectingLines => "-- VISUAL LINE --".toList
  | nothingToDelete => "Nothing to delete".toList
  | deletedCharacter => "Deleted character".toList
  | deletedLine => "Deleted line".toList
  | deletedWord => "Deleted word".toList
  | deletedToLineEnd => "Deleted to end of line".toList
  | deletedSelection => "Deleted selection".toList
  | changedWord => "Changed word".toList
  | nothingToYank => "Nothing to yank".toList
  | yanked text => quoted "Yanked: \"" text "\""
  | yankedLines count => (toString count ++ " lines yanked").toList
  | nothingToReplace => "Nothing to replace".toList
  | replacedWith character => quoted "Replaced with '" [character] "'"
  | registerEmpty => "Nothing in register".toList
  | pastedAbove => "Pasted line above".toList
  | pastedBelow => "Pasted line below".toList
  | pastedBefore => "Pasted before cursor".toList
  | pastedAfter => "Pasted after cursor".toList
  | undone => "Undo".toList
  | redone => "Redo".toList
  | matchReached number total =>
      ("Match " ++ toString number ++ " of " ++ toString total).toList
  | patternNotFound => "Pattern not found".toList
  | noPreviousSearch => "No previous search".toList
  | markSet name => quoted "Mark '" [name] "' set"
  | markReached name => quoted "Jumped to mark '" [name] "'"
  | markMissing name => quoted "Mark '" [name] "' not set"
  | selectionSpansLines =>
      "Visual selection across lines is not supported".toList
  | commandRejected command =>
      quoted "Command '" command.name.toList "' not allowed in this lesson!"

end Notice

/-- What the status line says for as long as the mode lasts. -/
def Mode.banner? : Mode → Option Notice
  | insert => some .inserting
  | replace => some .replacing
  | visual => some .selecting
  | visualLine => some .selectingLines
  | normal | search => none

end ModalTutor
