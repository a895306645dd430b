import ModalTutor.Text.Buffer

/-!
# Motions

A motion takes a position of a buffer to another one and stops at the edges of
the text.  Motions know nothing of modes: whoever moves a cursor afterwards
puts it on a character.
-/

namespace ModalTutor

inductive Motion where
  | left
  | right
  | up
  | down
  | wordForward
  | wordBackward
  | wordEnd
  | lineStart
  | lineEnd
  | firstNonBlank
  | bufferStart
  | bufferEnd
  | paragraphForward
  | paragraphBackward
  deriving DecidableEq, Repr

namespace Line

/-- Drops the whole run of the first class, unless it is white space. -/
def dropWord : List CharClass → List CharClass
  | [] => []
  | .whitespace :: rest => .whitespace :: rest
  | first :: rest => rest.dropWhile (· = first)

def dropSpace (classes : List CharClass) : List CharClass :=
  classes.dropWhile (· = .whitespace)

/-- Where the next word starts; the last column if none does. -/
def nextWordStart (line : Text) (column : Nat) : Nat :=
  let classes := charClasses line
  let remaining := dropSpace (dropWord (classes.drop column))
  min (classes.length - remaining.length) (classes.length - 1)

/-- Where the word to the left starts; column 0 if there is none. -/
def previousWordStart (line : Text) (column : Nat) : Nat :=
  (dropWord (dropSpace ((charClasses line).take column).reverse)).length

/-- Where the first word that ends to the right does so; the last column if
none does. -/
def nextWordEnd (line : Text) (column : Nat) : Nat :=
  let classes := charClasses line
  let remaining := dropWord (dropSpace (classes.drop (column + 1)))
  classes.length - remaining.length - 1

end Line

namespace Buffer

def blankRows (buffer : Buffer) : List Bool :=
  buffer.lines.map isBlank

/-- The first row of the next paragraph, or the last row. -/
def nextParagraph (buffer : Buffer) (row : Nat) : Nat :=
  let remaining := ((buffer.blankRows.drop (row + 1)).dropWhile (!·)).dropWhile id
  min (buffer.lineCount - remaining.length) buffer.lastRow

/-- The last row of the paragraph before, or row 0. -/
def previousParagraph (buffer : Buffer) (row : Nat) : Nat :=
  (((buffer.blankRows.take row).reverse.dropWhile (!·)).dropWhile id).length - 1

end Buffer

namespace Motion

def apply (motion : Motion) (buffer : Buffer) (position : Position) :
    Position :=
  let row := min position.row buffer.lastRow
  let column := position.column
  let line := buffer.line row
  match motion with
  | left => ⟨row, column - 1⟩
  | right => ⟨row, min (column + 1) (buffer.width row - 1)⟩
  | up => ⟨row - 1, column⟩
  | down => ⟨min (row + 1) buffer.lastRow, column⟩
  | wordForward => ⟨row, Line.nextWordStart line column⟩
  | wordBackward => ⟨row, Line.previousWordStart line column⟩
  | wordEnd => ⟨row, Line.nextWordEnd line column⟩
  | lineStart => ⟨row, 0⟩
  | lineEnd => ⟨row, buffer.width row - 1⟩
  | firstNonBlank => ⟨row, Line.firstNonBlank line⟩
  | bufferStart => .origin
  | bufferEnd => ⟨buffer.lastRow, column⟩
  | paragraphForward => ⟨buffer.nextParagraph row, 0⟩
  | paragraphBackward => ⟨buffer.previousParagraph row, 0⟩

end Motion

end ModalTutor
