import ModalTutor.Toml.Literal
import ModalTutor.Toml.Table

/-!
# TOML documents

Reads a whole document into a table.  Brackets nest at most eighty deep, no
more keys than that are joined by dots, and a text that is no TOML document has
no reading.
-/

namespace ModalTutor.Toml

def maximalDepth : Nat := 80

def isKeyCharacter (character : Char) : Bool :=
  character.isAlphanum || character = '_' || character = '-'

/-- One key, bare or in quotes. -/
def key? : (text : Text) → Option (Text × Rest text)
  | '"' :: rest => readTail '"' (basicString? rest)
  | '\'' :: rest => readTail '\'' (literalString? rest)
  | text =>
      let name := text.takeWhile isKeyCharacter
      if name = [] then none else some (name, dropWhile isKeyCharacter text)

/-- Up to so many keys with dots between them: the path and the last key. -/
def dottedKeys? :
    Nat → (text : Text) → Option ((List Text × Text) × Rest text)
  | 0, _ => none
  | count + 1, text => do
      let ⟨start, inText⟩ := skipSpaces text
      let (key, ⟨rest, inStart⟩) ← key? start
      let ⟨ending, inRest⟩ := skipSpaces rest
      match expect? '.' ending with
      | some ⟨later, parted⟩ => do
          let ((path, last), left) ← dottedKeys? count later
          some ((key :: path, last), left.widen (by omega))
      | none => some (([], key), ⟨ending, by omega⟩)

def dottedKey? (text : Text) : Option ((List Text × Text) × Rest text) :=
  dottedKeys? maximalDepth text

/-- A literal goes on up to white space, a comment or punctuation. -/
def isAtomCharacter (character : Char) : Bool :=
  !" \t\r\n#=,[]\x7b\x7d".toList.contains character

/-- A space and a digit behind a date begin its time. -/
def beginsTime (date : Text) : Text → Bool
  | ' ' :: digit :: _ => dropDate? date = some [] && digit.isDigit
  | _ => false

/-- The characters of a number, a date or a name.  A date and a time may have
a space between them. -/
def splitAtom (text : Text) : Text × Rest text :=
  let atom := text.takeWhile isAtomCharacter
  let rest := dropWhile isAtomCharacter text
  if beginsTime atom rest then
    let time := (rest.val.drop 1).takeWhile isAtomCharacter
    let later : Rest rest := ⟨rest.val.drop (time.length + 1), by simp⟩
    (atom ++ ' ' :: time, later.widen rest.property)
  else (atom, rest)

/-- The value that is not a string and has no brackets. -/
def ofAtom? (atom : Text) : Option Value :=
  if atom = "true".toList then some (.boolean true)
  else if atom = "false".toList then some (.boolean false)
  else if isInteger atom then some (.integer atom)
  else if isFloat atom then some (.float atom)
  else if isMoment atom then some (.moment atom)
  else none

def beginsString : Text → Bool
  | '"' :: _ | '\'' :: _ => true
  | _ => false

-- The first element of an array may begin where its elements begin, so a value
-- has to count for less than elements and members of the same text.
mutual

/-- A value in front of a text, which may open so many more brackets. -/
def value? (depth : Nat) (text : Text) : Option (Value × Rest text) :=
  match text with
  | '[' :: rest =>
      match depth with
      | 0 => none
      | depth + 1 => do
          let (elements, left) ← elements? depth rest
          some (.array elements, left.behind '[')
  | '{' :: rest =>
      match depth with
      | 0 => none
      | depth + 1 => do
          let (entries, left) ← members? depth [] rest
          some (.table (entriesToValues entries), left.behind '{')
  | text =>
      if beginsString text then do
        let (content, left) ← string? text
        some (.string content, left)
      else do
        let (atom, left) := splitAtom text
        let value ← ofAtom? atom
        some (value, left)
termination_by 2 * text.length

/-- The elements of an array up to its closing bracket. -/
def elements? (depth : Nat) (text : Text) :
    Option (List Value × Rest text) := do
  let ⟨start, inText⟩ ← skipTrivia? text
  match expect? ']' start with
  | some ⟨rest, closed⟩ => some ([], ⟨rest, by omega⟩)
  | none => do
      let (element, ⟨rest, inStart⟩) ← value? depth start
      let ⟨ending, inRest⟩ ← skipTrivia? rest
      match expect? ']' ending with
      | some ⟨last, closed⟩ => some ([element], ⟨last, by omega⟩)
      | none => do
          let ⟨later, parted⟩ ← expect? ',' ending
          let (elements, left) ← elements? depth later
          some (element :: elements, left.widen (by omega))
termination_by 2 * text.length + 1

/-- The members of an inline table, in addition to `entries`, up to its closing
bracket. -/
def members? (depth : Nat) (entries : Entries) (text : Text) :
    Option (Entries × Rest text) := do
  let ⟨start, inText⟩ ← skipTrivia? text
  match expect? '}' start with
  | some ⟨rest, closed⟩ => some (entries, ⟨rest, by omega⟩)
  | none => do
      let ((path, key), ⟨rest, inStart⟩) ← dottedKey? start
      let ⟨sign, inMember⟩ ← skipTrivia? rest
      let ⟨behind, inSign⟩ ← expect? '=' sign
      let ⟨begun, inBehind⟩ ← skipTrivia? behind
      let (value, ⟨rest, inBegun⟩) ← value? depth begun
      let entries ← entries.addDotted path key value
      let ⟨ending, inRest⟩ ← skipTrivia? rest
      match expect? '}' ending with
      | some ⟨last, closed⟩ => some (entries, ⟨last, by omega⟩)
      | none => do
          let ⟨later, parted⟩ ← expect? ',' ending
          let (entries, left) ← members? depth entries later
          some (entries, left.widen (by omega))
termination_by 2 * text.length + 1

end

/-- The document read so far: the root table and the path of the table that is
being filled. -/
structure Reading where
  root : Entries
  current : List Text

/-- A header, after its opening bracket. -/
def header? (reading : Reading) :
    (text : Text) → Option (Reading × Rest text)
  | '[' :: rest => do
      let ((path, key), ⟨rest, inHeader⟩) ← dottedKey? rest
      let ⟨rest, inner⟩ ← expect? ']' rest
      let ⟨rest, outer⟩ ← expect? ']' rest
      let root ← reading.root.openElement path key
      some (⟨root, path ++ [key]⟩, ⟨rest, by grind⟩)
  | text => do
      let ((path, key), ⟨rest, inHeader⟩) ← dottedKey? text
      let ⟨rest, closed⟩ ← expect? ']' rest
      let root ← reading.root.openTable path key
      some (⟨root, path ++ [key]⟩, ⟨rest, by omega⟩)

/-- A key and its value. -/
def assignment? (reading : Reading) (text : Text) :
    Option (Reading × Rest text) := do
  let ((path, key), ⟨sign, inText⟩) ← dottedKey? text
  let ⟨rest, inSign⟩ ← expect? '=' sign
  let ⟨start, inRest⟩ := skipSpaces rest
  let (value, left) ← value? maximalDepth start
  let root ← reading.root.within reading.current (·.addDotted path key value)
  some ({ reading with root }, left.widen (by omega))

/-- Nothing is left of a line but a comment. -/
def endsLine : Text → Bool
  | [] | '\n' :: _ | '\r' :: _ | '#' :: _ => true
  | _ => false

/-- What a line holds besides white space and a comment. -/
def line? (reading : Reading) : (text : Text) → Option (Reading × Rest text)
  | '[' :: rest => readTail '[' (header? reading rest)
  | text =>
      if endsLine text then some (reading, .whole text)
      else assignment? reading text

def lines? (reading : Reading) (text : Text) : Option Entries := do
  let ⟨start, _⟩ := skipSpaces text
  let (reading, ⟨rest, _⟩) ← line? reading start
  let ⟨comment, _⟩ := skipSpaces rest
  let ⟨ending, _⟩ ← skipComment? comment
  if ending = [] then some reading.root
  else do
    let ⟨later, _⟩ ← dropNewline? ending
    lines? reading later
termination_by text.length

/-- The root table of a document, which a byte order mark may precede. -/
def parse? (text : Text) : Option (List (Text × Value)) := do
  let text :=
    match text with
    | '\uFEFF' :: rest => rest
    | _ => text
  let root ← lines? ⟨[], []⟩ text
  some (entriesToValues root)

end ModalTutor.Toml
