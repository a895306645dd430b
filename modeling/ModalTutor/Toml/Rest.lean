import ModalTutor.Text.Cluster

/-!
# What readers leave

A reader takes something off the front of a text and leaves a rest.  The type
of a rest says that nothing was added to the text, so a reader may call itself
on a rest as long as it has taken a character before.  What most readers pass
over is here as well: white space, comments and line endings.
-/

namespace ModalTutor.Toml

/-- What a reader leaves of a text. -/
abbrev Rest (text : Text) := { rest : Text // rest.length ≤ text.length }

/-- What a reader leaves that has taken a character. -/
abbrev Shorter (text : Text) := { rest : Text // rest.length < text.length }

namespace Rest

variable {part text : Text}

/-- Nothing was taken. -/
def whole (text : Text) : Rest text :=
  ⟨text, Nat.le_refl _⟩

/-- What is left of a part is left of the whole. -/
def widen (bound : part.length ≤ text.length) (rest : Rest part) : Rest text :=
  ⟨rest, Nat.le_trans rest.property bound⟩

def behind (character : Char) (rest : Rest text) : Rest (character :: text) :=
  rest.widen (Nat.le_succ _)

end Rest

/-- Reads a part of a text as the whole. -/
def readPart {part text : Text} (bound : part.length ≤ text.length)
    (found : Option (α × Rest part)) : Option (α × Rest text) :=
  found.map fun (content, rest) => (content, rest.widen bound)

/-- Reads on behind a first character. -/
def readTail {text : Text} (character : Char)
    (found : Option (α × Rest text)) :
    Option (α × Rest (character :: text)) :=
  readPart (Nat.le_succ _) found

/-- Reads one given character. -/
def expect? (expected : Char) : (text : Text) → Option (Shorter text)
  | [] => none
  | character :: rest =>
      if character = expected then some ⟨rest, Nat.lt_succ_self _⟩ else none

/-- What is left behind a line ending, if the text begins with one. -/
def dropNewline? : (text : Text) → Option (Shorter text)
  | '\n' :: rest => some ⟨rest, Nat.lt_succ_self _⟩
  | '\r' :: '\n' :: rest => some ⟨rest, Nat.lt_succ_of_le (Nat.le_succ _)⟩
  | _ => none

def isSpace (character : Char) : Bool :=
  character = ' ' || character = '\t'

def dropWhile (test : Char → Bool) (text : Text) : Rest text :=
  ⟨text.dropWhile test, (List.dropWhile_suffix test).length_le⟩

def skipSpaces (text : Text) : Rest text :=
  dropWhile isSpace text

/-- Characters that may stand in a string or a comment as they are. -/
def isPrintable (character : Char) : Bool :=
  character = '\t' || (0x20 ≤ character.toNat && character.toNat ≠ 0x7F)

/-- A comment up to the end of its line. -/
def skipComment? : (text : Text) → Option (Rest text)
  | '#' :: comment =>
      let rest := dropWhile isPrintable comment
      if rest.val = [] || (dropNewline? rest).isSome then
        some (rest.behind '#')
      else none
  | text => some (.whole text)

/-- White space, comments and line endings between the parts of a value. -/
def skipTrivia? (text : Text) : Option (Rest text) := do
  let ⟨start, inText⟩ := skipSpaces text
  let ⟨ending, inStart⟩ ← skipComment? start
  match dropNewline? ending with
  | none => some ⟨ending, Nat.le_trans inStart inText⟩
  | some ⟨later, shorter⟩ => do
      let rest ← skipTrivia? later
      some (rest.widen (by omega))
termination_by text.length

/-- All the white space and line endings in front of a text. -/
def skipBlank : (text : Text) → Rest text
  | [] => .whole []
  | '\r' :: '\n' :: rest => ((skipBlank rest).behind '\n').behind '\r'
  | character :: rest =>
      if character = '\n' || isSpace character then
        (skipBlank rest).behind character
      else .whole (character :: rest)

/-- White space up to the end of a line, as it follows a backslash that joins
lines. -/
def dropLineEnd? (text : Text) : Option (Rest text) := do
  let ⟨start, inText⟩ := skipSpaces text
  let ⟨later, shorter⟩ ← dropNewline? start
  some ((skipBlank later).widen (by omega))

end ModalTutor.Toml
