import ModalTutor.Toml.Number
import ModalTutor.Toml.Moment

/-!
# TOML strings

The four kinds of strings.  Every reader takes the text after the opening
quotes and gives the content with the rest behind the closing ones.
-/

namespace ModalTutor.Toml

/-- The character with a code of so many digits, and the text after them. -/
def codePoint? (digits : Nat) (text : Text) : Option (Char × Rest text) :=
  let code := text.take digits
  if code.length = digits && code.all isHexDigit then
    let number := ofDigits 16 code
    if number.isValidChar then
      some (Char.ofNat number, ⟨text.drop digits, by simp⟩)
    else none
  else none

/-- How many digits of a code follow a mark. -/
def codeLength? : Char → Option Nat
  | 'x' => some 2
  | 'u' => some 4
  | 'U' => some 8
  | _ => none

/-- The character that a mark without a code stands for. -/
def escape? : Char → Option Char
  | 'b' => some '\x08'
  | 't' => some '\t'
  | 'n' => some '\n'
  | 'f' => some '\x0c'
  | 'r' => some '\r'
  | 'e' => some '\x1b'
  | '"' => some '"'
  | '\\' => some '\\'
  | _ => none

/-- The character that stands after a backslash. -/
def escaped? : (text : Text) → Option (Char × Rest text)
  | [] => none
  | mark :: rest =>
      match codeLength? mark with
      | some digits => readTail mark (codePoint? digits rest)
      | none => do
          let character ← escape? mark
          some (character, ⟨rest, Nat.le_succ _⟩)

/-- Reads on from a string between double quotes. -/
def basicString? (text : Text) : Option (Text × Rest text) :=
  match text with
  | [] => none
  | '"' :: rest => some ([], ⟨rest, Nat.le_succ _⟩)
  | '\\' :: rest => do
      let (character, ⟨later, inRest⟩) ← escaped? rest
      let (content, left) ← basicString? later
      some (character :: content, (left.widen inRest).behind '\\')
  | character :: rest =>
      if isPrintable character then do
        let (content, left) ← basicString? rest
        some (character :: content, left.behind character)
      else none
termination_by text.length

/-- Reads a string between single quotes. -/
def literalString? : (text : Text) → Option (Text × Rest text)
  | [] => none
  | '\'' :: rest => some ([], ⟨rest, Nat.le_succ _⟩)
  | character :: rest =>
      if isPrintable character then do
        let (content, left) ← literalString? rest
        some (character :: content, left.behind character)
      else none

/-- The closing quotes of a string over several lines: three, and up to two
more that belong to the content. -/
def closing? (quote : Char) : (text : Text) → Option (Text × Rest text)
  | first :: second :: third :: rest =>
      if first = quote && second = quote && third = quote then
        let extra := (rest.take 2).takeWhile (· = quote)
        some (extra, ⟨rest.drop extra.length, by simp; omega⟩)
      else none
  | _ => none

/-- Reads on from a string over several lines. -/
def longString? (quote : Char) (text : Text) : Option (Text × Rest text) :=
  match closing? quote text with
  | some closed => some closed
  | none =>
      match text with
      | [] => none
      | '\r' :: '\n' :: rest => do
          let (content, left) ← longString? quote rest
          some ('\r' :: '\n' :: content, (left.behind '\n').behind '\r')
      | character :: rest =>
          if character = '\\' && quote = '"' then
            match dropLineEnd? rest with
            | some ⟨later, inRest⟩ => do
                let (content, left) ← longString? quote later
                some (content, (left.widen inRest).behind character)
            | none => do
                let (escaped, ⟨later, inRest⟩) ← escaped? rest
                let (content, left) ← longString? quote later
                some (escaped :: content, (left.widen inRest).behind character)
          else if character = '\n' || isPrintable character then do
            let (content, left) ← longString? quote rest
            some (character :: content, left.behind character)
          else none
termination_by text.length

/-- A line ending right after the opening quotes is no content. -/
def openedLongString? (quote : Char) (text : Text) :
    Option (Text × Rest text) :=
  match dropNewline? text with
  | some ⟨rest, shorter⟩ =>
      readPart (Nat.le_of_lt shorter) (longString? quote rest)
  | none => longString? quote text

/-- A string of any kind in front of a text. -/
def string? : (text : Text) → Option (Text × Rest text)
  | '"' :: '"' :: '"' :: rest =>
      readPart (Nat.le_add_right _ 3) (openedLongString? '"' rest)
  | '"' :: rest => readTail '"' (basicString? rest)
  | '\'' :: '\'' :: '\'' :: rest =>
      readPart (Nat.le_add_right _ 3) (openedLongString? '\'' rest)
  | '\'' :: rest => readTail '\'' (literalString? rest)
  | _ => none

end ModalTutor.Toml
