import ModalTutor.Text.Line
import ModalTutor.Key.Basic

/-!
# Key scripts

A key script writes keys as text.  A character stands for itself and any other
key for its name in angle brackets, with the modifiers in front, as in
`dd<Esc>` or `<C-r>`.  `Key.render` writes a key and `KeyScript.parse` reads a
script.
-/

namespace ModalTutor

inductive KeyScriptError where
  /-- A bracket opens at this byte offset and never closes. -/
  | unterminated (offset : Nat)
  | unknownKey (name : Text)
  deriving DecidableEq, Repr

def KeyScriptError.message : KeyScriptError → String
  | unterminated offset =>
      "unterminated key name starting at offset " ++ toString offset
  | unknownKey name => "unknown key name <" ++ String.ofList name ++ ">"

namespace Modifiers

def render (modifiers : Modifiers) : Text :=
  (if modifiers.control then ['C', '-'] else []) ++
    (if modifiers.alt then ['A', '-'] else []) ++
    (if modifiers.shift then ['S', '-'] else [])

/-- The modifier that a letter stands for in front of a dash. -/
def ofLetter? (letter : Char) : Option Modifiers :=
  match letter.toLower with
  | 'c' => some ⟨true, false, false⟩
  | 'a' | 'm' => some ⟨false, true, false⟩
  | 's' => some ⟨false, false, true⟩
  | _ => .none

end Modifiers

namespace KeyCode

def name : KeyCode → Text
  | char character => [character]
  | enter => ['C', 'R']
  | escape => ['E', 's', 'c']
  | backspace => ['B', 'S']
  | tab => ['T', 'a', 'b']
  | up => ['U', 'p']
  | down => ['D', 'o', 'w', 'n']
  | left => ['L', 'e', 'f', 't']
  | right => ['R', 'i', 'g', 'h', 't']

/-- The key that a name in lower case stands for. -/
def ofName? : Text → Option KeyCode
  | ['e', 's', 'c'] => some escape
  | ['c', 'r'] | ['e', 'n', 't', 'e', 'r']
  | ['r', 'e', 't', 'u', 'r', 'n'] => some enter
  | ['b', 's'] | ['b', 'a', 'c', 'k', 's', 'p', 'a', 'c', 'e'] =>
      some backspace
  | ['t', 'a', 'b'] => some tab
  | ['u', 'p'] => some up
  | ['d', 'o', 'w', 'n'] => some down
  | ['l', 'e', 'f', 't'] => some left
  | ['r', 'i', 'g', 'h', 't'] => some right
  | ['l', 't'] => some (char '<')
  | ['s', 'p', 'a', 'c', 'e'] => some (char ' ')
  | _ => none

end KeyCode

/-- The notation of one key. -/
def Key.render (key : Key) : Text :=
  if key.modifiers = .none then
    match key.code with
    | .char '<' => ['<', 'l', 't', '>']
    | .char character => [character]
    | code => '<' :: code.name ++ ['>']
  else '<' :: key.modifiers.render ++ key.code.name ++ ['>']

namespace KeyScript

def render (keys : List Key) : Text :=
  keys.flatMap Key.render

/-- Takes the modifiers off the front of a key name. -/
def splitModifiers : Text → Modifiers × Text
  | letter :: '-' :: rest =>
      match Modifiers.ofLetter? letter with
      | some modifier =>
          let later := splitModifiers rest
          (modifier.union later.1, later.2)
      | none => (.none, letter :: '-' :: rest)
  | name => (.none, name)

/-- The key whose name stands between brackets.  A bare character is a name
only after a modifier. -/
def named (body : Text) : Except KeyScriptError Key :=
  let modifiers := (splitModifiers body).1
  let name := (splitModifiers body).2
  match KeyCode.ofName? (name.map Char.toLower) with
  | some code => .ok ⟨code, modifiers⟩
  | none =>
      match name with
      | [character] =>
          if modifiers = .none then .error (.unknownKey body)
          else .ok ⟨.char character, modifiers⟩
      | _ => .error (.unknownKey body)

/-- Where the reader stands: between keys, or inside a bracket that opened at
a byte offset, with the characters of the name so far. -/
inductive Place where
  | between
  | inside (opened : Nat) (name : Text)

/-- Reads on from a byte offset. -/
def parseFrom (offset : Nat) : Place → Text → Except KeyScriptError (List Key)
  | .between, [] => .ok []
  | .inside opened _, [] => .error (.unterminated opened)
  | .between, '<' :: rest => parseFrom (offset + 1) (.inside offset []) rest
  | .between, character :: rest => do
      let keys ← parseFrom (offset + character.utf8Size) .between rest
      .ok (Key.char character :: keys)
  | .inside _ name, '>' :: rest => do
      let key ← named name
      let keys ← parseFrom (offset + 1) .between rest
      .ok (key :: keys)
  | .inside opened name, character :: rest =>
      parseFrom (offset + character.utf8Size)
        (.inside opened (name ++ [character])) rest

def parse (script : Text) : Except KeyScriptError (List Key) :=
  parseFrom 0 .between script

end KeyScript

end ModalTutor
