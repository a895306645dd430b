/-!
# JSON values

The values that reports are made of, and their layout over several lines: two
spaces of indentation for every level, one element or member a line, and
nothing inside the brackets of an empty value.
-/

namespace ModalTutor

inductive Json where
  | null
  | boolean (value : Bool)
  | number (value : Nat)
  | text (value : List Char)
  | array (elements : List Json)
  | object (members : List (String × Json))

namespace Json

def string (value : String) : Json := text value.toList

/-- A missing value is written as `null`. -/
def ofOption (encode : α → Json) : Option α → Json
  | none => null
  | some value => encode value

def ofList (encode : α → Json) (values : List α) : Json :=
  array (values.map encode)

/-- The digits of a number below 256 in base sixteen, two of them. -/
def hexByte (number : Nat) : List Char :=
  [Nat.digitChar (number / 16), Nat.digitChar (number % 16)]

/-- Control characters are escaped, the common ones with a letter. -/
def escape (character : Char) : List Char :=
  match character with
  | '"' => ['\\', '"']
  | '\\' => ['\\', '\\']
  | '\x08' => ['\\', 'b']
  | '\x0c' => ['\\', 'f']
  | '\n' => ['\\', 'n']
  | '\r' => ['\\', 'r']
  | '\t' => ['\\', 't']
  | character =>
      if character.toNat < 0x20 then
        ['\\', 'u', '0', '0'] ++ hexByte character.toNat
      else [character]

def quote (value : List Char) : String :=
  String.ofList ('"' :: value.flatMap escape ++ ['"'])

/-- The start of a line at some level. -/
def margin (level : Nat) : String :=
  "\n" ++ String.ofList (List.replicate (2 * level) ' ')

mutual

/-- The layout of a value that starts at some level. -/
def layout (level : Nat) : Json → String
  | null => "null"
  | boolean true => "true"
  | boolean false => "false"
  | number value => toString value
  | text value => quote value
  | array [] => "[]"
  | array (element :: rest) =>
      "[" ++ margin (level + 1) ++ layout (level + 1) element ++
        layoutElements (level + 1) rest ++ margin level ++ "]"
  | object [] => "\x7b\x7d"
  | object ((name, value) :: rest) =>
      "\x7b" ++ margin (level + 1) ++ quote name.toList ++ ": " ++
        layout (level + 1) value ++ layoutMembers (level + 1) rest ++
        margin level ++ "\x7d"

/-- The elements after the first one. -/
def layoutElements (level : Nat) : List Json → String
  | [] => ""
  | element :: rest =>
      "," ++ margin level ++ layout level element ++ layoutElements level rest

/-- The members after the first one. -/
def layoutMembers (level : Nat) : List (String × Json) → String
  | [] => ""
  | (name, value) :: rest =>
      "," ++ margin level ++ quote name.toList ++ ": " ++ layout level value ++
        layoutMembers level rest

end

def render (value : Json) : String := layout 0 value

end Json

end ModalTutor
