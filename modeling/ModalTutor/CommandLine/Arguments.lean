/-!
# Arguments

The syntax of the command line: one of three commands with its operands, and
options that may stand anywhere among them.  An option takes its value after
an equals sign or from the next argument, two dashes end the options, and the
settings file may be named before the command, after it or both.
-/

namespace ModalTutor

inductive Verb where
  | list
  | show
  | play
  deriving DecidableEq, Repr

/-- What the program is asked to do. -/
inductive Action where
  | list
  | show (id : UInt32)
  | play (id : UInt32) (script : String)
  deriving DecidableEq, Repr

inductive Request where
  | help
  | version
  | run (settings : Option String) (action : Action)
  deriving DecidableEq, Repr

/-- The options that have a value. -/
inductive ValueOption where
  | settings
  | keys
  deriving DecidableEq, Repr

namespace Arguments

/-- The arguments read so far. -/
structure Reading where
  /-- The command, once it was given. -/
  verb : Option Verb
  /-- The settings file named before the command. -/
  outerSettings : Option String
  /-- The settings file named since. -/
  settings : Option String
  keys : Option String
  id : Option UInt32
  /-- All further arguments are operands. -/
  operandsOnly : Bool
  deriving DecidableEq, Repr

def Reading.start : Reading := ⟨none, none, none, none, none, false⟩

/-- A number of 32 bits in decimal digits, with or without a sign. -/
def id? (operand : String) : Option UInt32 :=
  let (negative, digits) :=
    match operand.toList with
    | '+' :: digits => (false, digits)
    | '-' :: digits => (true, digits)
    | digits => (false, digits)
  if digits ≠ [] ∧ digits.all Char.isDigit then
    let number := digits.foldl (fun number digit =>
      10 * number + (digit.toNat - '0'.toNat)) 0
    if number < UInt32.size ∧ (¬ negative ∨ number = 0) then
      some (.ofNat number)
    else none
  else none

/-- An argument that is not an operand by its looks. -/
inductive Flag where
  | endOfOptions
  /-- A name of several letters and the value after an equals sign. -/
  | long (name : String) (value : Option String)
  /-- A name of one letter; the letters after it are of no concern. -/
  | short (name : Char)

def flag? (argument : String) : Option Flag :=
  match argument.toList with
  | ['-', '-'] => some .endOfOptions
  | '-' :: '-' :: name =>
      match name.dropWhile (· ≠ '=') with
      | [] => some (.long (.ofList name) none)
      | _ :: value =>
          some (.long (.ofList (name.takeWhile (· ≠ '=')))
            (some (.ofList value)))
  | '-' :: name :: _ => some (.short name)
  | _ => none

/-- The option of a name after the command. -/
def valueOption? (verb : Option Verb) (name : String) : Option ValueOption :=
  match name with
  | "config" => some .settings
  | "keys" => if verb = some .play then some .keys else none
  | _ => none

/-- Gives an option its value.  No option can be given twice, and a file has
to have a name. -/
def Reading.give? (reading : Reading) (option : ValueOption)
    (value : String) : Option Reading :=
  match option with
  | .settings =>
      if value = "" ∨ reading.settings.isSome then none
      else some { reading with settings := some value }
  | .keys =>
      if reading.keys.isSome then none
      else some { reading with keys := some value }

def Reading.operand? (reading : Reading) (operand : String) :
    Option Reading :=
  if (reading.verb = some .show ∨ reading.verb = some .play) ∧
      reading.id = none then do
    let id ← id? operand
    some { reading with id := some id }
  else none

def verb? : String → Option Verb
  | "list" => some .list
  | "show" => some .show
  | "play" => some .play
  | _ => none

def Reading.finish? (reading : Reading) : Option Request :=
  let settings := reading.settings.or reading.outerSettings
  match reading.verb with
  | none => none
  | some .list => some (.run settings .list)
  | some .show => reading.id.map fun id => .run settings (.show id)
  | some .play => do
      let id ← reading.id
      let keys ← reading.keys
      some (.run settings (.play id keys))

/-- The version can be asked for in front of the command, and help anywhere.
Neither takes a value. -/
def interruption? (verb : Option Verb) : Flag → Option Request
  | .long "help" none | .short 'h' => some .help
  | .long "version" none | .short 'V' =>
      if verb = none then some .version else none
  | _ => none

/-- Help can be had on the program or on one command. -/
def helpOn? : List String → Option Request
  | [] | ["help"] => some .help
  | [name] => (verb? name).map fun _ => .help
  | _ => none

/-- Reads the arguments that are left.  What breaks the syntax has no
reading. -/
def readFrom? (reading : Reading) : List String → Option Request
  | [] => reading.finish?
  | argument :: rest =>
      if reading.operandsOnly then
        match reading.operand? argument with
        | some reading => readFrom? reading rest
        | none => none
      else
        match flag? argument with
        | some .endOfOptions =>
            readFrom? { reading with operandsOnly := true } rest
        | some flag =>
            match interruption? reading.verb flag with
            | some request => some request
            | none =>
                match flag with
                | .long name value =>
                    match valueOption? reading.verb name, value, rest with
                    | none, _, _ => none
                    | some option, some value, rest =>
                        match reading.give? option value with
                        | some reading => readFrom? reading rest
                        | none => none
                    | some _, none, [] => none
                    | some option, none, value :: rest =>
                        if (flag? value).isSome then none
                        else
                          match reading.give? option value with
                          | some reading => readFrom? reading rest
                          | none => none
                | _ => none
        | none =>
            match reading.verb, verb? argument with
            | none, some verb =>
                readFrom?
                  { reading with
                    verb := some verb
                    outerSettings := reading.settings
                    settings := none } rest
            | none, none => if argument = "help" then helpOn? rest else none
            | some _, _ =>
                match reading.operand? argument with
                | some reading => readFrom? reading rest
                | none => none

end Arguments

/-- The request that the arguments make, if they follow the syntax. -/
def Request.ofArguments? (arguments : List String) : Option Request :=
  Arguments.readFrom? .start arguments

end ModalTutor
