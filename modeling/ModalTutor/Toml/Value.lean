import ModalTutor.Text.Cluster

/-!
# TOML values

The values of a TOML document.  Numbers and moments in time keep their
literals; what they come to is a question for whoever looks at them.
-/

namespace ModalTutor.Toml

inductive Value where
  | string (text : Text)
  | integer (literal : Text)
  | float (literal : Text)
  | boolean (value : Bool)
  /-- A date, a time of day or both. -/
  | moment (literal : Text)
  | array (elements : List Value)
  | table (entries : List (Text × Value))

namespace Value

/-- The first entry with a key. -/
def lookup (key : Text) : List (Text × Value) → Option Value
  | [] => none
  | (other, value) :: rest => if other = key then some value else lookup key rest

mutual

/-- The literals of all numbers in a value pass a test. -/
def allNumbers (integers floats : Text → Bool) : Value → Bool
  | integer literal => integers literal
  | float literal => floats literal
  | array elements => allNumbersOfList integers floats elements
  | table entries => allNumbersOfEntries integers floats entries
  | _ => true

def allNumbersOfList (integers floats : Text → Bool) : List Value → Bool
  | [] => true
  | value :: rest =>
      value.allNumbers integers floats &&
        allNumbersOfList integers floats rest

def allNumbersOfEntries (integers floats : Text → Bool) :
    List (Text × Value) → Bool
  | [] => true
  | (_, value) :: rest =>
      value.allNumbers integers floats &&
        allNumbersOfEntries integers floats rest

end

end Value

end ModalTutor.Toml
