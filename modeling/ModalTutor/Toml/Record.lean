import ModalTutor.Toml.Document

/-!
# Records in TOML

A record is written as a table of its fields, or as an array of them in their
order.  What stands beside the fields is ignored, but a number that cannot be
held spoils a table even there; elements of an array after the last field are
not looked at.  A moment counts as a record without fields.
-/

namespace ModalTutor.Toml

namespace Value

/-- An integer literal that has a value of so many bits, with or without a
sign. -/
def fits (bits : Nat) (literal : Text) : Bool :=
  (integer? literal).any fun number =>
    -(Nat.pow 2 (bits - 1) : Int) ≤ number && number < (Nat.pow 2 bits : Int)

/-- Numbers that can be held at all: integers of 128 bits and floats of double
precision. -/
def inRange (value : Value) : Bool :=
  value.allNumbers (fits 128) isFiniteFloat

/-- The same with integers of 64 bits only. -/
def inWordRange (value : Value) : Bool :=
  value.allNumbers (fits 64) isFiniteFloat

def text? : Value → Option Text
  | string text => some text
  | _ => none

def string? (value : Value) : Option String :=
  value.text?.map String.ofList

/-- A number from zero up to some bound. -/
def natBelow? (bound : Nat) : Value → Option Nat
  | integer literal => do
      let number ← integer? literal
      if 0 ≤ number ∧ number < bound then some number.toNat else none
  | _ => none

/-- An array whose elements can all be read. -/
def listOf? (read : Value → Option α) : Value → Option (List α)
  | array elements => elements.mapM read
  | _ => none

/-- A text of exactly one character. -/
def character? : Value → Option Char
  | string [character] => some character
  | _ => none

/-- A name by itself, or as the only key of a table with nothing in it. -/
def unitName? : Value → Option Text
  | string name => some name
  | table [(name, array [])] | table [(name, table [])] => some name
  | _ => none

end Value

/-- The fields of a record that are there, by their names. -/
structure Record where
  fields : List (Text × Value)

namespace Record

/-- The record with fields of these names, in this order, that a value is. -/
def ofValue? (names : List String) : Value → Option Record
  | .table entries =>
      if entries.all (fun (key, value) =>
          names.contains (String.ofList key) || value.inRange) then
        some ⟨entries⟩
      else none
  | .array elements => some ⟨(names.map String.toList).zip elements⟩
  | .moment _ => some ⟨[]⟩
  | _ => none

def field? (record : Record) (name : String) : Option Value :=
  Value.lookup name.toList record.fields

/-- A field that may be missing; `none` if it is there and cannot be read. -/
def optional (record : Record) (name : String) (read : Value → Option α)
    (default : α) : Option α :=
  match record.field? name with
  | none => some default
  | some value => read value

def required (record : Record) (name : String) (read : Value → Option α) :
    Option α :=
  (record.field? name).bind read

end Record

/-- The root of a document, as a record with fields of these names. -/
def document? (names : List String) (text : Text) : Option Record := do
  let entries ← parse? text
  Record.ofValue? names (.table entries)

end ModalTutor.Toml
