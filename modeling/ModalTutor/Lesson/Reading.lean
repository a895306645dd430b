import ModalTutor.Lesson.Catalog
import ModalTutor.Toml.Record

/-!
# Lessons in TOML

A catalog is written as a TOML document with an array of lessons.
-/

namespace ModalTutor

open Toml (Record Value)

def Difficulty.ofName? (name : Text) : Option Difficulty :=
  match String.ofList name with
  | "beginner" => some .beginner
  | "intermediate" => some .intermediate
  | "advanced" => some .advanced
  | "developer" => some .developer
  | _ => none

namespace Goal

/-- Rows, columns and counts have 64 bits. -/
def size? : Value → Option Nat :=
  Value.natBelow? UInt64.size

/-- The fields of a goal of a kind, besides its kind. -/
def fieldNames (kind : String) : List String :=
  match kind with
  | "target_position" => ["row", "col"]
  | "target_text" => ["text", "count"]
  | "target_state" => ["lines"]
  | "required_marks" => ["marks"]
  | _ => []

/-- A goal of a kind from the value that has its fields. -/
def ofFields? (kind : String) (value : Value) : Option Goal := do
  let fields ← Record.ofValue? (fieldNames kind) value
  match kind with
  | "target_position" =>
      let row ← fields.required "row" size?
      let column ← fields.required "col" size?
      some (.targetPosition ⟨row, column⟩)
  | "target_text" =>
      let text ← fields.required "text" Value.text?
      let count ← fields.optional "count" (fun value =>
        (size? value).map some) none
      some (.targetText text count)
  | "target_state" =>
      let lines ← fields.required "lines" (Value.listOf? Value.text?)
      some (.targetState lines)
  | "undo_required" => some .undoRequired
  | "duplicate_line" => some .duplicateLine
  | "changed_from_initial" => some .changedFromInitial
  | "required_marks" =>
      let names ← fields.required "marks" (Value.listOf? Value.character?)
      some (.requiredMarks names)
  | _ => none

/-- The kind is a field of a table, or the first element of an array, which
then has no more elements than fields. -/
def ofToml? (value : Value) : Option Goal :=
  if value.inWordRange then
    match value with
    | .table fields => do
        let kind ← (Value.lookup "kind".toList fields).bind Value.string?
        ofFields? kind (.table fields)
    | .array (kind :: fields) => do
        let kind ← kind.string?
        if fields.length ≤ (fieldNames kind).length then
          ofFields? kind (.array fields)
        else none
    | _ => none
  else none

end Goal

def Command.ofToml? (value : Value) : Option Command :=
  value.string?.bind Command.ofName?

def Lesson.fieldNames : List String :=
  ["id", "title", "description", "difficulty", "instructions",
    "initial_text", "goal", "allowed_commands", "hints"]

def Lesson.ofToml? (value : Value) : Option Lesson := do
  let record ← Record.ofValue? fieldNames value
  let id ← record.required "id" (Value.natBelow? UInt32.size)
  let title ← record.required "title" Value.string?
  let description ← record.optional "description" Value.string? ""
  let difficulty ← record.optional "difficulty"
    (fun value => value.unitName?.bind Difficulty.ofName?) .beginner
  let instructions ← record.optional "instructions" Value.string? ""
  let initialText ← record.required "initial_text"
    (Value.listOf? Value.text?)
  let goal ← record.required "goal" Goal.ofToml?
  let allowed ← record.optional "allowed_commands"
    (Value.listOf? Command.ofToml?) []
  let hints ← record.optional "hints" (Value.listOf? Value.string?) []
  some
    { id := .ofNat id
      title
      description
      difficulty
      instructions
      initialText
      goal
      allowed := .ofList allowed
      hints }

inductive CatalogError where
  /-- The text is no TOML document, or not one of lessons. -/
  | malformed
  | lesson (error : LessonError)

def Catalog.ofToml (text : Text) : Except CatalogError Catalog :=
  let lessons? : Option (List Lesson) := do
    let root ← Toml.document? ["lesson"] text
    root.optional "lesson" (Value.listOf? Lesson.ofToml?) []
  match lessons? with
  | none => .error .malformed
  | some lessons => (Catalog.ofLessons lessons).mapError .lesson

end ModalTutor
