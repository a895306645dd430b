import ModalTutor.Editor.History
import ModalTutor.Toml.Record

/-!
# Settings

The settings file gives the depth of the undo history and may name a catalog
to use instead of the built-in one.  A file that cannot be read counts as
empty.
-/

namespace ModalTutor

open Toml (Record Value)

structure Settings where
  /-- The depth as it was asked for. -/
  requestedDepth : Nat
  catalog : Option String
  deriving DecidableEq, Repr

namespace Settings

def maximalDepth : Nat := 10000

/-- A depth brought into the range that is supported. -/
def clampDepth (depth : Nat) : Nat :=
  min (max depth 1) maximalDepth

/-- The depth that takes effect. -/
def depth (settings : Settings) : Nat :=
  clampDepth settings.requestedDepth

def default : Settings := ⟨History.defaultDepth, none⟩

def depthOfToml? (value : Value) : Option Nat := do
  let record ← Record.ofValue? ["max_depth"] value
  record.optional "max_depth" (Value.natBelow? UInt64.size)
    History.defaultDepth

def catalogOfToml? (value : Value) : Option (Option String) := do
  let record ← Record.ofValue? ["catalog"] value
  record.optional "catalog" (fun value => value.string?.map some) none

def ofToml? (text : Text) : Option Settings := do
  let root ← Toml.document? ["history", "lessons"] text
  let requestedDepth ←
    root.optional "history" depthOfToml? History.defaultDepth
  let catalog ← root.optional "lessons" catalogOfToml? none
  some ⟨requestedDepth, catalog⟩

/-- The settings of a file with some content, if there is one. -/
def ofFile (content : Option String) : Settings :=
  (content.bind fun content => ofToml? content.toList).getD default

end Settings

end ModalTutor
