import ModalTutor.Text.Buffer

/-!
# Selections and the register

A selection is the part of a buffer between two positions, both of them
included.  The register holds what was last cut or copied.
-/

namespace ModalTutor

/-- Whether text is taken by characters or by whole lines. -/
inductive Extent where
  | characters
  | lines
  deriving DecidableEq, Repr

structure Selection where
  first : Position
  last : Position
  extent : Extent
  deriving DecidableEq, Repr

namespace Selection

/-- The selection between two positions in whichever order. -/
def between (anchor cursor : Position) (extent : Extent) : Selection :=
  if anchor ≤ cursor then ⟨anchor, cursor, extent⟩
  else ⟨cursor, anchor, extent⟩

def isInOneRow (selection : Selection) : Bool :=
  selection.first.row = selection.last.row

def rowCount (selection : Selection) : Nat :=
  selection.last.row + 1 - selection.first.row

end Selection

/-- Several lines are held as one text, with a line feed between them. -/
structure Register where
  content : Text
  extent : Extent
  deriving DecidableEq, Repr

namespace Register

def empty : Register := ⟨[], .characters⟩

def isEmpty (register : Register) : Bool :=
  register.content = [] && register.extent = .characters

/-- What a cut or a copy leaves for the register: a line always, characters
only if there are any. -/
def holding? (content : Text) (extent : Extent) : Option Register :=
  let register : Register := ⟨content, extent⟩
  if register.isEmpty then none else some register

def record (register : Register) (content : Text) (extent : Extent) :
    Register :=
  (holding? content extent).getD register

/-- The pieces of a text between its line feeds. -/
def pieces : Text → List Text
  | [] => [[]]
  | character :: rest =>
      if character = '\n' then [] :: pieces rest
      else
        match pieces rest with
        | [] => [[character]]
        | piece :: later => (character :: piece) :: later

def lines (register : Register) : List Text :=
  pieces register.content

/-- Lines as one text. -/
def joined (lines : List Text) : Text :=
  List.intercalate ['\n'] lines

end Register

end ModalTutor
