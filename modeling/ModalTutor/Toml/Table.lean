import ModalTutor.Toml.Value

/-!
# TOML tables under construction

While a document is read, a table remembers how it came about, since that
decides what may still be added to it.  A table of a header is complete in
itself, one that only a longer header names may yet get a header of its own,
and one that dotted keys made may grow by dotted keys alone.
-/

namespace ModalTutor.Toml

inductive Origin where
  | header
  /-- Named on the way to a longer header. -/
  | implied
  | dotted
  deriving DecidableEq, Repr

inductive Node where
  /-- A value that nothing can be added to. -/
  | value (value : Value)
  | table (origin : Origin) (entries : List (Text × Node))
  /-- An array of tables, the last one first. -/
  | tables (elements : List (List (Text × Node)))

abbrev Entries := List (Text × Node)

namespace Entries

/-- Changes the node at a key, or puts a new one at the end. -/
def alter (key : Text) (change : Option Node → Option Node) :
    Entries → Option Entries
  | [] => do
      let node ← change none
      some [(key, node)]
  | (other, node) :: rest =>
      if other = key then do
        let changed ← change (some node)
        some ((other, changed) :: rest)
      else do
        let changed ← alter key change rest
        some ((other, node) :: changed)

/-- Changes the table at a path.  `made` is the origin of tables that the path
makes; dotted keys cannot enter a table that has a header, save for the last
one of an array of tables. -/
def descend (made : Origin) (change : Origin → Entries → Option Entries) :
    List Text → Origin → Entries → Option Entries
  | [], origin, entries => change origin entries
  | key :: rest, _, entries =>
      alter key (fun
        | none => do
            let inner ← descend made change rest made []
            some (.table made inner)
        | some (.table origin inner) =>
            if made = .dotted ∧ origin = .header then none
            else do
              let inner ← descend made change rest origin inner
              some (.table origin inner)
        | some (.tables (last :: earlier)) => do
            let inner ← descend made change rest .header last
            some (.tables (inner :: earlier))
        | some _ => none) entries

/-- Adds a value under a key that is new. -/
def addValue (key : Text) (node : Node) (entries : Entries) : Option Entries :=
  alter key (fun
    | none => some node
    | some _ => none) entries

/-- Adds a value under dotted keys to the table that is being filled. -/
def addDotted (path : List Text) (key : Text) (value : Value)
    (entries : Entries) : Option Entries :=
  descend .dotted (fun origin inner =>
    if path = [] ∨ origin = .dotted then addValue key (.value value) inner
    else none) path .header entries

/-- Opens the table of a header. -/
def openTable (path : List Text) (key : Text) (root : Entries) :
    Option Entries :=
  descend .implied (fun _ inner =>
    alter key (fun
      | none => some (.table .header [])
      | some (.table .implied entries) => some (.table .header entries)
      | some _ => none) inner) path .header root

/-- Opens the next table of an array of tables. -/
def openElement (path : List Text) (key : Text) (root : Entries) :
    Option Entries :=
  descend .implied (fun _ inner =>
    alter key (fun
      | none => some (.tables [[]])
      | some (.tables elements) => some (.tables ([] :: elements))
      | some _ => none) inner) path .header root

/-- Changes the table that the last header opened. -/
def within (path : List Text) (change : Entries → Option Entries)
    (root : Entries) : Option Entries :=
  descend .implied (fun _ inner => change inner) path .header root

end Entries

mutual

def Node.toValue : Node → Value
  | .value value => value
  | .table _ entries => .table (entriesToValues entries)
  | .tables elements => .array (elementsToValues elements).reverse

def entriesToValues : List (Text × Node) → List (Text × Value)
  | [] => []
  | (key, node) :: rest => (key, node.toValue) :: entriesToValues rest

def elementsToValues : List (List (Text × Node)) → List Value
  | [] => []
  | entries :: rest =>
      .table (entriesToValues entries) :: elementsToValues rest

end

end ModalTutor.Toml
