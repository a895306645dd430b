/-!
# File trees

A file tree gives contents to relative paths.  It stands in for a directory on
a disk wherever a program only reads.
-/

namespace ModalTutor

structure FileTree where
  /-- The names on the way to each file, and its content. -/
  files : List (List String × String)

namespace FileTree

/-- The names of a path. -/
def components (path : String) : List String :=
  path.splitOn "/"

def ofFiles (files : List (String × String)) : FileTree :=
  ⟨files.map fun (path, content) =>
    ((components path).filter fun name => name ≠ "" ∧ name ≠ ".", content)⟩

/-- The root, or any place on the way to a file. -/
def isDirectory (tree : FileTree) (place : List String) : Bool :=
  place = [] ||
    tree.files.any fun (names, _) =>
      place.isPrefixOf names && place.length < names.length

/-- Walks from a directory along the names of a path. -/
def walk? (tree : FileTree) (place : List String) :
    List String → Option (List String)
  | [] => some place
  | name :: rest =>
      if tree.isDirectory place then
        match name with
        | "" | "." => tree.walk? place rest
        | ".." => if place = [] then none else tree.walk? place.dropLast rest
        | name => tree.walk? (place ++ [name]) rest
      else none

/-- Where a path leads; absolute paths lead out of the tree. -/
def resolve? (tree : FileTree) (path : String) : Option (List String) :=
  match components path with
  | "" :: _ => none
  | names => tree.walk? [] names

def read? (tree : FileTree) (path : String) : Option String := do
  let place ← tree.resolve? path
  tree.files.lookup place

def contains (tree : FileTree) (path : String) : Bool :=
  match tree.resolve? path with
  | none => false
  | some place =>
      tree.isDirectory place || (tree.files.lookup place).isSome

end FileTree

end ModalTutor
