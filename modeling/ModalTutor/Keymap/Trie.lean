import ModalTutor.Command.Basic
import ModalTutor.Keymap.Pattern

/-!
# Keymaps as tries

A binding gives a command to a sequence of patterns.  Bindings are gathered in
a trie whose siblings stand in the order of their first use, and keys walk down
from sibling to child.  The longest bound sequence that the keys complete
decides; of equal sequences the last binding does.
-/

namespace ModalTutor

structure Binding where
  sequence : List Pattern
  command : Command
  deriving DecidableEq, Repr

namespace Binding

def typed (characters : Text) (command : Command) : Binding :=
  ⟨characters.map .typed, command⟩

def single (pattern : Pattern) (command : Command) : Binding :=
  ⟨[pattern], command⟩

end Binding

/-- A list of siblings.  Each is a pattern, the command bound to the sequence
that ends there, its children, and the siblings after it. -/
inductive Trie where
  | empty
  | branch (pattern : Pattern) (command : Option Command) (children : Trie)
      (siblings : Trie)
  deriving DecidableEq, Repr

namespace Trie

/-- The trie of one sequence. -/
def path (command : Command) : List Pattern → Trie
  | [] => empty
  | [pattern] => branch pattern (some command) empty empty
  | pattern :: rest => branch pattern none (path command rest) empty

/-- An empty sequence binds nothing. -/
def insert (command : Command) : Trie → List Pattern → Trie
  | trie, [] => trie
  | empty, sequence => path command sequence
  | branch pattern bound children siblings, first :: rest =>
      if pattern = first then
        branch pattern (if rest = [] then some command else bound)
          (insert command children rest) siblings
      else
        branch pattern bound children
          (insert command siblings (first :: rest))

def ofBindings (bindings : List Binding) : Trie :=
  bindings.foldl (fun trie binding =>
    trie.insert binding.command binding.sequence) empty

/-- The command of the longest bound sequence that the keys complete. -/
def longest? : Trie → List Key → Option Command
  | _, [] => none
  | empty, _ :: _ => none
  | branch pattern bound children siblings, key :: rest =>
      if pattern.accepts key then (children.longest? rest).or bound
      else siblings.longest? (key :: rest)

/-- Every key finds a branch. -/
def walksAll : Trie → List Key → Bool
  | _, [] => true
  | empty, _ :: _ => false
  | branch pattern _ children siblings, key :: rest =>
      if pattern.accepts key then children.walksAll rest
      else siblings.walksAll (key :: rest)

end Trie

/-- What a sequence of keys comes to. -/
inductive Resolution where
  | matched (command : Command)
  /-- The keys begin a longer sequence. -/
  | needMore
  | noMatch
  deriving DecidableEq, Repr

def Trie.resolve (trie : Trie) (keys : List Key) : Resolution :=
  match trie.longest? keys with
  | some command => .matched command
  | none =>
      if keys ≠ [] ∧ trie.walksAll keys then .needMore else .noMatch

end ModalTutor
