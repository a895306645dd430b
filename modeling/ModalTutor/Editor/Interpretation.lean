import ModalTutor.Editor.Basic
import ModalTutor.Keymap.Bindings

/-!
# From keys to commands

In the normal and visual modes keys gather into commands.  A key that does not
continue the pending ones drops them and begins anew, and three commands wait
for one more character.
-/

namespace ModalTutor

inductive Interpretation where
  | command (command : Command)
  /-- A command and the character that it waited for. -/
  | withArgument (command : Command) (character : Char)
  | escape
  /-- More keys are needed. -/
  | pending
  /-- The pending input is dropped. -/
  | cancelled
  | ignored
  deriving DecidableEq, Repr

/-- The plain escape key. -/
def Key.isEscape (key : Key) : Bool :=
  key = .plain .escape

/-- The command that waits for a character. -/
def Pending.awaits? : Pending → Option Command
  | none | keys _ => .none
  | replacement => some .replaceChar
  | markToSet => some .setMark
  | markToReach => some .jumpMark

/-- Any character can replace another, but only a letter names a mark. -/
def Command.acceptsArgument (command : Command) (character : Char) : Bool :=
  command = .replaceChar || Marks.isName character

namespace Interpretation

def trieFor (mode : Mode) : Trie :=
  if mode.isVisual then .visual else .normal

/-- A key that begins a command. -/
def ofFirstKey (mode : Mode) (pending : Pending) (key : Key) :
    Interpretation × Pending :=
  match (trieFor mode).resolve [key] with
  | .matched found => (command found, .none)
  | .needMore => (.pending, .keys ([key].filterMap Key.printable?))
  | .noMatch => (ignored, pending)

/-- A key after others that begin a command. -/
def ofNextKey (mode : Mode) (typed : Text) (key : Key) :
    Interpretation × Pending :=
  let keys := typed.map Key.char ++ [key]
  match (trieFor mode).resolve keys with
  | .matched found => (command found, .none)
  | .needMore => (.pending, .keys (keys.filterMap Key.printable?))
  | .noMatch => ofFirstKey mode .none key

/-- What a key comes to, and the input that is pending then. -/
def ofKey (mode : Mode) (pending : Pending) (key : Key) :
    Interpretation × Pending :=
  match pending.awaits? with
  | some waiting =>
      match key.printable? with
      | some character =>
          if waiting.acceptsArgument character then
            (withArgument waiting character, .none)
          else (cancelled, .none)
      | none => (cancelled, .none)
  | none =>
      match pending with
      | .keys typed =>
          if key.isEscape then (cancelled, .none)
          else if typed = [] then ofFirstKey mode pending key
          else ofNextKey mode typed key
      | _ =>
          if key.isEscape then (escape, pending)
          else ofFirstKey mode pending key

end Interpretation

end ModalTutor
