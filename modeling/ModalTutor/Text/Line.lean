import ModalTutor.Text.CharClass

/-!
# Columns of a line

A column counts clusters.  Cutting a line at a column never parts the
characters of one cluster; a column beyond the end stands for the end.
-/

namespace ModalTutor

namespace Line

def width (line : Text) : Nat :=
  (clusters line).length

/-- The text before a column. -/
def upTo (line : Text) (column : Nat) : Text :=
  ((clusters line).take column).flatten

/-- The text from a column on. -/
def onward (line : Text) (column : Nat) : Text :=
  ((clusters line).drop column).flatten

/-- The text from one column up to another. -/
def between (line : Text) (first last : Nat) : Text :=
  (((clusters line).take last).drop first).flatten

def clusterAt? (line : Text) (column : Nat) : Option Cluster :=
  (clusters line)[column]?

/-- The length of a text in its UTF-8 form. -/
def byteLength : Text → Nat
  | [] => 0
  | character :: rest => character.utf8Size + byteLength rest

@[simp] theorem byteLength_append (first second : Text) :
    byteLength (first ++ second) = byteLength first + byteLength second := by
  induction first with
  | nil => simp [byteLength]
  | cons character rest ih => simp [byteLength, ih, Nat.add_assoc]

/-- Where a column begins in the UTF-8 form of the line. -/
def byteOffset (line : Text) (column : Nat) : Nat :=
  byteLength (upTo line column)

/-- What lies before a place in the UTF-8 form of a text, and what lies behind
it.  A place inside of a character stands for the end of the character. -/
def cutAtByte : Text → Nat → Text × Text
  | [], _ => ([], [])
  | character :: rest, offset =>
      if offset = 0 then ([], character :: rest)
      else
        let parts := cutAtByte rest (offset - character.utf8Size)
        (character :: parts.1, parts.2)

/-- The first column that shows something, or column 0. -/
def firstNonBlank (line : Text) : Nat :=
  ((charClasses line).findIdx? (· ≠ .whitespace)).getD 0

@[simp] theorem width_nil : width [] = 0 := rfl

@[simp] theorem upTo_append_onward (line : Text) (column : Nat) :
    upTo line column ++ onward line column = line := by
  rw [upTo, onward, ← List.flatten_append, List.take_append_drop,
    clusters_flatten]

theorem cutAtByte_byteLength (before after : Text) :
    cutAtByte (before ++ after) (byteLength before) = (before, after) := by
  induction before with
  | nil => cases after <;> rfl
  | cons character before ih =>
      have positive := character.utf8Size_pos
      simp only [List.cons_append, cutAtByte, byteLength,
        Nat.add_sub_cancel_left, ih]
      rw [if_neg (by omega)]

theorem upTo_append_between_append_onward (line : Text)
    {first last : Nat} (ordered : first ≤ last) :
    upTo line first ++ between line first last ++ onward line last =
      line := by
  have taken : (clusters line).take first ++
      ((clusters line).take last).drop first = (clusters line).take last := by
    have := List.take_append_drop first ((clusters line).take last)
    rwa [List.take_take, Nat.min_eq_left ordered] at this
  rw [upTo, between, onward, ← List.flatten_append, taken,
    ← List.flatten_append, List.take_append_drop, clusters_flatten]

theorem upTo_of_width_le {line : Text} {column : Nat}
    (beyond : width line ≤ column) : upTo line column = line := by
  rw [upTo, List.take_of_length_le beyond, clusters_flatten]

theorem onward_of_width_le {line : Text} {column : Nat}
    (beyond : width line ≤ column) : onward line column = [] := by
  rw [onward, List.drop_eq_nil_of_le beyond, List.flatten_nil]

end Line

end ModalTutor
