/-!
# Positions

A position is a row and a column, both counted from zero.  Positions are in
document order: by row first, then by column.
-/

namespace ModalTutor

structure Position where
  row : Nat
  column : Nat
  deriving DecidableEq, Repr

namespace Position

def origin : Position := ⟨0, 0⟩

instance : LT Position where
  lt left right :=
    left.row < right.row ∨ left.row = right.row ∧ left.column < right.column

instance : LE Position where
  le left right :=
    left.row < right.row ∨ left.row = right.row ∧ left.column ≤ right.column

theorem lt_def {left right : Position} :
    left < right ↔ left.row < right.row ∨
      left.row = right.row ∧ left.column < right.column := Iff.rfl

theorem le_def {left right : Position} :
    left ≤ right ↔ left.row < right.row ∨
      left.row = right.row ∧ left.column ≤ right.column := Iff.rfl

instance (left right : Position) : Decidable (left < right) :=
  inferInstanceAs (Decidable (_ ∨ _))

instance (left right : Position) : Decidable (left ≤ right) :=
  inferInstanceAs (Decidable (_ ∨ _))

end Position

end ModalTutor
