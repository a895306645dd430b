import Mathlib.Data.List.Basic
import Mathlib.Data.Set.Basic
import Mathlib.Order.Bounds.Basic

/-!
# Walking along a list

A motion walks over the elements of one kind and stops at the first of
another.  `walkEnd` and `walkStart` are where such a walk comes to a halt, to
the right and to the left, and `WalksOver` and `WalksBack` say what is known of
that place.  `LeastOr` and `GreatestOr` describe where a motion lands: on the
nearest of certain places or, if there are none, at an edge.
-/

namespace ModalTutor

/-- The least of the places or, without any, another one. -/
def LeastOr (places : Set Nat) (edge landing : Nat) : Prop :=
  IsLeast places landing ∨ places = ∅ ∧ landing = edge

/-- The greatest of the places or, without any, another one. -/
def GreatestOr (places : Set Nat) (edge landing : Nat) : Prop :=
  IsGreatest places landing ∨ places = ∅ ∧ landing = edge

theorem LeastOr.unique {places : Set Nat} {edge first second : Nat}
    (left : LeastOr places edge first) (right : LeastOr places edge second) :
    first = second := by
  rcases left with left | ⟨none, rfl⟩
  · rcases right with right | ⟨none, rfl⟩
    · exact left.unique right
    · exact absurd left.1 (by simp [none])
  · rcases right with right | ⟨_, rfl⟩
    · exact absurd right.1 (by simp [none])
    · rfl

theorem GreatestOr.unique {places : Set Nat} {edge first second : Nat}
    (left : GreatestOr places edge first)
    (right : GreatestOr places edge second) : first = second := by
  rcases left with left | ⟨none, rfl⟩
  · rcases right with right | ⟨none, rfl⟩
    · exact left.unique right
    · exact absurd left.1 (by simp [none])
  · rcases right with right | ⟨_, rfl⟩
    · exact absurd right.1 (by simp [none])
    · rfl

variable {α : Type} (property : α → Bool) (list : List α) (start stop : Nat)

/-- The elements from `start` up to `stop` have the property, and the one at
`stop` does not. -/
structure WalksOver : Prop where
  ordered : start ≤ stop
  inside : stop ≤ max start list.length
  passed : ∀ {index element}, start ≤ index → index < stop →
    list[index]? = some element → property element = true
  halted : ∀ {element}, list[stop]? = some element → property element = false

/-- The elements from `stop` up to `start` have the property, and the one
before `stop` does not. -/
structure WalksBack : Prop where
  ordered : stop ≤ start
  inside : stop ≤ list.length
  passed : ∀ {index element}, stop ≤ index → index < start →
    list[index]? = some element → property element = true
  halted : ∀ {before element}, stop = before + 1 →
    list[before]? = some element → property element = false

/-- Where a walk to the right over elements with a property stops. -/
def walkEnd : Nat :=
  start + (list.drop start).findIdx (!property ·)

/-- Where a walk to the left over elements with a property stops, when the
element before `start` is the first one. -/
def walkStart : Nat :=
  ((list.take start).reverse.dropWhile property).length

theorem drop_walkEnd :
    (list.drop start).dropWhile property =
      list.drop (walkEnd property list start) := by
  rw [List.dropWhile_eq_drop_findIdx_not, List.drop_drop, walkEnd]

theorem walkEnd_eq_add_length :
    walkEnd property list start =
      start + ((list.drop start).takeWhile property).length := by
  rw [walkEnd, List.takeWhile_eq_take_findIdx_not, List.length_take,
    Nat.min_eq_left List.findIdx_le_length]

theorem walksOver_walkEnd :
    WalksOver property list start (walkEnd property list start) := by
  constructor
  · exact Nat.le_add_right _ _
  · have within : (list.drop start).findIdx (!property ·) ≤
        list.length - start := by
      rw [← List.length_drop]
      exact List.findIdx_le_length
    rw [walkEnd]
    omega
  · intro index element after before found
    rw [walkEnd] at before
    have early : index - start <
        (list.drop start).findIdx (!property ·) := by omega
    obtain ⟨inRange, rfl⟩ := List.getElem?_eq_some_iff.mp found
    have holds := List.not_of_lt_findIdx early
    simpa [Nat.add_sub_cancel' after] using holds
  · intro element found
    rw [walkEnd, ← List.getElem?_drop] at found
    obtain ⟨inRange, rfl⟩ := List.getElem?_eq_some_iff.mp found
    have fails := List.findIdx_getElem (w := inRange)
    simpa using fails

theorem walkStart_eq_sub :
    walkStart property list start = (list.take start).length -
      walkEnd property (list.take start).reverse 0 := by
  rw [walkStart, List.dropWhile_eq_drop_findIdx_not, List.length_drop,
    List.length_reverse, walkEnd, Nat.zero_add, List.drop_zero]

theorem take_walkStart :
    (list.take start).reverse.dropWhile property =
      (list.take (walkStart property list start)).reverse := by
  have ordered : walkStart property list start ≤ start := by
    have := walkStart_eq_sub property list start
    have := List.length_take_le start list
    omega
  have walked := drop_walkEnd property (list.take start).reverse 0
  rw [List.drop_zero, List.drop_reverse, ← walkStart_eq_sub,
    List.take_take, Nat.min_eq_left ordered] at walked
  exact walked

/-- A walk to the left is one to the right over the reversed list. -/
theorem walksBack_walkStart :
    WalksBack property list start (walkStart property list start) := by
  have mirrored := walksOver_walkEnd property (list.take start).reverse 0
  have equation := walkStart_eq_sub property list start
  have length := List.length_take_le start list
  have lengthInList := List.length_take_le' start list
  have reversed {index : Nat} {element : α} (before : index < start)
      (found : list[index]? = some element) :
      index < (list.take start).length ∧
        (list.take start).reverse[(list.take start).length - 1 - index]? =
          some element := by
    have inRange : index < (list.take start).length := by
      have := (List.getElem?_eq_some_iff.mp found).1
      rw [List.length_take]
      omega
    refine ⟨inRange, ?_⟩
    rw [List.getElem?_reverse (by omega), List.getElem?_take_of_lt (by omega)]
    have back : (list.take start).length - 1 -
        ((list.take start).length - 1 - index) = index := by omega
    rw [back, found]
  constructor
  · omega
  · omega
  · intro index element after before found
    obtain ⟨inRange, atMirror⟩ := reversed before found
    exact mirrored.passed (Nat.zero_le _) (by omega) atMirror
  · intro before element stop found
    obtain ⟨inRange, atMirror⟩ := reversed (by omega) found
    apply mirrored.halted
    have last : walkEnd property (list.take start).reverse 0 =
        (list.take start).length - 1 - before := by omega
    rw [last, atMirror]

end ModalTutor
