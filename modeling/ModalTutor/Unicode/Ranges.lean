/-!
# Sets of code points

A property that the character database lists is kept as inclusive ranges of
code points, each behind the one before.  `Ranges.covers_iff` says that a walk
through them may stop at the first range beyond the code point, which decides
membership.
-/

namespace ModalTutor.Unicode

/-- None of the ranges is empty or begins before a bound, and each begins behind
the one before. -/
def ascendFrom : Nat → List (Nat × Nat) → Bool
  | _, [] => true
  | bound, (first, last) :: rest =>
      bound ≤ first && first ≤ last && ascendFrom (last + 1) rest

theorem ascendFrom_cons {bound first last : Nat} {rest : List (Nat × Nat)} :
    ascendFrom bound ((first, last) :: rest) ↔
      bound ≤ first ∧ first ≤ last ∧ ascendFrom (last + 1) rest := by
  simp [ascendFrom, and_assoc]

theorem le_of_ascendFrom {bound : Nat} {ranges : List (Nat × Nat)}
    (ascending : ascendFrom bound ranges) {range : Nat × Nat}
    (member : range ∈ ranges) : bound ≤ range.1 := by
  induction ranges generalizing bound with
  | nil => cases member
  | cons head rest ih =>
      obtain ⟨first, last⟩ := head
      obtain ⟨above, nonempty, later⟩ := ascendFrom_cons.mp ascending
      rcases List.mem_cons.mp member with rfl | inRest
      · exact above
      · have behind := ih later inRest
        omega

/-- Inclusive ranges of code points, each behind the one before. -/
structure Ranges where
  list : List (Nat × Nat)
  ascending : ascendFrom 0 list := by decide +kernel

namespace Ranges

/-- A code point is in some ranges if it is within one of them. -/
instance : Membership Nat Ranges where
  mem ranges code := ∃ range ∈ ranges.list, range.1 ≤ code ∧ code ≤ range.2

/-- A walk that stops at the first range beyond the code point. -/
def covers : List (Nat × Nat) → Nat → Bool
  | [], _ => false
  | (first, last) :: rest, code =>
      if code < first then false
      else if code ≤ last then true
      else covers rest code

theorem covers_iff {bound : Nat} {ranges : List (Nat × Nat)}
    (ascending : ascendFrom bound ranges) (code : Nat) :
    covers ranges code ↔
      ∃ range ∈ ranges, range.1 ≤ code ∧ code ≤ range.2 := by
  induction ranges generalizing bound with
  | nil => simp [covers]
  | cons head rest ih =>
      obtain ⟨first, last⟩ := head
      obtain ⟨_, nonempty, later⟩ := ascendFrom_cons.mp ascending
      simp only [List.mem_cons, or_and_right, exists_or, exists_eq_left]
      by_cases before : code < first
      · have outside : ¬ ∃ range ∈ rest, range.1 ≤ code ∧ code ≤ range.2 := by
          rintro ⟨range, member, begun, _⟩
          have behind := le_of_ascendFrom later member
          omega
        simp [covers, before, outside, Nat.not_le.mpr before]
      · by_cases inside : code ≤ last
        · simp [covers, before, inside, Nat.not_lt.mp before]
        · simp [covers, before, inside, ih later]

instance (code : Nat) (ranges : Ranges) : Decidable (code ∈ ranges) :=
  decidable_of_iff (covers ranges.list code) (covers_iff ranges.ascending code)

end Ranges

end ModalTutor.Unicode
