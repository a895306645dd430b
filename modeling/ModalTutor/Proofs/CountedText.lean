import ModalTutor.Lesson.Evaluation
import ModalTutor.Proofs.FinalSigma

/-!
# Text goals count what is there

A text goal counts in lower case from the left, which finds as many occurrences
as there are without overlap.  An occurrence of the text as it is written is
one in lower case exactly if each of its capital sigmas ends a word where it
stands just as it does in the text by itself.  `Lesson.text_goal_counts_iff`
says which texts have that in all surroundings.
-/

namespace ModalTutor

/-- Places at which the needle stands in the text, from left to right and
without overlap. -/
structure Occurrences (needle text : Text) (starts : List Nat) : Prop where
  apart : starts.Pairwise fun left right => left + needle.length ≤ right
  stands : ∀ start ∈ starts, needle <+: text.drop start

variable {needle text : Text} {starts : List Nat}

namespace Occurrences

theorem nil : Occurrences needle text [] :=
  ⟨List.Pairwise.nil, by simp⟩

/-- What stands in a text stands in it behind a gap. -/
theorem behind (occurrences : Occurrences needle text starts) (gap : Text) :
    Occurrences needle (gap ++ text) (starts.map (gap.length + ·)) where
  apart := by
    apply occurrences.apart.map
    intro left right
    omega
  stands := by
    rw [List.forall_mem_map]
    intro start member
    rw [← List.drop_drop, List.drop_left]
    exact occurrences.stands start member

theorem cons (occurrences : Occurrences needle text starts) :
    Occurrences needle (needle ++ text)
      (0 :: starts.map (needle.length + ·)) where
  apart := by
    rw [List.pairwise_cons, List.forall_mem_map]
    exact ⟨fun start _ => by omega, (occurrences.behind needle).apart⟩
  stands := by
    rw [List.forall_mem_cons]
    exact ⟨List.prefix_append _ _, (occurrences.behind needle).stands⟩

/-- What stands behind the first character stands in the rest. -/
theorem tail {character : Char}
    (occurrences : Occurrences needle (character :: text) starts)
    (behind : ∀ start ∈ starts, 0 < start) :
    Occurrences needle text (starts.map (· - 1)) where
  apart := by
    rw [List.pairwise_map]
    apply occurrences.apart.imp_of_mem
    intro left right leftMember rightMember apart
    have := behind left leftMember
    omega
  stands := by
    rw [List.forall_mem_map]
    intro start member
    have stands := occurrences.stands start member
    cases start with
    | zero => exact absurd (behind 0 member) (Nat.lt_irrefl 0)
    | succ start => exact stands

/-- Counting from the left misses none of the occurrences that can stand
without overlap. -/
theorem length_le_countAfter (nonempty : needle ≠ []) {skip : Nat}
    (occurrences : Occurrences needle text starts)
    (beyond : ∀ start ∈ starts, skip ≤ start) :
    starts.length ≤ countAfter needle skip text := by
  fun_induction countAfter needle skip text generalizing starts with
  | case1 skip =>
      cases starts with
      | nil => exact Nat.zero_le _
      | cons start starts =>
          have stands := occurrences.stands start List.mem_cons_self
          rw [List.drop_nil, List.prefix_nil] at stands
          exact absurd stands nonempty
  | case2 skip character rest ih =>
      have positive : ∀ start ∈ starts, 0 < start := by
        intro start member
        exact Nat.lt_of_lt_of_le (Nat.succ_pos skip) (beyond start member)
      have later := ih (occurrences.tail positive) (by
        rw [List.forall_mem_map]
        intro start member
        exact Nat.le_sub_of_add_le (beyond start member))
      rwa [List.length_map] at later
  | case3 character rest found ih =>
      cases starts with
      | nil => exact Nat.zero_le _
      | cons start starts =>
          -- Whichever occurrence comes first, the others are beyond the one
          -- at the front.
          obtain ⟨first, apart⟩ := List.pairwise_cons.mp occurrences.apart
          have others : Occurrences needle (character :: rest) starts :=
            ⟨apart, fun other member =>
              occurrences.stands other (List.mem_cons_of_mem _ member)⟩
          have length := List.length_pos_iff.mpr nonempty
          have positive : ∀ other ∈ starts, 0 < other := by
            intro other member
            have := first other member
            omega
          have later := ih (others.tail positive) (by
            rw [List.forall_mem_map]
            intro other member
            have := first other member
            omega)
          rw [List.length_map] at later
          exact Nat.succ_le_succ later
  | case4 character rest missing ih =>
      have positive : ∀ start ∈ starts, 0 < start := by
        intro start member
        rw [Nat.pos_iff_ne_zero]
        rintro rfl
        apply missing
        rw [List.isPrefixOf_iff_prefix]
        exact occurrences.stands 0 member
      have later := ih (occurrences.tail positive) (by simp)
      rwa [List.length_map] at later

end Occurrences

/-- Each occurrence that is counted has its own characters. -/
theorem countAfter_mul_count_le (nonempty : needle ≠ []) (skip : Nat)
    (text : Text) (character : Char) :
    countAfter needle skip text * needle.count character ≤
      (text.drop skip).count character := by
  fun_induction countAfter needle skip text with
  | case1 skip => simp
  | case2 skip head rest ih => exact ih
  | case3 head rest found ih =>
      obtain ⟨later, shape⟩ := List.isPrefixOf_iff_prefix.mp found
      have length := List.length_pos_iff.mpr nonempty
      have skipped : rest.drop (needle.length - 1) = later := by
        have dropped := congrArg (List.drop needle.length) shape
        rw [List.drop_left, ← Nat.sub_add_cancel length,
          List.drop_succ_cons] at dropped
        exact dropped.symm
      rw [skipped] at ih
      rw [List.drop_zero, ← shape, List.count_append, Nat.succ_mul,
        Nat.add_comm]
      exact Nat.add_le_add_left ih _
  | case4 head rest missing ih =>
      apply Nat.le_trans ih
      exact (List.sublist_cons_self head rest).count_le character

namespace Unicode

theorem length_lowercase_append (first second : List Char) :
    (lowercase (first ++ second)).length =
      (lowercase first).length + (lowercase second).length := by
  rw [lowercase_eq, lowercase_eq, lowercase_eq, lowercaseBetween_append,
    List.length_append, length_lowercaseBetween [] [] (second ++ []) [],
    length_lowercaseBetween _ [] [] [] second]

theorem lowercase_ne_nil {text : List Char} (nonempty : text ≠ []) :
    lowercase text ≠ [] := by
  cases text with
  | nil => exact absurd rfl nonempty
  | cons character rest =>
      rw [lowercase_eq, lowercaseBetween]
      apply List.append_ne_nil_of_left_ne_nil
      exact lowercaseAt_ne_nil _ _ _

end Unicode

namespace Occurrences

/-- The surroundings of an occurrence do not change its lower case. -/
def KeptAt (needle text : Text) (start : Nat) : Prop :=
  Unicode.KeepsSigmas (text.take start) needle
    (text.drop (start + needle.length))

theorem prefix_lowercase {start : Nat} (stands : needle <+: text.drop start)
    (kept : KeptAt needle text start) :
    Unicode.lowercase needle <+: (Unicode.lowercase text).drop
      (Unicode.lowercase (text.take start)).length := by
  obtain ⟨rest, shape⟩ := stands
  have split : text = text.take start ++ (needle ++ rest) := by
    rw [shape, List.take_append_drop]
  have behind : text.drop (start + needle.length) = rest := by
    rw [← List.drop_drop, ← shape, List.drop_left]
  rw [KeptAt, behind, ← Unicode.lowercaseBetween_eq_lowercase_iff] at kept
  have whole : Unicode.lowercase text =
      Unicode.lowercaseBetween [] (text.take start) (needle ++ rest) ++
        (Unicode.lowercase needle ++
          Unicode.lowercaseBetween
            (needle.reverse ++ (text.take start).reverse) rest []) := by
    conv => lhs; rw [split]
    rw [Unicode.lowercase_eq, Unicode.lowercaseBetween_append,
      Unicode.lowercaseBetween_append]
    simp [kept]
  have length :
      (Unicode.lowercase (text.take start)).length =
        (Unicode.lowercaseBetween [] (text.take start)
          (needle ++ rest)).length := by
    rw [Unicode.lowercase_eq]
    exact Unicode.length_lowercaseBetween _ _ _ _ _
  rw [whole, length, List.drop_left]
  exact List.prefix_append _ _

/-- What stands in a text without overlap stands so in lower case. -/
theorem lowercase (occurrences : Occurrences needle text starts)
    (kept : ∀ start ∈ starts, KeptAt needle text start) :
    Occurrences (Unicode.lowercase needle) (Unicode.lowercase text)
      (starts.map fun start =>
        (Unicode.lowercase (text.take start)).length) where
  apart := by
    rw [List.pairwise_map]
    apply occurrences.apart.imp_of_mem
    intro left right leftMember _ apart
    obtain ⟨rest, shape⟩ := occurrences.stands left leftMember
    have before : text.take right = text.take left ++
        (needle ++ rest.take (right - (left + needle.length))) := by
      have far : right =
          left + (needle.length + (right - (left + needle.length))) := by
        omega
      conv => lhs; rw [far]
      rw [List.take_add, ← shape, List.take_length_add_append]
    rw [before, Unicode.length_lowercase_append,
      Unicode.length_lowercase_append]
    omega
  stands := by
    rw [List.forall_mem_map]
    intro start member
    exact prefix_lowercase (occurrences.stands start member)
      (kept start member)

end Occurrences

/-- A line written down some times, with a blank behind it each time. -/
def repeated (line : Text) : Nat → Text
  | 0 => []
  | count + 1 => line ++ ' ' :: repeated line count

theorem exists_occurrences_repeated (before needle after : Text)
    (count : Nat) :
    ∃ starts,
      Occurrences needle (repeated (before ++ needle ++ after) count)
        starts ∧ starts.length = count := by
  induction count with
  | zero => exact ⟨[], .nil, rfl⟩
  | succ count ih =>
      obtain ⟨starts, occurrences, length⟩ := ih
      have next := ((occurrences.behind (after ++ [' '])).cons).behind before
      have shape : repeated (before ++ needle ++ after) (count + 1) =
          before ++ (needle ++ (after ++ [' '] ++
            repeated (before ++ needle ++ after) count)) := by
        simp [repeated]
      rw [shape]
      exact ⟨_, next, by simp [length]⟩

theorem count_lowercase_repeated {character : Char}
    (visible : character ≠ ' ') (line : Text) (count : Nat) :
    (Unicode.lowercase (repeated line count)).count character =
      count * (Unicode.lowercase line).count character := by
  induction count with
  | zero => simp [repeated, Unicode.lowercase, Unicode.lowercaseAfter]
  | succ count ih =>
      rw [repeated, Unicode.lowercase_append_blank, List.count_append,
        List.count_cons_of_ne (Ne.symm visible), ih, Nat.succ_mul,
        Nat.add_comm]

/-- An attempt with one line of text and nothing else. -/
def Attempt.ofLine (line : Text) : Attempt :=
  ⟨.ofLines [line], .origin, .empty, 0, false⟩

@[simp] theorem Attempt.joined_ofLine (line separator : Text) :
    (ofLine line).buffer.joined separator = line := by
  simp [ofLine, Buffer.joined, Buffer.ofLines]

namespace Lesson

variable {lesson : Lesson} {count : Option Nat}

theorem isMet_targetText_iff (goal : lesson.goal = .targetText text count)
    (nonempty : text ≠ []) (attempt : Attempt) :
    lesson.isMet attempt ↔
      max (count.getD 1) 1 ≤
        countAfter (Unicode.lowercase text) 0
          (Unicode.lowercase (attempt.buffer.joined [' '])) := by
  simp [isMet, goal, countOccurrences, nonempty]

/-- Lines that are short of some character of the text in lower case do not
meet the goal, however often they are written down. -/
theorem not_isMet_of_count_lt (goal : lesson.goal = .targetText text count)
    (nonempty : text ≠ []) {character : Char} (visible : character ≠ ' ')
    {line : Text}
    (fewer : (Unicode.lowercase line).count character <
      (Unicode.lowercase text).count character) :
    ¬lesson.isMet
      (.ofLine (repeated line (max (count.getD 1) 1))) := by
  rw [isMet_targetText_iff goal nonempty, Attempt.joined_ofLine]
  intro met
  have bound := countAfter_mul_count_le
    (Unicode.lowercase_ne_nil nonempty) 0
    (Unicode.lowercase (repeated line (max (count.getD 1) 1))) character
  rw [List.drop_zero, count_lowercase_repeated visible] at bound
  have enough := Nat.le_trans (Nat.mul_le_mul_right _ met) bound
  have positive : 0 < max (count.getD 1) 1 := by omega
  exact Nat.not_lt.mpr (Nat.le_of_mul_le_mul_left enough positive) fewer

/-- An exposed sigma has a line around the text that is short of it in lower
case. -/
theorem exists_line_short {front back : Text}
    (exposed : Unicode.Exposed front back) :
    ∃ left right character, character ≠ ' ' ∧
      (Unicode.lowercase (left ++ (front ++ 'Σ' :: back) ++ right)).count
          character <
        (Unicode.lowercase (front ++ 'Σ' :: back)).count character := by
  cases exposed with
  | behind cased ignorable =>
      exact ⟨[], ['a'], 'ς', by decide,
        Unicode.count_final_lt_of_letter_behind cased ignorable⟩
  | before ignorable uncased =>
      refine ⟨['a'], [], 'σ', by decide, ?_⟩
      rw [List.append_nil]
      exact Unicode.count_medial_lt_of_letter_before ignorable uncased

/-- A text goal is met if there are enough occurrences of its text that do not
overlap and whose capital sigmas end a word just where they do in the text by
itself.  All occurrences count in every buffer exactly if no capital sigma of
the text is exposed to its surroundings. -/
theorem text_goal_counts_iff (goal : lesson.goal = .targetText text count)
    (nonempty : text ≠ []) :
    (∀ (attempt : Attempt) (starts : List Nat),
      let joined := attempt.buffer.joined [' ']
      Occurrences text joined starts →
      max (count.getD 1) 1 ≤ starts.length →
      (∀ start ∈ starts, Unicode.KeepsSigmas (joined.take start) text
        (joined.drop (start + text.length))) →
      lesson.isMet attempt = true) ∧
    ((∀ (attempt : Attempt) (starts : List Nat),
      Occurrences text (attempt.buffer.joined [' ']) starts →
      max (count.getD 1) 1 ≤ starts.length →
      lesson.isMet attempt = true) ↔
      ∀ front back, text = front ++ 'Σ' :: back →
        ¬Unicode.Exposed front back) := by
  have counted (attempt : Attempt) (starts : List Nat)
      (occurrences : Occurrences text (attempt.buffer.joined [' ']) starts)
      (enough : max (count.getD 1) 1 ≤ starts.length)
      (kept : ∀ start ∈ starts, Occurrences.KeptAt text
        (attempt.buffer.joined [' ']) start) :
      lesson.isMet attempt = true := by
    apply (isMet_targetText_iff goal nonempty attempt).mpr
    have all := (occurrences.lowercase kept).length_le_countAfter
      (Unicode.lowercase_ne_nil nonempty) fun _ _ => Nat.zero_le _
    rw [List.length_map] at all
    exact Nat.le_trans enough all
  refine ⟨counted, ?_, ?_⟩
  · rintro always front back rfl exposed
    obtain ⟨left, right, character, visible, fewer⟩ :=
      exists_line_short exposed
    obtain ⟨starts, occurrences, length⟩ :=
      exists_occurrences_repeated left (front ++ 'Σ' :: back) right
        (max (count.getD 1) 1)
    apply not_isMet_of_count_lt goal nonempty visible fewer
    apply always (.ofLine (repeated _ _)) starts
    · rw [Attempt.joined_ofLine]
      exact occurrences
    · exact Nat.le_of_eq length.symm
  · intro covered attempt starts occurrences enough
    apply counted attempt starts occurrences enough
    intro start _
    exact Unicode.keepsSigmas_of_covered covered _ _

/-- Two occurrences count, although one stands behind a digit and before a
mark. -/
theorem text_goal_counts_final_sigmas :
    let text := ['Α', 'Σ']
    let lesson : Lesson := .plain 1 [['a']] (.targetText text (some 2)) []
    let attempt : Attempt :=
      ⟨.ofLines [text, ['1', 'Α', 'Σ', '!']], .origin, .empty, 0, false⟩
    let joined := attempt.buffer.joined [' ']
    lesson.goal = .targetText text (some 2) ∧ text ≠ [] ∧
      Occurrences text joined [0, 4] ∧
      max ((some 2).getD 1) 1 ≤ [0, 4].length ∧
      (∀ start ∈ [0, 4], Unicode.KeepsSigmas (joined.take start) text
        (joined.drop (start + text.length))) ∧
      lesson.isMet attempt = true := by
  intro text lesson attempt joined
  have goal : lesson.goal = .targetText text (some 2) := rfl
  have nonempty : text ≠ [] := List.cons_ne_nil _ _
  have occurrences : Occurrences text joined [0, 4] :=
    ⟨by decide, by decide⟩
  have enough : max ((some 2).getD 1) 1 ≤ [0, 4].length := by decide
  have kept : ∀ start ∈ [0, 4], Unicode.KeepsSigmas (joined.take start) text
      (joined.drop (start + text.length)) := by
    intro start member
    apply Unicode.lowercaseBetween_eq_lowercase_iff.mp
    revert start
    decide
  exact ⟨goal, nonempty, occurrences, enough, kept,
    (text_goal_counts_iff goal nonempty).1 attempt [0, 4] occurrences enough
      kept⟩

/-- In front of a letter the capital sigma of the goal does not end a word, so
the only occurrence there is does not count. -/
theorem sigma_inside_word_is_not_counted :
    let text := ['Α', 'Σ']
    let lesson : Lesson := .plain 1 [['a']] (.targetText text none) []
    let attempt : Attempt := .ofLine ['Α', 'Σ', 'Α']
    lesson.goal = .targetText text none ∧ text ≠ [] ∧
      Occurrences text (attempt.buffer.joined [' ']) [0] ∧
      max ((none : Option Nat).getD 1) 1 ≤ [0].length ∧
      lesson.isMet attempt = false := by
  intro text lesson attempt
  have occurrences : Occurrences text (attempt.buffer.joined [' ']) [0] :=
    ⟨by decide, by decide⟩
  exact ⟨rfl, by decide, occurrences, by decide, by decide⟩

end Lesson

end ModalTutor
