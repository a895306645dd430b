import ModalTutor.Unicode.Lowercase

/-!
# Lower case in context

A capital sigma is the only character whose lower case depends on what stands
around it.  `lowercaseBetween` is the lower case of a piece of a text, and
`lowercaseBetween_eq_iff` says when a piece looks alike in two surroundings:
exactly if each capital sigma in it ends a word in both or in neither.
-/

namespace ModalTutor.Unicode

/-- A capital sigma between the two texts ends a word. -/
def endsWord (front back : List Char) : Bool :=
  meetsCased front.reverse && !meetsCased back

/-- Each capital sigma of the text ends a word between `before` and `after` if
and only if it ends one in the text by itself. -/
def KeepsSigmas (before text after : List Char) : Prop :=
  ∀ front back, text = front ++ 'Σ' :: back →
    endsWord (before ++ front) (back ++ after) = endsWord front back

/-- The lower case of one character between others.  What stands before it is
read from its end. -/
def lowercaseAt (before : List Char) (character : Char)
    (after : List Char) : List Char :=
  if character = 'Σ' then
    [if meetsCased before && !meetsCased after then 'ς' else 'σ']
  else lowercaseChar character

/-- The lower case of a piece of a text.  What stands before it is read from
its end. -/
def lowercaseBetween (before : List Char) :
    List Char → List Char → List Char
  | [], _ => []
  | character :: rest, after =>
      lowercaseAt before character (rest ++ after) ++
        lowercaseBetween (character :: before) rest after

theorem lowercaseBetween_append (before first second after : List Char) :
    lowercaseBetween before (first ++ second) after =
      lowercaseBetween before first (second ++ after) ++
        lowercaseBetween (first.reverse ++ before) second after := by
  induction first generalizing before with
  | nil => rfl
  | cons character first ih =>
      simp [lowercaseBetween, ih]

theorem lowercaseAfter_eq (before text : List Char) :
    lowercaseAfter before text = lowercaseBetween before text [] := by
  induction text generalizing before with
  | nil => rfl
  | cons character rest ih =>
      rw [lowercaseAfter, lowercaseBetween, ih, List.append_nil, lowercaseAt]

theorem lowercase_eq (text : List Char) :
    lowercase text = lowercaseBetween [] text [] :=
  lowercaseAfter_eq [] text

/-- How many characters a lower case has does not depend on what stands
around it. -/
theorem length_lowercaseAt (before other after later : List Char)
    (character : Char) :
    (lowercaseAt before character after).length =
      (lowercaseAt other character later).length := by
  unfold lowercaseAt
  split <;> rfl

theorem lowercaseAt_ne_nil (before after : List Char) (character : Char) :
    lowercaseAt before character after ≠ [] := by
  unfold lowercaseAt lowercaseChar
  split
  · simp
  · split <;> simp

theorem lowercaseAt_eq_iff {before other after later : List Char}
    {character : Char} :
    lowercaseAt before character after =
        lowercaseAt other character later ↔
      (character = 'Σ' →
        (meetsCased before && !meetsCased after) =
          (meetsCased other && !meetsCased later)) := by
  unfold lowercaseAt
  by_cases sigma : character = 'Σ'
  · cases meetsCased before && !meetsCased after <;>
      cases meetsCased other && !meetsCased later <;> simp [sigma]
  · simp [sigma]

theorem length_lowercaseBetween (before other after later : List Char)
    (text : List Char) :
    (lowercaseBetween before text after).length =
      (lowercaseBetween other text later).length := by
  induction text generalizing before other with
  | nil => rfl
  | cons character rest ih =>
      rw [lowercaseBetween, lowercaseBetween, List.length_append,
        List.length_append, ih (character :: before) (character :: other),
        length_lowercaseAt before other (rest ++ after) (rest ++ later)]

/-- A piece has one lower case in two surroundings exactly if each capital
sigma in it ends a word in both or in neither. -/
theorem lowercaseBetween_eq_iff {before other after later text : List Char} :
    lowercaseBetween before text after =
        lowercaseBetween other text later ↔
      ∀ front back, text = front ++ 'Σ' :: back →
        (meetsCased (front.reverse ++ before) &&
            !meetsCased (back ++ after)) =
          (meetsCased (front.reverse ++ other) &&
            !meetsCased (back ++ later)) := by
  induction text generalizing before other with
  | nil => simp [lowercaseBetween]
  | cons character rest ih =>
      have lengths := length_lowercaseAt before other (rest ++ after)
        (rest ++ later) character
      have split : lowercaseBetween before (character :: rest) after =
            lowercaseBetween other (character :: rest) later ↔
          lowercaseAt before character (rest ++ after) =
              lowercaseAt other character (rest ++ later) ∧
            lowercaseBetween (character :: before) rest after =
              lowercaseBetween (character :: other) rest later :=
        ⟨fun same => List.append_inj same lengths,
          fun ⟨here, inRest⟩ => by
            rw [lowercaseBetween, lowercaseBetween, here, inRest]⟩
      rw [split, lowercaseAt_eq_iff, ih]
      constructor
      · rintro ⟨here, inRest⟩ front back shape
        cases front with
        | nil =>
            cases shape
            exact here rfl
        | cons head front =>
            cases shape
            simpa using inRest front back rfl
      · intro alike
        constructor
        · rintro rfl
          exact alike [] rest rfl
        · rintro front back rfl
          simpa using alike (character :: front) back rfl

theorem lowercaseBetween_eq_lowercase_iff {before text after : List Char} :
    lowercaseBetween before.reverse text after = lowercase text ↔
      KeepsSigmas before text after := by
  rw [lowercase_eq, lowercaseBetween_eq_iff]
  simp [KeepsSigmas, endsWord]

theorem meetsCased_cons (character : Char) (farther : List Char) :
    meetsCased (character :: farther) =
      if isCaseIgnorable character then meetsCased farther
      else isCased character := by
  cases decided : isCaseIgnorable character <;>
    simp [meetsCased, decided]

/-- Beyond a character that is not case-ignorable nothing is looked at. -/
theorem meetsCased_append (nearer farther : List Char) :
    meetsCased (nearer ++ farther) =
      if nearer.all isCaseIgnorable then meetsCased farther
      else meetsCased nearer := by
  induction nearer with
  | nil => rfl
  | cons character rest ih =>
      rw [List.cons_append, meetsCased_cons, meetsCased_cons, ih,
        List.all_cons]
      cases isCaseIgnorable character <;> simp

theorem meetsCased_of_all {text : List Char}
    (ignorable : text.all isCaseIgnorable) : meetsCased text = false := by
  have none := meetsCased_append text []
  rw [List.append_nil, if_pos ignorable] at none
  exact none

theorem meetsCased_append_cons {character : Char}
    (decides : isCaseIgnorable character = false)
    (nearer farther : List Char) :
    meetsCased (nearer ++ character :: farther) =
      if nearer.all isCaseIgnorable then isCased character
      else meetsCased nearer := by
  rw [meetsCased_append]
  simp [meetsCased, decides]

theorem sigma_notIgnorable : isCaseIgnorable 'Σ' = false := by
  decide

theorem blank_notIgnorable : isCaseIgnorable ' ' = false := by
  decide

/-- No capital sigma stands among case-ignorable characters. -/
theorem sigma_notMem_of_all {text : List Char}
    (ignorable : text.all isCaseIgnorable) : 'Σ' ∉ text := by
  intro member
  have sigma := List.all_eq_true.mp ignorable 'Σ' member
  rw [sigma_notIgnorable] at sigma
  cases sigma

/-- What stands beyond a capital sigma does not matter. -/
theorem meetsCased_beyond_sigma (nearer farther other : List Char) :
    meetsCased (nearer ++ 'Σ' :: farther) =
      meetsCased (nearer ++ 'Σ' :: other) := by
  rw [meetsCased_append_cons sigma_notIgnorable,
    meetsCased_append_cons sigma_notIgnorable]

/-- A blank is like the end of the text. -/
theorem meetsCased_beyond_blank (nearer farther : List Char) :
    meetsCased (nearer ++ ' ' :: farther) = meetsCased nearer := by
  rw [meetsCased_append_cons blank_notIgnorable]
  split
  · next ignorable =>
      rw [meetsCased_of_all ignorable]
      decide
  · rfl

theorem lowercase_append_blank (first second : List Char) :
    lowercase (first ++ ' ' :: second) =
      lowercase first ++ ' ' :: lowercase second := by
  have firstSame : lowercaseBetween [] first (' ' :: second) =
      lowercaseBetween [] first [] := by
    apply lowercaseBetween_eq_iff.mpr
    intro front back _
    rw [meetsCased_beyond_blank, List.append_nil, List.append_nil]
  have secondSame :
      lowercaseBetween (' ' :: first.reverse) second [] =
        lowercaseBetween [] second [] := by
    apply lowercaseBetween_eq_iff.mpr
    intro front back _
    rw [meetsCased_beyond_blank, List.append_nil]
    simp
  have blank (before after : List Char) :
      lowercaseAt before ' ' after = [' '] := rfl
  rw [lowercase_eq, lowercase_eq, lowercase_eq, lowercaseBetween_append,
    lowercaseBetween, blank]
  simp [firstSame, secondSame]

/-- Surroundings can change whether a capital sigma between the two texts ends
a word: it ends one as long as nothing comes behind it that decides, or it ends
none as long as nothing comes before it. -/
inductive Exposed (front back : List Char) : Prop where
  | behind (cased : meetsCased front.reverse = true)
      (ignorable : back.all isCaseIgnorable)
  | before (ignorable : front.all isCaseIgnorable)
      (uncased : meetsCased back = false)

theorem endsWord_append {front back : List Char}
    (covered : ¬Exposed front back) (before after : List Char) :
    endsWord (before ++ front) (back ++ after) = endsWord front back := by
  rw [endsWord, endsWord, List.reverse_append, meetsCased_append,
    meetsCased_append, List.all_reverse]
  by_cases atFront : front.all isCaseIgnorable
  · have alone : meetsCased front.reverse = false :=
      meetsCased_of_all (by rw [List.all_reverse, atFront])
    have cased : meetsCased back = true := by
      rw [← Bool.not_eq_false]
      exact fun uncased => covered (.before atFront uncased)
    have decided : ¬back.all isCaseIgnorable := by
      intro ignorable
      rw [meetsCased_of_all ignorable] at cased
      cases cased
    rw [if_neg decided, cased, alone]
    simp
  · rw [if_neg atFront]
    by_cases atBack : back.all isCaseIgnorable
    · have uncased : meetsCased front.reverse = false := by
        rw [← Bool.not_eq_true]
        exact fun cased => covered (.behind cased atBack)
      rw [uncased, Bool.false_and, Bool.false_and]
    · rw [if_neg atBack]

theorem keepsSigmas_of_covered {text : List Char}
    (covered : ∀ front back, text = front ++ 'Σ' :: back →
      ¬Exposed front back) (before after : List Char) :
    KeepsSigmas before text after := by
  intro front back shape
  exact endsWord_append (covered front back shape) before after

/-- The lower case of a text around one of its capital sigmas. -/
theorem lowercaseBetween_sigma (before front back after : List Char) :
    lowercaseBetween before (front ++ 'Σ' :: back) after =
      lowercaseBetween before front ('Σ' :: (back ++ after)) ++
        (if meetsCased (front.reverse ++ before) &&
            !meetsCased (back ++ after) then 'ς' else 'σ') ::
          lowercaseBetween ('Σ' :: (front.reverse ++ before)) back after := by
  rw [lowercaseBetween_append, lowercaseBetween, lowercaseAt, if_pos rfl]
  rfl

/-- A letter behind a sigma that nothing follows but what is case-ignorable
takes its final form from it. -/
theorem count_final_lt_of_letter_behind {front back : List Char}
    (cased : meetsCased front.reverse = true)
    (ignorable : back.all isCaseIgnorable) :
    (lowercase (front ++ 'Σ' :: back ++ ['a'])).count 'ς' <
      (lowercase (front ++ 'Σ' :: back)).count 'ς' := by
  have letter : meetsCased (back ++ ['a']) = true := by
    rw [meetsCased_append, if_pos ignorable]
    decide
  have frontSame :
      lowercaseBetween [] front ('Σ' :: (back ++ ['a'])) =
        lowercaseBetween [] front ('Σ' :: back) := by
    apply lowercaseBetween_eq_iff.mpr
    intro _ between _
    rw [meetsCased_beyond_sigma between (back ++ ['a']) back]
  have backSame :
      lowercaseBetween ('Σ' :: front.reverse) back ['a'] =
        lowercaseBetween ('Σ' :: front.reverse) back [] := by
    apply lowercaseBetween_eq_iff.mpr
    rintro inner rest rfl
    exact absurd (by simp) (sigma_notMem_of_all ignorable)
  have added : lowercaseBetween (front ++ 'Σ' :: back).reverse ['a'] [] =
      ['a'] := rfl
  rw [lowercase_eq, lowercase_eq, lowercaseBetween_append, List.append_nil,
    List.append_nil, added, lowercaseBetween_sigma, lowercaseBetween_sigma]
  simp [cased, letter, meetsCased_of_all ignorable, frontSame, backSame]

/-- A letter before a sigma that has nothing before it but what is
case-ignorable gives it the final form. -/
theorem count_medial_lt_of_letter_before {front back : List Char}
    (ignorable : front.all isCaseIgnorable)
    (uncased : meetsCased back = false) :
    (lowercase ('a' :: (front ++ 'Σ' :: back))).count 'σ' <
      (lowercase (front ++ 'Σ' :: back)).count 'σ' := by
  have reversed : front.reverse.all isCaseIgnorable := by
    rw [List.all_reverse, ignorable]
  have letter : meetsCased (front.reverse ++ ['a']) = true := by
    rw [meetsCased_append, if_pos reversed]
    decide
  have frontSame : lowercaseBetween ['a'] front ('Σ' :: back) =
      lowercaseBetween [] front ('Σ' :: back) := by
    apply lowercaseBetween_eq_iff.mpr
    rintro inner rest rfl
    exact absurd (by simp) (sigma_notMem_of_all ignorable)
  have backSame :
      lowercaseBetween ('Σ' :: (front.reverse ++ ['a'])) back [] =
        lowercaseBetween ('Σ' :: front.reverse) back [] := by
    apply lowercaseBetween_eq_iff.mpr
    intro between _ _
    rw [meetsCased_beyond_sigma between.reverse (front.reverse ++ ['a'])
      front.reverse]
  have added (after : List Char) : lowercaseAt [] 'a' after = ['a'] := rfl
  rw [lowercase_eq, lowercase_eq, lowercaseBetween, List.append_nil, added,
    lowercaseBetween_sigma, lowercaseBetween_sigma, List.append_nil,
    List.append_nil]
  simp [uncased, letter, meetsCased_of_all reversed, frontSame, backSame]

end ModalTutor.Unicode
