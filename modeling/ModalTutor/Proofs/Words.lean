import ModalTutor.Editor.Edit
import ModalTutor.Proofs.Walks
import ModalTutor.Text.Motion

/-!
# Words of a line

A word is a longest stretch of columns of one class that is not white space.
`Line.word_motions_nearest` says that the word motions go to the nearest start
or end of a word, and `Line.word_spans_agree` that the word operators take the
text up to where the motion to the next word goes.
-/

namespace ModalTutor

namespace Line

/-- The columns from `first` to `last` are there and of one class. -/
def Stretch (line : Text) (kind : CharClass) (first last : Nat) : Prop :=
  first ≤ last ∧ ∀ column, first ≤ column → column ≤ last →
    (charClasses line)[column]? = some kind

/-- A stretch that is not white space and not part of a longer one. -/
def IsWord (line : Text) (first last : Nat) : Prop :=
  ∃ kind, kind ≠ .whitespace ∧ Stretch line kind first last ∧
    ∀ earlier later, earlier ≤ first → last ≤ later →
      Stretch line kind earlier later → earlier = first ∧ later = last

def wordStarts (line : Text) : Set Nat :=
  {first | ∃ last, IsWord line first last}

def wordEnds (line : Text) : Set Nat :=
  {last | ∃ first, IsWord line first last}

theorem length_charClasses (line : Text) :
    (charClasses line).length = width line := by
  simp [charClasses, width]

theorem exists_class {line : Text} {column : Nat}
    (inLine : column < width line) :
    ∃ kind, (charClasses line)[column]? = some kind := by
  rw [← length_charClasses] at inLine
  exact ⟨_, List.getElem?_eq_getElem inLine⟩

section Boundaries

variable {line : Text} {kind : CharClass} {first last stop : Nat}

/-- A stretch is longest if its class goes on at neither side. -/
theorem isWord_of_stretch (shown : kind ≠ .whitespace)
    (stretch : Stretch line kind first last)
    (before : ∀ column, first = column + 1 →
      (charClasses line)[column]? ≠ some kind)
    (after : (charClasses line)[last + 1]? ≠ some kind) :
    IsWord line first last := by
  refine ⟨kind, shown, stretch, ?_⟩
  intro earlier later ahead beyond longer
  have ordered := stretch.1
  constructor
  · by_contra apart
    exact before (first - 1) (by omega)
      (longer.2 (first - 1) (by omega) (by omega))
  · by_contra apart
    exact after (longer.2 (last + 1) (by omega) (by omega))

/-- A walk to the right over the class of the first column. -/
theorem stretch_of_walksOver
    (walk : WalksOver (· = kind) (charClasses line) first stop)
    (here : (charClasses line)[first]? = some kind) :
    first < stop ∧ Stretch line kind first (stop - 1) ∧
      (charClasses line)[stop]? ≠ some kind := by
  have halted : (charClasses line)[stop]? ≠ some kind := by
    intro same
    have differs := walk.halted same
    simp at differs
  have moved : first < stop := by
    refine Nat.lt_of_le_of_ne walk.ordered ?_
    rintro rfl
    exact halted here
  have inLine := (List.getElem?_eq_some_iff.mp here).1
  have inside := walk.inside
  refine ⟨moved, ⟨by omega, ?_⟩, halted⟩
  intro column after before
  obtain ⟨other, found⟩ : ∃ other, (charClasses line)[column]? = some other :=
    ⟨_, List.getElem?_eq_getElem (by omega)⟩
  have same := of_decide_eq_true (walk.passed after (by omega) found)
  rw [found, same]

/-- A walk to the left over the class of the last column. -/
theorem stretch_of_walksBack
    (walk : WalksBack (· = kind) (charClasses line) (last + 1) stop)
    (here : (charClasses line)[last]? = some kind) :
    Stretch line kind stop last ∧ ∀ column, stop = column + 1 →
      (charClasses line)[column]? ≠ some kind := by
  have halted (column : Nat) (next : stop = column + 1) :
      (charClasses line)[column]? ≠ some kind := by
    intro same
    have differs := walk.halted next same
    simp at differs
  have moved : stop ≤ last := by
    by_contra beyond
    have ordered := walk.ordered
    exact halted last (by omega) here
  have inLine := (List.getElem?_eq_some_iff.mp here).1
  refine ⟨⟨moved, ?_⟩, halted⟩
  intro column after before
  obtain ⟨other, found⟩ : ∃ other, (charClasses line)[column]? = some other :=
    ⟨_, List.getElem?_eq_getElem (by omega)⟩
  have same := of_decide_eq_true
    (walk.passed after (Nat.lt_succ_of_le before) found)
  rw [found, same]

theorem mem_wordStarts :
    first ∈ wordStarts line ↔
      ∃ kind, kind ≠ .whitespace ∧ (charClasses line)[first]? = some kind ∧
        ∀ column, first = column + 1 →
          (charClasses line)[column]? ≠ some kind := by
  constructor
  · rintro ⟨last, kind, shown, stretch, longest⟩
    refine ⟨kind, shown, stretch.2 first (Nat.le_refl _) stretch.1, ?_⟩
    rintro column rfl same
    have longer : Stretch line kind column last := by
      refine ⟨Nat.le_of_succ_le stretch.1, ?_⟩
      intro other after before
      rcases Nat.eq_or_lt_of_le after with rfl | inside
      · exact same
      · exact stretch.2 other inside before
    have := (longest column last (by omega) (Nat.le_refl _) longer).1
    omega
  · rintro ⟨kind, shown, here, before⟩
    obtain ⟨moved, stretch, halted⟩ :=
      stretch_of_walksOver (walksOver_walkEnd _ _ _) here
    refine ⟨_, isWord_of_stretch shown stretch before ?_⟩
    rwa [Nat.sub_add_cancel (Nat.zero_lt_of_lt moved)]

theorem mem_wordEnds :
    last ∈ wordEnds line ↔
      ∃ kind, kind ≠ .whitespace ∧ (charClasses line)[last]? = some kind ∧
        (charClasses line)[last + 1]? ≠ some kind := by
  constructor
  · rintro ⟨first, kind, shown, stretch, longest⟩
    refine ⟨kind, shown, stretch.2 last stretch.1 (Nat.le_refl _), ?_⟩
    intro same
    have longer : Stretch line kind first (last + 1) := by
      refine ⟨Nat.le_succ_of_le stretch.1, ?_⟩
      intro other after before
      rcases Nat.eq_or_lt_of_le before with rfl | inside
      · exact same
      · exact stretch.2 other after (Nat.le_of_lt_succ inside)
    have := (longest first (last + 1) (Nat.le_refl _) (by omega) longer).2
    omega
  · rintro ⟨kind, shown, here, after⟩
    obtain ⟨stretch, halted⟩ :=
      stretch_of_walksBack (walksBack_walkStart _ _ _) here
    exact ⟨_, isWord_of_stretch shown stretch halted after⟩

end Boundaries

theorem dropWord_cons (kind : CharClass) (rest : List CharClass) :
    dropWord (kind :: rest) =
      if kind = .whitespace then kind :: rest
      else (kind :: rest).dropWhile (· = kind) := by
  cases kind <;> simp [dropWord]

/-- Where the rest of the word at a column stops, if there is a word. -/
def pastWord (classes : List CharClass) (start : Nat) : Nat :=
  match classes[start]? with
  | none => start
  | some kind =>
      if kind = .whitespace then start
      else walkEnd (· = kind) classes start

/-- Where the white space after that stops. -/
def pastSpace (classes : List CharClass) (start : Nat) : Nat :=
  walkEnd (· = .whitespace) classes (pastWord classes start)

/-- From a column on, the rest of a word has been passed, or there is none. -/
inductive PassesWord (classes : List CharClass) (start : Nat) : Nat → Prop
  | passed {kind : CharClass} {stop : Nat} (shown : kind ≠ .whitespace)
      (here : classes[start]? = some kind)
      (walk : WalksOver (· = kind) classes start stop) :
      PassesWord classes start stop
  | stays
      (blank : ∀ kind, classes[start]? = some kind → kind = .whitespace) :
      PassesWord classes start start

section Passing

variable (classes : List CharClass) (start : Nat)

theorem pastWord_passes :
    PassesWord classes start (pastWord classes start) := by
  unfold pastWord
  split
  · next beyond => exact .stays fun kind found => by simp [beyond] at found
  · next kind here =>
      split
      · next blank => exact .stays fun other found => by simp_all
      · next shown => exact .passed shown here (walksOver_walkEnd _ _ _)

theorem dropWord_drop :
    dropWord (classes.drop start) =
      classes.drop (pastWord classes start) := by
  unfold pastWord
  cases found : classes[start]? with
  | none =>
      rw [List.drop_eq_nil_of_le (List.getElem?_eq_none_iff.mp found)]
      rfl
  | some kind =>
      obtain ⟨inLine, rfl⟩ := List.getElem?_eq_some_iff.mp found
      have front := List.drop_eq_getElem_cons inLine
      dsimp only
      rw [front, dropWord_cons, ← front, drop_walkEnd]
      split <;> rfl

theorem dropSpace_dropWord_drop :
    dropSpace (dropWord (classes.drop start)) =
      classes.drop (pastSpace classes start) := by
  rw [dropWord_drop, dropSpace, drop_walkEnd, pastSpace]

/-- What is passed after the word is white space. -/
theorem pastSpace_walksOver :
    WalksOver (· = .whitespace) classes (pastWord classes start)
      (pastSpace classes start) :=
  walksOver_walkEnd _ _ _

end Passing

theorem nextWordStart_eq (line : Text) (column : Nat) :
    nextWordStart line column =
      min (pastSpace (charClasses line) column) (width line - 1) := by
  rw [nextWordStart, dropSpace_dropWord_drop, List.length_drop,
    length_charClasses]
  omega

section Nearest

variable {line : Text} {kind : CharClass} {column stop next first last : Nat}

theorem lt_of_mem_wordStarts (starts : first ∈ wordStarts line) :
    first < width line := by
  obtain ⟨kind, _, here, _⟩ := mem_wordStarts.mp starts
  have inLine := (List.getElem?_eq_some_iff.mp here).1
  rwa [length_charClasses] at inLine

theorem lt_of_mem_wordEnds (ends : last ∈ wordEnds line) :
    last < width line := by
  obtain ⟨kind, _, here, _⟩ := mem_wordEnds.mp ends
  have inLine := (List.getElem?_eq_some_iff.mp here).1
  rwa [length_charClasses] at inLine

/-- No word starts in the rest of a word or in white space. -/
theorem le_of_wordStart
    (passes : PassesWord (charClasses line) column stop)
    (space : WalksOver (· = .whitespace) (charClasses line) stop next)
    (starts : first ∈ wordStarts line) (after : column < first) :
    next ≤ first := by
  obtain ⟨kind, shown, here, before⟩ := mem_wordStarts.mp starts
  by_contra passed
  by_cases inSpace : stop ≤ first
  · exact shown (of_decide_eq_true
      (space.passed inSpace (Nat.lt_of_not_le passed) here))
  · cases passes with
    | stays blank => exact inSpace (Nat.le_of_lt after)
    | passed _ atColumn walk =>
        obtain ⟨_, stretch, _⟩ := stretch_of_walksOver walk atColumn
        have same := stretch.2 first (Nat.le_of_lt after) (by omega)
        rw [here] at same
        cases same
        exact before (first - 1) (by omega)
          (stretch.2 (first - 1) (by omega) (by omega))

/-- What stands behind a word and white space starts a word. -/
theorem wordStart_of_space
    (passes : PassesWord (charClasses line) column stop)
    (space : WalksOver (· = .whitespace) (charClasses line) stop next)
    (inLine : next < width line) :
    next ∈ wordStarts line ∧ column < next := by
  obtain ⟨kind, here⟩ := exists_class inLine
  have shown : kind ≠ .whitespace := of_decide_eq_false (space.halted here)
  have ordered := space.ordered
  -- The class before is white space, or that of the word before.
  have fresh (before : Nat) (follows : next = before + 1)
      (same : (charClasses line)[before]? = some kind) :
      before < column ∧ stop = column := by
    by_cases inSpace : stop ≤ before
    · exact absurd
        (of_decide_eq_true (space.passed inSpace (by omega) same)) shown
    · cases passes with
      | stays _ => exact ⟨Nat.lt_of_not_le inSpace, rfl⟩
      | passed _ atColumn walk =>
          obtain ⟨moved, stretch, halted⟩ :=
            stretch_of_walksOver walk atColumn
          have atStop : next = stop := by omega
          have word := stretch.2 before (by omega) (by omega)
          rw [same] at word
          cases word
          exact absurd (atStop ▸ here) halted
  have after : column < next := by
    cases passes with
    | stays blank =>
        refine Nat.lt_of_le_of_ne ordered ?_
        rintro rfl
        exact shown (blank kind here)
    | passed _ atColumn walk =>
        have moved := (stretch_of_walksOver walk atColumn).1
        omega
  refine ⟨mem_wordStarts.mpr ⟨kind, shown, here, ?_⟩, after⟩
  intro before follows same
  have := fresh before follows same
  omega

theorem nextWordStart_lands (line : Text) (column : Nat) :
    LeastOr {start ∈ wordStarts line | column < start} (width line - 1)
      (nextWordStart line column) := by
  have passes := pastWord_passes (charClasses line) column
  have space := pastSpace_walksOver (charClasses line) column
  rw [nextWordStart_eq]
  by_cases inLine : pastSpace (charClasses line) column < width line
  · rw [Nat.min_eq_left (by omega)]
    refine .inl ⟨wordStart_of_space passes space inLine, ?_⟩
    rintro start ⟨starts, after⟩
    exact le_of_wordStart passes space starts after
  · rw [Nat.min_eq_right (by omega)]
    refine .inr ⟨?_, rfl⟩
    rw [Set.eq_empty_iff_forall_notMem]
    rintro start ⟨starts, after⟩
    have := le_of_wordStart passes space starts after
    have := lt_of_mem_wordStarts starts
    omega

/-- White space holds no end of a word. -/
theorem le_of_wordEnd
    (space : WalksOver (· = .whitespace) (charClasses line) stop next)
    (ends : last ∈ wordEnds line) (after : stop ≤ last) : next ≤ last := by
  obtain ⟨kind, shown, here, _⟩ := mem_wordEnds.mp ends
  by_contra passed
  exact shown (of_decide_eq_true
    (space.passed after (Nat.lt_of_not_le passed) here))

/-- The class that a walk over white space stops at is another one. -/
theorem width_le_of_stays
    (space : WalksOver (· = .whitespace) (charClasses line) stop next)
    (blank : ∀ kind, (charClasses line)[next]? = some kind →
      kind = .whitespace) : width line ≤ next := by
  by_contra inLine
  obtain ⟨kind, here⟩ := exists_class (Nat.lt_of_not_le inLine)
  exact of_decide_eq_false (space.halted here) (blank kind here)

/-- The rest of a word has its only end at its last column. -/
theorem wordEnd_of_walksOver (shown : kind ≠ .whitespace)
    (here : (charClasses line)[first]? = some kind)
    (walk : WalksOver (· = kind) (charClasses line) first stop) :
    IsLeast {last ∈ wordEnds line | first ≤ last} (stop - 1) := by
  obtain ⟨moved, stretch, halted⟩ := stretch_of_walksOver walk here
  have atLast := stretch.2 (stop - 1) (by omega) (Nat.le_refl _)
  constructor
  · refine ⟨mem_wordEnds.mpr ⟨kind, shown, atLast, ?_⟩, by omega⟩
    rwa [Nat.sub_add_cancel (Nat.zero_lt_of_lt moved)]
  · rintro last ⟨ends, inWord⟩
    by_contra before
    obtain ⟨other, _, there, ended⟩ := mem_wordEnds.mp ends
    rw [stretch.2 last inWord (by omega)] at there
    cases there
    exact ended (stretch.2 (last + 1) (by omega) (by omega))

theorem nextWordEnd_eq (line : Text) (column : Nat) :
    nextWordEnd line column =
      min (pastWord (charClasses line)
        (walkEnd (· = .whitespace) (charClasses line) (column + 1)))
        (width line) - 1 := by
  rw [nextWordEnd, dropSpace, drop_walkEnd, dropWord_drop, List.length_drop,
    length_charClasses]
  omega

theorem nextWordEnd_lands (line : Text) (column : Nat) :
    LeastOr {last ∈ wordEnds line | column < last} (width line - 1)
      (nextWordEnd line column) := by
  have space :=
    walksOver_walkEnd (· = .whitespace) (charClasses line) (column + 1)
  rw [nextWordEnd_eq]
  generalize walkEnd (· = .whitespace) (charClasses line) (column + 1) = first
    at space ⊢
  have passes := pastWord_passes (charClasses line) first
  generalize pastWord (charClasses line) first = stop at passes ⊢
  cases passes with
  | stays blank =>
      have outside := width_le_of_stays space blank
      rw [Nat.min_eq_right outside]
      refine .inr ⟨?_, rfl⟩
      rw [Set.eq_empty_iff_forall_notMem]
      rintro last ⟨ends, after⟩
      have := le_of_wordEnd space ends after
      have := lt_of_mem_wordEnds ends
      omega
  | passed shown here walk =>
      obtain ⟨⟨ends, inWord⟩, least⟩ := wordEnd_of_walksOver shown here walk
      have inLine := lt_of_mem_wordEnds ends
      have ordered := space.ordered
      rw [Nat.min_eq_left (by omega)]
      refine .inl ⟨⟨ends, by omega⟩, ?_⟩
      rintro last ⟨lastEnds, after⟩
      exact least ⟨lastEnds, le_of_wordEnd space lastEnds after⟩

/-- No word starts in white space. -/
theorem lt_of_wordStart
    (space : WalksBack (· = .whitespace) (charClasses line) column stop)
    (starts : first ∈ wordStarts line) (before : first < column) :
    first < stop := by
  obtain ⟨kind, shown, here, _⟩ := mem_wordStarts.mp starts
  by_contra passed
  exact shown (of_decide_eq_true
    (space.passed (Nat.le_of_not_lt passed) before here))

/-- The part of a word up to a column has its only start at its first one. -/
theorem wordStart_of_walksBack (shown : kind ≠ .whitespace)
    (here : (charClasses line)[last]? = some kind)
    (walk : WalksBack (· = kind) (charClasses line) (last + 1) stop) :
    IsGreatest {first ∈ wordStarts line | first ≤ last} stop := by
  obtain ⟨stretch, halted⟩ := stretch_of_walksBack walk here
  have atFirst := stretch.2 stop (Nat.le_refl _) stretch.1
  constructor
  · exact ⟨mem_wordStarts.mpr ⟨kind, shown, atFirst, halted⟩, stretch.1⟩
  · rintro first ⟨starts, inWord⟩
    by_contra after
    obtain ⟨other, _, there, started⟩ := mem_wordStarts.mp starts
    rw [stretch.2 first (by omega) inWord] at there
    cases there
    exact started (first - 1) (by omega)
      (stretch.2 (first - 1) (by omega) (by omega))

theorem length_dropWord_reverse {classes : List CharClass}
    (shown : kind ≠ .whitespace) (here : classes[last]? = some kind) :
    (dropWord (classes.take (last + 1)).reverse).length =
      walkStart (· = kind) classes (last + 1) := by
  have back : (classes.take (last + 1)).reverse =
      kind :: (classes.take last).reverse := by
    rw [List.take_add_one, here]
    simp
  rw [walkStart, back, dropWord_cons, if_neg shown]

theorem previousWordStart_lands (line : Text) (column : Nat) :
    GreatestOr {start ∈ wordStarts line | start < column} 0
      (previousWordStart line column) := by
  have space :=
    walksBack_walkStart (· = .whitespace) (charClasses line) column
  rw [previousWordStart, dropSpace, take_walkStart]
  generalize walkStart (· = .whitespace) (charClasses line) column = stop
    at space ⊢
  cases stop with
  | zero =>
      refine .inr ⟨?_, rfl⟩
      rw [Set.eq_empty_iff_forall_notMem]
      rintro start ⟨starts, before⟩
      exact absurd (lt_of_wordStart space starts before) (Nat.not_lt_zero _)
  | succ last =>
      have inside := space.inside
      rw [length_charClasses] at inside
      obtain ⟨kind, here⟩ := exists_class inside
      have shown : kind ≠ .whitespace :=
        of_decide_eq_false (space.halted rfl here)
      have walk := walksBack_walkStart (· = kind) (charClasses line)
        (last + 1)
      rw [length_dropWord_reverse shown here]
      obtain ⟨⟨starts, inWord⟩, greatest⟩ :=
        wordStart_of_walksBack shown here walk
      have ordered := space.ordered
      refine .inl ⟨⟨starts, by omega⟩, ?_⟩
      rintro start ⟨startStarts, before⟩
      exact greatest ⟨startStarts,
        Nat.le_of_lt_succ (lt_of_wordStart space startStarts before)⟩

end Nearest

/-- The word motions go to the nearest start or end of a word in their
direction or, if there is none, to the edge of the line. -/
theorem word_motions_nearest (line : Text) (column : Nat) :
    LeastOr {start ∈ wordStarts line | column < start} (width line - 1)
        (nextWordStart line column) ∧
      GreatestOr {start ∈ wordStarts line | start < column} 0
        (previousWordStart line column) ∧
      LeastOr {last ∈ wordEnds line | column < last} (width line - 1)
        (nextWordEnd line column) :=
  ⟨nextWordStart_lands line column, previousWordStart_lands line column,
    nextWordEnd_lands line column⟩

/-- Punctuation is a word of its own, and white space is none. -/
example :
    let line := ['a', 'b', '.', 'c', ' ', ' ', 'd', 'e']
    nextWordStart line 0 = 2 ∧ nextWordStart line 3 = 6 ∧
      previousWordStart line 6 = 3 ∧ nextWordEnd line 3 = 7 := by
  decide +kernel

theorem runEnd_of_class {classes : List CharClass} {column : Nat}
    {kind : CharClass} (here : classes[column]? = some kind) :
    runEnd classes column = walkEnd (· = kind) classes column := by
  obtain ⟨inLine, rfl⟩ := List.getElem?_eq_some_iff.mp here
  rw [walkEnd_eq_add_length, runEnd, List.drop_eq_getElem_cons inLine,
    List.takeWhile_cons_of_pos (by simp), List.length_cons]
  dsimp only
  omega

/-- The run at a column is the rest of the word or, within white space, of
that. -/
theorem runEnd_eq (classes : List CharClass) (column : Nat) :
    runEnd classes column =
      if classes[column]? = some .whitespace then pastSpace classes column
      else pastWord classes column := by
  cases here : classes[column]? with
  | none =>
      have beyond := List.getElem?_eq_none_iff.mp here
      simp [runEnd, pastWord, here, List.drop_eq_nil_of_le beyond]
  | some kind =>
      rw [runEnd_of_class here]
      by_cases blank : kind = .whitespace
      · simp [pastSpace, pastWord, here, blank]
      · simp [pastWord, here, blank]

theorem wordSpan_eq (line : Text) (column : Nat) :
    wordSpan line column = (column, pastSpace (charClasses line) column) := by
  unfold wordSpan
  dsimp only
  rw [runEnd_eq]
  split
  · rfl
  · rw [pastSpace, walkEnd_eq_add_length]

/-- The operators on words take the text up to where the motion to the next
word goes or, where that stops at the last column, up to the end of the line.
Changing a word leaves only white space of this in its place. -/
theorem word_spans_agree (line : Text) (column : Nat) :
    let word := wordSpan line column
    let changed := changeSpan line column
    word.1 = column ∧
      nextWordStart line column = min word.2 (width line - 1) ∧
      changed.1 = word.1 ∧ changed.2 ≤ word.2 ∧
      ∀ index cluster, changed.2 ≤ index → index < word.2 →
        (clusters line)[index]? = some cluster →
          CharClass.ofCluster cluster = .whitespace := by
  intro word changed
  have taken : word = (column, pastSpace (charClasses line) column) :=
    wordSpan_eq line column
  have start : changed.1 = column := rfl
  have stop : changed.2 = runEnd (charClasses line) column := rfl
  have space := pastSpace_walksOver (charClasses line) column
  rw [taken, start, stop, runEnd_eq]
  refine ⟨rfl, nextWordStart_eq line column, rfl, ?_, ?_⟩
  · split
    · exact Nat.le_refl _
    · exact space.ordered
  · intro index cluster after before found
    split at after
    · omega
    · have here : (charClasses line)[index]? =
          some (CharClass.ofCluster cluster) := by
        rw [charClasses, List.getElem?_map, found, Option.map_some]
      exact of_decide_eq_true (space.passed after before here)

end Line

end ModalTutor
