import ModalTutor.Text.Cluster

/-!
# Where clusters end

The rules of cluster boundaries, each of which may look at everything before a
character.  The walk that cuts a text forgets what lies before the current
cluster; `ClusterState.push_eq_start` says that it forgets nothing that a rule
could see, and `segmented_iff` that it cuts just where no rule joins.
-/

namespace ModalTutor

open Unicode (BreakClass breakClass)

namespace Unicode.BreakClass

/-- Controls and line ends stand alone. -/
def isControl : BreakClass → Bool
  | carriageReturn | lineFeed | control => true
  | _ => false

/-- Marks that can stand between a pictograph and a joiner. -/
def isExtending : BreakClass → Bool
  | extend | linker | nonJoiner => true
  | _ => false

/-- Marks that can stand between the consonants of a conjunct. -/
def isConjoining : BreakClass → Bool
  | extend | linker | joiner => true
  | _ => false

/-- Marks that belong to what they follow. -/
def isMark : BreakClass → Bool
  | extend | linker | nonJoiner | joiner | spacingMark => true
  | _ => false

/-- The second class continues a Hangul syllable after the first one. -/
def isSyllable : BreakClass → BreakClass → Bool
  | leadingJamo, leadingJamo | leadingJamo, vowelJamo
  | leadingJamo, openSyllable | leadingJamo, closedSyllable => true
  | openSyllable, vowelJamo | openSyllable, trailingJamo
  | vowelJamo, vowelJamo | vowelJamo, trailingJamo => true
  | closedSyllable, trailingJamo | trailingJamo, trailingJamo => true
  | _, _ => false

/-- Only such classes as a test lets through stand between the end and the
nearest `head`.  The nearest class comes first. -/
def Reaches (head : BreakClass) (through : BreakClass → Bool)
    (behind : List BreakClass) : Prop :=
  ∃ marks earlier, behind = marks ++ head :: earlier ∧
    ∀ mark ∈ marks, through mark

/-- A consonant with its marks, a linker among them. -/
def Linked (behind : List BreakClass) : Prop :=
  ∃ marks earlier, behind = marks ++ consonant :: earlier ∧
    (∀ mark ∈ marks, mark.isConjoining) ∧ linker ∈ marks

/-- How many regional indicators stand at the end. -/
def regionals (behind : List BreakClass) : Nat :=
  (behind.takeWhile (· = regional)).length

/-- The rules that join a character to what stands behind it, of which the
nearest comes first. -/
inductive Joined : List BreakClass → BreakClass → Prop where
  | lineEnd (earlier : List BreakClass) :
      Joined (carriageReturn :: earlier) lineFeed
  | syllable {last next : BreakClass} (earlier : List BreakClass)
      (syllable : last.isSyllable next) : Joined (last :: earlier) next
  | mark {last next : BreakClass} (earlier : List BreakClass)
      (visible : last.isControl = false) (mark : next.isMark) :
      Joined (last :: earlier) next
  | prepended {next : BreakClass} (earlier : List BreakClass)
      (visible : next.isControl = false) :
      Joined (prepended :: earlier) next
  | conjunct {behind : List BreakClass} (linked : Linked behind) :
      Joined behind consonant
  | pictographs {earlier : List BreakClass}
      (reaches : Reaches pictograph isExtending earlier) :
      Joined (joiner :: earlier) pictograph
  | flag {behind : List BreakClass} (odd : regionals behind % 2 = 1) :
      Joined behind regional

theorem visible_of_isExtending {mark : BreakClass}
    (extending : mark.isExtending) : mark.isControl = false := by
  cases mark <;> simp_all [isExtending, isControl]

theorem visible_of_isConjoining {mark : BreakClass}
    (conjoining : mark.isConjoining) : mark.isControl = false := by
  cases mark <;> simp_all [isConjoining, isControl]

variable {head last next : BreakClass} {through : BreakClass → Bool}
  {earlier : List BreakClass}

theorem not_reaches_nil : ¬ Reaches head through [] := by
  rintro ⟨marks, earlier, split, _⟩
  simp at split

theorem reaches_cons :
    Reaches head through (last :: earlier) ↔
      last = head ∨ through last ∧ Reaches head through earlier := by
  constructor
  · rintro ⟨marks, rest, split, lets⟩
    cases marks with
    | nil =>
        cases split
        exact .inl rfl
    | cons mark marks =>
        cases split
        exact .inr ⟨lets last List.mem_cons_self, marks, rest, rfl,
          fun mark member => lets mark (List.mem_cons_of_mem _ member)⟩
  · rintro (rfl | ⟨lets, marks, rest, rfl, letsMarks⟩)
    · exact ⟨[], earlier, rfl, by simp⟩
    · exact ⟨last :: marks, rest, rfl, by simpa using ⟨lets, letsMarks⟩⟩

theorem not_linked_nil : ¬ Linked [] := by
  rintro ⟨marks, earlier, split, _⟩
  simp at split

theorem linked_cons :
    Linked (last :: earlier) ↔
      last.isConjoining ∧ (Linked earlier ∨
        last = linker ∧ Reaches consonant isConjoining earlier) := by
  constructor
  · rintro ⟨marks, rest, split, conjoining, linked⟩
    cases marks with
    | nil => simp at linked
    | cons mark marks =>
        cases split
        have later (mark : BreakClass) (member : mark ∈ marks) :=
          conjoining mark (List.mem_cons_of_mem _ member)
        refine ⟨conjoining last List.mem_cons_self, ?_⟩
        rcases List.mem_cons.mp linked with here | there
        · exact .inr ⟨here.symm, marks, rest, rfl, later⟩
        · exact .inl ⟨marks, rest, rfl, later, there⟩
  · rintro ⟨conjoining, ⟨marks, rest, rfl, later, linked⟩ |
      ⟨rfl, marks, rest, rfl, later⟩⟩
    · exact ⟨last :: marks, rest, rfl, by simpa using ⟨conjoining, later⟩,
        List.mem_cons_of_mem _ linked⟩
    · exact ⟨linker :: marks, rest, rfl, by simpa using ⟨conjoining, later⟩,
        List.mem_cons_self⟩

theorem regionals_cons :
    regionals (last :: earlier) =
      if last = regional then regionals earlier + 1 else 0 := by
  by_cases indicator : last = regional <;> simp [regionals, indicator]

/-- The rules in terms of the nearest class. -/
theorem joined_cons :
    Joined (last :: earlier) next ↔
      last = carriageReturn ∧ next = lineFeed ∨
      last.isSyllable next ∨
      last.isControl = false ∧ next.isMark ∨
      last = prepended ∧ next.isControl = false ∨
      next = consonant ∧ Linked (last :: earlier) ∨
      last = joiner ∧ next = pictograph ∧
        Reaches pictograph isExtending earlier ∨
      next = regional ∧ regionals (last :: earlier) % 2 = 1 := by
  constructor
  · intro joined
    cases joined with
    | lineEnd => exact .inl ⟨rfl, rfl⟩
    | syllable _ syllable => exact .inr (.inl syllable)
    | mark _ visible mark => exact .inr (.inr (.inl ⟨visible, mark⟩))
    | prepended _ visible => simp [visible]
    | conjunct linked => simp [linked]
    | pictographs reaches => simp [reaches]
    | flag odd => simp [odd]
  · rintro (⟨rfl, rfl⟩ | syllable | ⟨visible, mark⟩ | ⟨rfl, visible⟩ |
      ⟨rfl, linked⟩ | ⟨rfl, rfl, reaches⟩ | ⟨rfl, odd⟩)
    · exact .lineEnd earlier
    · exact .syllable earlier syllable
    · exact .mark earlier visible mark
    · exact .prepended earlier visible
    · exact .conjunct linked
    · exact .pictographs reaches
    · exact .flag odd

end Unicode.BreakClass

open Unicode.BreakClass

namespace ClusterState

theorem push_pictograph (state : ClusterState) (next : BreakClass) :
    (state.push next).pictograph ↔
      next = .pictograph ∨
        (next.isExtending ∨ next = .joiner) ∧
          state.pictograph ∧ state.last ≠ .joiner := by
  unfold push
  cases next <;> simp [isExtending]

theorem push_conjunct_ne_absent (state : ClusterState) (next : BreakClass) :
    (state.push next).conjunct ≠ .absent ↔
      next = .consonant ∨ next.isConjoining ∧ state.conjunct ≠ .absent := by
  unfold push
  cases next <;> cases state.conjunct <;> simp [isConjoining]

theorem push_conjunct_eq_linked (state : ClusterState) (next : BreakClass) :
    (state.push next).conjunct = .linked ↔
      next.isConjoining ∧ (state.conjunct = .linked ∨
        next = .linker ∧ state.conjunct ≠ .absent) := by
  unfold push
  cases next <;> cases state.conjunct <;> simp [isConjoining]

theorem push_oddRegional (state : ClusterState) (next : BreakClass) :
    (state.push next).oddRegional ↔
      next = .regional ∧ state.oddRegional = false := by
  unfold push
  simp

/-- The state says of what was read, the nearest class of it first, all that
the rules ask. -/
structure Describes (state : ClusterState) (behind : List BreakClass) :
    Prop where
  last : behind.head? = some state.last
  pictograph : state.pictograph ∧ state.last ≠ .joiner ↔
    Reaches .pictograph isExtending behind
  joined : state.last = .joiner →
    (state.pictograph ↔ Reaches .pictograph isExtending behind.tail)
  consonant : state.conjunct ≠ .absent ↔
    Reaches .consonant isConjoining behind
  linked : state.conjunct = .linked ↔ Linked behind
  regional : state.oddRegional ↔ regionals behind % 2 = 1

theorem start_describes (first : BreakClass) :
    (start first).Describes [first] where
  last := rfl
  pictograph := by
    rw [reaches_cons]
    cases first <;> simp [start, not_reaches_nil]
  joined joiner := by
    cases joiner
    simp [start, not_reaches_nil]
  consonant := by
    rw [reaches_cons]
    cases first <;> simp [start, not_reaches_nil]
  linked := by
    rw [linked_cons]
    cases first <;> simp [start, not_reaches_nil, not_linked_nil]
  regional := by
    rw [regionals_cons]
    cases first <;> simp [start, regionals]

theorem Describes.after {state : ClusterState} {behind : List BreakClass}
    (describes : state.Describes behind) (next : BreakClass) :
    (state.push next).Describes (next :: behind) where
  last := rfl
  pictograph := by
    rw [reaches_cons, ← describes.pictograph, push_pictograph]
    change _ ∧ next ≠ .joiner ↔ _
    cases next <;> simp [isExtending]
  joined joiner := by
    cases show next = .joiner from joiner
    rw [push_pictograph, List.tail_cons, ← describes.pictograph]
    simp
  consonant := by
    rw [reaches_cons, ← describes.consonant, push_conjunct_ne_absent]
  linked := by
    rw [linked_cons, ← describes.linked, ← describes.consonant,
      push_conjunct_eq_linked]
  regional := by
    rw [regionals_cons, push_oddRegional, ← Bool.not_eq_true,
      describes.regional]
    split
    · next indicator =>
        simp [indicator]
        omega
    · next apart => simp [apart]

/-- The test of a state in the order of the rules. -/
theorem joins_iff (state : ClusterState) (next : BreakClass) :
    state.joins next ↔
      state.last = .carriageReturn ∧ next = .lineFeed ∨
      state.last.isSyllable next ∨
      state.last.isControl = false ∧ next.isMark ∨
      state.last = .prepended ∧ next.isControl = false ∨
      next = .consonant ∧ state.last.isControl = false ∧
        state.conjunct = .linked ∨
      state.last = .joiner ∧ next = .pictograph ∧ state.pictograph ∨
      next = .regional ∧ state.last = .regional ∧ state.oddRegional := by
  obtain ⟨last, pictograph, conjunct, oddRegional⟩ := state
  cases last <;> cases next <;>
    simp [joins, isSyllable, isControl, isMark]

namespace Describes

variable {state : ClusterState} {behind : List BreakClass}

theorem exists_cons (describes : state.Describes behind) :
    ∃ earlier, behind = state.last :: earlier :=
  List.head?_eq_some_iff.mp describes.last

theorem visible_of_reaches (describes : state.Describes behind)
    {head : BreakClass} {through : BreakClass → Bool}
    (visible : head.isControl = false)
    (letsVisible : ∀ mark, through mark → mark.isControl = false)
    (reaches : Reaches head through behind) :
    state.last.isControl = false := by
  obtain ⟨earlier, rfl⟩ := describes.exists_cons
  rcases reaches_cons.mp reaches with same | ⟨lets, _⟩
  · rw [same, visible]
  · exact letsVisible _ lets

theorem visible_of_conjunct (describes : state.Describes behind)
    (some : state.conjunct ≠ .absent) : state.last.isControl = false :=
  describes.visible_of_reaches rfl (fun _ => visible_of_isConjoining)
    (describes.consonant.mp some)

theorem regional_of_odd (describes : state.Describes behind)
    (odd : state.oddRegional) : state.last = .regional := by
  have some := describes.regional.mp odd
  obtain ⟨earlier, rfl⟩ := describes.exists_cons
  rw [regionals_cons] at some
  split at some
  · next indicator => exact indicator
  · cases some

/-- A state that describes what was read joins just what the rules join. -/
theorem joins_iff_joined (describes : state.Describes behind)
    (next : BreakClass) : state.joins next ↔ Joined behind next := by
  have conjunct : state.last.isControl = false ∧ state.conjunct = .linked ↔
      Linked behind := by
    rw [← describes.linked]
    refine and_iff_right_of_imp fun linked => ?_
    exact describes.visible_of_conjunct (by simp [linked])
  have flag : state.last = .regional ∧ state.oddRegional ↔
      regionals behind % 2 = 1 := by
    rw [← describes.regional]
    exact and_iff_right_of_imp describes.regional_of_odd
  have pictographs : state.last = .joiner ∧ next = .pictograph ∧
        state.pictograph ↔
      state.last = .joiner ∧ next = .pictograph ∧
        Reaches .pictograph isExtending behind.tail :=
    and_congr_right fun joiner =>
      and_congr_right fun _ => describes.joined joiner
  rw [joins_iff, conjunct, flag, pictographs]
  obtain ⟨earlier, rfl⟩ := describes.exists_cons
  exact joined_cons.symm

theorem visible_of_pictograph (describes : state.Describes behind)
    (pictograph : state.pictograph) : state.last.isControl = false := by
  by_cases joiner : state.last = .joiner
  · rw [joiner]
    rfl
  · exact describes.visible_of_reaches rfl (fun _ => visible_of_isExtending)
      (describes.pictograph.mp ⟨pictograph, joiner⟩)

/-- A boundary before a mark stands right behind a control, where no emoji and
no conjunct is under way. -/
theorem forgotten_before_mark (describes : state.Describes behind)
    {next : BreakClass} (mark : next.isMark) (apart : ¬ state.joins next) :
    state.pictograph = false ∧ state.conjunct = .absent := by
  have control (visible : state.last.isControl = false) : False :=
    apart ((joins_iff state next).mpr (.inr (.inr (.inl ⟨visible, mark⟩))))
  constructor
  · cases pictograph : state.pictograph with
    | false => rfl
    | true => exact (control (describes.visible_of_pictograph pictograph)).elim
  · by_cases absent : state.conjunct = .absent
    · exact absent
    · exact (control (describes.visible_of_conjunct absent)).elim

/-- A boundary between regional indicators stands behind whole flags. -/
theorem even_before_regional (describes : state.Describes behind)
    (apart : ¬ state.joins .regional) : state.oddRegional = false := by
  cases odd : state.oddRegional with
  | false => rfl
  | true =>
      refine absurd ((describes.joins_iff_joined _).mpr ?_) apart
      exact .flag (describes.regional.mp odd)

/-- Where the rules see a boundary, they see nothing beyond it: what a state
remembers there is what it remembers of the next character alone. -/
theorem push_eq_start (describes : state.Describes behind) {next : BreakClass}
    (apart : ¬ state.joins next) : state.push next = start next := by
  have forgotten (mark : next.isMark) :=
    describes.forgotten_before_mark mark apart
  unfold push start
  cases next with
  | extend | linker | nonJoiner | joiner =>
      simp [forgotten rfl]
  | regional => simp [describes.even_before_regional apart]
  | carriageReturn | lineFeed | control | prepended | spacingMark
  | leadingJamo | vowelJamo | trailingJamo | openSyllable | closedSyllable
  | pictograph | consonant | other => rfl

end Describes

end ClusterState

/-- The break classes of a text, the last one first. -/
def classesBehind (text : Text) : List BreakClass :=
  (text.map breakClass).reverse

/-- The parts are what the rules cut a text into. -/
structure Segmented (text : Text) (parts : List Cluster) : Prop where
  flatten : parts.flatten = text
  nonempty : ∀ part ∈ parts, part ≠ []
  /-- Some of the parts end between two characters just where no rule joins
  the second one to all that stands before it. -/
  boundary : ∀ before next after, text = before ++ next :: after →
    before ≠ [] →
      ((∃ count, (parts.take count).flatten = before) ↔
        ¬ Joined (classesBehind before) (breakClass next))

/-- Behind `first`, some of the parts end where `before` does. -/
def EndsAfter (first : Text) (parts : List Cluster) (before : Text) : Prop :=
  ∃ count, first ++ (parts.take count).flatten = before

theorem endsAfter_nil (first : Text) (parts : List Cluster) :
    EndsAfter first parts [] ↔ first = [] := by
  constructor
  · rintro ⟨count, ends⟩
    exact (List.append_eq_nil_iff.mp ends).1
  · rintro rfl
    exact ⟨0, rfl⟩

theorem endsAfter_cons {character : Char} {first before : Text}
    {parts : List Cluster} :
    EndsAfter (character :: first) parts (character :: before) ↔
      EndsAfter first parts before := by
  simp [EndsAfter]

/-- The end of the text before all parts is not behind a character. -/
theorem endsAfter_part {character : Char} {part before : Text}
    {parts : List Cluster} :
    EndsAfter [] (part :: parts) (character :: before) ↔
      EndsAfter part parts (character :: before) := by
  constructor
  · rintro ⟨count, ends⟩
    cases count with
    | zero => cases ends
    | succ count => exact ⟨count, ends⟩
  · rintro ⟨count, ends⟩
    exact ⟨count + 1, ends⟩

/-- A walk whose state describes what was read ends clusters where the rules
do. -/
theorem endsAfter_clustersFrom {state : ClusterState}
    {behind : List BreakClass} (describes : state.Describes behind)
    (before : Text) (next : Char) (after : Text) :
    EndsAfter (clustersFrom state (before ++ next :: after)).1
        (clustersFrom state (before ++ next :: after)).2 before ↔
      ¬ Joined (classesBehind before ++ behind) (breakClass next) := by
  induction before generalizing state behind with
  | nil =>
      rw [endsAfter_nil, classesBehind, List.map_nil, List.reverse_nil,
        List.nil_append, List.nil_append, ← describes.joins_iff_joined]
      by_cases joins : state.joins (breakClass next)
      · simp [clustersFrom, joins]
      · simp [clustersFrom, joins]
  | cons character before ih =>
      -- The walk goes on in the state after the character also where it
      -- starts afresh, so that one hypothesis serves both cases.
      have later := ih (describes.after (breakClass character))
      have classes : classesBehind (character :: before) ++ behind =
          classesBehind before ++ breakClass character :: behind := by
        simp [classesBehind]
      rw [classes, ← later]
      by_cases joins : state.joins (breakClass character)
      · simp only [List.cons_append, clustersFrom, joins, if_true]
        exact endsAfter_cons
      · rw [describes.push_eq_start joins]
        simp only [List.cons_append, clustersFrom, joins]
        exact endsAfter_part.trans endsAfter_cons

theorem clusters_segmented (text : Text) : Segmented text (clusters text) where
  flatten := clusters_flatten text
  nonempty _ := ne_nil_of_mem_clusters
  boundary before next after split some := by
    cases before with
    | nil => exact absurd rfl some
    | cons character before =>
        have walk := endsAfter_clustersFrom
          (ClusterState.start_describes (breakClass character)) before next
          after
        have classes : classesBehind (character :: before) =
            classesBehind before ++ [breakClass character] := by
          simp [classesBehind]
        rw [classes, ← walk, split]
        exact endsAfter_part.trans endsAfter_cons

theorem endsAfter_first (part : Cluster) (parts : List Cluster) :
    EndsAfter [] (part :: parts) part :=
  ⟨1, by simp⟩

/-- The first part lies within all that ends with some part. -/
theorem EndsAfter.first_isPrefix {part before : Text} {parts : List Cluster}
    (ends : EndsAfter [] (part :: parts) before) (some : before ≠ []) :
    part <+: before := by
  obtain ⟨count, ends⟩ := ends
  cases count with
  | zero => exact absurd ends.symm some
  | succ count => exact ⟨(parts.take count).flatten, ends⟩

theorem endsAfter_append {part : Cluster} (some : part ≠ [])
    (parts : List Cluster) (before : Text) :
    EndsAfter [] (part :: parts) (part ++ before) ↔
      EndsAfter [] parts before := by
  obtain ⟨character, rest, rfl⟩ := List.exists_cons_of_ne_nil some
  exact endsAfter_part.trans (by simp [EndsAfter])

/-- Parts of a text that end at the same places are the same. -/
theorem eq_of_endsAfter {parts others : List Cluster}
    (nonempty : ∀ part ∈ parts, part ≠ [])
    (othersNonempty : ∀ part ∈ others, part ≠ [])
    (same : ∀ before, EndsAfter [] parts before ↔ EndsAfter [] others before) :
    parts = others := by
  induction parts generalizing others with
  | nil =>
      cases others with
      | nil => rfl
      | cons other others =>
          obtain ⟨count, ends⟩ :=
            (same other).mpr (endsAfter_first other others)
          rw [List.take_nil] at ends
          exact absurd ends.symm (othersNonempty other List.mem_cons_self)
  | cons part parts ih =>
      have some := nonempty part List.mem_cons_self
      have ends := (same part).mp (endsAfter_first part parts)
      cases others with
      | nil =>
          obtain ⟨count, ends⟩ := ends
          rw [List.take_nil] at ends
          exact absurd ends.symm some
      | cons other others =>
          have otherSome := othersNonempty other List.mem_cons_self
          have otherEnds := (same other).mpr (endsAfter_first other others)
          have shorter := (ends.first_isPrefix some).length_le
          obtain rfl : part = other :=
            (otherEnds.first_isPrefix otherSome).eq_of_length_le shorter
          congr 1
          refine ih (fun part member => nonempty part (.tail _ member))
            (fun part member => othersNonempty part (.tail _ member)) ?_
          intro before
          rw [← endsAfter_append some parts, same,
            endsAfter_append some others]

theorem Segmented.endsAfter_iff {text : Text} {parts : List Cluster}
    (segmented : Segmented text parts) (before : Text) :
    EndsAfter [] parts before ↔
      before = [] ∨ before = text ∨
        ∃ next after, text = before ++ next :: after ∧ before ≠ [] ∧
          ¬ Joined (classesBehind before) (breakClass next) := by
  constructor
  · rintro ⟨count, ends⟩
    have split : before ++ (parts.drop count).flatten = text := by
      rw [← ends, List.nil_append, ← List.flatten_append,
        List.take_append_drop, segmented.flatten]
    by_cases none : before = []
    · exact .inl none
    · cases rest : (parts.drop count).flatten with
      | nil =>
        rw [rest, List.append_nil] at split
        exact .inr (.inl split)
      | cons next after =>
          rw [rest] at split
          exact .inr (.inr ⟨next, after, split.symm, none,
            (segmented.boundary before next after split.symm none).mp
              ⟨count, ends⟩⟩)
  · rintro (rfl | rfl | ⟨next, after, split, some, apart⟩)
    · exact ⟨0, rfl⟩
    · exact ⟨parts.length, by rw [List.take_length, segmented.flatten]; rfl⟩
    · exact (segmented.boundary before next after split some).mpr apart

/-- The rules cut a text in one way only, which is the one of the walk. -/
theorem segmented_iff {text : Text} {parts : List Cluster} :
    Segmented text parts ↔ parts = clusters text := by
  constructor
  · intro segmented
    have walked := clusters_segmented text
    refine eq_of_endsAfter segmented.nonempty walked.nonempty ?_
    intro before
    rw [segmented.endsAfter_iff, walked.endsAfter_iff]
  · rintro rfl
    exact clusters_segmented text

end ModalTutor
