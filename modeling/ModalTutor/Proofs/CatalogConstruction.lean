import Mathlib.Data.List.Induction
import Mathlib.Data.List.Sort
import ModalTutor.Lesson.Catalog
import ModalTutor.Proofs.CursorRange

/-!
# What makes a catalog

Lessons make a catalog if and only if their ids are their own, they have a text
to start from, and their targets are places where the cursor stays when it is
settled.  `Catalog.Sound` says so of a list of lessons, and `Lesson.Offends`
what is wrong with the first lesson that a list is no longer sound with.
`Catalog.ofLessons_exact` also says that nothing is lost by sorting.
-/

namespace ModalTutor

namespace Lesson

/-- The target, if there is one, is a place where the cursor stays. -/
def TargetInText (lesson : Lesson) : Prop :=
  ∀ target, lesson.goal = .targetPosition target →
    target.onCharacter lesson.initialBuffer = target

/-- What is wrong with a lesson that comes after others.  The id is looked at
first and the target last. -/
inductive Offends (before : List Lesson) (lesson : Lesson) :
    LessonError → Prop where
  | duplicateId (taken : lesson.id ∈ before.map Lesson.id) :
      Offends before lesson (.duplicateId lesson.id)
  | emptyInitialText (fresh : lesson.id ∉ before.map Lesson.id)
      (empty : lesson.initialText = []) :
      Offends before lesson (.emptyInitialText lesson.id)
  | targetOutOfRange (target : Position)
      (fresh : lesson.id ∉ before.map Lesson.id)
      (nonempty : lesson.initialText ≠ [])
      (goal : lesson.goal = .targetPosition target)
      (moved : target.onCharacter lesson.initialBuffer ≠ target) :
      Offends before lesson (.targetOutOfRange lesson.id target)

/-- What is wrong with a lesson that comes after others, if anything is. -/
def faultAfter? (before : List Lesson) (lesson : Lesson) :
    Option LessonError :=
  if lesson.id ∈ before.map Lesson.id then some (.duplicateId lesson.id)
  else lesson.fault?

theorem hasCell_iff {lesson : Lesson} (nonempty : lesson.initialText ≠ [])
    {target : Position} :
    lesson.hasCell target ↔
      target.onCharacter lesson.initialBuffer = target := by
  have lines : lesson.initialBuffer.lines = lesson.initialText :=
    Buffer.lines_ofLines nonempty
  rw [Position.onCharacter_eq_self_iff, Buffer.lineCount, Buffer.width,
    Buffer.line, Buffer.line?, lines, hasCell]
  cases found : lesson.initialText[target.row]? with
  | none =>
      have beyond := List.getElem?_eq_none_iff.mp found
      simp [Nat.not_lt.mpr beyond]
  | some line =>
      have inText := (List.getElem?_eq_some_iff.mp found).1
      simp [inText]

theorem fault?_eq_none_iff {lesson : Lesson} :
    lesson.fault? = none ↔
      lesson.initialText ≠ [] ∧ lesson.TargetInText := by
  unfold fault? TargetInText
  by_cases empty : lesson.initialText = []
  · simp [empty]
  · cases goal : lesson.goal <;> simp [empty, ← hasCell_iff empty]

theorem faultAfter?_eq_none_iff {before : List Lesson} {lesson : Lesson} :
    lesson.faultAfter? before = none ↔
      lesson.id ∉ before.map Lesson.id ∧ lesson.initialText ≠ [] ∧
        lesson.TargetInText := by
  rw [← fault?_eq_none_iff, faultAfter?]
  by_cases taken : lesson.id ∈ before.map Lesson.id <;> simp [taken]

theorem offends_of_fault? {before : List Lesson} {lesson : Lesson}
    (fresh : lesson.id ∉ before.map Lesson.id) {error : LessonError}
    (faulty : lesson.fault? = some error) : lesson.Offends before error := by
  unfold fault? at faulty
  split at faulty
  · next empty =>
      cases faulty
      exact .emptyInitialText fresh empty
  · next nonempty =>
      split at faulty
      · next target goal =>
          split at faulty
          · cases faulty
          · next outside =>
              cases faulty
              rw [hasCell_iff nonempty] at outside
              exact .targetOutOfRange target fresh nonempty goal outside
      · cases faulty

theorem faultAfter?_eq_some_iff {before : List Lesson} {lesson : Lesson}
    {error : LessonError} :
    lesson.faultAfter? before = some error ↔
      lesson.Offends before error := by
  unfold faultAfter?
  constructor
  · intro faulty
    split at faulty
    · next taken =>
        cases faulty
        exact .duplicateId taken
    · next fresh => exact offends_of_fault? fresh faulty
  · intro offends
    cases offends with
    | duplicateId taken => rw [if_pos taken]
    | emptyInitialText fresh empty =>
        rw [if_neg fresh, fault?, if_pos empty]
    | targetOutOfRange target fresh nonempty goal moved =>
        have outside : ¬lesson.hasCell target :=
          (hasCell_iff nonempty).not.mpr moved
        rw [if_neg fresh, fault?, if_neg nonempty, goal]
        exact if_neg outside

end Lesson

namespace Catalog

/-- What lessons have to be to make a catalog. -/
structure Sound (lessons : List Lesson) : Prop where
  distinct : (lessons.map Lesson.id).Nodup
  nonempty : ∀ lesson ∈ lessons, lesson.initialText ≠ []
  inText : ∀ lesson ∈ lessons, lesson.TargetInText

theorem firstFault?_cons (seen : List UInt32) (lesson : Lesson)
    (rest : List Lesson) :
    firstFault? seen (lesson :: rest) =
      (if lesson.id ∈ seen then some (.duplicateId lesson.id)
        else lesson.fault?).or (firstFault? (lesson.id :: seen) rest) := by
  rw [firstFault?]
  split <;> rfl

theorem firstFault?_append (seen : List UInt32)
    (before after : List Lesson) :
    firstFault? seen (before ++ after) =
      (firstFault? seen before).or
        (firstFault? ((before.map Lesson.id).reverse ++ seen) after) := by
  induction before generalizing seen with
  | nil => rfl
  | cons lesson before ih =>
      rw [List.cons_append, firstFault?_cons, firstFault?_cons, ih,
        Option.or_assoc]
      simp

/-- The fault of one more lesson counts if those before it have none. -/
theorem firstFault?_concat (before : List Lesson) (lesson : Lesson) :
    firstFault? [] (before ++ [lesson]) =
      (firstFault? [] before).or
        (lesson.faultAfter? before) := by
  rw [firstFault?_append, firstFault?_cons, firstFault?, Option.or_none]
  simp [Lesson.faultAfter?]

theorem sound_concat {before : List Lesson} {lesson : Lesson} :
    Sound (before ++ [lesson]) ↔
      Sound before ∧ lesson.id ∉ before.map Lesson.id ∧
        lesson.initialText ≠ [] ∧ lesson.TargetInText := by
  constructor
  · rintro ⟨distinct, nonempty, inText⟩
    rw [List.map_append, List.map_singleton,
      List.nodup_append_comm, List.singleton_append, List.nodup_cons]
      at distinct
    rw [List.forall_mem_append, List.forall_mem_singleton] at nonempty inText
    exact ⟨⟨distinct.2, nonempty.1, inText.1⟩, distinct.1, nonempty.2,
      inText.2⟩
  · rintro ⟨sound, fresh, nonempty, inText⟩
    constructor
    · rw [List.map_append, List.map_singleton, List.nodup_append_comm,
        List.singleton_append, List.nodup_cons]
      exact ⟨fresh, sound.distinct⟩
    · rw [List.forall_mem_append, List.forall_mem_singleton]
      exact ⟨sound.nonempty, nonempty⟩
    · rw [List.forall_mem_append, List.forall_mem_singleton]
      exact ⟨sound.inText, inText⟩

theorem firstFault?_eq_none_iff {lessons : List Lesson} :
    firstFault? [] lessons = none ↔ Sound lessons := by
  induction lessons using List.reverseRecOn with
  | nil => exact ⟨fun _ => ⟨by simp, by simp, by simp⟩, fun _ => rfl⟩
  | append_singleton before lesson ih =>
      rw [firstFault?_concat, Option.or_eq_none_iff, ih, sound_concat,
        Lesson.faultAfter?_eq_none_iff]

/-- The fault that is found is that of the first lesson that has one. -/
theorem firstFault?_eq_some_iff {lessons : List Lesson}
    {error : LessonError} :
    firstFault? [] lessons = some error ↔
      ∃ before lesson after, lessons = before ++ lesson :: after ∧
        Sound before ∧ lesson.Offends before error := by
  constructor
  · intro faulty
    induction lessons using List.reverseRecOn with
    | nil => cases faulty
    | append_singleton before lesson ih =>
        rw [firstFault?_concat, Option.or_eq_some_iff] at faulty
        rcases faulty with earlier | ⟨faultless, here⟩
        · obtain ⟨front, first, back, rfl, sound, offends⟩ := ih earlier
          exact ⟨front, first, back ++ [lesson], by simp, sound, offends⟩
        · exact ⟨before, lesson, [], rfl, firstFault?_eq_none_iff.mp faultless,
            Lesson.faultAfter?_eq_some_iff.mp here⟩
  · rintro ⟨before, lesson, after, rfl, sound, offends⟩
    have first : firstFault? [] (before ++ [lesson]) = some error := by
      rw [firstFault?_concat, firstFault?_eq_none_iff.mpr sound,
        Lesson.faultAfter?_eq_some_iff.mpr offends]
      rfl
    rw [List.append_cons, firstFault?_append, first]
    rfl

theorem insertById_eq_orderedInsert (lesson : Lesson)
    (lessons : List Lesson) :
    insertById lesson lessons =
      lessons.orderedInsert (fun first second => first.id < second.id)
        lesson := by
  induction lessons with
  | nil => rfl
  | cons head rest ih => rw [insertById, List.orderedInsert_cons, ih]

theorem sortById_eq_insertionSort (lessons : List Lesson) :
    sortById lessons =
      lessons.insertionSort fun first second => first.id < second.id := by
  induction lessons with
  | nil => rfl
  | cons lesson rest ih =>
      rw [sortById, insertById_eq_orderedInsert, ih,
        List.insertionSort_cons]

theorem sortById_perm (lessons : List Lesson) :
    (sortById lessons).Perm lessons := by
  rw [sortById_eq_insertionSort]
  exact List.perm_insertionSort _ lessons

/-- Lessons in ascending order of their ids. -/
def Ascending (lessons : List Lesson) : Prop :=
  lessons.Pairwise fun first second => first.id < second.id

theorem insertById_ascending {lesson : Lesson} {lessons : List Lesson}
    (ascending : Ascending lessons)
    (fresh : lesson.id ∉ lessons.map Lesson.id) :
    Ascending (insertById lesson lessons) := by
  induction lessons with
  | nil => exact List.pairwise_singleton _ _
  | cons head rest ih =>
      rw [List.map_cons, List.mem_cons, not_or] at fresh
      obtain ⟨below, later⟩ := List.pairwise_cons.mp ascending
      rw [insertById]
      split
      · next smaller =>
          refine List.pairwise_cons.mpr ⟨?_, ascending⟩
          rw [List.forall_mem_cons]
          exact ⟨smaller, fun other member =>
            UInt32.lt_trans smaller (below other member)⟩
      · next notSmaller =>
          have greater : head.id < lesson.id :=
            UInt32.lt_of_le_of_ne (UInt32.not_lt.mp notSmaller)
              (Ne.symm fresh.1)
          refine List.pairwise_cons.mpr ⟨?_, ih later fresh.2⟩
          intro other member
          rw [insertById_eq_orderedInsert, List.mem_orderedInsert] at member
          rcases member with rfl | inRest
          · exact greater
          · exact below other inRest

theorem sortById_ascending {lessons : List Lesson}
    (distinct : (lessons.map Lesson.id).Nodup) :
    Ascending (sortById lessons) := by
  induction lessons with
  | nil => exact List.Pairwise.nil
  | cons lesson rest ih =>
      rw [List.map_cons, List.nodup_cons] at distinct
      refine insertById_ascending (ih distinct.2) ?_
      rw [((sortById_perm rest).map Lesson.id).mem_iff]
      exact distinct.1

/-- What the lessons of a catalog are found by. -/
theorem get_of_perm {catalog : Catalog} {lessons : List Lesson}
    (perm : catalog.lessons.Perm lessons)
    (distinct : (lessons.map Lesson.id).Nodup) {lesson : Lesson}
    (member : lesson ∈ lessons) : catalog.get lesson.id = .ok lesson := by
  unfold get
  cases search : catalog.lessons.find? (·.id = lesson.id) with
  | none =>
      have missing := List.find?_eq_none.mp search lesson
        (perm.mem_iff.mpr member)
      simp at missing
  | some found =>
      have sameId : found.id = lesson.id := by
        simpa using List.find?_some search
      have inLessons : found ∈ lessons :=
        perm.mem_iff.mp (List.mem_of_find?_eq_some search)
      rw [List.inj_on_of_nodup_map distinct inLessons member sameId]

theorem get_of_notMem {catalog : Catalog} {lessons : List Lesson}
    (perm : catalog.lessons.Perm lessons) {id : UInt32}
    (missing : id ∉ lessons.map Lesson.id) :
    catalog.get id = .error (.notFound id) := by
  have search : catalog.lessons.find? (·.id = id) = none := by
    rw [List.find?_eq_none]
    intro lesson member same
    exact missing (List.mem_map.mpr
      ⟨lesson, perm.mem_iff.mp member, of_decide_eq_true same⟩)
  rw [get, search]

theorem ofLessons_eq_ok_iff {lessons : List Lesson} {catalog : Catalog} :
    ofLessons lessons = .ok catalog ↔
      Sound lessons ∧ catalog.lessons = sortById lessons := by
  rw [← firstFault?_eq_none_iff, ofLessons]
  obtain ⟨kept⟩ := catalog
  cases firstFault? [] lessons with
  | none => simp [eq_comm]
  | some error => simp

theorem ofLessons_eq_error_iff {lessons : List Lesson}
    {error : LessonError} :
    ofLessons lessons = .error error ↔
      firstFault? [] lessons = some error := by
  unfold ofLessons
  cases firstFault? [] lessons <;> simp

/-- Lessons make a catalog if and only if they are sound.  It holds just these
lessons in strictly ascending order and finds each one by its id.  Otherwise
the error is that of the first lesson that is not sound together with those
before it. -/
theorem ofLessons_exact (lessons : List Lesson) :
    ((∃ catalog, ofLessons lessons = .ok catalog) ↔
      (lessons.map Lesson.id).Nodup ∧
        (∀ lesson ∈ lessons, lesson.initialText ≠ []) ∧
        ∀ lesson ∈ lessons, ∀ target,
          lesson.goal = .targetPosition target →
            target.onCharacter lesson.initialBuffer = target) ∧
    (∀ catalog, ofLessons lessons = .ok catalog →
      catalog.lessons.Perm lessons ∧
        catalog.lessons.Pairwise (fun first second => first.id < second.id) ∧
        (∀ lesson ∈ lessons, catalog.get lesson.id = .ok lesson) ∧
        ∀ id ∉ lessons.map Lesson.id,
          catalog.get id = .error (.notFound id)) ∧
    ∀ error, ofLessons lessons = .error error ↔
      ∃ before lesson after, lessons = before ++ lesson :: after ∧
        Sound before ∧ lesson.Offends before error := by
  refine ⟨?_, ?_, ?_⟩
  · constructor
    · rintro ⟨catalog, accepted⟩
      obtain ⟨distinct, nonempty, inText⟩ := (ofLessons_eq_ok_iff.mp accepted).1
      exact ⟨distinct, nonempty, inText⟩
    · rintro ⟨distinct, nonempty, inText⟩
      exact ⟨⟨sortById lessons⟩,
        ofLessons_eq_ok_iff.mpr ⟨⟨distinct, nonempty, inText⟩, rfl⟩⟩
  · intro catalog accepted
    obtain ⟨sound, sorted⟩ := ofLessons_eq_ok_iff.mp accepted
    have perm : catalog.lessons.Perm lessons := by
      rw [sorted]
      exact sortById_perm lessons
    have ascending : Ascending catalog.lessons := by
      rw [sorted]
      exact sortById_ascending sound.distinct
    exact ⟨perm, ascending,
      fun lesson member => get_of_perm perm sound.distinct member,
      fun id missing => get_of_notMem perm missing⟩
  · intro error
    exact ofLessons_eq_error_iff.trans firstFault?_eq_some_iff

/-- A target behind a cluster of two characters, an id that nothing has, and a
third lesson with two faults in front of a fourth one. -/
theorem ofLessons_exact_for_several_faults :
    let last : Lesson :=
      .plain 20 [[], ['e', '\u0301', 'x']] (.targetPosition ⟨1, 1⟩) []
    let first : Lesson := .plain 10 [['a']] .duplicateLine []
    let twin : Lesson := .plain 20 [] .duplicateLine []
    let blank : Lesson := .plain 30 [] .duplicateLine []
    let catalog : Catalog := ⟨[first, last]⟩
    ofLessons [last, first] = .ok catalog ∧
      (last ∈ [last, first] ∧ catalog.get 20 = .ok last) ∧
      (15 ∉ [last, first].map Lesson.id ∧
        catalog.get 15 = .error (.notFound 15)) ∧
      ofLessons [last, first, twin, blank] = .error (.duplicateId 20) := by
  intro last first twin blank catalog
  have accepted : ofLessons [last, first] = .ok catalog := rfl
  have inside : last ∈ [last, first] := List.mem_cons_self
  have outside : 15 ∉ [last, first].map Lesson.id := by decide
  have taken : twin.id ∈ [last, first].map Lesson.id := by decide
  obtain ⟨-, -, gets, misses⟩ :=
    (ofLessons_exact [last, first]).2.1 catalog accepted
  obtain ⟨distinct, nonempty, inText⟩ :=
    (ofLessons_exact [last, first]).1.mp ⟨catalog, accepted⟩
  exact ⟨accepted, ⟨inside, gets last inside⟩, ⟨outside, misses 15 outside⟩,
    ((ofLessons_exact _).2.2 _).mpr ⟨[last, first], twin, [blank], rfl,
      ⟨distinct, nonempty, inText⟩, .duplicateId taken⟩⟩

end Catalog

end ModalTutor
