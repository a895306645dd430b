import Mathlib.Data.Nat.Find
import ModalTutor.Json.Report
import ModalTutor.Proofs.Mistakes

/-!
# Replays report the first completion

Checking the goal leaves everything as it is but the record of the completion,
and no key looks at that record.  So a replay comes to the session that the
keys alone come to, and `Replay.ofScript_exact` says that what it reports is
the least number of keys after which the goal is met, with the mistakes made
until then.
-/

namespace ModalTutor

namespace Session

/-- The same session with another record of its completion. -/
def withCompletion (session : Session) (completion : Option Completion) :
    Session :=
  { session with completion }

theorem withCompletion_self (session : Session) :
    session.withCompletion session.completion = session := rfl

/-- A result whose session has another record of its completion. -/
def resultWithCompletion (completion : Option Completion)
    (result : Response × Session) : Response × Session :=
  (result.1, result.2.withCompletion completion)

theorem guarded_withCompletion (session : Session)
    (completion : Option Completion) (command : Command)
    (action : Editor → Response × Editor) :
    (session.withCompletion completion).guarded command action =
      resultWithCompletion completion (session.guarded command action) := by
  have same : (session.withCompletion completion).allows command =
      session.allows command := rfl
  unfold guarded
  rw [same]
  split <;> rfl

theorem commandKey_withCompletion (session : Session)
    (completion : Option Completion) (key : Key) :
    (session.withCompletion completion).commandKey key =
      resultWithCompletion completion (session.commandKey key) := by
  have same : (session.withCompletion completion).editor = session.editor :=
    rfl
  unfold commandKey
  rw [same]
  dsimp only
  obtain ⟨interpretation, pending⟩ := Interpretation.ofKey
    session.editor.mode session.editor.pending key
  cases interpretation with
  | command command =>
      exact guarded_withCompletion
        { session with editor := { session.editor with pending } } _ _ _
  | escape =>
      dsimp only
      split
      · exact guarded_withCompletion
          { session with editor := { session.editor with pending } } _ _ _
      · rfl
  | withArgument _ _ | pending | cancelled | ignored => rfl

theorem takeKey_withCompletion (session : Session)
    (completion : Option Completion) (key : Key) :
    (session.withCompletion completion).takeKey key =
      resultWithCompletion completion (session.takeKey key) := by
  have same : (session.withCompletion completion).editor = session.editor :=
    rfl
  unfold takeKey
  rw [same]
  cases session.editor.mode with
  | normal | visual | visualLine =>
      exact commandKey_withCompletion session completion key
  | search =>
      dsimp only
      split <;> rfl
  | insert | replace =>
      dsimp only
      split
      · exact guarded_withCompletion session completion _ _
      · rfl

/-- No key looks at the record of the completion. -/
theorem dispatch_withCompletion (session : Session)
    (completion : Option Completion) (key : Key) :
    ((session.withCompletion completion).dispatch key).2 =
      (session.dispatch key).2.withCompletion completion := by
  have taken := takeKey_withCompletion { session with interacted := true }
    completion key
  have started : { session.withCompletion completion with
      interacted := true } =
    { session with interacted := true }.withCompletion completion := rfl
  unfold dispatch
  rw [started, taken]
  rfl

theorem feed_withCompletion (session : Session)
    (completion : Option Completion) (keys : List Key) :
    (session.withCompletion completion).feed keys =
      (session.feed keys).withCompletion completion := by
  induction keys generalizing session with
  | nil => rfl
  | cons key keys ih =>
      rw [feed_cons, dispatch_withCompletion, ih, feed_cons]

theorem dispatch_completion (session : Session) (key : Key) :
    (session.dispatch key).2.completion = session.completion := by
  have same : ({ session with interacted := true }.takeKey key).2.completion =
      session.completion := by
    rw [takeKey_frame]
  exact same

theorem dispatch_interacted (session : Session) (key : Key) :
    (session.dispatch key).2.interacted = true := by
  have same : ({ session with interacted := true }.takeKey key).2.interacted =
      true := by
    rw [takeKey_frame]
  exact same

theorem feed_completion (session : Session) (keys : List Key) :
    (session.feed keys).completion = session.completion := by
  induction keys generalizing session with
  | nil => rfl
  | cons key keys ih => rw [feed_cons, ih, dispatch_completion]

/-- The goal is met. -/
def meets (session : Session) (lesson : Lesson) : Bool :=
  lesson.isMet session.attempt

/-- The record of a completion at this point, which took no time. -/
def record (session : Session) (lesson : Lesson) : Completion :=
  ⟨lesson.id, scoreFor session.mistakes, 0, session.mistakes⟩

theorem evaluate_of_completed {session : Session} {completion : Completion}
    (completed : session.completion = some completion) (lesson : Lesson) :
    session.evaluate lesson 0 = (none, session) := by
  simp [evaluate, completed]

theorem evaluate_of_unmet {session : Session} {lesson : Lesson}
    (unmet : session.meets lesson = false) :
    session.evaluate lesson 0 = (none, session) := by
  have unchecked : lesson.check session.attempt 0 = none := by
    rw [Lesson.check, if_neg]
    exact Bool.not_eq_true _ ▸ unmet
  unfold evaluate
  rw [unchecked]
  split <;> rfl

theorem evaluate_of_meets {session : Session} {lesson : Lesson}
    (interacted : session.interacted = true)
    (uncompleted : session.completion = none) (met : session.meets lesson) :
    session.evaluate lesson 0 =
      (some (session.record lesson),
        session.withCompletion (some (session.record lesson))) := by
  have checked : lesson.check session.attempt 0 =
      some (session.record lesson) := if_pos met
  rw [evaluate, if_pos ⟨interacted, uncompleted⟩, checked]
  rfl

/-- The goal is met after no positive number of keys. -/
def NeverMeets (session : Session) (lesson : Lesson) (keys : List Key) :
    Prop :=
  ∀ count, 1 ≤ count → count ≤ keys.length →
    (session.feed (keys.take count)).meets lesson = false

/-- The least positive number of keys after which the goal is met. -/
structure FirstMeets (session : Session) (lesson : Lesson) (keys : List Key)
    (count : Nat) : Prop where
  positive : 1 ≤ count
  within : count ≤ keys.length
  met : (session.feed (keys.take count)).meets lesson
  unmet : ∀ earlier, 1 ≤ earlier → earlier < count →
    (session.feed (keys.take earlier)).meets lesson = false

theorem FirstMeets.of_cons {session : Session} {lesson : Lesson} {key : Key}
    {keys : List Key} {count : Nat}
    (first : session.FirstMeets lesson (key :: keys) (count + 1))
    (later : 1 < count + 1) :
    (session.dispatch key).2.FirstMeets lesson keys count where
  positive := by omega
  within := by simpa using first.within
  met := first.met
  unmet earlier positive before :=
    first.unmet (earlier + 1) (by omega) (by omega)

theorem FirstMeets.eq {session : Session} {lesson : Lesson} {keys : List Key}
    {count other : Nat} (first : session.FirstMeets lesson keys count)
    (also : session.FirstMeets lesson keys other) : count = other := by
  obtain before | same | after := Nat.lt_trichotomy count other
  · have unmet := also.unmet count first.positive before
    exact absurd first.met (by simp [unmet])
  · exact same
  · have unmet := first.unmet other also.positive after
    exact absurd also.met (by simp [unmet])

theorem FirstMeets.not_never {session : Session} {lesson : Lesson}
    {keys : List Key} {count : Nat}
    (first : session.FirstMeets lesson keys count) :
    ¬session.NeverMeets lesson keys := by
  intro never
  have met := first.met
  rw [never count first.positive first.within] at met
  exact Bool.false_ne_true met

theorem never_or_firstMeets (session : Session) (lesson : Lesson)
    (keys : List Key) :
    session.NeverMeets lesson keys ∨
      ∃ least, session.FirstMeets lesson keys least := by
  by_cases candidate : ∃ count, 1 ≤ count ∧ count ≤ keys.length ∧
      (session.feed (keys.take count)).meets lesson
  · obtain ⟨positive, within, met⟩ := Nat.find_spec candidate
    refine .inr ⟨Nat.find candidate, positive, within, met, ?_⟩
    intro earlier earlierPositive before
    rw [← Bool.not_eq_true]
    intro earlierMet
    exact Nat.find_min candidate before
      ⟨earlierPositive, by omega, earlierMet⟩
  · refine .inl ?_
    intro count positive within
    rw [← Bool.not_eq_true]
    intro met
    exact candidate ⟨count, positive, within, met⟩

end Session

namespace Replay

variable {lesson : Lesson}

/-- A key after which checking the goal comes to nothing. -/
theorem feedFrom_cons_of_idle {session : Session} {key : Key}
    (idle : (session.dispatch key).2.evaluate lesson 0 =
      (none, (session.dispatch key).2))
    (count : Nat) (completedAfter : Option Nat) (keys : List Key) :
    feedFrom lesson count completedAfter session (key :: keys) =
      feedFrom lesson (count + 1) completedAfter (session.dispatch key).2
        keys := by
  simp [feedFrom, idle]

/-- After the first completion, nothing is recorded any more. -/
theorem feedFrom_of_completed {session : Session} {completion : Completion}
    (completed : session.completion = some completion) (count : Nat)
    (completedAfter : Option Nat) (keys : List Key) :
    feedFrom lesson count completedAfter session keys =
      (completedAfter, session.feed keys) := by
  induction keys generalizing session count with
  | nil => rfl
  | cons key keys ih =>
      have still : (session.dispatch key).2.completion = some completion :=
        (session.dispatch_completion key).trans completed
      rw [feedFrom_cons_of_idle (Session.evaluate_of_completed still lesson)]
      exact ih still (count + 1)

theorem feedFrom_of_never {session : Session} (count : Nat)
    {keys : List Key} (never : session.NeverMeets lesson keys) :
    feedFrom lesson count none session keys = (none, session.feed keys) := by
  induction keys generalizing session count with
  | nil => rfl
  | cons key keys ih =>
      have unmet : (session.dispatch key).2.meets lesson = false :=
        never 1 (Nat.le_refl 1) (by simp)
      have neverOfRest : (session.dispatch key).2.NeverMeets lesson keys := by
        intro taken positive within
        exact never (taken + 1) (by omega) (by simpa using within)
      rw [feedFrom_cons_of_idle (Session.evaluate_of_unmet unmet)]
      exact ih (count + 1) neverOfRest

theorem feedFrom_of_firstMeets {session : Session} (count : Nat)
    {keys : List Key} {least : Nat}
    (uncompleted : session.completion = none)
    (first : session.FirstMeets lesson keys least) :
    feedFrom lesson count none session keys =
      (some (count + least),
        (session.feed keys).withCompletion
          (some ((session.feed (keys.take least)).record lesson))) := by
  induction keys generalizing session count least with
  | nil =>
      have positive := first.positive
      have within := first.within
      rw [List.length_nil] at within
      omega
  | cons key keys ih =>
      have uncompletedAfter : (session.dispatch key).2.completion = none :=
        (session.dispatch_completion key).trans uncompleted
      -- Either this key meets the goal, or the first to do so comes later.
      obtain rfl | later := Nat.eq_or_lt_of_le first.positive
      · have met : (session.dispatch key).2.meets lesson := first.met
        simp only [feedFrom, Session.evaluate_of_meets
          (session.dispatch_interacted key) uncompletedAfter met]
        rw [feedFrom_of_completed rfl, Session.feed_withCompletion]
        rfl
      · obtain ⟨rest, rfl⟩ : ∃ rest, least = rest + 1 :=
          ⟨least - 1, by omega⟩
        have unmet : (session.dispatch key).2.meets lesson = false :=
          first.unmet 1 (Nat.le_refl 1) later
        have firstOfRest : (session.dispatch key).2.FirstMeets lesson keys
            rest := first.of_cons later
        rw [feedFrom_cons_of_idle (Session.evaluate_of_unmet unmet),
          ih (count + 1) uncompletedAfter firstOfRest, Nat.add_right_comm]
        rfl

theorem ofKeys_of_never {depth : Nat} {keys : List Key}
    (never : (Session.ofLesson lesson depth).NeverMeets lesson keys) :
    ofKeys lesson depth keys =
      ⟨lesson.id, keys.length, none,
        (Session.ofLesson lesson depth).feed keys⟩ := by
  rw [ofKeys, feedFrom_of_never 0 never]

theorem ofKeys_of_firstMeets {depth : Nat} {keys : List Key} {least : Nat}
    (first : (Session.ofLesson lesson depth).FirstMeets lesson keys least) :
    ofKeys lesson depth keys =
      ⟨lesson.id, keys.length, some least,
        ((Session.ofLesson lesson depth).feed keys).withCompletion
          (some (((Session.ofLesson lesson depth).feed
            (keys.take least)).record lesson))⟩ := by
  rw [ofKeys, feedFrom_of_firstMeets 0 rfl first, Nat.zero_add]

/-- What the record of a completion after some keys says. -/
theorem record_toJson (lesson : Lesson) (depth : Nat) {keys : List Key}
    (countable : keys.length < UInt32.size) :
    let start := Session.ofLesson lesson depth
    ((start.feed keys).record lesson).toJson =
      .object
        [("lesson_id", .number lesson.id.toNat),
          ("completed", .boolean true),
          ("score", .number (100 - 10 * start.refusals keys)),
          ("time_taken_seconds", .number 0),
          ("mistakes", .number (start.refusals keys))] := by
  intro start
  have fresh : start.mistakes.toNat = 0 := rfl
  have mistakes : (start.feed keys).mistakes.toNat = start.refusals keys := by
    rw [start.feed_mistakes keys (by omega), fresh, Nat.zero_add]
  simp only [Session.record, Completion.toJson, scoreFor, mistakes]

/-- The replay reports the least number of keys after which the goal is met,
with the record of the mistakes made until then, and comes to the session of
the keys alone. -/
theorem ofScript_exact (lesson : Lesson) (depth : Nat) {script : Text}
    {keys : List Key} (parsed : KeyScript.parse script = .ok keys)
    (countable : keys.length < UInt32.size) :
    let start := Session.ofLesson lesson depth
    ∃ replay, ofScript lesson depth script = .ok replay ∧
      (∀ count, replay.completedAfter = some count ↔
        start.FirstMeets lesson keys count) ∧
      (replay.completedAfter = none ↔ start.NeverMeets lesson keys) ∧
      (∀ count, start.FirstMeets lesson keys count →
        let refused := start.refusals (keys.take count)
        replay.session.completion.map Completion.toJson =
          some (.object
            [("lesson_id", .number lesson.id.toNat),
              ("completed", .boolean true),
              ("score", .number (100 - 10 * refused)),
              ("time_taken_seconds", .number 0),
              ("mistakes", .number refused)])) ∧
      (replay.completedAfter = none → replay.session.completion = none) ∧
      replay.session =
        (start.feed keys).withCompletion replay.session.completion := by
  intro start
  refine ⟨ofKeys lesson depth keys, by rw [ofScript, parsed]; rfl, ?_⟩
  obtain never | ⟨least, first⟩ := start.never_or_firstMeets lesson keys
  · have absent : (start.feed keys).completion = none :=
      start.feed_completion keys
    rw [ofKeys_of_never never]
    refine ⟨?_, ?_, ?_, ?_, ?_⟩
    · intro count
      exact iff_of_false (fun reported => nomatch reported)
        (fun first => first.not_never never)
    · exact iff_of_true rfl never
    · intro count first
      exact absurd never first.not_never
    · intro _
      exact absent
    · exact (start.feed keys).withCompletion_self.symm
  · rw [ofKeys_of_firstMeets first]
    refine ⟨?_, ?_, ?_, ?_, ?_⟩
    · intro count
      constructor
      · intro reported
        obtain rfl : least = count := Option.some.inj reported
        exact first
      · intro also
        exact congrArg some (first.eq also)
    · exact iff_of_false (fun reported => nomatch reported) first.not_never
    · intro count also
      obtain rfl : least = count := first.eq also
      have taken : (keys.take least).length < UInt32.size := by
        rw [List.length_take]
        omega
      exact congrArg some (record_toJson lesson depth taken)
    · intro reported
      exact nomatch reported
    · rfl

/-- A goal that is met, lost and met again, with a refused key before each
time. -/
theorem replay_of_goal_met_twice :
    let lesson : Lesson :=
      .plain 7 [['a', 'b', 'c']] (.targetPosition ⟨0, 1⟩)
        [.move .left, .move .right]
    let script := ['x', 'l', 'l', 'x', 'h']
    let keys : List Key :=
      [.char 'x', .char 'l', .char 'l', .char 'x', .char 'h']
    let start := Session.ofLesson lesson 3
    KeyScript.parse script = .ok keys ∧ keys.length < UInt32.size ∧
    ¬ (start.feed (keys.take 3)).meets lesson ∧
    (start.feed keys).meets lesson ∧ (start.feed keys).mistakes = 2 ∧
    ∃ replay, ofScript lesson 3 script = .ok replay ∧
      replay.completedAfter = some 2 ∧
      replay.session.completion.map Completion.toJson =
        some (.object
          [("lesson_id", .number 7), ("completed", .boolean true),
            ("score", .number 90), ("time_taken_seconds", .number 0),
            ("mistakes", .number 1)]) ∧
      replay.session =
        (start.feed keys).withCompletion replay.session.completion := by
  intro lesson script keys start
  have parsed : KeyScript.parse script = .ok keys := by decide +kernel
  have countable : keys.length < UInt32.size := by decide +kernel
  have first : start.FirstMeets lesson keys 2 := by
    refine ⟨by decide, by decide, by decide +kernel, ?_⟩
    intro earlier positive before
    obtain rfl : earlier = 1 := by omega
    decide +kernel
  obtain ⟨replay, read, reported, -, recorded, -, same⟩ :=
    ofScript_exact lesson 3 parsed countable
  have refused : start.refusals (keys.take 2) = 1 := by decide +kernel
  have record := recorded 2 first
  dsimp only at record
  rw [refused] at record
  exact ⟨parsed, countable, by decide +kernel, by decide +kernel,
    by decide +kernel, replay, read,
    (reported 2).mpr first, record, same⟩

end Replay

end ModalTutor
