import ModalTutor.Proofs.KeyOutcome

/-!
# Sessions with rules and without

A session with rules either refuses a key, which only counts the mistake and
drops the pending input, or takes it as it would without rules.  `Ruling`
states the choice, `dispatch_ruling` makes it for every key, and
`feed_eq_of_no_mistake` follows it along a run in which nothing is refused.
-/

namespace ModalTutor

namespace Session

/-- The same session, with every command allowed. -/
def unrestricted (session : Session) : Session :=
  { session with allowed := none }

theorem unrestricted_eq_self {session : Session}
    (free : session.allowed = none) : session.unrestricted = session := by
  unfold unrestricted
  rw [← free]

/-- A result put back under the rules of a session. -/
def underRules (session : Session) (free : Response × Session) :
    Response × Session :=
  (free.1, { free.2 with allowed := session.allowed })

/-- What the rules of a session make of a key that would come to `free`
without them. -/
inductive Ruling (session : Session) (free : Response × Session) :
    Response × Session → Prop where
  | refused (command : Command) (forbidden : session.allows command = false) :
      Ruling session free (.shown, session.reject command)
  | followed (flawless : free.2.mistakes = session.mistakes) :
      Ruling session free (session.underRules free)

/-- A refusal drops the pending input, so it does not matter what the key has
made of it. -/
theorem guarded_ruling (session : Session) (pending : Pending)
    (command : Command) (action : Editor → Response × Editor) :
    let editor := { session.editor with pending }
    session.Ruling
      ({ session.unrestricted with editor }.guarded command action)
      ({ session with editor }.guarded command action) := by
  intro editor
  have free : { session.unrestricted with editor }.guarded command action =
      { session.unrestricted with editor }.adopt (action editor) := if_pos rfl
  rw [free]
  by_cases allowed : { session with editor }.allows command
  · rw [guarded, if_pos allowed]
    exact .followed rfl
  · rw [guarded, if_neg allowed]
    apply Ruling.refused
    exact Bool.eq_false_iff.mpr allowed

theorem commandKey_ruling (session : Session) (key : Key) :
    session.Ruling (session.unrestricted.commandKey key)
      (session.commandKey key) := by
  have same : session.unrestricted.editor = session.editor := rfl
  unfold commandKey
  rw [same]
  dsimp only
  obtain ⟨interpretation, pending⟩ := Interpretation.ofKey
    session.editor.mode session.editor.pending key
  cases interpretation with
  | command command => exact guarded_ruling session pending command _
  | escape =>
      dsimp only
      split
      · exact guarded_ruling session pending .escape _
      · exact .followed rfl
  | withArgument command character => exact .followed rfl
  | pending | cancelled | ignored => exact .followed rfl

theorem takeKey_ruling (session : Session) (key : Key) :
    session.Ruling (session.unrestricted.takeKey key)
      (session.takeKey key) := by
  have same : session.unrestricted.editor = session.editor := rfl
  have escape := guarded_ruling session session.editor.pending .escape
    (·.run .escape)
  unfold takeKey
  rw [same]
  cases session.editor.mode with
  | normal | visual | visualLine => exact commandKey_ruling session key
  | search =>
      dsimp only
      split
      · exact .followed rfl
      · exact .followed rfl
  | insert | replace =>
      dsimp only
      split
      · exact escape
      · exact .followed rfl

/-- The rules decide about every key: they refuse it, or they do not show. -/
theorem dispatch_ruling (session : Session) (key : Key) :
    { session with interacted := true }.Ruling
      (session.unrestricted.dispatch key) (session.dispatch key) := by
  have ruling := takeKey_ruling { session with interacted := true } key
  have same : { session.unrestricted with interacted := true } =
      { session with interacted := true }.unrestricted := rfl
  unfold dispatch
  rw [same]
  dsimp only
  generalize { session with interacted := true }.takeKey key = taken
    at ruling ⊢
  cases ruling with
  | refused command forbidden =>
      -- A refused key asks for no undo.
      simp only [Response.shown, Bool.or_false]
      exact .refused command forbidden
  | followed flawless => exact .followed flawless

theorem mistakes_add_one {session : Session}
    (countable : session.mistakes.toNat + 1 < UInt32.size) :
    (session.mistakes + 1).toNat = session.mistakes.toNat + 1 := by
  rw [UInt32.toNat_add]
  exact Nat.mod_eq_of_lt countable

/-- As long as the count does not run over, no key lowers it, and a key raises
it by at most one. -/
theorem dispatch_mistakes_bounds (session : Session) (key : Key)
    (countable : session.mistakes.toNat + 1 < UInt32.size) :
    session.mistakes.toNat ≤ (session.dispatch key).2.mistakes.toNat ∧
      (session.dispatch key).2.mistakes.toNat ≤
        session.mistakes.toNat + 1 := by
  have ruling := dispatch_ruling session key
  generalize session.dispatch key = result at ruling ⊢
  cases ruling with
  | refused command forbidden =>
      have counted := mistakes_add_one countable
      change _ ≤ (session.mistakes + 1).toNat ∧
        (session.mistakes + 1).toNat ≤ _
      omega
  | followed flawless =>
      have same : (session.unrestricted.dispatch key).2.mistakes =
          session.mistakes := flawless
      simp only [underRules, same]
      omega

theorem mistakes_le_feed (session : Session) (keys : List Key)
    (countable : session.mistakes.toNat + keys.length < UInt32.size) :
    session.mistakes.toNat ≤ (session.feed keys).mistakes.toNat := by
  induction keys generalizing session with
  | nil => exact Nat.le_refl _
  | cons key keys ih =>
      rw [List.length_cons] at countable
      obtain ⟨lower, upper⟩ :=
        dispatch_mistakes_bounds session key (by omega)
      have later := ih (session.dispatch key).2 (by omega)
      rw [feed_cons]
      exact Nat.le_trans lower later

/-- A run without a mistake is the run without rules. -/
theorem feed_eq_of_no_mistake {session : Session} (keys : List Key)
    (countable : session.mistakes.toNat + keys.length < UInt32.size)
    (flawless : (session.feed keys).mistakes = session.mistakes) :
    session.feed keys =
      { session.unrestricted.feed keys with allowed := session.allowed } := by
  induction keys generalizing session with
  | nil => rfl
  | cons key keys ih =>
      rw [List.length_cons] at countable
      rw [feed_cons] at flawless
      have room : session.mistakes.toNat + 1 < UInt32.size := by omega
      obtain ⟨_, upper⟩ := dispatch_mistakes_bounds session key room
      have later := mistakes_le_feed (session.dispatch key).2 keys (by omega)
      rw [flawless] at later
      have ruling := dispatch_ruling session key
      rw [feed_cons, feed_cons]
      generalize taken : session.dispatch key = result at *
      cases ruling with
      | refused command forbidden =>
          have counted := mistakes_add_one room
          have tooMany : (session.mistakes + 1).toNat ≤
              session.mistakes.toNat := later
          omega
      | followed same =>
          have free : (session.unrestricted.dispatch key).2.unrestricted =
              (session.unrestricted.dispatch key).2 :=
            unrestricted_eq_self (dispatch_allowed session.unrestricted key)
          rw [← free]
          exact ih (by omega) (flawless.trans same.symm)

/-- Every key is either refused, which counts a mistake and leaves the editor
as it is but for the pending input and the status line, or does just what it
does without rules. -/
theorem dispatch_refused_or_unrestricted (session : Session) (key : Key)
    (countable : session.mistakes.toNat + 1 < UInt32.size) :
    let after := (session.dispatch key).2
    let free := session.unrestricted.dispatch key
    (after.mistakes.toNat = session.mistakes.toNat + 1 ∧
      after.undoPerformed = session.undoPerformed ∧
      ∃ command, session.allows command = false ∧
        after.editor = { session.editor with
          pending := .none
          notice := some (.commandRejected command) }) ∨
    (after.mistakes = session.mistakes ∧
      (session.dispatch key).1 = free.1 ∧
      after = { free.2 with allowed := session.allowed }) := by
  intro after free
  have ruling := dispatch_ruling session key
  generalize taken : session.dispatch key = result at ruling
  cases ruling with
  | refused command forbidden =>
      left
      have reached :
          after = { session with interacted := true }.reject command :=
        congrArg Prod.snd taken
      rw [reached]
      exact ⟨mistakes_add_one countable, rfl, command, forbidden, rfl⟩
  | followed flawless =>
      right
      have reached : after = { free.2 with allowed := session.allowed } :=
        congrArg Prod.snd taken
      rw [reached]
      exact ⟨flawless, rfl, rfl⟩

/-- The first key of a deletion is taken, and the last one is refused. -/
theorem dispatch_refused_line_deletion :
    let lesson : Lesson :=
      .plain 1 [['a', 'b'], ['c']] .changedFromInitial
        [.move .down, .deleteWord]
    let session := (ofLesson lesson 3).feed [.char 'j', .char 'd']
    let key : Key := .char 'd'
    let after := (session.dispatch key).2
    let free := session.unrestricted.dispatch key
    session.mistakes.toNat + 1 < UInt32.size ∧
    session.mistakes = 0 ∧ after.mistakes = 1 ∧
    after.editor.notice = some (.commandRejected .deleteLine) ∧
    ((after.mistakes.toNat = session.mistakes.toNat + 1 ∧
      after.undoPerformed = session.undoPerformed ∧
      ∃ command, session.allows command = false ∧
        after.editor = { session.editor with
          pending := .none
          notice := some (.commandRejected command) }) ∨
    (after.mistakes = session.mistakes ∧
      (session.dispatch key).1 = free.1 ∧
      after = { free.2 with allowed := session.allowed })) := by
  intro lesson session key after free
  have countable : session.mistakes.toNat + 1 < UInt32.size := by decide +kernel
  exact ⟨countable, by decide +kernel, by decide +kernel, by decide +kernel,
    dispatch_refused_or_unrestricted session key countable⟩

end Session

end ModalTutor
