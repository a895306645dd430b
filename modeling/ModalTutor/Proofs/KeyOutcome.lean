import ModalTutor.Proofs.CursorRange
import ModalTutor.Proofs.KeyReading
import ModalTutor.Proofs.Reachability

/-!
# What a key can make of an editor

`Session.Taken` lists what a session makes of a key together with the
conditions for it, and `takeKey_taken` says that the list is complete.
`Editor.Outcome` keeps of it what concerns the editor alone, so what holds of
every outcome holds of every key.
-/

namespace ModalTutor

def KeyCode.isArrow : KeyCode → Bool
  | up | down | left | right => true
  | char _ | enter | escape | backspace | tab => false

theorem KeyCode.arrow?_eq_none {code : KeyCode} {position : Position} :
    code.arrow? position = none ↔ code.isArrow = false := by
  cases code <;> simp [arrow?, isArrow]

theorem KeyCode.isArrow_of_arrow? {code : KeyCode}
    {position target : Position}
    (moved : code.arrow? position = some target) : code.isArrow := by
  cases code <;> first | rfl | cases moved

theorem Key.printable?_eq_some {key : Key} {character : Char}
    (printable : key.printable? = some character) :
    ∃ shift, key = ⟨.char character, ⟨false, false, shift⟩⟩ := by
  obtain ⟨code, control, alt, shift⟩ := key
  cases code with
  | char typed =>
      cases control with
      | true => simp [printable?] at printable
      | false =>
          cases alt with
          | true => simp [printable?] at printable
          | false =>
              cases printable
              exact ⟨shift, rfl⟩
  | enter | escape | backspace | tab | up | down | left | right =>
      cases printable

theorem Key.isEscape_of_printable? {key : Key} {character : Char}
    (printable : key.printable? = some character) : key.isEscape = false := by
  obtain ⟨shift, rfl⟩ := printable?_eq_some printable
  rfl

theorem Key.isArrow_of_printable? {key : Key} {character : Char}
    (printable : key.printable? = some character) :
    key.code.isArrow = false := by
  obtain ⟨shift, rfl⟩ := printable?_eq_some printable
  rfl

/-- Keys gather into commands. -/
def Mode.takesCommands : Mode → Bool
  | normal | visual | visualLine => true
  | insert | replace | search => false

/-- Keys change the text directly. -/
def Mode.isTyping : Mode → Bool
  | insert | replace => true
  | normal | visual | visualLine | search => false

theorem Mode.isTyping_eq_false {mode : Mode} (commands : mode.takesCommands) :
    mode.isTyping = false := by
  cases mode <;> first | rfl | cases commands

theorem Mode.takesCommands_of_isVisual {mode : Mode}
    (visual : mode.isVisual) : mode.takesCommands := by
  cases mode with
  | normal | visual | visualLine => rfl
  | insert | replace | search => cases visual

theorem Mode.insert_or_replace {mode : Mode} (typing : mode.isTyping) :
    mode = .insert ∨ mode = .replace := by
  cases mode with
  | insert => exact .inl rfl
  | replace => exact .inr rfl
  | normal | visual | visualLine | search => cases typing

namespace Editor

/-- What a key can make of an editor, with the response. -/
inductive Outcome (editor : Editor) : Response × Editor → Prop where
  | ran (command : Command) (commands : editor.mode.takesCommands) :
      Outcome editor
        ({ editor with
          pending := .none
          notice := editor.mode.banner? }.run command)
  | completed (waiting : Command) (character : Char)
      (commands : editor.mode.takesCommands)
      (awaited : editor.pending.awaits? = some waiting)
      (accepted : waiting.acceptsArgument character) :
      Outcome editor
        ({ editor with pending := .none }.runWithArgument waiting character)
  /-- Escape ends a selection or typing. -/
  | escaped (leavable : editor.mode.isVisual || editor.mode.isTyping) :
      Outcome editor (editor.run .escape)
  /-- Escape drops the term that was being typed. -/
  | abandoned (searching : editor.mode = .search) :
      Outcome editor (.shown, editor.leave)
  | typed (key : Key) (text : editor.mode.takesCommands = false)
      (unescaped : key.isEscape = false) : Outcome editor (editor.typeKey key)
  | refused (command : Command) :
      Outcome editor
        (.shown,
          { editor with pending := .none }.say (.commandRejected command))
  | ignored (kept : Pending)
      (dropped : kept = editor.pending ∨ kept = .none) :
      Outcome editor (.clean, { editor with pending := kept })
  | waiting (typed : Text) (commands : editor.mode.takesCommands) :
      Outcome editor
        (.shown, { editor with
          pending := .keys typed
          notice := some (.shown typed) })
  | cancelled (commands : editor.mode.takesCommands) :
      Outcome editor
        (.shown, { editor with
          pending := .none
          notice := editor.mode.banner? })

end Editor

namespace Session

theorem takeKey_of_takesCommands {session : Session} (key : Key)
    (commands : session.editor.mode.takesCommands) :
    session.takeKey key = session.commandKey key := by
  unfold takeKey
  cases mode : session.editor.mode with
  | normal | visual | visualLine => rfl
  | insert | replace | search =>
      rw [mode] at commands
      cases commands

theorem dispatch_of_takesCommands {session : Session} (key : Key)
    (commands : session.editor.mode.takesCommands) :
    ((session.dispatch key).1, (session.dispatch key).2.editor) =
      (({ session with interacted := true }.commandKey key).1,
        ({ session with interacted := true }.commandKey key).2.editor) := by
  have taken : { session with interacted := true }.takeKey key =
      { session with interacted := true }.commandKey key :=
    takeKey_of_takesCommands key commands
  simp only [dispatch, taken]

theorem takeKey_escape {session : Session} {key : Key}
    (typing : session.editor.mode.isTyping) (escape : key.isEscape) :
    session.takeKey key = session.guarded .escape (·.run .escape) := by
  rcases Mode.insert_or_replace typing with mode | mode
  · simp only [takeKey, mode, escape, if_true]
  · simp only [takeKey, mode, escape, if_true]

/-- The key completes a command that is allowed. -/
structure Runs (session : Session) (key : Key) (command : Command) :
    Prop where
  commands : session.editor.mode.takesCommands
  completes : Interpretation.ofKey session.editor.mode session.editor.pending
    key = (.command command, .none)
  allowed : session.allows command

/-- What a session makes of a key, and when. -/
inductive Taken (session : Session) (key : Key) :
    Response × Session → Prop where
  | ran (command : Command) (runs : session.Runs key command) :
      Taken session key
        (session.adopt ({ session.editor with
          pending := .none
          notice := session.editor.mode.banner? }.run command))
  | completed (waiting : Command) (character : Char)
      (commands : session.editor.mode.takesCommands)
      (read : Interpretation.ofKey session.editor.mode
        session.editor.pending key =
          (.withArgument waiting character, .none)) :
      Taken session key
        (session.adopt ({ session.editor with
          pending := .none }.runWithArgument waiting character))
  /-- Escape ends a selection or typing if it is allowed. -/
  | escaped
      (leavable :
        session.editor.mode.isVisual || session.editor.mode.isTyping)
      (allowed : session.allows .escape) :
      Taken session key (session.adopt (session.editor.run .escape))
  /-- Escape drops the term that was being typed, allowed or not. -/
  | abandoned (searching : session.editor.mode = .search)
      (escape : key.isEscape) :
      Taken session key (session.adopt (.shown, session.editor.leave))
  | typed (text : session.editor.mode.takesCommands = false)
      (unescaped : key.isEscape = false) :
      Taken session key (session.adopt (session.editor.typeKey key))
  | refused (command : Command) (forbidden : session.allows command = false) :
      Taken session key (.shown, session.reject command)
  | ignored (kept : Pending)
      (dropped : kept = session.editor.pending ∨ kept = .none) :
      Taken session key
        (session.adopt (.clean, { session.editor with pending := kept }))
  | waiting (typed : Text) (commands : session.editor.mode.takesCommands)
      (read : Interpretation.ofKey session.editor.mode
        session.editor.pending key = (.pending, .keys typed)) :
      Taken session key
        (session.adopt (.shown, { session.editor with
          pending := .keys typed
          notice := some (.shown typed) }))
  | cancelled (commands : session.editor.mode.takesCommands) :
      Taken session key
        (session.adopt (.shown, { session.editor with
          pending := .none
          notice := session.editor.mode.banner? }))

/-- A refusal drops the pending input, so it does not matter what the key has
made of it. -/
theorem guarded_taken {session : Session} {key : Key} (pending : Pending)
    (command : Command) (action : Editor → Response × Editor)
    (taken : session.allows command → session.Taken key
      (session.adopt (action { session.editor with pending }))) :
    session.Taken key
      ({ session with editor := { session.editor with pending } }.guarded
        command action) := by
  unfold guarded
  split
  · next allowed => exact taken allowed
  · next forbidden =>
      exact .refused command (Bool.eq_false_iff.mpr forbidden)

theorem commandKey_taken {session : Session} (key : Key)
    (commands : session.editor.mode.takesCommands) :
    session.Taken key (session.commandKey key) := by
  have reading := Interpretation.ofKey_reading session.editor.mode
    session.editor.pending key
  unfold commandKey
  dsimp only
  generalize read : Interpretation.ofKey session.editor.mode
    session.editor.pending key = interpreted at reading ⊢
  cases reading with
  | command command _ =>
      refine guarded_taken .none command _ ?_
      intro allowed
      exact .ran command ⟨commands, read, allowed⟩
  | withArgument waiting character _ _ _ =>
      exact .completed waiting character commands read
  | escape _ =>
      dsimp only
      split
      · next visual =>
          refine guarded_taken session.editor.pending .escape _ ?_
          intro allowed
          exact .escaped (by simp [visual]) allowed
      · exact .ignored session.editor.pending (.inl rfl)
  | pending opener _ => exact .waiting [opener] commands read
  | cancelled => exact .cancelled commands
  | ignored kept dropped => exact .ignored kept dropped

/-- The list is complete. -/
theorem takeKey_taken (session : Session) (key : Key) :
    session.Taken key (session.takeKey key) := by
  cases mode : session.editor.mode with
  | normal | visual | visualLine =>
      have commands : session.editor.mode.takesCommands := by rw [mode]; rfl
      rw [takeKey_of_takesCommands key commands]
      exact commandKey_taken key commands
  | search =>
      have text : session.editor.mode.takesCommands = false := by
        rw [mode]; rfl
      simp only [takeKey, mode]
      split
      · next escape => exact .abandoned mode escape
      · next unescaped => exact .typed text (by simpa using unescaped)
  | insert | replace =>
      have text : session.editor.mode.takesCommands = false := by
        rw [mode]; rfl
      have leavable :
          session.editor.mode.isVisual || session.editor.mode.isTyping := by
        rw [mode]; rfl
      simp only [takeKey, mode]
      split
      · refine guarded_taken session.editor.pending .escape _ ?_
        intro allowed
        exact .escaped leavable allowed
      · next unescaped => exact .typed text (by simpa using unescaped)

/-- A key changes the editor and counts mistakes, and nothing else. -/
theorem takeKey_frame (session : Session) (key : Key) :
    (session.takeKey key).2 =
      { session with
        editor := (session.takeKey key).2.editor
        mistakes := (session.takeKey key).2.mistakes } := by
  have taken := takeKey_taken session key
  generalize session.takeKey key = result at taken
  cases taken <;> rfl

theorem Taken.outcome {session : Session} {key : Key}
    {result : Response × Session} (taken : session.Taken key result) :
    session.editor.Outcome (result.1, result.2.editor) := by
  cases taken with
  | ran command runs => exact .ran command runs.commands
  | completed waiting character commands read =>
      have reading := Interpretation.ofKey_reading session.editor.mode
        session.editor.pending key
      rw [read] at reading
      cases reading with
      | withArgument _ _ awaited _ accepted =>
          exact .completed waiting character commands awaited accepted
  | escaped leavable _ => exact .escaped leavable
  | abandoned searching _ => exact .abandoned searching
  | typed text unescaped => exact .typed key text unescaped
  | refused command _ => exact .refused command
  | ignored kept dropped => exact .ignored kept dropped
  | waiting typed commands _ => exact .waiting typed commands
  | cancelled commands => exact .cancelled commands

theorem dispatch_outcome (session : Session) (key : Key) :
    session.editor.Outcome
      ((session.dispatch key).1, (session.dispatch key).2.editor) :=
  (takeKey_taken { session with interacted := true } key).outcome

theorem Runs.dispatch_eq {session : Session} {key : Key} {command : Command}
    (runs : session.Runs key command) :
    ((session.dispatch key).1, (session.dispatch key).2.editor) =
      { session.editor with
        pending := .none
        notice := session.editor.mode.banner? }.run command := by
  rw [dispatch_of_takesCommands key runs.commands]
  simp only [commandKey, runs.completes, guarded]
  rw [if_pos (by exact runs.allowed)]
  rfl

/-- A motion moves the cursor, in a selection as well. -/
theorem Runs.move {session : Session} {key : Key} {motion : Motion}
    (runs : session.Runs key (.move motion)) :
    (session.dispatch key).2.editor =
      { session.editor with
        pending := .none
        notice := session.editor.mode.banner?
        cursor := (motion.apply session.editor.buffer
          session.editor.cursor).onCharacter session.editor.buffer } := by
  refine (congrArg Prod.snd runs.dispatch_eq).trans ?_
  have commands := runs.commands
  cases mode : session.editor.mode with
  | normal | visual | visualLine =>
      simp [Editor.run, Editor.perform, Editor.moveBy, Editor.settle, mode]
  | insert | replace | search =>
      rw [mode] at commands
      cases commands

/-- While typing, no key runs a command. -/
theorem not_runs_of_isTyping {session : Session} (key : Key)
    (command : Command) (typing : session.editor.mode.isTyping) :
    ¬ session.Runs key command := by
  intro runs
  have still := Mode.isTyping_eq_false runs.commands
  rw [typing] at still
  cases still

/-- While typing, every key but escape goes to the text. -/
theorem dispatch_typing {session : Session} {key : Key}
    (typing : session.editor.mode.isTyping)
    (unescaped : key.isEscape = false) :
    ((session.dispatch key).1, (session.dispatch key).2.editor) =
      session.editor.typeKey key := by
  rcases Mode.insert_or_replace typing with mode | mode
  · simp [dispatch, takeKey, mode, unescaped, adopt]
  · simp [dispatch, takeKey, mode, unescaped, adopt]

/-- Escape ends typing if it is allowed. -/
theorem dispatch_escape {session : Session}
    (typing : session.editor.mode.isTyping)
    (allowed : session.allows .escape) :
    ((session.dispatch (.plain .escape)).1,
        (session.dispatch (.plain .escape)).2.editor) =
      session.editor.run .escape := by
  have taken : { session with interacted := true }.takeKey (.plain .escape) =
      { session with interacted := true }.guarded .escape
        (·.run .escape) :=
    takeKey_escape typing rfl
  simp only [dispatch, taken, guarded]
  rw [if_pos (by exact allowed)]
  rfl

end Session

end ModalTutor
