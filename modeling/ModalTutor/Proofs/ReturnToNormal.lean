import ModalTutor.Lesson.Tutorial
import ModalTutor.Proofs.ModeCoherence
import ModalTutor.Proofs.TypingUnits

/-!
# Ways back to the normal mode

A mode can be left by the key that began a selection, by escape, or by what
ends a search.  Only typing depends on escape being allowed, so a session is
stuck just if it is typing under rules that forbid escape, as
`Session.ofLesson_canReturn_iff` says of every lesson.  Of the tutorial, only
one lesson has such rules and also lets typing begin, and
`Catalog.builtin_returns_iff` says which.
-/

namespace ModalTutor

/-- The command that starts and stops a selection, with its key and mode. -/
inductive Command.Selects : Command → Char → Mode → Prop where
  | characters : Selects visualChar 'v' .visual
  | lines : Selects visualLine 'V' .visualLine

namespace Interpretation

/-- Escape drops the pending input, if there is any. -/
theorem ofKey_escape (mode : Mode) (pending : Pending) :
    ofKey mode pending (.plain .escape) =
      if pending = .none then (.escape, .none) else (.cancelled, .none) := by
  cases pending <;> rfl

theorem ofKey_selects {command : Command} {key : Char} {own mode : Mode}
    (selects : command.Selects key own) (visual : mode.isVisual) :
    ofKey mode .none (.char key) = (.command command, .none) := by
  rw [ofKey_of_isVisual visual]
  cases selects <;> decide +kernel

end Interpretation

/-- The modes that a command can lead to. -/
inductive Command.LeadsTo (command : Command) (before : Mode) :
    Mode → Prop where
  | same : LeadsTo command before before
  | normal : LeadsTo command before .normal
  | search : LeadsTo command before .search
  | typing (after : Mode) (typing : after.isTyping)
      (leads : command.leadsToTyping) : LeadsTo command before after
  | selecting (key : Char) (after : Mode)
      (selects : command.Selects key after) : LeadsTo command before after

theorem Mode.isVisual_eq_false {mode : Mode} (typing : mode.isTyping) :
    mode.isVisual = false := by
  rcases insert_or_replace typing with rfl | rfl <;> rfl

namespace Editor

theorem runEdit_mode_of_stays {editor : Editor} {edit : Edit}
    (stays : edit.entersInsert = false) :
    (editor.runEdit edit).2.mode = editor.mode := by
  simp [runEdit, stays, applyEdit_mode]

theorem runSelection_mode (editor : Editor)
    (edit : Buffer → Selection → Edit)
    (stays : ∀ buffer selection,
      (edit buffer selection).entersInsert = false) :
    (editor.runSelection edit).2.mode = .normal := by
  unfold runSelection
  split
  · rfl
  · dsimp only
    split
    · rfl
    · exact runEdit_mode_of_stays (stays _ _)

theorem toggleVisual_leadsTo (editor : Editor) {command : Command}
    {key : Char} {mode : Mode} (selects : command.Selects key mode) :
    command.LeadsTo editor.mode (editor.toggleVisual mode).2.mode := by
  unfold toggleVisual
  split
  · exact .normal
  · split <;> exact .selecting key mode selects

theorem stepSearch_mode (editor : Editor) (step : Search → Search) :
    (editor.stepSearch step).2.mode = editor.mode := by
  unfold stepSearch
  split
  · rfl
  · exact reach_mode editor _

theorem perform_leadsTo (editor : Editor) (command : Command) :
    command.LeadsTo editor.mode (editor.perform command).2.mode := by
  have kept {result : Response × Editor}
      (mode : result.2.mode = editor.mode) :
      command.LeadsTo editor.mode result.2.mode := by
    rw [mode]
    exact .same
  cases command with
  | move _ | replaceChar | setMark | jumpMark => exact .same
  | insert | append | appendLineEnd | insertLineStart | openBelow | openAbove
  | replaceMode | changeWord =>
      exact .typing _ (perform_isTyping editor rfl) rfl
  | escape => exact .normal
  | visualChar => exact toggleVisual_leadsTo editor .characters
  | visualLine => exact toggleVisual_leadsTo editor .lines
  | visualDelete =>
      have left := runSelection_mode editor Edit.deleteSelection <| by
        grind [Edit.deleteSelection, Edit.cut, Edit.unchanged]
      rw [perform, left]
      exact .normal
  | visualYank =>
      have left := runSelection_mode editor Edit.yankSelection <| by
        grind [Edit.yankSelection, Edit.unchanged]
      rw [perform, left]
      exact .normal
  | searchForward | searchBackward => exact .search
  | searchNext | searchPrevious => exact kept (stepSearch_mode editor _)
  | undo => exact kept (runUndo_mode editor)
  | redo => exact kept (runRedo_mode editor)
  | deleteChar | deleteLine | deleteWord | deleteToLineEnd | yankLine
  | yankWord | pasteAfter | pasteBefore =>
      refine kept (runEdit_mode_of_stays ?_)
      grind [Edit.deleteChar, Edit.deleteLine, Edit.deleteWord,
        Edit.deleteToLineEnd, Edit.yankLine, Edit.yankWord, Edit.pasteAfter,
        Edit.pasteBefore, Edit.pasteLines, Edit.pasteCharacters, Edit.cut,
        Edit.unchanged]

theorem run_mode_eq (editor : Editor) (command : Command) :
    (editor.run command).2.mode = (editor.perform command).2.mode := by
  unfold run
  dsimp only
  split <;> rfl

theorem run_pending_eq (editor : Editor) (command : Command) :
    (editor.run command).2.pending = (editor.perform command).2.pending := by
  unfold run
  dsimp only
  split <;> rfl

theorem run_selects {editor : Editor} {command : Command} {key : Char}
    {own : Mode} (selects : command.Selects key own)
    (visual : editor.mode.isVisual) (pending : editor.pending = .none) :
    (editor.run command).2.pending = .none ∧
      (editor.run command).2.mode =
        if editor.mode = own then .normal else own := by
  have toggled : editor.perform command = editor.toggleVisual own := by
    cases selects <;> rfl
  rw [run_mode_eq, run_pending_eq, toggled, toggleVisual]
  split
  · exact ⟨rfl, rfl⟩
  · exact ⟨pending, rfl⟩

theorem runWithArgument_mode (editor : Editor) (command : Command)
    (character : Char) :
    (editor.runWithArgument command character).2.mode = editor.mode := by
  unfold runWithArgument
  dsimp only
  split
  · exact runEdit_mode_of_stays (replaceChar_entersInsert _ _ _)
  · unfold setMark
    split <;> rfl
  · unfold jumpToMark
    split <;> rfl
  · rfl

theorem submitSearch_mode (editor : Editor) :
    editor.submitSearch.2.mode = .normal := by
  unfold submitSearch
  extract_lets typed last term left
  split
  · rfl
  · exact reach_mode _ _

theorem searchKey_mode (editor : Editor) (key : Key) :
    (editor.searchKey key).2.mode = editor.mode ∨
      (editor.searchKey key).2.mode = .normal := by
  unfold searchKey
  split
  · exact .inr editor.submitSearch_mode
  · exact .inl rfl
  · left
    split <;> rfl

/-- Text is taken without leaving the mode, but for the end of a search. -/
theorem typeKey_mode (editor : Editor) (key : Key) :
    (editor.typeKey key).2.mode = editor.mode ∨
      (editor.typeKey key).2.mode = .normal := by
  unfold typeKey
  split
  · exact .inl (insertKey_mode editor key)
  · exact .inl (replaceKey_mode editor key)
  · exact searchKey_mode editor key
  · exact .inl rfl

end Editor

namespace Session

/-- The rules let a mode be entered from the normal one. -/
structure Admits (session : Session) (mode : Mode) : Prop where
  typing : mode.isTyping → ∃ command : Command,
    command.leadsToTyping ∧ session.allows command
  selecting : mode.isVisual → ∃ (command : Command) (key : Char)
    (own : Mode), command.Selects key own ∧ session.allows command

variable {session : Session}

theorem admits_normal : session.Admits .normal := ⟨nofun, nofun⟩

theorem admits_search : session.Admits .search := ⟨nofun, nofun⟩

/-- Only the rules matter. -/
theorem Admits.congr {other : Session} {mode : Mode}
    (admits : session.Admits mode) (same : other.allowed = session.allowed) :
    other.Admits mode := by
  have allows (command : Command) :
      other.allows command = session.allows command := by
    rw [allows, allows, same]
  exact ⟨by simpa only [allows] using admits.typing,
    by simpa only [allows] using admits.selecting⟩

theorem Admits.leadsTo {command : Command} {before after : Mode}
    (admits : session.Admits before) (allowed : session.allows command)
    (leads : command.LeadsTo before after) : session.Admits after := by
  cases leads with
  | same => exact admits
  | normal => exact admits_normal
  | search => exact admits_search
  | typing after typing leads =>
      refine ⟨fun _ => ⟨command, leads, allowed⟩, fun visual => ?_⟩
      rw [Mode.isVisual_eq_false typing] at visual
      cases visual
  | selecting key after selects =>
      refine ⟨fun typing => ?_, fun _ => ⟨command, key, _, selects, allowed⟩⟩
      cases selects <;> cases typing

theorem Taken.admits {key : Key} {result : Response × Session}
    (taken : session.Taken key result)
    (admits : session.Admits session.editor.mode) :
    session.Admits result.2.editor.mode := by
  cases taken with
  | ran command runs =>
      have leads := Editor.perform_leadsTo { session.editor with
        pending := .none, notice := session.editor.mode.banner? } command
      have admitted := admits.leadsTo runs.allowed leads
      rw [← Editor.run_mode_eq] at admitted
      exact admitted
  | completed waiting character _ _ =>
      have mode := Editor.runWithArgument_mode
        { session.editor with pending := .none } waiting character
      change session.Admits (Editor.runWithArgument _ waiting
        character).2.mode
      rw [mode]
      exact admits
  | escaped _ _ => exact admits_normal
  | abandoned _ _ => exact admits_normal
  | typed _ _ =>
      change session.Admits (session.editor.typeKey key).2.mode
      rcases Editor.typeKey_mode session.editor key with still | left
      · rw [still]
        exact admits
      · rw [left]
        exact admits_normal
  | refused _ _ | ignored _ _ | waiting _ _ _ | cancelled _ => exact admits

theorem dispatch_admits (key : Key)
    (admits : session.Admits session.editor.mode) :
    (session.dispatch key).2.Admits (session.dispatch key).2.editor.mode := by
  have taken := takeKey_taken { session with interacted := true } key
  have admitted := taken.admits (admits.congr rfl)
  exact admitted.congr (dispatch_allowed session key)

theorem feed_admits (keys : List Key)
    (admits : session.Admits session.editor.mode) :
    (session.feed keys).Admits (session.feed keys).editor.mode := by
  induction keys generalizing session with
  | nil => exact admits
  | cons key keys ih => exact ih (dispatch_admits key admits)

/-- Where escape is forbidden, no key ends typing. -/
theorem dispatch_isTyping_of_forbidden (key : Key)
    (typing : session.editor.mode.isTyping)
    (forbidden : session.allows .escape = false) :
    (session.dispatch key).2.editor.mode.isTyping := by
  cases escape : key.isEscape with
  | false =>
      have typed := dispatch_typing typing escape
      rw [show (session.dispatch key).2.editor = _ from
        congrArg Prod.snd typed]
      exact Editor.typeKey_isTyping key typing
  | true =>
      have started : { session with interacted := true }.takeKey key =
          { session with interacted := true }.guarded .escape
            (·.run .escape) :=
        takeKey_escape typing escape
      have refused : (session.dispatch key).2.editor =
          ({ session with interacted := true }.reject .escape).editor := by
        simp only [dispatch, started, guarded]
        rw [if_neg (by exact Bool.eq_false_iff.mp forbidden)]
      rw [refused]
      exact typing

theorem feed_isTyping_of_forbidden (keys : List Key)
    (typing : session.editor.mode.isTyping)
    (forbidden : session.allows .escape = false) :
    (session.feed keys).editor.mode.isTyping := by
  induction keys generalizing session with
  | nil => exact typing
  | cons key keys ih =>
      exact ih (dispatch_isTyping_of_forbidden key typing forbidden)
        (by simpa using forbidden)

/-- Escape ends a selection, or at least drops the pending input. -/
theorem dispatch_escape_selecting
    (visual : session.editor.mode.isVisual) :
    let after := (session.dispatch (.plain .escape)).2.editor
    after.mode = .normal ∨
      (after.mode = session.editor.mode ∧ after.pending = .none) := by
  intro after
  have commands := Mode.takesCommands_of_isVisual visual
  have same : after = ({ session with interacted := true }.commandKey
      (.plain .escape)).2.editor :=
    congrArg Prod.snd (dispatch_of_takesCommands _ commands)
  rw [same, commandKey]
  dsimp only
  rw [Interpretation.ofKey_escape]
  by_cases pending : session.editor.pending = .none
  · rw [if_pos pending]
    dsimp only
    rw [if_pos visual, guarded]
    split
    · exact .inl rfl
    · exact .inr ⟨rfl, rfl⟩
  · rw [if_neg pending]
    exact .inr ⟨rfl, rfl⟩

/-- The key that starts a selection ends it or makes it one of its own
kind. -/
theorem dispatch_toggle {command : Command} {key : Char} {own : Mode}
    (selects : command.Selects key own) (allowed : session.allows command)
    (visual : session.editor.mode.isVisual)
    (pending : session.editor.pending = .none) :
    let after := (session.dispatch (.char key)).2.editor
    after.pending = .none ∧
      after.mode = if session.editor.mode = own then .normal else own := by
  intro after
  have completes : Interpretation.ofKey session.editor.mode
      session.editor.pending (.char key) = (.command command, .none) := by
    rw [pending]
    exact Interpretation.ofKey_selects selects visual
  have runs : session.Runs (.char key) command :=
    ⟨Mode.takesCommands_of_isVisual visual, completes, allowed⟩
  have ran : after = _ := congrArg Prod.snd runs.dispatch_eq
  rw [ran]
  exact Editor.run_selects selects visual rfl

/-- Some keys lead back to the normal mode. -/
def CanReturn (session : Session) : Prop :=
  ∃ keys, (session.feed keys).editor.mode = .normal

theorem CanReturn.of_feed (keys : List Key)
    (returns : (session.feed keys).CanReturn) : session.CanReturn := by
  obtain ⟨more, normal⟩ := returns
  exact ⟨keys ++ more, by rw [feed_append]; exact normal⟩

theorem canReturn_of_pending_none
    (admits : session.Admits session.editor.mode)
    (visual : session.editor.mode.isVisual)
    (pending : session.editor.pending = .none) : session.CanReturn := by
  obtain ⟨command, key, own, selects, allowed⟩ := admits.selecting visual
  have first := dispatch_toggle selects allowed visual pending
  by_cases same : session.editor.mode = own
  · refine ⟨[.char key], ?_⟩
    rw [if_pos same] at first
    exact first.2
  · refine ⟨[.char key, .char key], ?_⟩
    rw [if_neg same] at first
    have stillAllowed :
        (session.dispatch (.char key)).2.allows command := by
      simpa using allowed
    have stillVisual :
        (session.dispatch (.char key)).2.editor.mode.isVisual := by
      rw [first.2]
      cases selects <;> rfl
    have toggled := dispatch_toggle selects stillAllowed stillVisual first.1
    rw [if_pos first.2] at toggled
    exact toggled.2

theorem canReturn_of_isVisual
    (admits : session.Admits session.editor.mode)
    (visual : session.editor.mode.isVisual) : session.CanReturn := by
  rcases dispatch_escape_selecting visual with left | ⟨mode, pending⟩
  · exact ⟨[.plain .escape], left⟩
  · -- Input that is pending no longer takes up the key that ends a selection.
    refine .of_feed [.plain .escape] ?_
    have admitted := dispatch_admits (.plain .escape) admits
    refine canReturn_of_pending_none admitted ?_ pending
    rw [feed_cons, feed_nil, mode]
    exact visual

/-- Only typing depends on escape being allowed. -/
theorem canReturn_iff (admits : session.Admits session.editor.mode) :
    session.CanReturn ↔
      (session.editor.mode.isTyping → session.allows .escape) := by
  constructor
  · intro returns typing
    obtain ⟨keys, normal⟩ := returns
    by_contra forbidden
    have still := feed_isTyping_of_forbidden keys typing
      (Bool.eq_false_iff.mpr forbidden)
    rw [normal] at still
    cases still
  · intro escapable
    cases mode : session.editor.mode with
    | normal => exact ⟨[], mode⟩
    | insert | replace =>
        have typing : session.editor.mode.isTyping := by rw [mode]; rfl
        have left := dispatch_escape typing (escapable typing)
        exact ⟨[.plain .escape], congrArg (·.2.mode) left⟩
    | visual | visualLine =>
        exact canReturn_of_isVisual admits (by rw [mode]; rfl)
    | search =>
        refine ⟨[.plain .escape], ?_⟩
        have left : { session with interacted := true }.takeKey
            (.plain .escape) =
              { session with interacted := true }.adopt
                (.shown, session.editor.leave) := by
          simp only [takeKey, mode]
          rfl
        simp only [feed_cons, feed_nil, dispatch, left]
        rfl

theorem ofLesson_canReturn_iff (lesson : Lesson) (depth : Nat)
    (keys : List Key) :
    let session := (ofLesson lesson depth).feed keys
    session.CanReturn ↔
      (session.editor.mode.isTyping → lesson.allowed.contains .escape) := by
  intro session
  have allows : session.allows .escape = lesson.allowed.contains .escape :=
    feed_allows _ keys .escape
  rw [← allows]
  exact canReturn_iff (feed_admits keys admits_normal)

end Session

/-- The commands of the lesson let typing begin but not end. -/
def Lesson.trapsTyping (lesson : Lesson) : Bool :=
  lesson.allowed.toList.any Command.leadsToTyping &&
    !lesson.allowed.contains .escape

/-- Typing has begun only where the commands let it begin. -/
theorem Lesson.trapsTyping_of_isTyping {lesson : Lesson} {depth : Nat}
    {keys : List Key}
    (typing :
      ((Session.ofLesson lesson depth).feed keys).editor.mode.isTyping)
    (forbidden : lesson.allowed.contains .escape = false) :
    lesson.trapsTyping := by
  have fresh : (Session.ofLesson lesson depth).Admits .normal :=
    Session.admits_normal
  have admits := Session.feed_admits keys fresh
  obtain ⟨command, leads, allowed⟩ := admits.typing typing
  rw [Session.feed_allows] at allowed
  have member : command ∈ lesson.allowed.toList :=
    List.contains_iff_mem.mp allowed
  rw [trapsTyping, forbidden, Bool.not_false, Bool.and_true]
  exact List.any_eq_true.mpr ⟨command, member, leads⟩

namespace Catalog

theorem sortById_of_ascending {lessons : List Lesson}
    (ascending : lessons.Pairwise fun first second => first.id < second.id) :
    sortById lessons = lessons := by
  induction ascending with
  | nil => rfl
  | @cons lesson rest before _ ih =>
      rw [sortById, ih]
      cases rest with
      | nil => rfl
      | cons head rest =>
          rw [insertById, if_pos (before head List.mem_cons_self)]

theorem builtin_eq : builtin = .ok ⟨Tutorial.lessons⟩ := by
  have faultless : firstFault? [] Tutorial.lessons = none := by
    decide +kernel
  have sorted : sortById Tutorial.lessons = Tutorial.lessons :=
    sortById_of_ascending (by decide +kernel)
  rw [builtin, ofLessons, faultless, sorted]

theorem trapsTyping_of_mem :
    ∀ lesson ∈ Tutorial.lessons,
      lesson.trapsTyping = decide (lesson.id = 12) := by
  decide +kernel

/-- A lesson of the tutorial leaves a way back to the normal mode after any
keys, unless they have begun typing in the one lesson that does not allow
escape. -/
theorem builtin_returns_iff (lesson : Lesson) (depth : Nat)
    (keys : List Key) :
    ∃ catalog, builtin = .ok catalog ∧
      (lesson ∈ catalog.lessons →
        let session := (Session.ofLesson lesson depth).feed keys
        (∃ more, (session.feed more).editor.mode = .normal) ↔
          ¬(lesson.id = 12 ∧ session.editor.mode.isTyping)) := by
  refine ⟨⟨Tutorial.lessons⟩, builtin_eq, ?_⟩
  intro member session
  have traps := trapsTyping_of_mem lesson member
  refine (Session.ofLesson_canReturn_iff lesson depth keys).trans ?_
  constructor
  · rintro escapable ⟨twelfth, typing⟩
    have trapped : lesson.trapsTyping := by
      rw [traps, twelfth]
      rfl
    rw [Lesson.trapsTyping, escapable typing] at trapped
    simp at trapped
  · intro untrapped typing
    by_contra forbidden
    have trapped : lesson.trapsTyping :=
      Lesson.trapsTyping_of_isTyping typing (Bool.eq_false_iff.mpr forbidden)
    rw [traps] at trapped
    exact untrapped ⟨of_decide_eq_true trapped, typing⟩

/-- A selection of characters that another key has made one of lines, with a
command begun. -/
theorem returns_from_selection :
    ∃ catalog, builtin = .ok catalog ∧
      Tutorial.visualMode ∈ catalog.lessons ∧
      let session := (Session.ofLesson Tutorial.visualMode 3).feed
        [.char 'v', .char 'V', .char 'g']
      session.editor.mode = .visualLine ∧
      session.editor.pending = .keys ['g'] ∧
      ∃ more, (session.feed more).editor.mode = .normal := by
  obtain ⟨catalog, built, returns⟩ := builtin_returns_iff
    Tutorial.visualMode 3 [.char 'v', .char 'V', .char 'g']
  obtain rfl : ⟨Tutorial.lessons⟩ = catalog :=
    Except.ok.inj (builtin_eq.symm.trans built)
  have member : Tutorial.visualMode ∈ Tutorial.lessons := by
    simp [Tutorial.lessons]
  refine ⟨_, built, member, by decide +kernel, by decide +kernel, ?_⟩
  refine (returns member).mpr ?_
  rintro ⟨twelfth, -⟩
  exact absurd twelfth (by decide)

/-- Once the lesson on marks has let typing begin, no keys end it. -/
theorem typing_in_marks_lesson_is_a_trap :
    ∃ catalog, builtin = .ok catalog ∧
      Tutorial.marksAndJumps ∈ catalog.lessons ∧
      let session := (Session.ofLesson Tutorial.marksAndJumps 3).feed
        [.char 'a']
      ¬∃ more, (session.feed more).editor.mode = .normal := by
  refine ⟨_, builtin_eq, by simp [Tutorial.lessons], ?_⟩
  intro session
  have typing : session.editor.mode.isTyping := by decide +kernel
  rw [show (∃ more, (session.feed more).editor.mode = .normal) ↔ _ from
    Session.ofLesson_canReturn_iff Tutorial.marksAndJumps 3 [.char 'a']]
  intro escapable
  exact absurd (escapable typing) (by decide +kernel)

end Catalog

end ModalTutor
