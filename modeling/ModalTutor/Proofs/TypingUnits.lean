import ModalTutor.Proofs.UndoRedo

/-!
# Units of undo

The keys of a typing session, from the command that begins it to the escape
that ends it, are cut into segments.  `typing_undoes_by_segments` says that
the session adds a snapshot to the history for every segment with an edit, and
that undoing as many times takes back all that was typed.
-/

namespace ModalTutor

/-- The key begins a new line. -/
def Mode.breaksLine (mode : Mode) (code : KeyCode) : Bool :=
  mode = .insert && code = .enter

/-- A key with the mode that took it, and whether it reported an edit. -/
structure Stroke where
  key : Key
  mode : Mode
  edited : Bool
  deriving DecidableEq, Repr

namespace Stroke

/-- A new line is the last stroke of its segment. -/
def endsSegment (stroke : Stroke) : Bool :=
  stroke.mode.breaksLine stroke.key.code

/-- An arrow key is the first stroke of its segment. -/
def beginsSegment (stroke : Stroke) : Bool :=
  stroke.key.code.isArrow

/-- The rest of the current segment and the segments after it. -/
def segmentsFrom : List Stroke → List Stroke × List (List Stroke)
  | [] => ([], [])
  | stroke :: rest =>
      let parts := segmentsFrom rest
      if stroke.endsSegment then ([stroke], parts.1 :: parts.2)
      else if stroke.beginsSegment then ([], (stroke :: parts.1) :: parts.2)
      else (stroke :: parts.1, parts.2)

def segments (strokes : List Stroke) : List (List Stroke) :=
  (segmentsFrom strokes).1 :: (segmentsFrom strokes).2

/-- How many of the segments have an edit. -/
def countEdited (segments : List (List Stroke)) : Nat :=
  segments.countP fun segment => segment.any edited

/-- How many snapshots are still to come: an open run has its own already. -/
def unitsLeft (running : Bool) (strokes : List Stroke) : Nat :=
  countEdited
    (if running then (segmentsFrom strokes).2 else segments strokes)

theorem unitsLeft_nil (running : Bool) : unitsLeft running [] = 0 := by
  cases running <;> rfl

theorem unitsLeft_quiet {stroke : Stroke} (running : Bool)
    (rest : List Stroke) (unedited : stroke.edited = false)
    (ends : stroke.endsSegment = false)
    (begins : stroke.beginsSegment = false) :
    unitsLeft running (stroke :: rest) = unitsLeft running rest := by
  cases running <;>
    simp [unitsLeft, segments, segmentsFrom, countEdited, unedited, ends,
      begins, List.countP_cons]

theorem unitsLeft_arrow {stroke : Stroke} (running : Bool)
    (rest : List Stroke) (unedited : stroke.edited = false)
    (ends : stroke.endsSegment = false)
    (begins : stroke.beginsSegment) :
    unitsLeft running (stroke :: rest) = unitsLeft false rest := by
  cases running <;>
    simp [unitsLeft, segments, segmentsFrom, countEdited, unedited, ends,
      begins, List.countP_cons]

/-- An edit counts unless it belongs to an open run. -/
theorem unitsLeft_edited {stroke : Stroke} (running : Bool)
    (rest : List Stroke) (edited : stroke.edited)
    (begins : stroke.beginsSegment = false) :
    unitsLeft running (stroke :: rest) =
      unitsLeft (!stroke.endsSegment) rest + (if running then 0 else 1) := by
  cases ends : stroke.endsSegment <;> cases running <;>
    simp [unitsLeft, segments, segmentsFrom, countEdited, edited, ends,
      begins, List.countP_cons]

end Stroke

namespace Session

def stroke (session : Session) (key : Key) : Stroke :=
  ⟨key, session.editor.mode, (session.dispatch key).1.edited⟩

def strokes (session : Session) : List Key → List Stroke
  | [] => []
  | key :: keys =>
      session.stroke key :: (session.dispatch key).2.strokes keys

/-- An edit records the text before it unless it belongs to an open run. -/
def records (session : Session) (key : Key) : Bool :=
  (session.dispatch key).1.edited && !session.editor.history.typing

/-- No snapshot is dropped while the keys are taken. -/
def HasRoom (session : Session) : List Key → Prop
  | [] => True
  | key :: keys =>
      (session.records key → session.editor.history.past.length <
        session.editor.history.limit) ∧
      (session.dispatch key).2.HasRoom keys

instance decidableHasRoom : (session : Session) → (keys : List Key) →
    Decidable (session.HasRoom keys)
  | _, [] => .isTrue trivial
  | session, key :: keys =>
      have := decidableHasRoom (session.dispatch key).2 keys
      inferInstanceAs (Decidable (_ ∧ _))

end Session

namespace Editor

/-- What a key of a typing session can do to the text and its history. -/
inductive TypingStep (editor : Editor) (key : Key) :
    Response × Editor → Prop where
  | quiet {result : Response × Editor} (unedited : result.1.edited = false)
      (goesOn : editor.mode.breaksLine key.code = false)
      (begins : key.code.isArrow = false)
      (buffer : result.2.buffer = editor.buffer)
      (history : result.2.history = editor.history) :
      TypingStep editor key result
  | arrow {result : Response × Editor} (unedited : result.1.edited = false)
      (begins : key.code.isArrow)
      (buffer : result.2.buffer = editor.buffer)
      (history : result.2.history = editor.history.closeRun) :
      TypingStep editor key result
  | edited {result : Response × Editor} (cursor : Position)
      (edited : result.1.edited) (begins : key.code.isArrow = false)
      (history : result.2.history =
        { editor.history.recordTyping ⟨editor.buffer, cursor⟩ with
          typing := !editor.mode.breaksLine key.code }) :
      TypingStep editor key result

theorem openRun_recordTyping (history : History) (snapshot : Snapshot) :
    (history.recordTyping snapshot).openRun =
      history.recordTyping snapshot := by
  unfold History.recordTyping
  split
  · next running => rw [History.openRun, ← running]
  · rfl

theorem TypingStep.typed {editor : Editor} {key : Key} (buffer : Buffer)
    (cursor : Position) (goesOn : editor.mode.breaksLine key.code = false)
    (begins : key.code.isArrow = false) :
    editor.TypingStep key
      (.changed, editor.settleTyping.typeChange buffer cursor) := by
  refine .edited editor.settleTyping.cursor rfl begins ?_
  rw [goesOn]
  exact (openRun_recordTyping _ _).symm

/-- Only the mode, the text and the history matter to a step. -/
theorem TypingStep.congr {editor other : Editor} {key : Key}
    {result : Response × Editor} (step : other.TypingStep key result)
    (mode : other.mode = editor.mode) (buffer : other.buffer = editor.buffer)
    (history : other.history = editor.history) :
    editor.TypingStep key result := by
  cases step with
  | quiet unedited goesOn begins sameBuffer sameHistory =>
      exact .quiet unedited (mode ▸ goesOn) begins (sameBuffer.trans buffer)
        (sameHistory.trans history)
  | arrow unedited begins sameBuffer closed =>
      exact .arrow unedited begins (sameBuffer.trans buffer)
        (history ▸ closed)
  | edited cursor edited begins recorded =>
      exact .edited cursor edited begins
        (mode ▸ buffer ▸ history ▸ recorded)

theorem insertKey_step {editor : Editor} (key : Key)
    (mode : editor.mode = .insert) :
    editor.TypingStep key (editor.insertKey key) := by
  unfold insertKey
  dsimp only
  split
  · next code =>
      refine .edited editor.settleTyping.cursor rfl (by rw [code]; rfl) ?_
      rw [mode, code]
      rfl
  · next code =>
      have goesOn : editor.mode.breaksLine key.code = false := by
        rw [mode, code]; rfl
      have begins : key.code.isArrow = false := by rw [code]; rfl
      split
      · exact .quiet rfl goesOn begins rfl rfl
      · exact .typed _ _ goesOn begins
  · next newline _ =>
      have goesOn : editor.mode.breaksLine key.code = false := by
        simpa [Mode.breaksLine] using fun _ => newline
      split
      · next target moved =>
          exact .arrow rfl (KeyCode.isArrow_of_arrow? moved) rfl rfl
      · next still =>
          have begins := KeyCode.arrow?_eq_none.mp still
          split
          · exact .typed _ _ goesOn begins
          · exact .quiet rfl goesOn begins rfl rfl

theorem replaceKey_step {editor : Editor} (key : Key)
    (mode : editor.mode = .replace) :
    editor.TypingStep key (editor.replaceKey key) := by
  have goesOn : editor.mode.breaksLine key.code = false := by rw [mode]; rfl
  unfold replaceKey
  dsimp only
  split
  · next code => exact .quiet rfl goesOn (by rw [code]; rfl) rfl rfl
  · split
    · next target moved =>
        exact .arrow rfl (KeyCode.isArrow_of_arrow? moved) rfl rfl
    · next still =>
        have begins := KeyCode.arrow?_eq_none.mp still
        split
        · exact .typed _ _ goesOn begins
        · exact .quiet rfl goesOn begins rfl rfl

theorem typeKey_step {editor : Editor} (key : Key)
    (typing : editor.mode.isTyping) :
    editor.TypingStep key (editor.typeKey key) := by
  rcases Mode.insert_or_replace typing with mode | mode
  · rw [typeKey, mode]
    exact insertKey_step key mode
  · rw [typeKey, mode]
    exact replaceKey_step key mode

theorem typeKey_isTyping {editor : Editor} (key : Key)
    (typing : editor.mode.isTyping) :
    (editor.typeKey key).2.mode.isTyping := by
  rcases Mode.insert_or_replace typing with mode | mode
  · simp only [typeKey, mode]
    rw [insertKey_mode]
    exact typing
  · simp only [typeKey, mode]
    rw [replaceKey_mode]
    exact typing

end Editor

/-- The commands that lead on to typing. -/
def Command.leadsToTyping : Command → Bool
  | insert | append | appendLineEnd | insertLineStart | openBelow | openAbove
  | replaceMode | changeWord => true
  | _ => false

namespace Editor

theorem changeWord_entersInsert (buffer : Buffer) (cursor : Position) :
    (Edit.changeWord buffer cursor).entersInsert = true := by
  unfold Edit.changeWord
  dsimp only
  split <;> rfl

theorem perform_step {editor : Editor} {key : Key} {command : Command}
    (closed : editor.history.typing = false) (mode : editor.mode = .normal)
    (begins : key.code.isArrow = false) (leads : command.leadsToTyping) :
    editor.TypingStep key (editor.perform command) := by
  have stillClosed : editor.history.closeRun = editor.history := by
    rw [History.closeRun, ← closed]
  have recorded (snapshot : Snapshot) :
      (editor.history.record snapshot).openRun =
        { editor.history.recordTyping snapshot with typing := true } := by
    simp [History.recordTyping, History.openRun, closed]
  have goesOn : editor.mode.breaksLine key.code = false := by rw [mode]; rfl
  cases command with
  | insert | append | appendLineEnd | insertLineStart | replaceMode =>
      exact .quiet rfl goesOn begins rfl stillClosed
  | openBelow | openAbove =>
      refine .edited editor.cursor rfl begins ?_
      rw [mode]
      exact recorded editor.snapshot
  | changeWord =>
      have enters := changeWord_entersInsert editor.buffer editor.cursor
      simp only [perform, runEdit, enters, if_true]
      cases changed : editor.changedBy
          (Edit.changeWord editor.buffer editor.cursor) with
      | false =>
          have kept := applyEdit_keepsText changed
          refine .quiet rfl goesOn begins kept.buffer ?_
          exact (congrArg History.closeRun (kept.history_eq closed)).trans
            stillClosed
      | true =>
          refine .edited editor.cursor rfl begins ?_
          rw [mode]
          exact (congrArg History.openRun (applyEdit_history changed)).trans
            (recorded editor.snapshot)
  | _ => cases leads

theorem perform_isTyping (editor : Editor) {command : Command}
    (leads : command.leadsToTyping) :
    (editor.perform command).2.mode.isTyping := by
  cases command with
  | insert | append | appendLineEnd | insertLineStart | replaceMode
  | openBelow | openAbove => rfl
  | changeWord =>
      have enters := changeWord_entersInsert editor.buffer editor.cursor
      simp only [perform, runEdit, enters, if_true]
      split <;> rfl
  | _ => cases leads

theorem run_of_isTyping {editor : Editor} {command : Command}
    (typing : (editor.perform command).2.mode.isTyping) :
    editor.run command = editor.perform command := by
  rcases Mode.insert_or_replace typing with mode | mode
  · simp only [run, mode]
  · simp only [run, mode]

end Editor

namespace Session

/-- What some keys add to the history of a session. -/
structure Gains (session : Session) (keys : List Key)
    (recorded : List Snapshot) : Prop where
  past : (session.feed keys).editor.history.past =
    recorded ++ session.editor.history.past
  count : recorded.length =
    Stroke.unitsLeft session.editor.history.typing (session.strokes keys)
  /-- The snapshots lead back to the text, unless it is that of a run that was
  open already. -/
  text : session.editor.history.typing = false →
    oldestText (session.feed keys).editor.buffer recorded =
      session.editor.buffer

namespace Gains

variable {session : Session} {key : Key} {keys : List Key}
  {recorded : List Snapshot}

theorem of_kept
    (kept : session.editor.KeepsText (session.dispatch key).2.editor)
    (units : Stroke.unitsLeft session.editor.history.typing
        (session.strokes (key :: keys)) =
      Stroke.unitsLeft (session.dispatch key).2.editor.history.typing
        ((session.dispatch key).2.strokes keys))
    (later : (session.dispatch key).2.Gains keys recorded) :
    session.Gains (key :: keys) recorded where
  past := kept.past ▸ later.past
  count := later.count.trans units.symm
  text closed := by
    have stillClosed :
        (session.dispatch key).2.editor.history.typing = false := by
      simpa [closed] using kept.typing
    exact (later.text stillClosed).trans kept.buffer

/-- An edit in an open run adds nothing of its own. -/
theorem of_continued (running : session.editor.history.typing)
    (past : (session.dispatch key).2.editor.history.past =
      session.editor.history.past)
    (units : Stroke.unitsLeft true (session.strokes (key :: keys)) =
      Stroke.unitsLeft (session.dispatch key).2.editor.history.typing
        ((session.dispatch key).2.strokes keys))
    (later : (session.dispatch key).2.Gains keys recorded) :
    session.Gains (key :: keys) recorded where
  past := past ▸ later.past
  count := by
    rw [running, units]
    exact later.count
  text closed := by
    rw [running] at closed
    cases closed

/-- An edit outside an open run adds the text before it. -/
theorem of_recorded {cursor : Position}
    (past : (session.dispatch key).2.editor.history.past =
      ⟨session.editor.buffer, cursor⟩ :: session.editor.history.past)
    (units : Stroke.unitsLeft session.editor.history.typing
        (session.strokes (key :: keys)) =
      Stroke.unitsLeft (session.dispatch key).2.editor.history.typing
        ((session.dispatch key).2.strokes keys) + 1)
    (later : (session.dispatch key).2.Gains keys recorded) :
    session.Gains (key :: keys)
      (recorded ++ [⟨session.editor.buffer, cursor⟩]) where
  past := by
    rw [List.append_assoc, List.singleton_append, ← past]
    exact later.past
  count := by
    rw [units, ← later.count, List.length_append, List.length_singleton]
  text _ := by
    rw [oldestText_append]
    rfl

theorem of_step
    (step : session.editor.TypingStep key
      ((session.dispatch key).1, (session.dispatch key).2.editor))
    (room : session.records key → session.editor.history.past.length <
      session.editor.history.limit)
    (later : (session.dispatch key).2.Gains keys recorded) :
    ∃ recorded, session.Gains (key :: keys) recorded := by
  cases step with
  | quiet unedited goesOn begins buffer history =>
      refine ⟨recorded, of_kept (.of_history buffer history id) ?_ later⟩
      rw [history]
      exact Stroke.unitsLeft_quiet _ _ unedited goesOn begins
  | arrow unedited begins buffer history =>
      have goesOn : session.editor.mode.breaksLine key.code = false := by
        cases code : key.code with
        | up | down | left | right => simp [Mode.breaksLine]
        | char _ | enter | escape | backspace | tab =>
            rw [code] at begins
            cases begins
      refine ⟨recorded, of_kept (.of_history buffer history nofun) ?_ later⟩
      rw [history]
      exact Stroke.unitsLeft_arrow _ _ unedited goesOn begins
  | edited cursor edited begins history =>
      have units := Stroke.unitsLeft_edited session.editor.history.typing
        ((session.dispatch key).2.strokes keys)
        (show (session.stroke key).edited from edited) begins
      cases running : session.editor.history.typing with
      | true =>
          refine ⟨recorded, of_continued running ?_ ?_ later⟩
          · rw [history]
            simp [History.recordTyping, running]
          · rw [running] at units
            rw [history]
            exact units
      | false =>
          have records : session.records key := by
            have unrecorded : (!session.editor.history.typing) = true := by
              rw [running]
              rfl
            exact Bool.and_eq_true_iff.mpr ⟨edited, unrecorded⟩
          have past : (session.dispatch key).2.editor.history.past =
              ⟨session.editor.buffer, cursor⟩ ::
                session.editor.history.past := by
            rw [history]
            simpa [History.recordTyping, running]
              using History.record_past_of_room (room records)
          refine ⟨_, of_recorded past ?_ later⟩
          · rw [running] at units ⊢
            rw [history]
            exact units

theorem of_escape (typing : session.editor.mode.isTyping)
    (allowed : session.allows .escape) :
    session.Gains [.plain .escape] [] := by
  have taken := dispatch_escape typing allowed
  have unedited : (session.dispatch (.plain .escape)).1.edited = false :=
    congrArg (fun result => result.1.edited) taken
  have kept : session.editor.KeepsText
      (session.dispatch (.plain .escape)).2.editor := by
    rw [show (session.dispatch (.plain .escape)).2.editor = _ from
      congrArg Prod.snd taken]
    exact Editor.escape_keepsText _
  have goesOn : session.editor.mode.breaksLine .escape = false := by
    simp [Mode.breaksLine]
  refine of_kept kept ?_ ⟨rfl, (Stroke.unitsLeft_nil _).symm, fun _ => rfl⟩
  calc
    Stroke.unitsLeft session.editor.history.typing
        (session.strokes [.plain .escape]) =
      Stroke.unitsLeft session.editor.history.typing [] :=
        Stroke.unitsLeft_quiet _ _ unedited goesOn rfl
    _ = 0 := Stroke.unitsLeft_nil _
    _ = _ := (Stroke.unitsLeft_nil _).symm

end Gains

theorem exists_gains_of_isTyping (typed : List Key) :
    ∀ {session : Session}, session.editor.mode.isTyping →
      session.allows .escape → (∀ key ∈ typed, key.isEscape = false) →
      session.HasRoom (typed ++ [.plain .escape]) →
      (session.feed (typed ++ [.plain .escape])).Idle ∧
        ∃ recorded, session.Gains (typed ++ [.plain .escape]) recorded := by
  induction typed with
  | nil =>
      intro session typing allowed _ _
      have taken := congrArg Prod.snd (dispatch_escape typing allowed)
      exact ⟨⟨congrArg Editor.mode taken, congrArg Editor.pending taken⟩,
        [], .of_escape typing allowed⟩
  | cons key typed ih =>
      intro session typing allowed unescaped room
      have taken := dispatch_typing typing (unescaped key (by simp))
      have step := Editor.typeKey_step key typing
      have stillTyping := Editor.typeKey_isTyping key typing
      rw [← taken] at step stillTyping
      obtain ⟨idle, recorded, gains⟩ := ih stillTyping
        (by simpa using allowed)
        (fun key member => unescaped key (List.mem_cons_of_mem _ member))
        room.2
      exact ⟨idle, gains.of_step step room.1⟩

theorem dispatch_pending {session : Session} {key : Key} {kept : Pending}
    (commands : session.editor.mode.takesCommands)
    (found : Interpretation.ofKey session.editor.mode session.editor.pending
      key = (.pending, kept)) :
    ((session.dispatch key).1, (session.dispatch key).2.editor) =
      (.shown, { session.editor with
        pending := kept
        notice := kept.prompt?.map .shown }) := by
  rw [dispatch_of_takesCommands key commands]
  simp only [commandKey, found]

theorem command_step {session : Session} {key : Key} {command : Command}
    (mode : session.editor.mode = .normal)
    (closed : session.editor.history.typing = false)
    (found : Interpretation.ofKey .normal session.editor.pending key =
      (.command command, .none))
    (begins : key.code.isArrow = false) (leads : command.leadsToTyping)
    (allowed : session.allows command) :
    session.editor.TypingStep key
        ((session.dispatch key).1, (session.dispatch key).2.editor) ∧
      (session.dispatch key).2.editor.mode.isTyping := by
  have runs : session.Runs key command :=
    ⟨by rw [mode]; rfl, by rw [mode]; exact found, allowed⟩
  let ready : Editor := { session.editor with
    pending := .none
    notice := session.editor.mode.banner? }
  have typing := ready.perform_isTyping leads
  have step : ready.TypingStep key (ready.perform command) :=
    Editor.perform_step closed mode begins leads
  rw [← Editor.run_of_isTyping typing, ← runs.dispatch_eq] at step typing
  exact ⟨step.congr rfl rfl rfl, typing⟩

/-- The keys that lead from the normal mode to typing. -/
def typingCommands : List Text :=
  [['i'], ['a'], ['A'], ['I'], ['o'], ['O'], ['R'], ['c', 'w']]

theorem ofKey_typingCommand {character : Char}
    (single : [character] ∈ typingCommands) {key : Key}
    (printable : key.printable? = some character) :
    ∃ command, Interpretation.ofKey .normal .none key =
        (.command command, .none) ∧
      command.leadsToTyping := by
  obtain ⟨shift, rfl⟩ := Key.printable?_eq_some printable
  simp only [typingCommands, List.mem_cons, List.cons.injEq, and_true,
    List.not_mem_nil, or_false] at single
  rcases single with rfl | rfl | rfl | rfl | rfl | rfl | rfl | ⟨_, never⟩
  all_goals first
    | cases never
    | cases shift <;> exact ⟨_, rfl, rfl⟩

theorem typingCommands_cases {command : Text}
    (typing : command ∈ typingCommands) :
    command = ['c', 'w'] ∨ ∃ character, command = [character] := by
  simp only [typingCommands, List.mem_cons, List.not_mem_nil,
    or_false] at typing
  rcases typing with rfl | rfl | rfl | rfl | rfl | rfl | rfl | rfl
  all_goals first
    | exact .inr ⟨_, rfl⟩
    | exact .inl rfl

/-- The first key of a command of two keys. -/
theorem changeKey_step {session : Session} {key : Key} (idle : session.Idle)
    (printable : key.printable? = some 'c') :
    session.editor.TypingStep key
        ((session.dispatch key).1, (session.dispatch key).2.editor) ∧
      (session.dispatch key).2.editor =
        { session.editor with
          pending := .keys ['c']
          notice := some (.shown ['c']) } := by
  have begins := Key.isArrow_of_printable? printable
  have goesOn : session.editor.mode.breaksLine key.code = false := by
    rw [idle.mode]; rfl
  have found : Interpretation.ofKey session.editor.mode
      session.editor.pending key = (.pending, .keys ['c']) := by
    obtain ⟨shift, rfl⟩ := Key.printable?_eq_some printable
    rw [idle.mode, idle.pending]
    cases shift <;> rfl
  have taken := dispatch_pending (by rw [idle.mode]; rfl) found
  constructor
  · rw [taken]
    exact .quiet rfl goesOn begins rfl rfl
  · exact congrArg Prod.snd taken

theorem exists_gains_of_step {session : Session} {key : Key}
    {typed : List Key}
    (step : session.editor.TypingStep key
        ((session.dispatch key).1, (session.dispatch key).2.editor) ∧
      (session.dispatch key).2.editor.mode.isTyping)
    (allowed : session.allows .escape)
    (unescaped : ∀ key ∈ typed, key.isEscape = false)
    (room : session.HasRoom (key :: (typed ++ [.plain .escape]))) :
    (session.feed (key :: (typed ++ [.plain .escape]))).Idle ∧
      ∃ recorded,
        session.Gains (key :: (typed ++ [.plain .escape])) recorded := by
  obtain ⟨idle, recorded, gains⟩ := exists_gains_of_isTyping typed step.2
    (by simpa using allowed) unescaped room.2
  exact ⟨idle, gains.of_step step.1 room.1⟩

theorem exists_gains {session : Session} (idle : session.Idle)
    (closed : session.editor.history.typing = false)
    (allowed : ∀ command, session.allows command) {command : Text}
    (typing : command ∈ typingCommands) {entry typed : List Key}
    (entered : entry.map Key.printable? = command.map some)
    (unescaped : ∀ key ∈ typed, key.isEscape = false)
    (room : session.HasRoom (entry ++ typed ++ [.plain .escape])) :
    (session.feed (entry ++ typed ++ [.plain .escape])).Idle ∧
      ∃ recorded,
        session.Gains (entry ++ typed ++ [.plain .escape]) recorded := by
  rcases typingCommands_cases typing with rfl | ⟨character, rfl⟩
  · obtain ⟨first, rest, rfl, change, entered⟩ :=
      List.map_eq_cons_iff.mp entered
    obtain ⟨second, rfl, word⟩ := List.map_eq_singleton_iff.mp entered
    obtain ⟨firstStep, pending⟩ := changeKey_step idle change
    have found : Interpretation.ofKey .normal
        (session.dispatch first).2.editor.pending second =
          (.command .changeWord, .none) := by
      obtain ⟨shift, rfl⟩ := Key.printable?_eq_some word
      rw [pending]
      cases shift <;> rfl
    have secondStep := command_step (by rw [pending]; exact idle.mode)
      (by rw [pending]; exact closed) found
      (Key.isArrow_of_printable? word) rfl
      (by simpa using allowed .changeWord)
    obtain ⟨idleAfter, recorded, gains⟩ := exists_gains_of_step secondStep
      (by simpa using allowed .escape) unescaped room.2
    exact ⟨idleAfter, gains.of_step firstStep room.1⟩
  · obtain ⟨key, rfl, printable⟩ := List.map_eq_singleton_iff.mp entered
    obtain ⟨command, found, leads⟩ := ofKey_typingCommand typing printable
    have step := command_step idle.mode closed
      (by rw [idle.pending]; exact found)
      (Key.isArrow_of_printable? printable) leads (allowed command)
    exact exists_gains_of_step step (allowed .escape) unescaped room

/-- A typing session adds a snapshot for each of its segments with an edit, and
undoing as many times takes back all that was typed. -/
theorem typing_undoes_by_segments {session : Session}
    (reachable : Reachable session) (unrestricted : session.allowed = none)
    (idle : session.Idle) {command : Text} (typing : command ∈ typingCommands)
    {entry typed : List Key}
    (entered : entry.map Key.printable? = command.map some)
    (unescaped : ∀ key ∈ typed, key.isEscape = false)
    (room : session.HasRoom (entry ++ typed ++ [.plain .escape])) :
    let keys := entry ++ typed ++ [.plain .escape]
    let after := session.feed keys
    let count := Stroke.countEdited (Stroke.segments (session.strokes keys))
    after.editor.history.past.length =
        session.editor.history.past.length + count ∧
      (after.feed (List.replicate count .undo)).editor.buffer.lines =
        session.editor.buffer.lines := by
  intro keys after count
  have closed := reachable.sound.closed (by rw [idle.mode]; rfl)
  have allows (command : Command) : session.allows command := by
    simp [allows, unrestricted]
  obtain ⟨idleAfter, recorded, gains⟩ :=
    exists_gains idle closed allows typing entered unescaped room
  have counted : recorded.length = count := by
    rw [gains.count, closed]
    rfl
  have undone := Idle.undo_recorded recorded session.editor.history.past
    idleAfter (by simpa [after] using allows .undo) gains.past
  constructor
  · rw [gains.past, List.length_append, counted, Nat.add_comm]
  · rw [counted] at undone
    exact congrArg Buffer.lines (undone.2.trans (gains.text closed))

/-- Changing a word, beginning a line and moving in between makes three units
of undo. -/
theorem change_newline_arrow_undoes :
    let session := ofBuffer (.ofLines [['a', 'b'], ['c']]) 3
    let keys : List Key := [.char 'c', .char 'w'] ++
      [.char 'x', .plain .enter, .char 'y', .plain .left, .char 'z'] ++
      [.plain .escape]
    let after := session.feed keys
    let count := Stroke.countEdited (Stroke.segments (session.strokes keys))
    session.HasRoom keys ∧ count = 3 ∧
      after.editor.history.past.length =
        session.editor.history.past.length + count ∧
      (after.feed (List.replicate count .undo)).editor.buffer.lines =
        session.editor.buffer.lines := by
  have room : (ofBuffer (.ofLines [['a', 'b'], ['c']]) 3).HasRoom
      ([.char 'c', .char 'w'] ++
        [.char 'x', .plain .enter, .char 'y', .plain .left, .char 'z'] ++
        [.plain .escape]) := by
    decide +kernel
  have undone := typing_undoes_by_segments
    (.ofBuffer (.ofLines [['a', 'b'], ['c']]) 3) rfl ⟨rfl, rfl⟩
    (show ['c', 'w'] ∈ typingCommands by decide) rfl (by decide) room
  dsimp only at undone ⊢
  exact ⟨room, by decide +kernel, undone⟩

end Session

end ModalTutor
