import ModalTutor.Proofs.KeyNotation
import ModalTutor.Proofs.LinedText
import ModalTutor.Proofs.Soundness

/-!
# Lines without line feeds

A line feed gets into a line only by a key that prints one, where text is
typed or a character replaced.  `Session.linedThroughout_iff` says that the
lines of the text and of every snapshot are whole throughout a run just if no
key of the run does so, and that none does unless the script of the run has a
line feed in it.
-/

namespace ModalTutor

theorem Key.free_of_printable? {key : Key} {character : Char}
    (printable : key.printable? = some character)
    (harmless : key.printable? ≠ some '\n') : '\n' ∉ [character] := by
  intro member
  rw [List.mem_singleton.mp member] at harmless
  exact harmless printable

theorem Pending.eq_replacement {pending : Pending}
    (awaited : pending.awaits? = some .replaceChar) :
    pending = .replacement := by
  cases pending with
  | replacement => rfl
  | none | keys _ | markToSet | markToReach => cases awaited

namespace Editor

structure TextLined (editor : Editor) : Prop where
  buffer : editor.buffer.Lined
  register : editor.register.Lined

/-- Every snapshot that undo or redo can come to. -/
def SnapshotsLined (editor : Editor) : Prop :=
  ∀ snapshot ∈ editor.history.past ++ editor.history.future,
    snapshot.buffer.Lined

structure Lined (editor : Editor) : Prop where
  text : editor.TextLined
  snapshots : editor.SnapshotsLined

theorem leave_textLined {editor : Editor} (lined : editor.TextLined) :
    editor.leave.TextLined := by
  unfold leave
  cases editor.mode <;> exact ⟨lined.buffer, lined.register⟩

theorem applyEdit_textLined {editor : Editor} (lined : editor.TextLined)
    {edit : Edit} (editLined : edit.Lined) :
    (editor.applyEdit edit).TextLined where
  buffer := by
    rw [applyEdit_buffer]
    cases made : edit.buffer with
    | none => exact lined.buffer
    | some buffer => exact editLined.buffer buffer made
  register := by
    unfold applyEdit
    dsimp only
    cases filled : edit.register with
    | none => exact lined.register
    | some register => exact editLined.register register filled

theorem runEdit_textLined {editor : Editor} (lined : editor.TextLined)
    {edit : Edit} (editLined : edit.Lined) :
    (editor.runEdit edit).2.TextLined := by
  have applied := applyEdit_textLined lined editLined
  unfold runEdit
  dsimp only
  split
  · split <;> exact ⟨applied.buffer, applied.register⟩
  · exact applied

theorem runSelection_textLined {editor : Editor} (lined : editor.TextLined)
    {edit : Buffer → Selection → Edit}
    (editLined : ∀ {buffer : Buffer}, buffer.Lined →
      ∀ selection, (edit buffer selection).Lined) :
    (editor.runSelection edit).2.TextLined := by
  have left := leave_textLined lined
  unfold runSelection
  split
  · exact left
  · next selection _ =>
      dsimp only
      split
      · exact ⟨left.buffer, left.register⟩
      · have ran := runEdit_textLined left (editLined left.buffer selection)
        exact ⟨ran.buffer, ran.register⟩

theorem toggleVisual_textLined {editor : Editor} (lined : editor.TextLined)
    (mode : Mode) : (editor.toggleVisual mode).2.TextLined := by
  unfold toggleVisual
  split
  · exact leave_textLined lined
  · split <;> exact ⟨lined.buffer, lined.register⟩

theorem reach_textLined {editor : Editor} (lined : editor.TextLined)
    (search : Search) : (editor.reach search).TextLined := by
  unfold reach
  split <;> exact ⟨lined.buffer, lined.register⟩

theorem stepSearch_textLined {editor : Editor} (lined : editor.TextLined)
    (step : Search → Search) : (editor.stepSearch step).2.TextLined := by
  unfold stepSearch
  split
  · exact ⟨lined.buffer, lined.register⟩
  · exact reach_textLined lined _

theorem runUndo_textLined {editor : Editor} (lined : editor.TextLined)
    (snapshots : editor.SnapshotsLined) : editor.runUndo.2.TextLined := by
  unfold runUndo undo?
  cases step : editor.history.undo? editor.snapshot with
  | none => exact lined
  | some result =>
      obtain ⟨rest, past, _⟩ := History.undo?_eq_some step
      have restored : result.1.buffer.Lined :=
        snapshots result.1 (by simp [past])
      exact ⟨restored, lined.register⟩

theorem runRedo_textLined {editor : Editor} (lined : editor.TextLined)
    (snapshots : editor.SnapshotsLined) : editor.runRedo.2.TextLined := by
  unfold runRedo redo?
  cases step : editor.history.redo? editor.snapshot with
  | none => exact lined
  | some result =>
      obtain ⟨rest, future, _⟩ := History.redo?_eq_some step
      have restored : result.1.buffer.Lined :=
        snapshots result.1 (by simp [future])
      exact ⟨restored, lined.register⟩

theorem perform_textLined {editor : Editor} (lined : editor.TextLined)
    (snapshots : editor.SnapshotsLined) (command : Command) :
    (editor.perform command).2.TextLined := by
  have opened (row : Nat) : (editor.openLine row).2.TextLined :=
    ⟨lined.buffer.insertLine row List.not_mem_nil, lined.register⟩
  cases command with
  | move _ | insert | append | appendLineEnd | insertLineStart | replaceMode
  | searchForward | searchBackward | replaceChar | setMark | jumpMark =>
      exact ⟨lined.buffer, lined.register⟩
  | openBelow => exact opened _
  | openAbove => exact opened _
  | escape => exact leave_textLined lined
  | visualChar | visualLine => exact toggleVisual_textLined lined _
  | visualDelete =>
      exact runSelection_textLined lined Edit.deleteSelection_lined
  | visualYank =>
      exact runSelection_textLined lined Edit.yankSelection_lined
  | searchNext | searchPrevious => exact stepSearch_textLined lined _
  | undo => exact runUndo_textLined lined snapshots
  | redo => exact runRedo_textLined lined snapshots
  | deleteChar =>
      exact runEdit_textLined lined (Edit.deleteChar_lined lined.buffer _)
  | deleteLine =>
      exact runEdit_textLined lined (Edit.deleteLine_lined lined.buffer _)
  | deleteWord =>
      exact runEdit_textLined lined (Edit.deleteWord_lined lined.buffer _)
  | deleteToLineEnd =>
      exact runEdit_textLined lined
        (Edit.deleteToLineEnd_lined lined.buffer _)
  | yankLine =>
      exact runEdit_textLined lined (Edit.lined_of_register rfl rfl nofun)
  | yankWord =>
      exact runEdit_textLined lined (Edit.yankWord_lined lined.buffer _)
  | changeWord =>
      exact runEdit_textLined lined (Edit.changeWord_lined lined.buffer _)
  | pasteAfter =>
      exact runEdit_textLined lined
        (Edit.pasteAfter_lined lined.buffer _ lined.register)
  | pasteBefore =>
      exact runEdit_textLined lined
        (Edit.pasteBefore_lined lined.buffer _ lined.register)

theorem run_textLined {editor : Editor} (lined : editor.TextLined)
    (snapshots : editor.SnapshotsLined) (command : Command) :
    (editor.run command).2.TextLined := by
  have performed := perform_textLined lined snapshots command
  unfold run
  dsimp only
  split <;> exact ⟨performed.buffer, performed.register⟩

theorem runWithArgument_textLined {editor : Editor}
    (lined : editor.TextLined) (command : Command) {character : Char}
    (harmless : command = .replaceChar →
      editor.cursor.column < editor.buffer.width editor.cursor.row →
        character ≠ '\n') :
    (editor.runWithArgument command character).2.TextLined := by
  unfold runWithArgument
  dsimp only
  split
  · have silent : { editor with notice := none }.TextLined :=
      ⟨lined.buffer, lined.register⟩
    have replaced := runEdit_textLined silent
      (Edit.replaceChar_lined lined.buffer editor.cursor (harmless rfl))
    exact ⟨replaced.buffer, replaced.register⟩
  · unfold setMark
    split <;> exact ⟨lined.buffer, lined.register⟩
  · unfold jumpToMark
    split <;> exact ⟨lined.buffer, lined.register⟩
  · exact ⟨lined.buffer, lined.register⟩

theorem insertKey_textLined {editor : Editor} (lined : editor.TextLined)
    {key : Key} (harmless : key.printable? ≠ some '\n') :
    (editor.insertKey key).2.TextLined := by
  unfold insertKey
  dsimp only
  split
  · exact ⟨lined.buffer.breakLine _ _, lined.register⟩
  · split
    · exact ⟨lined.buffer, lined.register⟩
    · exact ⟨lined.buffer.splice _ _ _ List.not_mem_nil, lined.register⟩
  · split
    · exact ⟨lined.buffer, lined.register⟩
    · split
      · next character printable =>
          have free := Key.free_of_printable? printable harmless
          exact ⟨lined.buffer.splice _ _ _ free, lined.register⟩
      · exact ⟨lined.buffer, lined.register⟩

theorem replaceKey_textLined {editor : Editor} (lined : editor.TextLined)
    {key : Key} (harmless : key.printable? ≠ some '\n') :
    (editor.replaceKey key).2.TextLined := by
  unfold replaceKey
  dsimp only
  split
  · exact ⟨lined.buffer, lined.register⟩
  · split
    · exact ⟨lined.buffer, lined.register⟩
    · split
      · next character printable =>
          have free := Key.free_of_printable? printable harmless
          exact ⟨lined.buffer.splice _ _ _ free, lined.register⟩
      · exact ⟨lined.buffer, lined.register⟩

theorem submitSearch_textLined {editor : Editor} (lined : editor.TextLined) :
    editor.submitSearch.2.TextLined := by
  have left := leave_textLined lined
  unfold submitSearch
  extract_lets typed last term
  split
  · exact ⟨left.buffer, left.register⟩
  · exact reach_textLined left _

theorem searchKey_textLined {editor : Editor} (lined : editor.TextLined)
    (key : Key) : (editor.searchKey key).2.TextLined := by
  unfold searchKey
  split
  · exact submitSearch_textLined lined
  · exact ⟨lined.buffer, lined.register⟩
  · split <;> exact ⟨lined.buffer, lined.register⟩

/-- The key puts a line feed into a line: it is typed, or it replaces a
character. -/
def TakesLineFeed (editor : Editor) (key : Key) : Prop :=
  key.printable? = some '\n' ∧
    (editor.mode.isTyping ∨
      editor.mode.takesCommands ∧ editor.pending = .replacement ∧
        editor.cursor.column < editor.buffer.width editor.cursor.row)

instance (editor : Editor) (key : Key) :
    Decidable (editor.TakesLineFeed key) :=
  inferInstanceAs (Decidable (_ ∧ (_ ∨ _ ∧ _ ∧ _)))

theorem typeKey_textLined {editor : Editor} (lined : editor.TextLined)
    {key : Key} (harmless : ¬editor.TakesLineFeed key) :
    (editor.typeKey key).2.TextLined := by
  have unprinted (typing : editor.mode.isTyping) :
      key.printable? ≠ some '\n' :=
    fun printable => harmless ⟨printable, .inl typing⟩
  unfold typeKey
  split
  · next mode =>
      exact insertKey_textLined lined (unprinted (by rw [mode]; rfl))
  · next mode =>
      exact replaceKey_textLined lined (unprinted (by rw [mode]; rfl))
  · exact searchKey_textLined lined key
  · exact lined

theorem runEdit_buffer (editor : Editor) (edit : Edit) :
    (editor.runEdit edit).2.buffer = edit.buffer.getD editor.buffer := by
  rw [← applyEdit_buffer]
  unfold runEdit
  dsimp only
  split
  · split <;> rfl
  · rfl

theorem replacement_not_lined {editor : Editor}
    (within :
      editor.cursor.column < editor.buffer.width editor.cursor.row) :
    ¬(editor.runWithArgument .replaceChar '\n').2.buffer.Lined := by
  have replaced : (editor.runWithArgument .replaceChar '\n').2.buffer =
      editor.buffer.splice editor.cursor.row editor.cursor.column
        (editor.cursor.column + 1) ['\n'] := by
    change (Editor.runEdit _ _).2.buffer = _
    rw [runEdit_buffer, Edit.replaceChar, if_pos within]
    rfl
  rw [replaced]
  exact Buffer.splice_not_lined _ _ (Buffer.row_lt_of_lt_width within)
    List.mem_cons_self

theorem typeKey_not_lined {editor : Editor} {key : Key}
    (typing : editor.mode.isTyping) (printable : key.printable? = some '\n') :
    ¬(editor.typeKey key).2.buffer.Lined := by
  obtain ⟨shift, rfl⟩ := Key.printable?_eq_some printable
  have inText : editor.settleTyping.cursor.row <
      editor.settleTyping.buffer.lineCount := settleTyping_row_lt editor
  rcases Mode.insert_or_replace typing with mode | mode
  · rw [typeKey, mode]
    exact Buffer.splice_not_lined _ _ inText List.mem_cons_self
  · rw [typeKey, mode]
    exact Buffer.splice_not_lined _ _ inText List.mem_cons_self

/-- What comes into the history is the text before the key. -/
theorem Effect.snapshotsLined {before after : Editor}
    (effect : Effect before after) (buffer : before.buffer.Lined)
    (snapshots : before.SnapshotsLined) : after.SnapshotsLined := by
  intro snapshot member
  rw [List.mem_append] at member
  have recorded (cursor : Position) {others : List Snapshot}
      (known : ∀ other ∈ others, other.buffer.Lined) :
      ∀ other ∈ ⟨before.buffer, cursor⟩ :: others, other.buffer.Lined :=
    List.forall_mem_cons.mpr ⟨buffer, known⟩
  have past : ∀ other ∈ before.history.past, other.buffer.Lined :=
    fun other member => snapshots other (List.mem_append_left _ member)
  have future : ∀ other ∈ before.history.future, other.buffer.Lined :=
    fun other member => snapshots other (List.mem_append_right _ member)
  cases effect with
  | kept kept =>
      rw [kept.past, kept.future] at member
      exact snapshots snapshot (List.mem_append.mpr member)
  | recorded cursor typing history =>
      rw [history] at member
      rcases member with inPast | inFuture
      · exact recorded cursor past snapshot
          (History.mem_of_mem_record_past inPast)
      · cases inFuture
  | continued typing running history =>
      rw [history] at member
      exact snapshots snapshot (List.mem_append.mpr member)
  | undone cursor previous rest pastShape history _ =>
      rw [history] at member
      rw [pastShape] at past
      rcases member with inPast | inFuture
      · exact past snapshot (List.mem_cons_of_mem _ inPast)
      · exact recorded cursor future snapshot inFuture
  | redone cursor next rest futureShape history _ =>
      rw [history] at member
      rw [futureShape] at future
      rcases member with inPast | inFuture
      · exact recorded cursor past snapshot inPast
      · exact future snapshot (List.mem_cons_of_mem _ inFuture)

end Editor

namespace Session

variable {session : Session}

theorem Taken.textLined {key : Key} {result : Response × Session}
    (taken : session.Taken key result) (lined : session.editor.TextLined)
    (snapshots : session.editor.SnapshotsLined)
    (harmless : ¬session.editor.TakesLineFeed key) :
    result.2.editor.TextLined := by
  cases taken with
  | ran command _ =>
      have ready : { session.editor with
          pending := .none
          notice := session.editor.mode.banner? }.TextLined :=
        ⟨lined.buffer, lined.register⟩
      exact Editor.run_textLined ready snapshots command
  | completed waiting character commands read =>
      -- The argument is what the key prints, so it is no line feed.
      have reading := Interpretation.ofKey_reading session.editor.mode
        session.editor.pending key
      rw [read] at reading
      cases reading with
      | withArgument _ _ awaited printable _ =>
          have ready : { session.editor with pending := .none }.TextLined :=
            ⟨lined.buffer, lined.register⟩
          refine Editor.runWithArgument_textLined ready waiting ?_
          rintro rfl within rfl
          have pending := Pending.eq_replacement awaited
          exact harmless ⟨printable, .inr ⟨commands, pending, within⟩⟩
  | escaped _ _ =>
      exact Editor.run_textLined lined snapshots .escape
  | abandoned _ _ => exact Editor.leave_textLined lined
  | typed _ _ => exact Editor.typeKey_textLined lined harmless
  | refused _ _ | ignored _ _ | waiting _ _ _ | cancelled _ =>
      exact ⟨lined.buffer, lined.register⟩

theorem dispatch_lined {key : Key} (lined : session.editor.Lined)
    (harmless : ¬session.editor.TakesLineFeed key) :
    (session.dispatch key).2.editor.Lined where
  text :=
    (takeKey_taken { session with interacted := true } key).textLined
      lined.text lined.snapshots harmless
  snapshots :=
    (dispatch_effect session key).snapshotsLined lined.text.buffer
      lined.snapshots

/-- A key that puts a line feed into a line is the end of it. -/
theorem dispatch_not_lined {key : Key}
    (takes : session.editor.TakesLineFeed key) :
    ¬(session.dispatch key).2.editor.buffer.Lined := by
  obtain ⟨printable, typing | ⟨commands, pending, within⟩⟩ := takes
  · have unescaped := Key.isEscape_of_printable? printable
    have typed := congrArg Prod.snd (dispatch_typing typing unescaped)
    rw [show (session.dispatch key).2.editor = _ from typed]
    exact Editor.typeKey_not_lined typing printable
  · have read : Interpretation.ofKey session.editor.mode
        session.editor.pending key =
          (.withArgument .replaceChar '\n', .none) := by
      rw [pending]
      simp [Interpretation.ofKey, Pending.awaits?, printable,
        Command.acceptsArgument]
    have taken := congrArg Prod.snd (dispatch_of_takesCommands key commands)
    have spoiled : ¬({ session.editor with pending := .none }.runWithArgument
        .replaceChar '\n').2.buffer.Lined :=
      Editor.replacement_not_lined within
    rw [show (session.dispatch key).2.editor = _ from taken]
    simp only [commandKey, read]
    exact spoiled

/-- Before the first key and after each, the lines of the text and of all
snapshots are whole. -/
def LinedThroughout (session : Session) (keys : List Key) : Prop :=
  ∀ count ≤ keys.length,
    let editor := (session.feed (keys.take count)).editor
    editor.buffer.Lined ∧ editor.SnapshotsLined

theorem feed_take_succ {keys : List Key} {count : Nat}
    (within : count < keys.length) :
    session.feed (keys.take (count + 1)) =
      ((session.feed (keys.take count)).dispatch keys[count]).2 := by
  rw [List.take_succ_eq_append_getElem within, feed_append]
  rfl

theorem feed_lined {keys : List Key} (lined : session.editor.Lined)
    (harmless : ∀ (count : Nat) (within : count < keys.length),
      ¬(session.feed (keys.take count)).editor.TakesLineFeed keys[count])
    (count : Nat) (within : count ≤ keys.length) :
    (session.feed (keys.take count)).editor.Lined := by
  induction count with
  | zero => exact lined
  | succ count ih =>
      rw [feed_take_succ within]
      exact dispatch_lined (ih (Nat.le_of_lt within))
        (harmless count within)

end Session

namespace KeyScript

/-- A line feed is only typed where the script has one. -/
theorem mem_of_parse {script : Text} {keys : List Key}
    (parsed : parse script = .ok keys) {key : Key} (member : key ∈ keys)
    (feeds : key.code = .char '\n') : '\n' ∈ script := by
  cases source_of_parse parsed member with
  | typed character inScript same =>
      rw [same] at feeds
      cases feeds
      exact inScript
  | bracketed body inScript _ read =>
      exact inScript (mem_of_named read feeds (by decide))

end KeyScript

namespace Session

/-- Lines stay whole just as long as no key puts a line feed into one, which
takes a line feed in the script. -/
theorem linedThroughout_iff {buffer : Buffer} (lined : buffer.Lined)
    (depth : Nat) (allowed : Option CommandSet) {script : Text}
    {keys : List Key} (parsed : KeyScript.parse script = .ok keys) :
    let start := { ofBuffer buffer depth with allowed }
    (start.LinedThroughout keys ↔
      ∀ (count : Nat) (within : count < keys.length),
        ¬(start.feed (keys.take count)).editor.TakesLineFeed keys[count]) ∧
    ('\n' ∉ script → start.LinedThroughout keys) := by
  intro start
  have fresh : start.editor.Lined :=
    ⟨⟨lined, fun _ => List.not_mem_nil⟩, nofun⟩
  have throughout
      (harmless : ∀ (count : Nat) (within : count < keys.length),
        ¬(start.feed (keys.take count)).editor.TakesLineFeed keys[count]) :
      start.LinedThroughout keys := by
    intro count within
    have whole := feed_lined fresh harmless count within
    exact ⟨whole.text.buffer, whole.snapshots⟩
  refine ⟨⟨?_, throughout⟩, ?_⟩
  · intro whole count within takes
    have after := (whole (count + 1) within).1
    rw [feed_take_succ within] at after
    exact dispatch_not_lined takes after
  · intro unfed
    refine throughout ?_
    rintro count within ⟨printable, _⟩
    obtain ⟨shift, same⟩ := Key.printable?_eq_some printable
    have feeds : keys[count].code = .char '\n' := by rw [same]
    exact unfed
      (KeyScript.mem_of_parse parsed (List.getElem_mem within) feeds)

/-- Line feeds that nothing takes up: as the replacement in an empty line, and
in the term of a search. -/
theorem lined_despite_line_feeds :
    let buffer : Buffer := .ofLines [['a']]
    let script := ['x', 'r', '\n', '/', '\n', '<', 'C', 'R', '>', 'u']
    let keys : List Key :=
      [.char 'x', .char 'r', .char '\n', .char '/', .char '\n',
        .plain .enter, .char 'u']
    let start := { ofBuffer buffer 3 with allowed := none }
    buffer.Lined ∧ KeyScript.parse script = .ok keys ∧
    start.LinedThroughout keys := by
  intro buffer script keys start
  have lined : buffer.Lined := by decide
  have parsed : KeyScript.parse script = .ok keys := by decide +kernel
  have harmless : ∀ (count : Nat) (within : count < keys.length),
      ¬(start.feed (keys.take count)).editor.TakesLineFeed keys[count] := by
    decide +kernel
  exact ⟨lined, parsed,
    (linedThroughout_iff lined 3 none parsed).1.mpr harmless⟩

/-- A line feed that is typed stays in its line. -/
theorem typed_line_feed_is_kept :
    ¬ ∀ (buffer : Buffer) (depth : Nat) (allowed : Option CommandSet)
      (script : Text) (keys : List Key), buffer.Lined →
        KeyScript.parse script = .ok keys →
          { ofBuffer buffer depth with allowed }.LinedThroughout keys := by
  intro whole
  have parsed : KeyScript.parse ['i', '\n'] =
      .ok [.char 'i', .char '\n'] := by
    decide +kernel
  have kept := (whole (.ofLines [['a', 'b']]) 3 none _ _ (by decide) parsed 2
    (by decide)).1
  revert kept
  decide +kernel

end Session

end ModalTutor
