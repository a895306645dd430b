import ModalTutor.Proofs.Soundness

/-!
# Coherent modes

What the modes keep for each other fits the mode that an editor is in: the
pending input and its prompt, the fixed end of the selection and the term that
is being typed.  `Editor.Plain` holds while there is none of it, and leaving a
mode makes an editor plain.  `Session.Reachable.mode_coherent` says that every
reachable session is coherent, whatever its rules refuse.
-/

namespace ModalTutor

theorem nearestMatch_nil (cursor : Position) (direction : Direction) :
    nearestMatch [] cursor direction = 0 := by
  cases direction <;> rfl

theorem nearestMatch_lt {positions : List Position}
    (nonempty : positions ≠ []) (cursor : Position) (direction : Direction) :
    nearestMatch positions cursor direction < positions.length := by
  have positive := List.length_pos_iff.mpr nonempty
  cases direction with
  | forward =>
      unfold nearestMatch
      cases found : positions.findIdx? (cursor < ·) with
      | none => exact positive
      | some index => exact (List.findIdx?_eq_some_iff_getElem.mp found).1
  | backward =>
      unfold nearestMatch lastIndex?
      cases positions.reverse.findIdx? (· < cursor) with
      | none => exact Nat.sub_lt positive Nat.one_pos
      | some index =>
          change positions.length - 1 - index < positions.length
          omega

namespace Search

/-- The search is for something, and its index is that of a match if there is
any. -/
structure Coherent (search : Search) : Prop where
  term_ne_nil : search.term ≠ []
  index : search.index < search.positions.length ∨
    search.positions = [] ∧ search.index = 0

theorem run_coherent (buffer : Buffer) {term : Text} (nonempty : term ≠ [])
    (cursor : Position) (direction : Direction) :
    (run buffer term cursor direction).Coherent where
  term_ne_nil := nonempty
  index := by
    by_cases missed : buffer.occurrences term = []
    · right
      refine ⟨missed, ?_⟩
      rw [run, missed]
      exact nearestMatch_nil cursor direction
    · left
      exact nearestMatch_lt missed cursor direction

theorem advance_coherent {search : Search} (coherent : search.Coherent) :
    search.advance.Coherent := by
  unfold advance
  split
  · exact coherent
  · next found =>
      exact ⟨coherent.term_ne_nil,
        .inl (Nat.mod_lt _ (List.length_pos_iff.mpr found))⟩

theorem retreat_coherent {search : Search} (coherent : search.Coherent) :
    search.retreat.Coherent := by
  unfold retreat
  split
  · exact coherent
  · next found =>
      exact ⟨coherent.term_ne_nil,
        .inl (Nat.mod_lt _ (List.length_pos_iff.mpr found))⟩

end Search

/-- The input that a mode can wait to have completed. -/
inductive Mode.Awaits (mode : Mode) : Pending → Prop where
  | nothing : Awaits mode .none
  | second (opener : Char) (commands : mode.takesCommands)
      (opens : opener ∈ Interpretation.openersFor mode) :
      Awaits mode (.keys [opener])
  | argument (pending : Pending) (normal : mode = .normal)
      (awaited : pending.awaits? ≠ none) : Awaits mode pending

theorem Mode.Awaits.eq_none {mode : Mode} {pending : Pending}
    (awaits : mode.Awaits pending) (text : mode.takesCommands = false) :
    pending = .none := by
  cases awaits with
  | nothing => rfl
  | second opener commands _ =>
      rw [text] at commands
      cases commands
  | argument _ normal _ =>
      rw [normal] at text
      cases text

theorem Mode.Awaits.of_isVisual {mode : Mode} {pending : Pending}
    (awaits : mode.Awaits pending) (visual : mode.isVisual) :
    pending = .none ∨ pending = .keys ['g'] := by
  cases awaits with
  | nothing => exact .inl rfl
  | second opener _ opens =>
      rw [Interpretation.openersFor, if_pos visual] at opens
      rw [List.mem_singleton.mp opens]
      exact .inr rfl
  | argument _ normal _ =>
      rw [normal] at visual
      cases visual

theorem Mode.Awaits.of_normal {pending : Pending}
    (awaits : Mode.normal.Awaits pending) :
    pending = .none ∨
      (∃ opener ∈ ['g', 'd', 'y', 'c'], pending = .keys [opener]) ∨
      pending = .replacement ∨ pending = .markToSet ∨
      pending = .markToReach := by
  cases awaits with
  | nothing => exact .inl rfl
  | second opener _ opens => exact .inr (.inl ⟨opener, opens, rfl⟩)
  | argument _ _ awaited =>
      cases pending with
      | none | keys _ => exact absurd rfl awaited
      | replacement | markToSet | markToReach => simp

namespace Editor

structure Coherent (editor : Editor) : Prop where
  awaits : editor.mode.Awaits editor.pending
  prompted : editor.pending ≠ .none →
    editor.notice = editor.pending.prompt?.map .shown
  selecting : editor.mode.isVisual → ∃ anchor,
    editor.anchor = some anchor ∧ anchor.onCharacter editor.buffer = anchor
  unselected : editor.mode.isVisual = false → editor.anchor = none
  unasked : editor.mode ≠ .search → editor.prompt.typed = []
  search : ∀ search, editor.search = some search → search.Coherent

/-- Nothing is pending, selected or being asked for. -/
structure Plain (editor : Editor) : Prop where
  pending : editor.pending = .none
  anchor : editor.anchor = none
  prompt : editor.prompt.typed = []
  search : ∀ search, editor.search = some search → search.Coherent

theorem Plain.coherent {editor : Editor} (plain : editor.Plain)
    (unselecting : editor.mode.isVisual = false) : editor.Coherent where
  awaits := by
    rw [plain.pending]
    exact .nothing
  prompted pending := absurd plain.pending pending
  selecting visual := by
    rw [unselecting] at visual
    cases visual
  unselected _ := plain.anchor
  unasked _ := plain.prompt
  search := plain.search

theorem Coherent.plain {editor : Editor} (coherent : editor.Coherent)
    (pending : editor.pending = .none)
    (unselecting : editor.mode.isVisual = false)
    (unasking : editor.mode ≠ .search) : editor.Plain where
  pending := pending
  anchor := coherent.unselected unselecting
  prompt := coherent.unasked unasking
  search := coherent.search

/-- Dropping the pending input keeps an editor coherent, whatever is said of
it. -/
theorem Coherent.idle {editor : Editor} (coherent : editor.Coherent)
    (notice : Option Notice) :
    { editor with pending := .none, notice }.Coherent where
  awaits := .nothing
  prompted pending := absurd rfl pending
  selecting := coherent.selecting
  unselected := coherent.unselected
  unasked := coherent.unasked
  search := coherent.search

/-- What the modes keep for each other stays as it is. -/
structure KeepsAside (before after : Editor) : Prop where
  pending : after.pending = before.pending
  anchor : after.anchor = before.anchor
  prompt : after.prompt = before.prompt
  search : after.search = before.search

theorem Plain.of_keepsAside {before after : Editor} (plain : before.Plain)
    (kept : KeepsAside before after) : after.Plain where
  pending := kept.pending.trans plain.pending
  anchor := kept.anchor.trans plain.anchor
  prompt := (congrArg Prompt.typed kept.prompt).trans plain.prompt
  search search found := plain.search search (kept.search.symm.trans found)

theorem Plain.then_coherent {before after : Editor} (plain : before.Plain)
    (kept : KeepsAside before after)
    (unselecting : after.mode.isVisual = false) : after.Coherent :=
  (plain.of_keepsAside kept).coherent unselecting

theorem settle_coherent {editor : Editor} (coherent : editor.Coherent) :
    editor.settle.Coherent :=
  ⟨coherent.awaits, coherent.prompted, coherent.selecting,
    coherent.unselected, coherent.unasked, coherent.search⟩

/-- Every way back to the normal mode leaves nothing behind. -/
theorem leave_plain {editor : Editor} (coherent : editor.Coherent) :
    editor.leave.Plain := by
  unfold leave
  cases mode : editor.mode with
  | normal | insert | replace =>
      exact ⟨rfl, coherent.unselected (by rw [mode]; rfl),
        coherent.unasked (by rw [mode]; nofun), coherent.search⟩
  | visual | visualLine =>
      exact ⟨rfl, rfl, coherent.unasked (by rw [mode]; nofun),
        coherent.search⟩
  | search =>
      exact ⟨rfl, coherent.unselected (by rw [mode]; rfl), rfl,
        coherent.search⟩

theorem leave_coherent {editor : Editor} (coherent : editor.Coherent) :
    editor.leave.Coherent :=
  (leave_plain coherent).coherent rfl

theorem applyEdit_keepsAside (editor : Editor) (edit : Edit) :
    KeepsAside editor (editor.applyEdit edit) := by
  unfold applyEdit
  split
  · exact ⟨rfl, rfl, rfl, rfl⟩
  · split <;> exact ⟨rfl, rfl, rfl, rfl⟩

theorem runEdit_keepsAside (editor : Editor) (edit : Edit) :
    KeepsAside editor (editor.runEdit edit).2 := by
  have kept := applyEdit_keepsAside editor edit
  unfold runEdit
  dsimp only
  split
  · split <;> exact ⟨kept.pending, kept.anchor, kept.prompt, kept.search⟩
  · exact kept

theorem runEdit_isVisual {editor : Editor} (edit : Edit)
    (unselecting : editor.mode.isVisual = false) :
    (editor.runEdit edit).2.mode.isVisual = false := by
  unfold runEdit
  dsimp only
  split
  · split <;> rfl
  · rw [applyEdit_mode]
    exact unselecting

theorem runEdit_coherent {editor : Editor} (edit : Edit)
    (plain : editor.Plain) (unselecting : editor.mode.isVisual = false) :
    (editor.runEdit edit).2.Coherent :=
  plain.then_coherent (runEdit_keepsAside editor edit)
    (runEdit_isVisual edit unselecting)

theorem runSelection_coherent {editor : Editor} (coherent : editor.Coherent)
    (edit : Buffer → Selection → Edit) :
    (editor.runSelection edit).2.Coherent := by
  have plain := leave_plain coherent
  unfold runSelection
  split
  · exact leave_coherent coherent
  · dsimp only
    split
    · exact plain.then_coherent ⟨rfl, rfl, rfl, rfl⟩ rfl
    · exact settle_coherent (runEdit_coherent _ plain rfl)

/-- A selection starts at the cursor, or keeps its fixed end. -/
theorem toggleVisual_coherent {editor : Editor} (coherent : editor.Coherent)
    (sound : editor.Sound) (commands : editor.mode.takesCommands)
    (pending : editor.pending = .none) {mode : Mode}
    (visual : mode.isVisual) :
    (editor.toggleVisual mode).2.Coherent := by
  have unasking : editor.mode ≠ .search := by
    intro searching
    rw [searching] at commands
    cases commands
  have awaits : mode.Awaits editor.pending := by
    rw [pending]
    exact .nothing
  unfold toggleVisual
  split
  · exact leave_coherent coherent
  · split
    · next selecting =>
        exact ⟨awaits, absurd pending, fun _ => coherent.selecting selecting,
          fun unselecting => by simp [enter, visual] at unselecting,
          fun _ => coherent.unasked unasking, coherent.search⟩
    · have settled := sound.settled (Mode.isTyping_eq_false commands)
      exact ⟨awaits, absurd pending,
        fun _ => ⟨editor.cursor, rfl, settled⟩,
        fun unselecting => by simp [enter, visual] at unselecting,
        fun _ => coherent.unasked unasking, coherent.search⟩

theorem startSearch_coherent {editor : Editor} (plain : editor.Plain)
    (direction : Direction) : (editor.startSearch direction).2.Coherent :=
  Plain.coherent ⟨plain.pending, plain.anchor, rfl, plain.search⟩ rfl

theorem reach_plain {editor : Editor} (plain : editor.Plain)
    {search : Search} (coherent : search.Coherent) :
    (editor.reach search).Plain := by
  have reached (other : Search) (same : some search = some other) :
      other.Coherent := by
    cases same
    exact coherent
  unfold reach
  split <;> exact ⟨plain.pending, plain.anchor, plain.prompt, reached⟩

theorem reach_mode (editor : Editor) (search : Search) :
    (editor.reach search).mode = editor.mode := by
  unfold reach
  split <;> rfl

theorem stepSearch_coherent {editor : Editor} (plain : editor.Plain)
    (unselecting : editor.mode.isVisual = false) {step : Search → Search}
    (steps : ∀ search : Search, search.Coherent → (step search).Coherent) :
    (editor.stepSearch step).2.Coherent := by
  unfold stepSearch
  split
  · exact plain.then_coherent ⟨rfl, rfl, rfl, rfl⟩ unselecting
  · next search last =>
      refine (reach_plain plain (steps search ?_)).coherent ?_
      · exact plain.search search last
      · rw [reach_mode]
        exact unselecting

theorem runUndo_keepsAside (editor : Editor) :
    KeepsAside editor editor.runUndo.2 := by
  unfold runUndo undo?
  cases editor.history.undo? editor.snapshot <;> exact ⟨rfl, rfl, rfl, rfl⟩

theorem runUndo_mode (editor : Editor) :
    editor.runUndo.2.mode = editor.mode := by
  unfold runUndo undo?
  cases editor.history.undo? editor.snapshot <;> rfl

theorem runRedo_keepsAside (editor : Editor) :
    KeepsAside editor editor.runRedo.2 := by
  unfold runRedo redo?
  cases editor.history.redo? editor.snapshot <;> exact ⟨rfl, rfl, rfl, rfl⟩

theorem runRedo_mode (editor : Editor) :
    editor.runRedo.2.mode = editor.mode := by
  unfold runRedo redo?
  cases editor.history.redo? editor.snapshot <;> rfl

/-- In the normal mode, only commands that wait for a character leave
something pending. -/
theorem await_coherent {editor : Editor} (plain : editor.Plain)
    (normal : editor.mode = .normal) {pending : Pending}
    (awaited : pending.awaits? ≠ none) :
    (editor.await pending).2.Coherent where
  awaits := .argument pending normal awaited
  prompted _ := rfl
  selecting visual := by
    rw [show (editor.await pending).2.mode = .normal from normal] at visual
    cases visual
  unselected _ := plain.anchor
  unasked _ := plain.prompt
  search := plain.search

theorem perform_normal_coherent {editor : Editor} (plain : editor.Plain)
    (sound : editor.Sound) (normal : editor.mode = .normal)
    (command : Command) : (editor.perform command).2.Coherent := by
  have unselecting : editor.mode.isVisual = false := by rw [normal]; rfl
  have commands : editor.mode.takesCommands := by rw [normal]; rfl
  have coherent := plain.coherent unselecting
  cases command with
  | move motion =>
      exact plain.then_coherent ⟨rfl, rfl, rfl, rfl⟩ unselecting
  | insert | append | appendLineEnd | insertLineStart | openBelow | openAbove
  | replaceMode =>
      exact plain.then_coherent ⟨rfl, rfl, rfl, rfl⟩ rfl
  | escape => exact leave_coherent coherent
  | visualChar | visualLine =>
      exact toggleVisual_coherent coherent sound commands plain.pending rfl
  | visualDelete | visualYank => exact runSelection_coherent coherent _
  | searchForward | searchBackward => exact startSearch_coherent plain _
  | searchNext =>
      exact stepSearch_coherent plain unselecting
        fun _ => Search.advance_coherent
  | searchPrevious =>
      exact stepSearch_coherent plain unselecting
        fun _ => Search.retreat_coherent
  | undo =>
      exact plain.then_coherent (runUndo_keepsAside editor)
        ((congrArg Mode.isVisual (runUndo_mode editor)).trans unselecting)
  | redo =>
      exact plain.then_coherent (runRedo_keepsAside editor)
        ((congrArg Mode.isVisual (runRedo_mode editor)).trans unselecting)
  | deleteChar | deleteLine | deleteWord | deleteToLineEnd | yankLine
  | yankWord | changeWord | pasteAfter | pasteBefore =>
      exact runEdit_coherent _ plain unselecting
  | replaceChar | setMark | jumpMark =>
      exact await_coherent plain normal nofun

/-- A selection can be moved and extended, handed to an operator, or ended. -/
theorem perform_visual_coherent {editor : Editor} (coherent : editor.Coherent)
    (sound : editor.Sound) (pending : editor.pending = .none)
    (commands : editor.mode.takesCommands) {command : Command}
    (serves : command.servesSelection) :
    (editor.perform command).2.Coherent := by
  have toggled {mode : Mode} (visual : mode.isVisual) :
      (editor.toggleVisual mode).2.Coherent :=
    toggleVisual_coherent coherent sound commands pending visual
  have moved (motion : Motion) : (editor.moveBy motion).2.Coherent :=
    ⟨coherent.awaits, coherent.prompted, coherent.selecting,
      coherent.unselected, coherent.unasked, coherent.search⟩
  cases command with
  | move motion => exact moved motion
  | visualChar | visualLine => exact toggled rfl
  | visualDelete | visualYank => exact runSelection_coherent coherent _
  | _ => cases serves

theorem perform_coherent {editor : Editor} (coherent : editor.Coherent)
    (sound : editor.Sound) (pending : editor.pending = .none)
    (commands : editor.mode.takesCommands) {command : Command}
    (bound : command ∈ (Interpretation.trieFor editor.mode).commands) :
    (editor.perform command).2.Coherent := by
  cases mode : editor.mode with
  | normal =>
      have plain := coherent.plain pending (by rw [mode]; rfl)
        (by rw [mode]; nofun)
      exact perform_normal_coherent plain sound mode command
  | visual | visualLine =>
      rw [mode] at bound
      exact perform_visual_coherent coherent sound pending commands
        (Command.servesSelection_of_mem bound)
  | insert | replace | search =>
      rw [mode] at commands
      cases commands

theorem run_coherent {editor : Editor} {command : Command}
    (coherent : (editor.perform command).2.Coherent) :
    (editor.run command).2.Coherent := by
  unfold run
  dsimp only
  split
  · exact settle_coherent coherent
  · exact settle_coherent coherent
  · exact settle_coherent coherent
  · exact coherent

theorem runWithArgument_coherent {editor : Editor} (plain : editor.Plain)
    (unselecting : editor.mode.isVisual = false) (command : Command)
    (character : Char) :
    (editor.runWithArgument command character).2.Coherent := by
  have silent : { editor with notice := none }.Plain :=
    plain.of_keepsAside ⟨rfl, rfl, rfl, rfl⟩
  unfold runWithArgument
  dsimp only
  apply settle_coherent
  split
  · exact runEdit_coherent _ silent unselecting
  · unfold setMark
    split <;> exact silent.then_coherent ⟨rfl, rfl, rfl, rfl⟩ unselecting
  · unfold jumpToMark
    split <;> exact silent.then_coherent ⟨rfl, rfl, rfl, rfl⟩ unselecting
  · exact silent.coherent unselecting

theorem insertKey_keepsAside (editor : Editor) (key : Key) :
    KeepsAside editor (editor.insertKey key).2 := by
  unfold insertKey
  dsimp only
  split
  · exact ⟨rfl, rfl, rfl, rfl⟩
  · split <;> exact ⟨rfl, rfl, rfl, rfl⟩
  · split
    · exact ⟨rfl, rfl, rfl, rfl⟩
    · split <;> exact ⟨rfl, rfl, rfl, rfl⟩

theorem replaceKey_keepsAside (editor : Editor) (key : Key) :
    KeepsAside editor (editor.replaceKey key).2 := by
  unfold replaceKey
  dsimp only
  split
  · exact ⟨rfl, rfl, rfl, rfl⟩
  · split
    · exact ⟨rfl, rfl, rfl, rfl⟩
    · split <;> exact ⟨rfl, rfl, rfl, rfl⟩

theorem submitSearch_coherent {editor : Editor} (coherent : editor.Coherent) :
    editor.submitSearch.2.Coherent := by
  have plain := leave_plain coherent
  unfold submitSearch
  extract_lets typed last term left
  by_cases empty : term = []
  · rw [if_pos empty]
    exact plain.then_coherent ⟨rfl, rfl, rfl, rfl⟩ rfl
  · rw [if_neg empty]
    refine (reach_plain plain (Search.run_coherent _ empty _ _)).coherent ?_
    rw [reach_mode]
    rfl

theorem searchKey_coherent {editor : Editor} (coherent : editor.Coherent)
    (searching : editor.mode = .search) (key : Key) :
    (editor.searchKey key).2.Coherent := by
  have shown (prompt : Prompt) : (editor.showPrompt prompt).Coherent := by
    have idle := coherent.awaits.eq_none (by rw [searching]; rfl)
    exact ⟨coherent.awaits, absurd idle, coherent.selecting,
      coherent.unselected, absurd searching, coherent.search⟩
  unfold searchKey
  split
  · exact submitSearch_coherent coherent
  · exact shown _
  · split
    · exact shown _
    · exact coherent

theorem typeKey_coherent {editor : Editor} (coherent : editor.Coherent)
    (text : editor.mode.takesCommands = false) (key : Key) :
    (editor.typeKey key).2.Coherent := by
  have pending := coherent.awaits.eq_none text
  unfold typeKey
  split
  · next mode =>
      have plain := coherent.plain pending (by rw [mode]; rfl)
        (by rw [mode]; nofun)
      refine plain.then_coherent (insertKey_keepsAside editor key) ?_
      rw [insertKey_mode, mode]
      rfl
  · next mode =>
      have plain := coherent.plain pending (by rw [mode]; rfl)
        (by rw [mode]; nofun)
      refine plain.then_coherent (replaceKey_keepsAside editor key) ?_
      rw [replaceKey_mode, mode]
      rfl
  · next mode => exact searchKey_coherent coherent mode key
  · exact coherent

theorem Coherent.anchor_isSome {editor : Editor}
    (coherent : editor.Coherent) :
    editor.anchor.isSome = editor.mode.isVisual := by
  cases selecting : editor.mode.isVisual with
  | true =>
      obtain ⟨anchor, fixed, _⟩ := coherent.selecting selecting
      rw [fixed]
      rfl
  | false =>
      rw [coherent.unselected selecting]
      rfl

theorem Coherent.anchor_inText {editor : Editor} (coherent : editor.Coherent)
    {anchor : Position} (fixed : editor.anchor = some anchor) :
    anchor.row < editor.buffer.lineCount ∧
      anchor.column < max (editor.buffer.width anchor.row) 1 := by
  have selecting : editor.mode.isVisual := by
    rw [← coherent.anchor_isSome, fixed]
    rfl
  obtain ⟨other, same, settled⟩ := coherent.selecting selecting
  rw [fixed] at same
  cases same
  exact Position.onCharacter_eq_self_iff.mp settled

theorem ofBuffer_coherent (buffer : Buffer) (depth : Nat) :
    (ofBuffer buffer depth).Coherent :=
  Plain.coherent ⟨rfl, rfl, rfl, nofun⟩ rfl

end Editor

namespace Session

theorem Taken.coherent {session : Session} {key : Key}
    {result : Response × Session} (taken : session.Taken key result)
    (coherent : session.editor.Coherent) (sound : session.editor.Sound) :
    result.2.editor.Coherent := by
  have reading := Interpretation.ofKey_reading session.editor.mode
    session.editor.pending key
  cases taken with
  | ran command runs =>
      have ready : { session.editor with
          pending := .none
          notice := session.editor.mode.banner? }.Sound :=
        ⟨sound.row_lt, sound.settled, sound.run_mode, sound.run_recorded⟩
      rw [runs.completes] at reading
      cases reading with
      | command _ bound =>
          apply Editor.run_coherent
          exact Editor.perform_coherent (coherent.idle _) ready rfl
            runs.commands bound
  | completed waiting character commands read =>
      rw [read] at reading
      cases reading with
      | withArgument _ _ awaited _ =>
          have normal : session.editor.mode = .normal := by
            have awaits := coherent.awaits
            generalize session.editor.pending = pending at awaits awaited
            cases awaits with
            | nothing => cases awaited
            | second opener _ _ => cases awaited
            | argument _ normal _ => exact normal
          have unselecting : session.editor.mode.isVisual = false := by
            rw [normal]; rfl
          have plain : { session.editor with pending := .none }.Plain :=
            (coherent.idle session.editor.notice).plain rfl unselecting
              (by rw [normal]; nofun)
          exact Editor.runWithArgument_coherent plain unselecting waiting
            character
  | escaped _ _ => exact Editor.run_coherent (Editor.leave_coherent coherent)
  | abandoned _ _ => exact Editor.leave_coherent coherent
  | typed text _ => exact Editor.typeKey_coherent coherent text key
  | refused command _ => exact coherent.idle _
  | ignored kept dropped =>
      rcases dropped with rfl | rfl
      · exact coherent
      · exact coherent.idle session.editor.notice
  | waiting typed commands read =>
      rw [read] at reading
      cases reading with
      | pending opener opens =>
          exact ⟨.second opener commands opens, fun _ => rfl,
            coherent.selecting, coherent.unselected, coherent.unasked,
            coherent.search⟩
  | cancelled _ => exact coherent.idle _

theorem Reachable.coherent {session : Session}
    (reachable : Reachable session) : session.editor.Coherent := by
  let Both (editor : Editor) : Prop := editor.Sound ∧ editor.Coherent
  have fresh (buffer : Buffer) (depth : Nat) : Both (.ofBuffer buffer depth) :=
    ⟨Editor.ofBuffer_sound buffer depth,
      Editor.ofBuffer_coherent buffer depth⟩
  have step (session : Session) (key : Key) (both : Both session.editor) :
      Both (session.dispatch key).2.editor := by
    have taken := takeKey_taken { session with interacted := true } key
    exact ⟨taken.outcome.sound both.1, taken.coherent both.2 both.1⟩
  exact (reachable.editor_invariant fresh step).2

/-- In every reachable session, the input that is pending is one that the mode
can wait to have completed, and the status line shows it; there is a fixed end
of the selection just in the visual modes, on a character of the text; there
is a search term being typed only in the search mode, and a typing run only
while typing; and the last search has a term, and an index that is that of a
match if there is one. -/
theorem Reachable.mode_coherent {session : Session}
    (reachable : Reachable session) :
    let editor := session.editor
    ((editor.mode.takesCommands = false → editor.pending = .none) ∧
      (editor.mode.isVisual →
        editor.pending = .none ∨ editor.pending = .keys ['g']) ∧
      (editor.mode = .normal →
        editor.pending = .none ∨
          (∃ opener ∈ ['g', 'd', 'y', 'c'],
            editor.pending = .keys [opener]) ∨
          editor.pending = .replacement ∨ editor.pending = .markToSet ∨
          editor.pending = .markToReach)) ∧
    (editor.pending ≠ .none →
      editor.notice.map Notice.text = editor.pending.prompt?) ∧
    (editor.anchor.isSome = editor.mode.isVisual ∧
      ∀ anchor, editor.anchor = some anchor →
        anchor.row < editor.buffer.lineCount ∧
          anchor.column < max (editor.buffer.width anchor.row) 1) ∧
    (editor.mode ≠ .search → editor.prompt.typed = []) ∧
    (editor.history.typing →
      editor.mode = .insert ∨ editor.mode = .replace) ∧
    ∀ search, editor.search = some search →
      search.term ≠ [] ∧
        (search.index < search.positions.length ∨
          search.positions = [] ∧ search.index = 0) := by
  intro editor
  have coherent : editor.Coherent := reachable.coherent
  refine ⟨⟨?_, ?_, ?_⟩, ?_, ⟨?_, ?_⟩, coherent.unasked, ?_, ?_⟩
  · exact coherent.awaits.eq_none
  · exact coherent.awaits.of_isVisual
  · intro normal
    have awaits := coherent.awaits
    rw [normal] at awaits
    exact awaits.of_normal
  · intro pending
    rw [coherent.prompted pending]
    cases editor.pending.prompt? <;> rfl
  · exact coherent.anchor_isSome
  · intro anchor fixed
    exact coherent.anchor_inText fixed
  · intro running
    exact Mode.insert_or_replace (reachable.sound.run_mode running)
  · intro search last
    have found := coherent.search search last
    exact ⟨found.term_ne_nil, found.index⟩

/-- A selection from a match that an edit has moved, with a command begun. -/
theorem mode_coherent_in_selection :
    let session := (ofBuffer (.ofLines [['a', 'b'], ['b']]) 3).feed
      [.char '/', .char 'b', .plain .enter, .char 'x', .char 'n', .char 'v',
        .char 'g']
    let editor := session.editor
    Reachable session ∧ editor.mode = .visual ∧
    editor.pending = .keys ['g'] ∧ editor.search.isSome ∧
    ((editor.mode.takesCommands = false → editor.pending = .none) ∧
      (editor.mode.isVisual →
        editor.pending = .none ∨ editor.pending = .keys ['g']) ∧
      (editor.mode = .normal →
        editor.pending = .none ∨
          (∃ opener ∈ ['g', 'd', 'y', 'c'],
            editor.pending = .keys [opener]) ∨
          editor.pending = .replacement ∨ editor.pending = .markToSet ∨
          editor.pending = .markToReach)) ∧
    (editor.pending ≠ .none →
      editor.notice.map Notice.text = editor.pending.prompt?) ∧
    (editor.anchor.isSome = editor.mode.isVisual ∧
      ∀ anchor, editor.anchor = some anchor →
        anchor.row < editor.buffer.lineCount ∧
          anchor.column < max (editor.buffer.width anchor.row) 1) ∧
    (editor.mode ≠ .search → editor.prompt.typed = []) ∧
    (editor.history.typing →
      editor.mode = .insert ∨ editor.mode = .replace) ∧
    ∀ search, editor.search = some search →
      search.term ≠ [] ∧
        (search.index < search.positions.length ∨
          search.positions = [] ∧ search.index = 0) := by
  intro session editor
  have reachable : Reachable session :=
    (Reachable.ofBuffer (.ofLines [['a', 'b'], ['b']]) 3).feed _
  exact ⟨reachable, by decide +kernel, by decide +kernel, by decide +kernel,
    reachable.mode_coherent⟩

end Session

end ModalTutor
