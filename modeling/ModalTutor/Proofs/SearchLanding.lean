import ModalTutor.Proofs.Matches
import ModalTutor.Proofs.UndoRedo

/-!
# Where a search lands

From the key that opens the prompt to the one that submits the term, the keys
only gather the term.  So the search runs on the text and from the cursor that
it was opened with, and `Session.search_lands_nearest` says where it lands and
what it stores.
-/

namespace ModalTutor

/-- The command that asks for a term. -/
def Direction.command : Direction → Command
  | forward => .searchForward
  | backward => .searchBackward

namespace Editor

/-- The same editor while it asks for a term. -/
def asking (editor : Editor) (prompt : Prompt) : Editor :=
  { editor with
    mode := .search
    pending := .none
    prompt
    notice := some (.shown prompt.display) }

/-- The same editor back from the prompt. -/
def answered (editor : Editor) (direction : Direction) : Editor :=
  { editor with
    mode := .normal
    pending := .none
    prompt := ⟨[], direction⟩
    notice := none }

theorem run_opens (editor : Editor) (notice : Option Notice)
    (direction : Direction) :
    ({ editor with pending := .none, notice }.run direction.command).2 =
      editor.asking ⟨[], direction⟩ := by
  cases direction <;> rfl

theorem searchKey_printable (editor : Editor) (prompt : Prompt) {key : Key}
    {character : Char} (printable : key.printable? = some character) :
    ((editor.asking prompt).searchKey key).2 =
      editor.asking (prompt.push character) := by
  obtain ⟨shift, rfl⟩ := Key.printable?_eq_some printable
  rfl

theorem searchKey_enter {editor : Editor} {term : Text}
    (nonempty : term ≠ []) (direction : Direction)
    (settled : editor.cursor.onCharacter editor.buffer = editor.cursor)
    {key : Key} (submits : key.code = .enter) :
    ((editor.asking ⟨term, direction⟩).searchKey key).2 =
      (editor.answered direction).reach
        (.run editor.buffer term editor.cursor direction) := by
  have left : (editor.asking ⟨term, direction⟩).leave =
      editor.answered direction := by
    simp [asking, answered, leave, settle, Prompt.clear, settled]
  have typed : (editor.asking ⟨term, direction⟩).prompt.typed = term := rfl
  simp only [searchKey, submits, submitSearch, typed, if_neg nonempty, left]
  rfl

theorem reach_of_some {editor : Editor} {search : Search}
    {landing : Position} (current : search.current? = some landing)
    (inText : landing.onCharacter editor.buffer = landing) :
    editor.reach search =
      { editor with
        cursor := landing
        search := some search
        notice := some (.matchReached (search.index + 1)
          search.positions.length) } := by
  simp [reach, current, inText, say]

theorem reach_of_none {editor : Editor} {search : Search}
    (current : search.current? = none) :
    editor.reach search =
      { editor with
        search := some search
        notice := some .patternNotFound } := by
  simp [reach, current, say]

end Editor

theorem Search.run_ascending (buffer : Buffer) {term : Text}
    (nonempty : term ≠ []) (cursor : Position) (direction : Direction) :
    (run buffer term cursor direction).positions.Pairwise (· < ·) :=
  matchesFrom_ascending nonempty buffer.lines 0

/-- A search lands on the nearest match if there is any. -/
theorem Search.run_lands {buffer : Buffer} {term : Text}
    (nonempty : term ≠ []) (cursor : Position) (direction : Direction)
    (found : {place | buffer.MatchesAt term place}.Nonempty) :
    ∃ landing,
      (run buffer term cursor direction).current? = some landing ∧
        direction.Lands {place | buffer.MatchesAt term place} cursor
          landing := by
  have same : {place | buffer.MatchesAt term place} =
      {place | place ∈ buffer.occurrences term} :=
    Set.ext fun _ => (Buffer.mem_occurrences nonempty).symm
  rw [same] at found ⊢
  obtain ⟨place, member⟩ := found
  exact nearestMatch_lands (matchesFrom_ascending nonempty buffer.lines 0)
    (List.ne_nil_of_mem member) cursor direction

theorem Direction.Lands.mem {places : Set Position}
    {cursor landing : Position} {direction : Direction}
    (lands : direction.Lands places cursor landing) : landing ∈ places := by
  cases direction with
  | forward | backward =>
      rcases lands with ⟨⟨member, _⟩, _⟩ | ⟨_, member, _⟩
      · exact member
      · exact member

namespace Session

variable {session : Session} {direction : Direction}

theorem Idle.dispatch_opener (idle : session.Idle) {opener : Key}
    (opens : opener.printable? = some direction.promptChar)
    (allowed : session.allows direction.command) :
    (session.dispatch opener).2.editor =
      session.editor.asking ⟨[], direction⟩ := by
  have completes : Interpretation.ofKey .normal .none opener =
      (.command direction.command, .none) := by
    obtain ⟨shift, rfl⟩ := Key.printable?_eq_some opens
    cases direction <;> cases shift <;> rfl
  have runs := idle.runs completes allowed
  exact (congrArg Prod.snd runs.dispatch_eq).trans (Editor.run_opens _ _ _)

/-- Every key but escape goes to the prompt. -/
theorem dispatch_searching {key : Key}
    (searching : session.editor.mode = .search)
    (unescaped : key.isEscape = false) :
    (session.dispatch key).2.editor = (session.editor.searchKey key).2 := by
  simp [dispatch, takeKey, searching, unescaped, adopt, Editor.typeKey]

theorem feed_term {editor : Editor} {prompt : Prompt}
    (asking : session.editor = editor.asking prompt) {typed : List Key}
    {term : Text} (types : typed.map Key.printable? = term.map some) :
    (session.feed typed).editor =
      editor.asking { prompt with typed := prompt.typed ++ term } := by
  induction typed generalizing session prompt term with
  | nil =>
      rw [List.map_nil, eq_comm, List.map_eq_nil_iff] at types
      rw [types, List.append_nil]
      exact asking
  | cons key typed ih =>
      obtain ⟨character, rest, rfl, printable, types⟩ :=
        List.map_eq_cons_iff.mp types.symm
      have step : (session.dispatch key).2.editor =
          editor.asking (prompt.push character) := by
        rw [dispatch_searching (by rw [asking]; rfl)
          (Key.isEscape_of_printable? printable.symm), asking]
        exact Editor.searchKey_printable editor prompt printable.symm
      rw [feed_cons, ih step types.symm]
      simp [Prompt.push]

/-- All that the keys of a search come to is one step from the prompt to the
match. -/
theorem Idle.feed_search (idle : session.Idle)
    (settled : session.editor.cursor.onCharacter session.editor.buffer =
      session.editor.cursor)
    (allowed : session.allows direction.command) {opener : Key}
    (opens : opener.printable? = some direction.promptChar)
    {typed : List Key} {term : Text} (nonempty : term ≠ [])
    (types : typed.map Key.printable? = term.map some) {enter : Key}
    (submits : enter.code = .enter) :
    (session.feed (opener :: typed ++ [enter])).editor =
      (session.editor.answered direction).reach
        (.run session.editor.buffer term session.editor.cursor direction) := by
  have asked := feed_term (idle.dispatch_opener opens allowed) types
  rw [List.nil_append] at asked
  have unescaped : enter.isEscape = false := by
    rw [Key.isEscape, decide_eq_false_iff_not]
    rintro rfl
    cases submits
  rw [List.cons_append, feed_cons, feed_append, feed_cons, feed_nil,
    dispatch_searching (by rw [asked]; rfl) unescaped, asked]
  exact Editor.searchKey_enter nonempty direction settled submits

/-- A search lands on the nearest match in its direction, comes in again at the
other end if there is none, and stays if there is no match at all.  It stores
the matches in document order and changes neither text nor register, marks or
history. -/
theorem search_lands_nearest (reachable : Reachable session)
    (unrestricted : session.allowed = none) (idle : session.Idle)
    {opener : Key} (opens : opener.printable? = some direction.promptChar)
    {typed : List Key} {term : Text} (nonempty : term ≠ [])
    (types : typed.map Key.printable? = term.map some) {enter : Key}
    (submits : enter.code = .enter) :
    let before := session.editor
    let after := (session.feed (opener :: typed ++ [enter])).editor
    let places := {place | before.buffer.MatchesAt term place}
    (places = ∅ → after.cursor = before.cursor ∧
      after.notice.map Notice.text = some "Pattern not found".toList) ∧
    (places.Nonempty → direction.Lands places before.cursor after.cursor) ∧
    (∃ search, after.search = some search ∧ search.term = term ∧
      search.direction = direction ∧
      search.positions.Pairwise (· < ·) ∧
      (∀ place, place ∈ search.positions ↔ place ∈ places) ∧
      (places.Nonempty →
        search.positions[search.index]? = some after.cursor)) ∧
    after.mode = .normal ∧ after.pending = .none ∧
    after.buffer = before.buffer ∧ after.register = before.register ∧
    after.marks = before.marks ∧ after.history = before.history := by
  intro before after places
  have settled := reachable.sound.settled (by rw [idle.mode]; rfl)
  have allowed : session.allows direction.command := by
    simp [allows, unrestricted]
  have reached := idle.feed_search settled allowed opens nonempty types submits
  let search := Search.run before.buffer term before.cursor direction
  have ascending : search.positions.Pairwise (· < ·) :=
    Search.run_ascending before.buffer nonempty before.cursor direction
  have members (place : Position) :
      place ∈ search.positions ↔ place ∈ places :=
    Buffer.mem_occurrences nonempty
  by_cases found : places.Nonempty
  · obtain ⟨landing, current, lands⟩ :=
      Search.run_lands nonempty before.cursor direction found
    have landed := reached.trans
      (Editor.reach_of_some current (lands.mem.onCharacter nonempty))
    refine ⟨fun none => absurd none found.ne_empty, ?_, ?_, ?_⟩
    · intro _
      rw [show after = _ from landed]
      exact lands
    · rw [show after = _ from landed]
      exact ⟨search, rfl, rfl, rfl, ascending, members, fun _ => current⟩
    · rw [show after = _ from landed]
      exact ⟨rfl, rfl, rfl, rfl, rfl, rfl⟩
  · have current : search.current? = none := by
      rw [Search.current?, List.getElem?_eq_none_iff]
      have unmatched : search.positions = [] :=
        List.eq_nil_iff_forall_not_mem.mpr fun place member =>
          found ⟨place, (members place).mp member⟩
      rw [unmatched]
      exact Nat.zero_le _
    have missed := reached.trans (Editor.reach_of_none current)
    rw [show after = _ from missed]
    refine ⟨fun _ => ⟨rfl, rfl⟩, fun some => absurd some found, ?_, rfl, rfl,
      rfl, rfl, rfl, rfl⟩
    exact ⟨search, rfl, rfl, rfl, ascending, members,
      fun some => absurd some found⟩

/-- Backward from an empty line to the later of two matches above it, which
overlap. -/
theorem search_lands_on_overlapping_match :
    let session := (ofBuffer
      (.ofLines [['a', 'A', 'a', 'b'], [], ['ä', 'a', 'A']]) 3).feed [.char 'j']
    let keys : List Key :=
      .char '?' :: [.char 'A', .char 'a'] ++ [.plain .enter]
    let before := session.editor
    let after := (session.feed keys).editor
    let places := {place | before.buffer.MatchesAt ['A', 'a'] place}
    session.Idle ∧ before.cursor = ⟨1, 0⟩ ∧ after.cursor = ⟨0, 1⟩ ∧
    ⟨0, 0⟩ ∈ places ∧ places.Nonempty ∧
    Direction.backward.Lands places before.cursor after.cursor ∧
    after.history = before.history := by
  intro session keys before after places
  have reachable : Reachable session :=
    (Reachable.ofBuffer
      (.ofLines [['a', 'A', 'a', 'b'], [], ['ä', 'a', 'A']]) 3).feed _
  have idle : session.Idle := ⟨rfl, rfl⟩
  have opens : (Key.char '?').printable? =
      some Direction.backward.promptChar := rfl
  have types : [Key.char 'A', .char 'a'].map Key.printable? =
      ['A', 'a'].map some := rfl
  have submits : (Key.plain .enter).code = .enter := rfl
  have first : ⟨0, 0⟩ ∈ places :=
    (Buffer.mem_occurrences (by decide)).mp (by decide +kernel)
  have found : places.Nonempty := ⟨_, first⟩
  have landed := search_lands_nearest reachable rfl idle opens (by decide)
    types submits
  dsimp only at landed
  obtain ⟨-, lands, -, -, -, -, -, -, history⟩ := landed
  exact ⟨idle, by decide +kernel, by decide +kernel, first, found,
    lands found, history⟩

end Session

end ModalTutor
