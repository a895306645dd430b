import ModalTutor.Editor.Edit

/-!
# Edits and line feeds

Lines are joined by line feeds in the register and cut at them again, so a
line should hold none itself.  Every edit keeps to that: what it cuts and
copies is part of a line, and what it pastes is a piece between line feeds or
characters that came out of a line.
-/

namespace ModalTutor

namespace Line

theorem subset_of_clusters {line : Text} {part : List Cluster}
    (taken : part ⊆ clusters line) : part.flatten ⊆ line := by
  intro character member
  obtain ⟨cluster, inPart, inCluster⟩ := List.mem_flatten.mp member
  rw [← clusters_flatten line]
  exact List.mem_flatten.mpr ⟨cluster, taken inPart, inCluster⟩

theorem upTo_subset (line : Text) (column : Nat) :
    upTo line column ⊆ line :=
  subset_of_clusters (List.take_subset _ _)

theorem onward_subset (line : Text) (column : Nat) :
    onward line column ⊆ line :=
  subset_of_clusters (List.drop_subset _ _)

theorem between_subset (line : Text) (first last : Nat) :
    between line first last ⊆ line :=
  subset_of_clusters
    (List.Subset.trans (List.drop_subset _ _) (List.take_subset _ _))

end Line

namespace Buffer

/-- No line holds a line feed. -/
def Lined (buffer : Buffer) : Prop :=
  ∀ line ∈ buffer.lines, '\n' ∉ line

instance (buffer : Buffer) : Decidable buffer.Lined :=
  inferInstanceAs (Decidable (∀ line ∈ buffer.lines, '\n' ∉ line))

variable {buffer : Buffer}

theorem row_lt_of_lt_width {row column : Nat}
    (within : column < buffer.width row) : row < buffer.lineCount := by
  refine Nat.lt_of_not_le fun beyond => ?_
  have missing : buffer.lines[row]? = none :=
    List.getElem?_eq_none beyond
  rw [width, line, line?, missing, Option.getD_none, Line.width_nil]
    at within
  exact Nat.not_lt_zero column within

/-- Text with a line feed spoils the line that it is put into. -/
theorem splice_not_lined {row : Nat} (first last : Nat) {text : Text}
    (inText : row < buffer.lineCount) (feeds : '\n' ∈ text) :
    ¬(buffer.splice row first last text).Lined := by
  intro spliced
  have within : row < (buffer.splice row first last text).lines.length := by
    simpa [Buffer.splice, Buffer.modifyLine, lineCount] using inText
  refine spliced _ (List.getElem_mem within) ?_
  simp [Buffer.splice, Buffer.modifyLine, feeds]

variable (lined : buffer.Lined)

include lined

theorem Lined.line (row : Nat) : '\n' ∉ buffer.line row := by
  unfold Buffer.line line?
  cases found : buffer.lines[row]? with
  | none => simp
  | some line => exact lined line (List.mem_of_getElem? found)

theorem Lined.slice (row first last : Nat) :
    '\n' ∉ buffer.slice row first last :=
  fun member => lined.line row (Line.between_subset _ _ _ member)

theorem Lined.modifyLine {row : Nat} {change : Text → Text}
    (keeps : ∀ line, '\n' ∉ line → '\n' ∉ change line) :
    (buffer.modifyLine row change).Lined := by
  intro line member
  obtain ⟨index, within, rfl⟩ := List.getElem_of_mem member
  have free (inText : index < buffer.lines.length) :
      '\n' ∉ buffer.lines[index] := lined _ (List.getElem_mem inText)
  simp only [Buffer.modifyLine, List.getElem_modify]
  split
  · exact keeps _ (free _)
  · exact free _

theorem Lined.splice (row first last : Nat) {text : Text}
    (free : '\n' ∉ text) : (buffer.splice row first last text).Lined := by
  refine lined.modifyLine ?_
  intro line unfed member
  rw [List.mem_append, List.mem_append] at member
  rcases member with (before | within) | after
  · exact unfed (Line.upTo_subset _ _ before)
  · exact free within
  · exact unfed (Line.onward_subset _ _ after)

theorem Lined.insertLines (row : Nat) {block : List Text}
    (free : ∀ line ∈ block, '\n' ∉ line) :
    (buffer.insertLines row block).Lined := by
  intro line member
  rw [Buffer.insertLines, List.mem_append, List.mem_append] at member
  rcases member with (before | within) | after
  · exact lined line (List.mem_of_mem_take before)
  · exact free line within
  · exact lined line (List.mem_of_mem_drop after)

theorem Lined.insertLine (row : Nat) {text : Text} (free : '\n' ∉ text) :
    (buffer.insertLine row text).Lined := by
  have only : ∀ line ∈ [text], '\n' ∉ line := by
    intro line member
    rw [List.mem_singleton.mp member]
    exact free
  have inserted := lined.insertLines row only
  simpa [Lined, Buffer.insertLines, Buffer.insertLine] using inserted

theorem Lined.removeLine (row : Nat) : (buffer.removeLine row).Lined := by
  intro line member
  unfold Buffer.removeLine at member
  cases left : buffer.lines.eraseIdx row with
  | nil =>
      rw [left] at member
      rw [List.mem_singleton.mp member]
      exact List.not_mem_nil
  | cons first rest =>
      rw [left] at member
      refine lined line (List.mem_of_mem_eraseIdx (i := row) ?_)
      rw [left]
      exact member

theorem Lined.breakLine (row column : Nat) :
    (buffer.breakLine row column).Lined := by
  unfold Buffer.breakLine
  split
  · exact lined
  · next line found =>
      have free : '\n' ∉ line := lined line (List.mem_of_getElem? found)
      have above : (buffer.setLine row (Line.upTo line column)).Lined :=
        lined.modifyLine fun _ _ member =>
          free (Line.upTo_subset _ _ member)
      exact above.insertLine (row + 1) fun member =>
        free (Line.onward_subset _ _ member)

theorem removeLines_lined (row count : Nat) :
    (removeLines row count buffer).2.Lined := by
  induction count generalizing buffer with
  | zero => exact lined
  | succ count ih =>
      unfold removeLines
      split
      · exact lined
      · exact ih (lined.removeLine row)

end Buffer

namespace Register

/-- Characters are held without line feeds. -/
def Lined (register : Register) : Prop :=
  register.extent = .characters → '\n' ∉ register.content

theorem pieces_free (text : Text) : ∀ piece ∈ pieces text, '\n' ∉ piece := by
  induction text with
  | nil => simp [pieces]
  | cons character rest ih =>
      intro piece member
      unfold pieces at member
      split at member
      · rcases List.mem_cons.mp member with rfl | later
        · exact List.not_mem_nil
        · exact ih piece later
      · next other =>
          have apart : '\n' ≠ character := fun same => other same.symm
          split at member
          · rw [List.mem_singleton.mp member]
            simpa using apart
          · next first later shape =>
              rw [shape] at ih
              rcases List.mem_cons.mp member with rfl | inLater
              · rw [List.mem_cons, not_or]
                exact ⟨apart, ih first List.mem_cons_self⟩
              · exact ih piece (List.mem_cons_of_mem _ inLater)

theorem holding?_lined {content : Text} {extent : Extent}
    (free : extent = .characters → '\n' ∉ content) :
    ∀ register, holding? content extent = some register → register.Lined := by
  intro register held
  unfold holding? at held
  dsimp only at held
  split at held
  · cases held
  · cases held
    exact free

end Register

namespace Edit

/-- The edit brings no line feed into the text or among the characters of the
register. -/
structure Lined (edit : Edit) : Prop where
  buffer : ∀ buffer, edit.buffer = some buffer → buffer.Lined
  register : ∀ register, edit.register = some register → register.Lined

theorem unchanged_lined (cursor : Position) (notice : Option Notice) :
    (unchanged cursor notice).Lined :=
  ⟨nofun, nofun⟩

/-- An edit that makes a text and leaves the register. -/
theorem lined_of_buffer {edit : Edit} {buffer : Buffer}
    (made : edit.buffer = some buffer) (lined : buffer.Lined)
    (unfilled : edit.register = none) : edit.Lined where
  buffer other same := by
    obtain rfl : buffer = other := Option.some.inj (made.symm.trans same)
    exact lined
  register register filled := by
    rw [unfilled] at filled
    cases filled

/-- An edit that fills the register and leaves the text. -/
theorem lined_of_register {edit : Edit} {content : Text} {extent : Extent}
    (unmade : edit.buffer = none)
    (filled : edit.register = Register.holding? content extent)
    (free : extent = .characters → '\n' ∉ content) : edit.Lined where
  buffer buffer made := by
    rw [unmade] at made
    cases made
  register register held :=
    Register.holding?_lined free register (filled.symm.trans held)

variable {buffer : Buffer} (lined : buffer.Lined)

include lined

theorem cut_lined (cursor : Position) (first last : Nat) (notice : Notice) :
    (cut buffer cursor first last notice).Lined where
  buffer other same := by
    cases same
    exact lined.splice cursor.row first last List.not_mem_nil
  register :=
    Register.holding?_lined fun _ => lined.slice cursor.row first last

theorem deleteChar_lined (cursor : Position) :
    (deleteChar buffer cursor).Lined := by
  unfold deleteChar
  split
  · exact cut_lined lined cursor _ _ _
  · exact unchanged_lined cursor _

theorem deleteLine_lined (cursor : Position) :
    (deleteLine buffer cursor).Lined := by
  unfold deleteLine
  split
  · exact unchanged_lined cursor _
  · refine ⟨?_, Register.holding?_lined nofun⟩
    rintro other ⟨⟩
    exact lined.removeLine cursor.row

theorem deleteWord_lined (cursor : Position) :
    (deleteWord buffer cursor).Lined := by
  unfold deleteWord
  dsimp only
  split
  · exact unchanged_lined cursor _
  · exact cut_lined lined cursor _ _ _

theorem deleteToLineEnd_lined (cursor : Position) :
    (deleteToLineEnd buffer cursor).Lined := by
  unfold deleteToLineEnd
  dsimp only
  split
  · exact cut_lined lined cursor _ _ _
  · exact unchanged_lined cursor _

theorem changeWord_lined (cursor : Position) :
    (changeWord buffer cursor).Lined := by
  unfold changeWord
  dsimp only
  split
  · exact ⟨nofun, nofun⟩
  · have cut := cut_lined lined cursor
      (Line.changeSpan (buffer.line cursor.row) cursor.column).1
      (Line.changeSpan (buffer.line cursor.row) cursor.column).2 .changedWord
    exact ⟨cut.buffer, cut.register⟩

theorem yankWord_lined (cursor : Position) :
    (yankWord buffer cursor).Lined :=
  lined_of_register rfl rfl fun _ => lined.slice _ _ _

/-- A replacement past the end of the line changes nothing. -/
theorem replaceChar_lined (cursor : Position) {character : Char}
    (harmless : cursor.column < buffer.width cursor.row →
      character ≠ '\n') : (replaceChar buffer cursor character).Lined := by
  unfold replaceChar
  split
  · next within =>
      have free : '\n' ∉ [character] := by
        simpa using (harmless within).symm
      exact lined_of_buffer rfl (lined.splice _ _ _ free) rfl
  · exact unchanged_lined cursor _

theorem pasteLines_lined (cursor : Position) (row : Nat)
    (register : Register) (notice : Notice) :
    (pasteLines buffer cursor row register.lines notice).Lined :=
  lined_of_buffer rfl
    (lined.insertLines row (Register.pieces_free register.content)) rfl

theorem pasteCharacters_lined (cursor : Position) (column : Nat)
    {register : Register} (held : register.Lined)
    (characters : register.extent = .characters) (notice : Notice) :
    (pasteCharacters buffer cursor column register.content notice).Lined :=
  lined_of_buffer rfl (lined.splice _ _ _ (held characters)) rfl

theorem pasteAfter_lined (cursor : Position) {register : Register}
    (held : register.Lined) : (pasteAfter buffer cursor register).Lined := by
  unfold pasteAfter
  split
  · exact unchanged_lined cursor _
  · split
    · exact pasteLines_lined lined cursor _ register _
    · next characters =>
        exact pasteCharacters_lined lined cursor _ held characters _

theorem pasteBefore_lined (cursor : Position) {register : Register}
    (held : register.Lined) :
    (pasteBefore buffer cursor register).Lined := by
  unfold pasteBefore
  split
  · exact unchanged_lined cursor _
  · split
    · exact pasteLines_lined lined cursor _ register _
    · next characters =>
        exact pasteCharacters_lined lined cursor _ held characters _

theorem deleteSelection_lined (selection : Selection) :
    (deleteSelection buffer selection).Lined := by
  unfold deleteSelection
  dsimp only
  split
  · split
    · exact cut_lined lined _ _ _ _
    · exact unchanged_lined _ _
  · refine ⟨?_, Register.holding?_lined nofun⟩
    rintro other ⟨⟩
    exact Buffer.removeLines_lined lined _ _

theorem yankSelection_lined (selection : Selection) :
    (yankSelection buffer selection).Lined := by
  unfold yankSelection
  dsimp only
  split
  · exact lined_of_register rfl rfl fun _ => lined.slice _ _ _
  · exact lined_of_register rfl rfl nofun

end Edit

end ModalTutor
