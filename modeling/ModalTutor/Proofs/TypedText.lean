import ModalTutor.Proofs.Soundness
import ModalTutor.Proofs.Segmentation

/-!
# Typed text

Typing goes one column further with every character, although a character
may join the cluster before it or the one after it.  `Line.typed` follows the
text on both sides of the cursor, and `typed_eq_iff` says when it grows by
just what was typed: at the end of a line always, and elsewhere if every
character stands apart as it is typed.
-/

namespace ModalTutor

namespace Line

/-- The text before and after the cursor once some characters were typed
between two texts. -/
def typed (before after : Text) : Text → Text × Text
  | [] => (before, after)
  | character :: rest =>
      let line := before ++ character :: after
      let column := width before + 1
      typed (upTo line column) (onward line column) rest

/-- Every character makes a cluster of its own as it is typed between two
texts. -/
def StandsApart (before after : Text) : Text → Prop
  | [] => True
  | character :: rest =>
      clusters (before ++ character :: after) =
        clusters before ++ [character] :: clusters after ∧
      StandsApart (before ++ [character]) after rest

instance decidableStandsApart : (before after text : Text) →
    Decidable (StandsApart before after text)
  | _, _, [] => .isTrue trivial
  | before, after, character :: rest =>
      have := decidableStandsApart (before ++ [character]) after rest
      inferInstanceAs (Decidable (_ ∧ _))

theorem typed_append (before after first second : Text) :
    typed before after (first ++ second) =
      typed (typed before after first).1 (typed before after first).2
        second := by
  induction first generalizing before after with
  | nil => rfl
  | cons character rest ih => exact ih _ _

/-- The cursor passes at least what is typed. -/
theorem prefix_upTo_typed (before after : Text) (character : Char) :
    before ++ [character] <+:
      upTo (before ++ character :: after) (width before + 1) := by
  have reach := prefix_upTo_append (before ++ [character]) after
  rw [List.append_assoc, List.singleton_append] at reach
  exact reach.trans (upTo_prefix_upTo _ (width_concat_le before character))

/-- What lies after the cursor never grows. -/
theorem onward_typed_length_le (before after : Text) (character : Char) :
    (onward (before ++ character :: after) (width before + 1)).length ≤
      after.length := by
  have passed := (prefix_upTo_typed before after character).length_le
  have whole := congrArg List.length
    (upTo_append_onward (before ++ character :: after) (width before + 1))
  simp only [List.length_append, List.length_cons, List.length_nil]
    at passed whole
  omega

/-- The cursor passes no more than what is typed if as much as before lies
after it. -/
theorem upTo_typed_of_length_le {before after : Text} {character : Char}
    (kept : after.length ≤
      (onward (before ++ character :: after) (width before + 1)).length) :
    upTo (before ++ character :: after) (width before + 1) =
      before ++ [character] := by
  have passed := prefix_upTo_typed before after character
  have whole := congrArg List.length
    (upTo_append_onward (before ++ character :: after) (width before + 1))
  refine (passed.eq_of_length_le ?_).symm
  simp only [List.length_append, List.length_cons, List.length_nil] at whole ⊢
  omega

theorem typed_length_le (before after text : Text) :
    (typed before after text).2.length ≤ after.length := by
  induction text generalizing before after with
  | nil => exact Nat.le_refl _
  | cons character rest ih =>
      exact Nat.le_trans (ih _ _)
        (onward_typed_length_le before after character)

/-- At the end of a line, typing is appending. -/
theorem typed_nil (before text : Text) :
    typed before [] text = (before ++ text, []) := by
  induction text generalizing before with
  | nil => simp [typed]
  | cons character rest ih =>
      have beyond := width_concat_le before character
      simp only [typed]
      rw [upTo_of_width_le beyond, onward_of_width_le beyond, ih,
        List.append_assoc, List.singleton_append]

theorem onward_typed {before after : Text} {character : Char}
    (cut : upTo (before ++ character :: after) (width before + 1) =
      before ++ [character]) :
    onward (before ++ character :: after) (width before + 1) = after := by
  have whole : before ++ character :: after =
      (before ++ [character]) ++ after := by
    rw [List.append_assoc, List.singleton_append]
  rw [whole] at cut ⊢
  exact onward_eq_of_upTo cut

/-- The cursor comes right after what is typed just if that stands apart. -/
theorem upTo_typed_iff {before after : Text} {character : Char}
    (inside : after ≠ []) :
    upTo (before ++ character :: after) (width before + 1) =
        before ++ [character] ↔
      clusters (before ++ character :: after) =
        clusters before ++ [character] :: clusters after := by
  constructor
  · intro cut
    have rest := onward_typed cut
    have split := clusters_upTo_append_onward
      (before ++ character :: after) (width before + 1)
    have longer : width before + 1 ≤
        width (before ++ character :: after) := by
      refine Nat.le_of_not_le fun beyond => inside ?_
      rw [← rest, onward_of_width_le beyond]
    have wide := width_upTo (before ++ character :: after) (width before + 1)
    rw [cut, Nat.min_eq_left longer] at wide
    rw [cut, rest] at split
    rcases clusters_concat before character with apart | joined
    · rw [split, apart, List.append_assoc, List.singleton_append]
    · exact absurd (wide.symm.trans joined) (Nat.succ_ne_self _)
  · intro apart
    have taken : (clusters (before ++ character :: after)).take
        (width before + 1) = clusters before ++ [[character]] := by
      rw [apart, width, List.take_length_add_append]
      rfl
    rw [upTo, taken, List.flatten_append, clusters_flatten]
    rfl

/-- Between two texts, typing inserts what is typed just if every character
stands apart. -/
theorem typed_inside_iff {before after : Text} (text : Text)
    (inside : after ≠ []) :
    typed before after text = (before ++ text, after) ↔
      StandsApart before after text := by
  induction text generalizing before with
  | nil => simp [typed, StandsApart]
  | cons character rest ih =>
      have whole : before ++ character :: rest =
          (before ++ [character]) ++ rest := by
        rw [List.append_assoc, List.singleton_append]
      simp only [typed, StandsApart]
      rw [← upTo_typed_iff inside, whole]
      constructor
      · intro verbatim
        have cut : upTo (before ++ character :: after) (width before + 1) =
            before ++ [character] := by
          refine upTo_typed_of_length_le ?_
          have kept := congrArg (fun sides => sides.2.length) verbatim
          exact Nat.le_trans (Nat.le_of_eq kept.symm)
            (typed_length_le _ _ rest)
        rw [cut, onward_typed cut] at verbatim
        exact ⟨cut, ih.mp verbatim⟩
      · rintro ⟨cut, apart⟩
        rw [cut, onward_typed cut]
        exact ih.mpr apart

/-- If putting in any one character at two places comes to the same, the places
are the same. -/
theorem eq_of_forall_insert {before after first second : Text}
    (same : ∀ character : Char,
      before ++ character :: after = first ++ character :: second) :
    before = first ∧ after = second := by
  induction before generalizing first with
  | nil =>
      cases first with
      | nil => exact ⟨rfl, (List.cons.inj (same 'a')).2⟩
      | cons head tail =>
          have least : 'a' = head := (List.cons.inj (same 'a')).1
          have other : 'b' = head := (List.cons.inj (same 'b')).1
          exact absurd (least.trans other.symm) (by decide)
  | cons head tail ih =>
      cases first with
      | nil =>
          have least : head = 'a' := (List.cons.inj (same 'a')).1
          have other : head = 'b' := (List.cons.inj (same 'b')).1
          exact absurd (least.symm.trans other) (by decide)
      | cons head' tail' =>
          obtain ⟨tails, rest⟩ := ih fun character =>
            (List.cons.inj (same character)).2
          have heads : head = head' := (List.cons.inj (same 'a')).1
          exact ⟨by rw [heads, tails], rest⟩

/-- What is typed last is inserted wherever the cursor was. -/
theorem typed_concat (before after text : Text) (last : Char) :
    (typed before after (text ++ [last])).1 ++
        (typed before after (text ++ [last])).2 =
      (typed before after text).1 ++
        last :: (typed before after text).2 := by
  rw [typed_append]
  exact upTo_append_onward _ _

theorem typed_eq_iff {before after : Text} (text : Text) :
    typed before after text = (before ++ text, after) ↔
      after = [] ∨ StandsApart before after text := by
  by_cases inside : after = []
  · rw [inside, typed_nil]
    simp
  · rw [typed_inside_iff text inside]
    simp [inside]

end Line

/-- A key that types a character types it in the insert mode. -/
theorem Editor.insertKey_printable (editor : Editor) {key : Key}
    {character : Char} (printable : key.printable? = some character) :
    editor.insertKey key =
      (.changed, editor.settleTyping.typeCharacter character) := by
  obtain ⟨shift, rfl⟩ := Key.printable?_eq_some printable
  rfl

namespace Session

/-- The session inserts between two texts in a row of some lines. -/
structure InsertsBetween (session : Session) (lines : List Text) (row : Nat)
    (before after : Text) : Prop where
  mode : session.editor.mode = .insert
  cursor_row : session.editor.cursor.row = row
  row_lt : row < lines.length
  text : session.editor.buffer.lines = lines.set row (before ++ after)
  cut : Line.upTo (before ++ after) session.editor.cursor.column = before

namespace InsertsBetween

variable {session : Session} {lines : List Text} {row : Nat}
  {before after : Text}

theorem line (inserts : session.InsertsBetween lines row before after) :
    session.editor.buffer.line row = before ++ after := by
  simp [Buffer.line, Buffer.line?, inserts.text, inserts.row_lt]

theorem width_before
    (inserts : session.InsertsBetween lines row before after) :
    Line.width before =
      min session.editor.cursor.column (Line.width (before ++ after)) := by
  have width := Line.width_upTo (before ++ after)
    session.editor.cursor.column
  rw [inserts.cut] at width
  exact width

/-- A cursor beyond the end of the line cuts it at the end. -/
theorem cut_width (inserts : session.InsertsBetween lines row before after) :
    Line.upTo (before ++ after) (Line.width before) = before := by
  rw [inserts.width_before, Line.upTo_min_width]
  exact inserts.cut

theorem settleTyping_cursor
    (inserts : session.InsertsBetween lines row before after) :
    session.editor.settleTyping.cursor = ⟨row, Line.width before⟩ := by
  have row_lt : session.editor.cursor.row <
      session.editor.buffer.lineCount := by
    rw [inserts.cursor_row, Buffer.lineCount, inserts.text, List.length_set]
    exact inserts.row_lt
  rw [Editor.settleTyping, Position.betweenCharacters_of_row_lt row_lt,
    inserts.cursor_row, Buffer.width, inserts.line, inserts.width_before]

/-- Putting a text where the cursor is changes only its row. -/
theorem splice_width
    (inserts : session.InsertsBetween lines row before after)
    (inserted : Text) :
    (session.editor.buffer.splice row (Line.width before)
        (Line.width before) inserted).lines =
      lines.set row (before ++ inserted ++ after) := by
  have rest := Line.onward_eq_of_upTo inserts.cut_width
  simp only [Buffer.splice, Buffer.modifyLine, Nat.min_self, Nat.max_self]
  rw [List.modify_eq_set, inserts.text, List.set_set,
    List.getElem?_set_self inserts.row_lt, Option.getD_some,
    inserts.cut_width, rest]

theorem dispatch_editor {key : Key} {character : Char}
    (inserts : session.InsertsBetween lines row before after)
    (printable : key.printable? = some character) :
    (session.dispatch key).2.editor =
      session.editor.settleTyping.typeCharacter character := by
  have taken := dispatch_typing (by rw [inserts.mode]; rfl)
    (Key.isEscape_of_printable? printable)
  rw [Editor.typeKey, inserts.mode,
    Editor.insertKey_printable _ printable] at taken
  exact congrArg Prod.snd taken

theorem dispatch {key : Key} {character : Char}
    (inserts : session.InsertsBetween lines row before after)
    (printable : key.printable? = some character) :
    let line := before ++ character :: after
    let column := Line.width before + 1
    (session.dispatch key).2.InsertsBetween lines row
      (Line.upTo line column) (Line.onward line column) := by
  intro line column
  have typed := inserts.dispatch_editor printable
  have settled := inserts.settleTyping_cursor
  exact
    { mode := by
        rw [typed]
        exact inserts.mode
      cursor_row := by
        rw [typed]
        exact congrArg Position.row settled
      row_lt := inserts.row_lt
      text := by
        rw [typed, Line.upTo_append_onward]
        simp only [Editor.typeCharacter, Editor.typeChange, settled]
        refine (inserts.splice_width [character]).trans ?_
        rw [List.append_assoc, List.singleton_append]
      cut := by
        rw [typed, Line.upTo_append_onward, Editor.typeCharacter, settled]
        rfl }

theorem feed (text : Text) :
    ∀ {session : Session} {before after : Text} {keys : List Key},
      session.InsertsBetween lines row before after →
      keys.map Key.printable? = text.map some →
      (session.feed keys).InsertsBetween lines row
        (Line.typed before after text).1
        (Line.typed before after text).2 := by
  induction text with
  | nil =>
      intro session before after keys inserts typed
      rw [List.map_nil, List.map_eq_nil_iff] at typed
      rw [typed]
      exact inserts
  | cons character text ih =>
      intro session before after keys inserts typed
      obtain ⟨key, rest, rfl, printable, typed⟩ :=
        List.map_eq_cons_iff.mp typed
      have later := ih (inserts.dispatch printable) typed
      exact later

end InsertsBetween

/-- Equal lines after the typing of a text are cut alike before its last
character. -/
theorem InsertsBetween.typed_eq_of_feed {session : Session}
    {lines : List Text} {row : Nat} {before after line text : Text}
    {last : Char} (inserts : session.InsertsBetween lines row before after)
    (grown : ∀ keys : List Key,
      keys.map Key.printable? = (text ++ [last]).map some →
        (session.feed keys).editor.buffer.lines = lines.set row line) :
    (Line.typed before after text).1 ++
      last :: (Line.typed before after text).2 = line := by
  have typed : ((text ++ [last]).map Key.char).map Key.printable? =
      (text ++ [last]).map some := by
    rw [List.map_map]
    rfl
  have reached := (inserts.feed _ typed).text
  rw [Line.typed_concat, grown _ typed] at reached
  have rows := congrArg (fun lines => lines[row]?) reached
  rw [List.getElem?_set_self inserts.row_lt,
    List.getElem?_set_self inserts.row_lt] at rows
  exact (Option.some.inj rows).symm

theorem insertsBetween {session : Session}
    (inserting : session.editor.mode = .insert)
    (row_lt : session.editor.cursor.row <
      session.editor.buffer.lines.length) :
    let line := session.editor.buffer.line session.editor.cursor.row
    session.InsertsBetween session.editor.buffer.lines
      session.editor.cursor.row
      (Line.upTo line session.editor.cursor.column)
      (Line.onward line session.editor.cursor.column) where
  mode := inserting
  cursor_row := rfl
  row_lt := row_lt
  text := by
    rw [Line.upTo_append_onward, Buffer.line_eq_getElem row_lt,
      List.set_getElem_self]
  cut := by rw [Line.upTo_append_onward]

/-- Typing in the insert mode changes no line but the one of the cursor.  That
line grows by just the typed text, whatever its last character is, if and only
if the cursor is at its end or every character before the last stands apart
from what is around it. -/
theorem typed_text_verbatim_iff {session : Session}
    (reachable : Reachable session)
    (inserting : session.editor.mode = .insert) :
    let row := session.editor.cursor.row
    let lines := session.editor.buffer.lines
    let line := session.editor.buffer.line row
    let before := Line.upTo line session.editor.cursor.column
    let after := Line.onward line session.editor.cursor.column
    (∀ (text : Text) (keys : List Key),
      keys.map Key.printable? = text.map some →
        ∃ changed, (session.feed keys).editor.buffer.lines =
          lines.set row changed) ∧
    ∀ text : Text,
      (∀ (last : Char) (keys : List Key),
        keys.map Key.printable? = (text ++ [last]).map some →
          (session.feed keys).editor.buffer.lines =
            lines.set row (before ++ (text ++ [last]) ++ after)) ↔
        after = [] ∨ Line.StandsApart before after text := by
  intro row lines line before after
  have inserts : session.InsertsBetween lines row before after :=
    insertsBetween inserting reachable.sound.row_lt
  constructor
  · intro text keys typed
    exact ⟨_, (inserts.feed text typed).text⟩
  · intro text
    rw [← Line.typed_eq_iff]
    constructor
    · intro verbatim
      have inserted (last : Char) :
          (Line.typed before after text).1 ++
              last :: (Line.typed before after text).2 =
            (before ++ text) ++ last :: after := by
        rw [inserts.typed_eq_of_feed (verbatim last)]
        simp only [List.append_assoc, List.singleton_append]
      obtain ⟨left, right⟩ := Line.eq_of_forall_insert inserted
      exact Prod.ext left right
    · intro sides last keys typed
      rw [(inserts.feed _ typed).text, Line.typed_concat, sides]
      simp only [List.append_assoc, List.singleton_append]

theorem typed_letters_are_verbatim :
    let session := (ofBuffer (.ofLines [['a', 'b'], ['c']]) 3).feed
      [.char 'a']
    let line := session.editor.buffer.line session.editor.cursor.row
    let before := Line.upTo line session.editor.cursor.column
    let after := Line.onward line session.editor.cursor.column
    session.editor.mode = .insert ∧ after ≠ [] ∧
      Line.StandsApart before after ['x'] ∧
      (session.feed [.char 'x', .char 'y']).editor.buffer.lines =
        session.editor.buffer.lines.set session.editor.cursor.row
          (before ++ (['x'] ++ ['y']) ++ after) := by
  intro session line before after
  have reachable : Reachable session :=
    (Reachable.ofBuffer (.ofLines [['a', 'b'], ['c']]) 3).feed [.char 'a']
  have apart : Line.StandsApart before after ['x'] := by decide +kernel
  have verbatim := ((typed_text_verbatim_iff reachable rfl).2 ['x']).mpr
    (.inr apart) 'y' [.char 'x', .char 'y'] rfl
  exact ⟨rfl, by decide +kernel, apart, verbatim⟩

/-- A mark joins the letter before it, so that the cursor passes the letter
after it as well. -/
theorem typed_mark_is_not_verbatim :
    ¬ ∀ session : Session, Reachable session →
      session.editor.mode = .insert →
      session.editor.cursor.column ≤
        session.editor.buffer.width session.editor.cursor.row →
      ∀ (text : Text) (keys : List Key),
        keys.map Key.printable? = text.map some →
          (session.feed keys).editor.buffer.lines =
            session.editor.buffer.lines.set session.editor.cursor.row
              (Line.upTo
                  (session.editor.buffer.line session.editor.cursor.row)
                  session.editor.cursor.column ++ text ++
                Line.onward
                  (session.editor.buffer.line session.editor.cursor.row)
                  session.editor.cursor.column) := by
  intro verbatim
  let session := (ofBuffer (.ofLines [['a', 'b']]) 3).feed [.char 'a']
  have reachable : Reachable session :=
    (Reachable.ofBuffer (.ofLines [['a', 'b']]) 3).feed [.char 'a']
  have inLine : session.editor.cursor.column ≤
      session.editor.buffer.width session.editor.cursor.row := by
    decide +kernel
  have typed := verbatim session reachable rfl inLine ['\u0301', 'x']
    [.char '\u0301', .char 'x'] rfl
  revert typed
  decide +kernel

end Session

end ModalTutor
