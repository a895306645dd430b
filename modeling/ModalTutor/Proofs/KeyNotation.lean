import ModalTutor.Key.Script

/-!
# Writing and reading keys

A key that is written is read back as it was, whatever is written after it,
but for a closing bracket struck with modifiers: it would end its own name.  No
script stands for such a key, so the keys of a script can always be written
again.  `KeyScript.parse_render_iff` says both.
-/

namespace ModalTutor

/-- A closing bracket has no notation once modifiers are held. -/
def Key.Writable (key : Key) : Prop :=
  key.code = .char '>' → key.modifiers = .none

namespace KeyCode

@[simp] theorem ofName?_single (character : Char) :
    ofName? [character] = none := by
  generalize shape : [character] = name
  revert shape
  fun_cases ofName? name <;> simp

theorem ofName?_name {code : KeyCode}
    (named : ∀ character, code ≠ .char character) :
    ofName? (code.name.map Char.toLower) = some code := by
  cases code with
  | char character => exact absurd rfl (named character)
  | enter | escape | backspace | tab | up | down | left | right => rfl

/-- Only two characters have names of their own. -/
theorem eq_of_ofName?_char {name : Text} {character : Char}
    (found : ofName? name = some (.char character)) :
    character = '<' ∨ character = ' ' := by
  revert found
  fun_cases ofName? name <;> simp +contextual [eq_comm]

theorem name_unclosed {code : KeyCode} (other : code ≠ .char '>') :
    '>' ∉ code.name := by
  cases code with
  | char character =>
      intro closes
      exact other (congrArg char (List.mem_singleton.mp closes).symm)
  | enter | escape | backspace | tab | up | down | left | right => decide

end KeyCode

theorem Modifiers.render_unclosed (modifiers : Modifiers) :
    '>' ∉ modifiers.render := by
  obtain ⟨control, alt, shift⟩ := modifiers
  cases control <;> cases alt <;> cases shift <;> decide

namespace KeyScript

/-- The part of a name that has been read. -/
def Place.begun : Place → Text
  | between => []
  | inside _ name => name

theorem splitModifiers_name (code : KeyCode) :
    splitModifiers code.name = (.none, code.name) := by
  cases code <;> rfl

theorem splitModifiers_render_append (modifiers : Modifiers) {name : Text}
    (bare : splitModifiers name = (.none, name)) :
    splitModifiers (modifiers.render ++ name) = (modifiers, name) := by
  obtain ⟨control, alt, shift⟩ := modifiers
  cases control <;> cases alt <;> cases shift <;>
    simp [Modifiers.render, splitModifiers, Modifiers.ofLetter?, bare,
      Modifiers.union, Modifiers.none]

theorem mem_of_splitModifiers {body : Text} {character : Char}
    (member : character ∈ (splitModifiers body).2) : character ∈ body := by
  fun_induction splitModifiers body with
  | case1 letter rest modifier _ later ih =>
      exact List.mem_cons_of_mem _ (List.mem_cons_of_mem _ (ih member))
  | case2 => exact member
  | case3 => exact member

/-- A key is found by its name, a character only after a modifier. -/
theorem named_render {modifiers : Modifiers} {code : KeyCode}
    (bracketed : modifiers = .none → ∀ character, code ≠ .char character) :
    named (modifiers.render ++ code.name) = .ok ⟨code, modifiers⟩ := by
  have split := splitModifiers_render_append modifiers
    (splitModifiers_name code)
  unfold named
  simp only [split]
  cases code with
  | char character =>
      have held : modifiers ≠ .none := by
        intro bare
        exact bracketed bare character rfl
      simp [KeyCode.name, held]
  | enter | escape | backspace | tab | up | down | left | right => rfl

/-- A character comes out of a name only if it stands in the name, but for the
two that have names of their own. -/
theorem mem_of_named {body : Text} {key : Key} {character : Char}
    (read : named body = .ok key) (feeds : key.code = .char character)
    (unnamed : character ≠ '<' ∧ character ≠ ' ') : character ∈ body := by
  unfold named at read
  dsimp only at read
  split at read
  · next code found =>
      cases read
      rw [show code = .char character from feeds] at found
      rcases KeyCode.eq_of_ofName?_char found with opening | space
      · exact absurd opening unnamed.1
      · exact absurd space unnamed.2
  · split at read
    · next other shape =>
        split at read
        · cases read
        · cases read
          cases feeds
          exact mem_of_splitModifiers (by rw [shape]; simp)
    · cases read

theorem parseFrom_character (offset : Nat) {character : Char}
    (unopened : character ≠ '<') (rest : Text) :
    parseFrom offset .between (character :: rest) =
      (parseFrom (offset + character.utf8Size) .between rest).map
        (Key.char character :: ·) := by
  rw [parseFrom]
  · rfl
  · exact unopened

/-- Without an opening bracket, a script types its characters. -/
theorem parseFrom_plain {script : Text} (unopened : '<' ∉ script)
    (offset : Nat) :
    parseFrom offset .between script = .ok (script.map Key.char) := by
  induction script generalizing offset with
  | nil => rfl
  | cons character rest ih =>
      rw [List.mem_cons, not_or] at unopened
      rw [parseFrom_character offset (Ne.symm unopened.1), ih unopened.2]
      rfl

/-- A name ends at the first closing bracket. -/
theorem parseFrom_name {body : Text} (unclosed : '>' ∉ body)
    (offset opened : Nat) (name rest : Text) :
    parseFrom offset (.inside opened name) (body ++ '>' :: rest) =
      (named (name ++ body)).bind fun key =>
        (parseFrom (offset + Line.byteLength body + 1) .between rest).map
          (key :: ·) := by
  induction body generalizing offset name with
  | nil =>
      rw [List.append_nil, List.nil_append, parseFrom]
      rfl
  | cons character body ih =>
      rw [List.mem_cons, not_or] at unclosed
      rw [List.cons_append, parseFrom, ih unclosed.2, List.append_assoc,
        List.singleton_append, Line.byteLength, Nat.add_assoc offset]
      exact fun closing => unclosed.1 closing.symm

theorem parseFrom_bracket {body : Text} (unclosed : '>' ∉ body)
    {key : Key} (read : named body = .ok key) (offset : Nat) (rest : Text) :
    parseFrom offset .between ('<' :: body ++ ['>'] ++ rest) =
      (parseFrom (offset + Line.byteLength ('<' :: body ++ ['>'])) .between
        rest).map (key :: ·) := by
  have opening : '<'.utf8Size = 1 := by decide
  have closing : '>'.utf8Size = 1 := by decide
  have length : Line.byteLength ('<' :: body ++ ['>']) =
      1 + Line.byteLength body + 1 := by
    simp [Line.byteLength, opening, closing, Nat.add_assoc]
  rw [length, List.append_assoc, List.cons_append, parseFrom,
    List.singleton_append, parseFrom_name unclosed, List.nil_append, read]
  simp only [Except.bind, Nat.add_assoc]

/-- A key is written as the character that it types, or as its name in
brackets. -/
theorem render_cases {key : Key} (writable : key.Writable) :
    (∃ character, character ≠ '<' ∧ key = .char character ∧
        key.render = [character]) ∨
      ∃ body, '>' ∉ body ∧ named body = .ok key ∧
        key.render = '<' :: body ++ ['>'] := by
  obtain ⟨code, modifiers⟩ := key
  by_cases bare : modifiers = .none
  · subst bare
    cases code with
    | char character =>
        by_cases opening : character = '<'
        · subst opening
          exact .inr ⟨['l', 't'], by decide, rfl, rfl⟩
        · refine .inl ⟨character, opening, rfl, ?_⟩
          simp [Key.render]
    | enter | escape | backspace | tab | up | down | left | right =>
        exact .inr ⟨_, KeyCode.name_unclosed (by decide), rfl, rfl⟩
  · have other : code ≠ .char '>' := fun closing => bare (writable closing)
    refine .inr ⟨modifiers.render ++ code.name, ?_,
      named_render fun unheld => absurd unheld bare, ?_⟩
    · rw [List.mem_append, not_or]
      exact ⟨modifiers.render_unclosed, KeyCode.name_unclosed other⟩
    · simp [Key.render, bare]

/-- A key is read back as it was written. -/
theorem parseFrom_render_append {key : Key} (writable : key.Writable)
    (offset : Nat) (rest : Text) :
    parseFrom offset .between (key.render ++ rest) =
      (parseFrom (offset + Line.byteLength key.render) .between rest).map
        (key :: ·) := by
  rcases render_cases writable with
    ⟨character, unopened, rfl, written⟩ | ⟨body, unclosed, read, written⟩
  · rw [written, List.singleton_append, parseFrom_character _ unopened]
    rfl
  · rw [written, parseFrom_bracket unclosed read]

theorem parseFrom_render {keys : List Key}
    (writable : ∀ key ∈ keys, key.Writable) (offset : Nat) :
    parseFrom offset .between (render keys) = .ok keys := by
  induction keys generalizing offset with
  | nil => rfl
  | cons key keys ih =>
      rw [List.forall_mem_cons] at writable
      rw [render, List.flatMap_cons, parseFrom_render_append writable.1,
        ← render, ih writable.2]
      rfl

/-- Where a key of a script comes from. -/
inductive Source (text : Text) (key : Key) : Prop where
  | typed (character : Char) (member : character ∈ text)
      (same : key = .char character)
  | bracketed (body : Text) (inText : body ⊆ text) (unclosed : '>' ∉ body)
      (read : named body = .ok key)

theorem Source.mono {text longer : Text} {key : Key}
    (source : Source text key) (inLonger : text ⊆ longer) :
    Source longer key := by
  cases source with
  | typed character member same =>
      exact .typed character (inLonger member) same
  | bracketed body inText unclosed read =>
      exact .bracketed body (List.Subset.trans inText inLonger) unclosed read

theorem source_of_parseFrom {offset : Nat} {place : Place} {text : Text}
    (unclosed : '>' ∉ place.begun) {keys : List Key}
    (parsed : parseFrom offset place text = .ok keys) {key : Key}
    (member : key ∈ keys) : Source (place.begun ++ text) key := by
  fun_induction parseFrom offset place text generalizing keys with
  | case1 offset =>
      cases parsed
      cases member
  | case2 => cases parsed
  | case3 offset rest ih =>
      exact (ih (List.not_mem_nil) parsed member).mono
        (List.subset_cons_self _ _)
  | case4 offset character rest _ ih =>
      cases later : parseFrom (offset + character.utf8Size) .between rest with
      | error error =>
          rw [later] at parsed
          cases parsed
      | ok keysLater =>
          rw [later] at parsed
          cases parsed
          rcases List.mem_cons.mp member with rfl | inLater
          · exact .typed character List.mem_cons_self rfl
          · exact (ih List.not_mem_nil later inLater).mono
              (List.subset_cons_self _ _)
  | case5 offset opened name rest ih =>
      cases first : named name with
      | error error =>
          rw [first] at parsed
          cases parsed
      | ok found =>
          cases later : parseFrom (offset + 1) .between rest with
          | error error =>
              rw [first, later] at parsed
              cases parsed
          | ok keysLater =>
              rw [first, later] at parsed
              cases parsed
              rcases List.mem_cons.mp member with rfl | inLater
              · exact .bracketed name (List.subset_append_left _ _) unclosed
                  first
              · refine (ih List.not_mem_nil later inLater).mono ?_
                exact List.Subset.trans (List.subset_cons_self _ _)
                  (List.subset_append_right _ _)
  | case6 offset opened name character rest other ih =>
      have stillUnclosed : '>' ∉ name ++ [character] := by
        rw [List.mem_append, List.mem_singleton, not_or]
        exact ⟨unclosed, fun closing => other closing.symm⟩
      simpa [Place.begun] using ih stillUnclosed parsed member

theorem source_of_parse {script : Text} {keys : List Key}
    (parsed : parse script = .ok keys) {key : Key} (member : key ∈ keys) :
    Source script key := by
  have unclosed : '>' ∉ Place.between.begun := List.not_mem_nil
  exact source_of_parseFrom unclosed parsed member

/-- No name has a closing bracket in it, so none stands for one. -/
theorem Source.writable {text : Text} {key : Key}
    (source : Source text key) : key.Writable := by
  intro closing
  cases source with
  | typed character _ same => rw [same]; rfl
  | bracketed body _ unclosed read =>
      exact absurd (mem_of_named read closing (by decide)) unclosed

/-- Keys can be written and read back if and only if none of them is a closing
bracket struck with modifiers, which the keys of a script never are. -/
theorem parse_render_iff :
    (∀ keys, parse (render keys) = .ok keys ↔
      ∀ key ∈ keys, key.code = .char '>' → key.modifiers = .none) ∧
    ∀ script keys, parse script = .ok keys →
      (∀ key ∈ keys, key.code = .char '>' → key.modifiers = .none) ∧
        parse (render keys) = .ok keys := by
  have accepted {script : Text} {keys : List Key}
      (parsed : parse script = .ok keys) : ∀ key ∈ keys, key.Writable :=
    fun _ member => (source_of_parse parsed member).writable
  constructor
  · intro keys
    exact ⟨accepted, fun writable => parseFrom_render writable 0⟩
  · intro script keys parsed
    exact ⟨accepted parsed, parseFrom_render (accepted parsed) 0⟩

/-- A dash and brackets as keys of their own, with and without modifiers. -/
theorem parse_render_of_brackets :
    let script := ['<', 'c', '-', 'M', '-', '-', '>', '<', 's', '-', '<',
      '>', '>', '<', 'L', 'T', '>', '<', 'A', '-', 'c', 'r', '>']
    let keys : List Key :=
      [⟨.char '-', ⟨true, true, false⟩⟩, ⟨.char '<', ⟨false, false, true⟩⟩,
        .char '>', .char '<', ⟨.enter, ⟨false, true, false⟩⟩]
    parse script = .ok keys ∧
      (∀ key ∈ keys, key.code = .char '>' → key.modifiers = .none) ∧
      parse (render keys) = .ok keys := by
  intro script keys
  have parsed : parse script = .ok keys := rfl
  exact ⟨parsed, parse_render_iff.2 script keys parsed⟩

end KeyScript

end ModalTutor
