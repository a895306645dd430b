import Mathlib.Data.List.Forall2
import ModalTutor.Editor.Interpretation

/-!
# What keys begin and complete

`Trie.commands` are the commands that a trie can answer, and `Trie.openings`
the sequences of patterns after which it asks for more.  Both can be read off
the trie, so they say for all keys at once which commands a mode can run and
what it can wait to have completed.  `Interpretation.Reading` lists what a key
can come to in these terms.
-/

namespace ModalTutor

namespace Trie

/-- All commands that some keys complete. -/
def commands : Trie → List Command
  | empty => []
  | branch _ bound children siblings =>
      bound.toList ++ children.commands ++ siblings.commands

/-- The sequences that begin a bound one without having completed any. -/
def openings : Trie → List (List Pattern)
  | empty => []
  | branch pattern bound children siblings =>
      (if bound = none then
        [pattern] :: children.openings.map (pattern :: ·)
      else []) ++ siblings.openings

theorem mem_commands_of_longest? {trie : Trie} {keys : List Key}
    {command : Command} (found : trie.longest? keys = some command) :
    command ∈ trie.commands := by
  induction trie generalizing keys with
  | empty => cases keys <;> cases found
  | branch pattern bound children siblings childrenIh siblingsIh =>
      cases keys with
      | nil => cases found
      | cons key rest =>
          simp only [commands, List.mem_append, Option.mem_toList]
          rw [longest?] at found
          split at found
          · rcases Option.or_eq_some_iff.mp found with below | ⟨_, here⟩
            · exact .inl (.inr (childrenIh below))
            · exact .inl (.inl here)
          · exact .inr (siblingsIh found)

/-- Keys that all find a branch and complete nothing are an opening. -/
theorem exists_opening {trie : Trie} {keys : List Key} (nonempty : keys ≠ [])
    (unmatched : trie.longest? keys = none) (walks : trie.walksAll keys) :
    ∃ sequence ∈ trie.openings,
      List.Forall₂ (fun pattern key => pattern.accepts key = true)
        sequence keys := by
  induction trie generalizing keys with
  | empty =>
      cases keys with
      | nil => exact absurd rfl nonempty
      | cons key rest => cases walks
  | branch pattern bound children siblings childrenIh siblingsIh =>
      cases keys with
      | nil => exact absurd rfl nonempty
      | cons key rest =>
          simp only [openings, List.mem_append]
          rw [longest?] at unmatched
          rw [walksAll] at walks
          split at unmatched
          · next accepted =>
              rw [if_pos accepted] at walks
              obtain ⟨below, unbound⟩ := Option.or_eq_none_iff.mp unmatched
              rw [if_pos unbound]
              cases rest with
              | nil => exact ⟨[pattern], by simp, .cons accepted .nil⟩
              | cons second later =>
                  obtain ⟨sequence, opening, accepts⟩ :=
                    childrenIh (List.cons_ne_nil _ _) below walks
                  exact ⟨pattern :: sequence, by simp [opening],
                    .cons accepted accepts⟩
          · next passed =>
              rw [if_neg passed] at walks
              obtain ⟨sequence, opening, accepts⟩ :=
                siblingsIh nonempty unmatched walks
              exact ⟨sequence, .inr opening, accepts⟩

theorem mem_commands_of_resolve {trie : Trie} {keys : List Key}
    {command : Command} (matched : trie.resolve keys = .matched command) :
    command ∈ trie.commands := by
  unfold resolve at matched
  split at matched
  · next found =>
      cases matched
      exact mem_commands_of_longest? found
  · split at matched <;> cases matched

theorem exists_opening_of_resolve {trie : Trie} {keys : List Key}
    (more : trie.resolve keys = .needMore) :
    ∃ sequence ∈ trie.openings,
      List.Forall₂ (fun pattern key => pattern.accepts key = true)
        sequence keys := by
  unfold resolve at more
  split at more
  · cases more
  · next unmatched =>
      split at more
      · next walks => exact exists_opening walks.1 unmatched walks.2
      · cases more

end Trie

/-- The command moves, extends or ends a selection, or acts on it. -/
def Command.servesSelection : Command → Bool
  | move _ | visualChar | visualLine | visualDelete | visualYank => true
  | _ => false

theorem Command.servesSelection_of_mem {command : Command}
    (bound : command ∈ Trie.visual.commands) : command.servesSelection :=
  (show ∀ command ∈ Trie.visual.commands, command.servesSelection by
    decide +kernel) command bound

namespace Interpretation

/-- The characters that begin a command of two keys. -/
def openersFor (mode : Mode) : Text :=
  if mode.isVisual then ['g'] else ['g', 'd', 'y', 'c']

theorem openings_trieFor (mode : Mode) :
    (trieFor mode).openings =
      (openersFor mode).map fun opener => [.typed opener] := by
  unfold trieFor openersFor
  split <;> decide +kernel

/-- Only a single character has a mode wait for more keys. -/
theorem exists_opener_of_resolve {mode : Mode} {keys : List Key}
    (more : (trieFor mode).resolve keys = .needMore) :
    ∃ opener ∈ openersFor mode,
      keys.filterMap Key.printable? = [opener] := by
  obtain ⟨sequence, opening, accepts⟩ := Trie.exists_opening_of_resolve more
  rw [openings_trieFor] at opening
  obtain ⟨opener, member, rfl⟩ := List.mem_map.mp opening
  refine ⟨opener, member, ?_⟩
  cases accepts with
  | cons accepted rest =>
      cases rest with
      | nil =>
          have printable := of_decide_eq_true accepted
          simp [printable]

/-- What a key can come to, and the input that is pending then. -/
inductive Reading (mode : Mode) (pending : Pending) (key : Key) :
    Interpretation × Pending → Prop where
  | command (found : Command) (bound : found ∈ (trieFor mode).commands) :
      Reading mode pending key (.command found, .none)
  | withArgument (waiting : Command) (character : Char)
      (awaited : pending.awaits? = some waiting)
      (printable : key.printable? = some character)
      (accepted : waiting.acceptsArgument character) :
      Reading mode pending key (.withArgument waiting character, .none)
  | escape (unawaited : pending.awaits? = none) :
      Reading mode pending key (.escape, pending)
  | pending (opener : Char) (opens : opener ∈ openersFor mode) :
      Reading mode pending key (.pending, .keys [opener])
  | cancelled : Reading mode pending key (.cancelled, .none)
  | ignored (kept : Pending) (dropped : kept = pending ∨ kept = .none) :
      Reading mode pending key (.ignored, kept)

theorem ofFirstKey_reading (mode : Mode) (pending kept : Pending) (key : Key)
    (dropped : kept = pending ∨ kept = .none) :
    Reading mode pending key (ofFirstKey mode kept key) := by
  unfold ofFirstKey
  split
  · next found matched =>
      exact .command found (Trie.mem_commands_of_resolve matched)
  · next more =>
      obtain ⟨opener, opens, printed⟩ := exists_opener_of_resolve more
      rw [printed]
      exact .pending opener opens
  · exact .ignored kept dropped

theorem ofNextKey_reading (mode : Mode) (pending : Pending) (typed : Text)
    (key : Key) : Reading mode pending key (ofNextKey mode typed key) := by
  unfold ofNextKey
  dsimp only
  split
  · next found matched =>
      exact .command found (Trie.mem_commands_of_resolve matched)
  · next more =>
      obtain ⟨opener, opens, printed⟩ := exists_opener_of_resolve more
      rw [printed]
      exact .pending opener opens
  · exact ofFirstKey_reading mode pending .none key (.inr rfl)

theorem ofKey_reading (mode : Mode) (pending : Pending) (key : Key) :
    Reading mode pending key (ofKey mode pending key) := by
  unfold ofKey
  split
  · next waiting awaited =>
      split
      · next character printable =>
          split
          · next accepted =>
              exact .withArgument waiting character awaited printable accepted
          · exact .cancelled
      · exact .cancelled
  · next unawaited =>
      split
      · split
        · exact .cancelled
        · split
          · exact ofFirstKey_reading mode _ _ key (.inl rfl)
          · exact ofNextKey_reading mode _ _ key
      · split
        · exact .escape unawaited
        · exact ofFirstKey_reading mode _ _ key (.inl rfl)

/-- All modes that select read keys alike. -/
theorem ofKey_of_isVisual {mode : Mode} (visual : mode.isVisual)
    (pending : Pending) (key : Key) :
    ofKey mode pending key = ofKey .visual pending key := by
  cases mode with
  | visual | visualLine => rfl
  | normal | insert | replace | search => cases visual

end Interpretation

end ModalTutor
