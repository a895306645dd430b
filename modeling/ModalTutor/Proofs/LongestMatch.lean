import Mathlib.Data.List.Forall2
import Mathlib.Data.List.Induction
import ModalTutor.Keymap.Trie

/-!
# The longest binding decides

`Binding.Answers` says what keys come to in terms of a list of bindings alone:
of the bindings that the keys complete, the last of the longest decides.
`Trie.resolve_iff` says that the trie of the bindings answers so, as long as
their patterns are proper, so that no key is accepted by two of them.  What the
insertion of a sequence changes is said by two readings of the trie:
`Trie.bound?`, the command of just one sequence, and `Trie.hasPath`.
-/

namespace ModalTutor

/-- A character is typed or struck under control, never taken as a bare key. -/
def Pattern.isProper : Pattern → Bool
  | bare (.char _) => false
  | _ => true

theorem Pattern.ne_char_of_isProper {code : KeyCode}
    (proper : (bare code).isProper) (character : Char) :
    code ≠ .char character := by
  rintro rfl
  cases proper

/-- No key is accepted by two patterns. -/
theorem Pattern.eq_of_accepts {first second : Pattern} {key : Key}
    (firstProper : first.isProper) (secondProper : second.isProper)
    (byFirst : first.accepts key) (bySecond : second.accepts key) :
    first = second := by
  cases first <;> cases second <;>
    grind [Pattern.accepts, Key.printable?, Pattern.ne_char_of_isProper]

/-- The first keys are accepted by the patterns, one by one, and there are
enough of them. -/
def Pattern.Accept (sequence : List Pattern) (keys : List Key) : Prop :=
  List.Forall₂ (fun pattern key => pattern.accepts key = true) sequence
    (keys.take sequence.length)

@[simp] theorem Pattern.accept_nil (keys : List Key) :
    Pattern.Accept [] keys := .nil

theorem Pattern.accept_cons {pattern : Pattern} {sequence : List Pattern}
    {key : Key} {keys : List Key} :
    Pattern.Accept (pattern :: sequence) (key :: keys) ↔
      pattern.accepts key ∧ Pattern.Accept sequence keys :=
  List.forall₂_cons

theorem Pattern.not_accept_of_no_keys {pattern : Pattern}
    {sequence : List Pattern} :
    ¬ Pattern.Accept (pattern :: sequence) [] := by
  rintro ⟨⟩

/-- Keys leave no choice between proper patterns. -/
theorem Pattern.Accept.unique {first second : List Pattern} {keys : List Key}
    (firstProper : ∀ pattern ∈ first, pattern.isProper)
    (secondProper : ∀ pattern ∈ second, pattern.isProper)
    (byFirst : Pattern.Accept first keys)
    (bySecond : Pattern.Accept second keys)
    (lengths : first.length = second.length) : first = second := by
  induction first generalizing second keys with
  | nil => exact (List.eq_nil_of_length_eq_zero lengths.symm).symm
  | cons pattern rest ih =>
      cases second with
      | nil => cases lengths
      | cons other later =>
          cases keys with
          | nil => exact absurd byFirst not_accept_of_no_keys
          | cons key keys =>
              obtain ⟨here, below⟩ := accept_cons.mp byFirst
              obtain ⟨alsoHere, alsoBelow⟩ := accept_cons.mp bySecond
              rw [eq_of_accepts (firstProper _ List.mem_cons_self)
                  (secondProper _ List.mem_cons_self) here alsoHere,
                ih (fun _ member => firstProper _ (.tail _ member))
                  (fun _ member => secondProper _ (.tail _ member))
                  below alsoBelow (Nat.succ.inj lengths)]

namespace Binding

/-- The whole sequence is accepted, and it is not empty. -/
def CompletedBy (binding : Binding) (keys : List Key) : Prop :=
  binding.sequence ≠ [] ∧ Pattern.Accept binding.sequence keys

/-- All keys are accepted, and the sequence goes on. -/
def BegunBy (binding : Binding) (keys : List Key) : Prop :=
  keys.length < binding.sequence.length ∧
    Pattern.Accept (binding.sequence.take keys.length) keys

/-- Of the bindings that the keys complete, the last of the longest. -/
def Decides (bindings : List Binding) (keys : List Key) (binding : Binding) :
    Prop :=
  ∃ earlier later, bindings = earlier ++ binding :: later ∧
    binding.CompletedBy keys ∧
    (∀ other ∈ earlier, other.CompletedBy keys →
      other.sequence.length ≤ binding.sequence.length) ∧
    ∀ other ∈ later, other.CompletedBy keys →
      other.sequence.length < binding.sequence.length

/-- What keys come to by a list of bindings. -/
inductive Answers (bindings : List Binding) (keys : List Key) :
    Resolution → Prop
  | matched (binding : Binding) (decides : Decides bindings keys binding) :
      Answers bindings keys (.matched binding.command)
  | needMore (binding : Binding) (member : binding ∈ bindings)
      (incomplete : ∀ other ∈ bindings, ¬ other.CompletedBy keys)
      (nonempty : keys ≠ []) (begun : binding.BegunBy keys) :
      Answers bindings keys .needMore
  | noMatch (incomplete : ∀ other ∈ bindings, ¬ other.CompletedBy keys)
      (unbegun : keys = [] ∨ ∀ other ∈ bindings, ¬ other.BegunBy keys) :
      Answers bindings keys .noMatch

variable {bindings : List Binding} {keys : List Key}

theorem Decides.mem {binding : Binding}
    (decides : Decides bindings keys binding) : binding ∈ bindings := by
  obtain ⟨earlier, later, rfl, _⟩ := decides
  simp

theorem Decides.completed {binding : Binding}
    (decides : Decides bindings keys binding) : binding.CompletedBy keys := by
  obtain ⟨_, _, _, completed, _⟩ := decides
  exact completed

theorem Decides.unique {first second : Binding}
    (firstDecides : Decides bindings keys first)
    (secondDecides : Decides bindings keys second) : first = second := by
  obtain ⟨earlier, later, rfl, completed, notLonger, shorter⟩ := firstDecides
  obtain ⟨before, after, split, alsoCompleted, noneLonger, allShorter⟩ :=
    secondDecides
  rcases List.append_eq_append_iff.mp split with
    ⟨between, rfl, rest⟩ | ⟨between, rfl, rest⟩
  · cases between with
    | nil => exact (List.cons.inj rest).1
    | cons head between =>
        obtain ⟨rfl, rfl⟩ := List.cons.inj rest
        have := noneLonger first (by simp) completed
        have := shorter second (by simp) alsoCompleted
        omega
  · cases between with
    | nil => exact (List.cons.inj rest).1.symm
    | cons head between =>
        obtain ⟨rfl, rfl⟩ := List.cons.inj rest
        have := notLonger second (by simp) alsoCompleted
        have := allShorter first (by simp) completed
        omega

/-- Keys come to one thing only. -/
theorem Answers.unique {first second : Resolution}
    (firstAnswers : Answers bindings keys first)
    (secondAnswers : Answers bindings keys second) : first = second := by
  cases firstAnswers with
  | matched binding decides =>
      cases secondAnswers with
      | matched other otherDecides => rw [decides.unique otherDecides]
      | needMore _ _ incomplete =>
          exact absurd decides.completed (incomplete _ decides.mem)
      | noMatch incomplete =>
          exact absurd decides.completed (incomplete _ decides.mem)
  | needMore binding member incomplete nonempty begun =>
      cases secondAnswers with
      | matched other decides =>
          exact absurd decides.completed (incomplete _ decides.mem)
      | needMore => rfl
      | noMatch _ unbegun =>
          rcases unbegun with empty | unbegun
          · exact absurd empty nonempty
          · exact absurd begun (unbegun _ member)
  | noMatch incomplete unbegun =>
      cases secondAnswers with
      | matched other decides =>
          exact absurd decides.completed (incomplete _ decides.mem)
      | needMore binding member _ nonempty begun =>
          rcases unbegun with empty | unbegun
          · exact absurd empty nonempty
          · exact absurd begun (unbegun _ member)
      | noMatch => rfl

end Binding

namespace Trie

/-- The command that is bound to just this sequence. -/
def bound? : Trie → List Pattern → Option Command
  | _, [] => none
  | empty, _ :: _ => none
  | branch pattern bound children siblings, first :: rest =>
      if pattern = first then
        if rest = [] then bound else children.bound? rest
      else siblings.bound? (first :: rest)

/-- Branches lead down the whole sequence. -/
def hasPath : Trie → List Pattern → Bool
  | _, [] => true
  | empty, _ :: _ => false
  | branch pattern _ children siblings, first :: rest =>
      if pattern = first then children.hasPath rest
      else siblings.hasPath (first :: rest)

def patterns : Trie → List Pattern
  | empty => []
  | branch pattern _ children siblings =>
      pattern :: children.patterns ++ siblings.patterns

theorem bound?_path (command : Command) (sequence steps : List Pattern) :
    (path command sequence).bound? steps =
      if steps = sequence ∧ sequence ≠ [] then some command else none := by
  fun_induction path command sequence generalizing steps with
  | case1 => cases steps <;> simp [bound?]
  | case2 pattern =>
      cases steps with
      | nil => simp [bound?]
      | cons first rest =>
          have below : empty.bound? rest = none := by cases rest <;> rfl
          simp only [bound?, below]
          grind
  | case3 pattern rest several ih =>
      cases steps with
      | nil => simp [bound?]
      | cons first rest =>
          simp only [bound?, ih]
          grind

theorem bound?_insert (command : Command) (trie : Trie)
    (sequence steps : List Pattern) :
    (trie.insert command sequence).bound? steps =
      if steps = sequence ∧ sequence ≠ [] then some command
      else trie.bound? steps := by
  fun_induction insert command trie sequence generalizing steps with
  | case1 trie => simp
  | case2 sequence nonempty =>
      rw [bound?_path]
      cases steps <;> rfl
  | case3 pattern bound children siblings rest ih =>
      cases steps with
      | nil => simp [bound?]
      | cons first later =>
          simp only [bound?, ih]
          grind
  | case4 pattern bound children siblings first rest different ih =>
      cases steps with
      | nil => simp [bound?]
      | cons first later =>
          simp only [bound?, ih]
          grind

theorem hasPath_path (command : Command) (sequence steps : List Pattern) :
    (path command sequence).hasPath steps ↔ steps <+: sequence := by
  fun_induction path command sequence generalizing steps with
  | case1 => cases steps <;> simp [hasPath]
  | case2 pattern =>
      cases steps with
      | nil => simp [hasPath]
      | cons first rest =>
          cases rest <;> simp [hasPath, eq_comm]
  | case3 pattern rest several ih =>
      cases steps with
      | nil => simp [hasPath]
      | cons first rest =>
          simp only [hasPath]
          grind

theorem hasPath_insert (command : Command) (trie : Trie)
    (sequence steps : List Pattern) :
    (trie.insert command sequence).hasPath steps ↔
      trie.hasPath steps ∨ steps <+: sequence := by
  fun_induction insert command trie sequence generalizing steps with
  | case1 trie => cases steps <;> simp [hasPath]
  | case2 sequence nonempty =>
      rw [hasPath_path]
      cases steps <;> simp [hasPath]
  | case3 pattern bound children siblings rest ih =>
      cases steps with
      | nil => simp [hasPath]
      | cons first later =>
          simp only [hasPath]
          grind
  | case4 pattern bound children siblings first rest different ih =>
      cases steps with
      | nil => simp [hasPath]
      | cons first later =>
          simp only [hasPath]
          grind

theorem mem_patterns_path {command : Command} {sequence : List Pattern}
    {pattern : Pattern} (member : pattern ∈ (path command sequence).patterns) :
    pattern ∈ sequence := by
  fun_induction path command sequence with
  | case1 => cases member
  | case2 first => exact member
  | case3 first rest several ih =>
      simp only [patterns, List.append_nil, List.mem_cons] at member ⊢
      exact member.imp_right ih

theorem mem_patterns_insert {command : Command} {trie : Trie}
    {sequence : List Pattern} {pattern : Pattern}
    (member : pattern ∈ (trie.insert command sequence).patterns) :
    pattern ∈ trie.patterns ∨ pattern ∈ sequence := by
  fun_induction insert command trie sequence with
  | case1 trie => exact .inl member
  | case2 sequence nonempty => exact .inr (mem_patterns_path member)
  | case3 first bound children siblings rest ih =>
      simp only [patterns, List.mem_append, List.mem_cons] at member ⊢
      grind
  | case4 first bound children siblings other rest different ih =>
      simp only [patterns, List.mem_append, List.mem_cons] at member ⊢
      grind

section Bindings

variable {bindings : List Binding} {steps : List Pattern}

theorem ofBindings_concat (bindings : List Binding) (binding : Binding) :
    ofBindings (bindings ++ [binding]) =
      (ofBindings bindings).insert binding.command binding.sequence := by
  simp [ofBindings]

theorem mem_patterns_ofBindings {pattern : Pattern}
    (member : pattern ∈ (ofBindings bindings).patterns) :
    ∃ binding ∈ bindings, pattern ∈ binding.sequence := by
  induction bindings using List.reverseRecOn with
  | nil => cases member
  | append_singleton bindings binding ih =>
      rw [ofBindings_concat] at member
      rcases mem_patterns_insert member with earlier | here
      · obtain ⟨other, inBindings, inSequence⟩ := ih earlier
        exact ⟨other, List.mem_append_left _ inBindings, inSequence⟩
      · exact ⟨binding, by simp, here⟩

theorem hasPath_ofBindings :
    (ofBindings bindings).hasPath steps ↔
      steps = [] ∨ ∃ binding ∈ bindings, steps <+: binding.sequence := by
  induction bindings using List.reverseRecOn with
  | nil => cases steps <;> simp [ofBindings, hasPath]
  | append_singleton bindings binding ih =>
      rw [ofBindings_concat, hasPath_insert, ih]
      simp only [List.mem_append, List.mem_singleton, or_and_right, exists_or,
        exists_eq_left, or_assoc]

/-- The last binding of a sequence is the one that counts. -/
theorem exists_of_bound? {command : Command}
    (found : (ofBindings bindings).bound? steps = some command) :
    ∃ earlier binding later, bindings = earlier ++ binding :: later ∧
      binding.sequence = steps ∧ steps ≠ [] ∧ binding.command = command ∧
      ∀ other ∈ later, other.sequence ≠ steps := by
  induction bindings using List.reverseRecOn with
  | nil => cases steps <;> cases found
  | append_singleton bindings binding ih =>
      rw [ofBindings_concat, bound?_insert] at found
      split at found
      · next here =>
          cases found
          exact ⟨bindings, binding, [], rfl, here.1.symm,
            here.1 ▸ here.2, rfl, by simp⟩
      · next elsewhere =>
          obtain ⟨earlier, last, later, rfl, same, nonempty, command, novel⟩ :=
            ih found
          refine ⟨earlier, last, later ++ [binding], by simp, same, nonempty,
            command, ?_⟩
          intro other member
          rcases List.mem_append.mp member with inLater | inLast
          · exact novel other inLater
          · cases List.mem_singleton.mp inLast
            rintro rfl
            exact elsewhere ⟨rfl, nonempty⟩

theorem bound?_ne_none {binding : Binding} (member : binding ∈ bindings)
    (nonempty : binding.sequence ≠ []) :
    (ofBindings bindings).bound? binding.sequence ≠ none := by
  induction bindings using List.reverseRecOn with
  | nil => cases member
  | append_singleton bindings last ih =>
      rw [ofBindings_concat, bound?_insert]
      split
      · exact Option.some_ne_none _
      · next elsewhere =>
          rcases List.mem_append.mp member with earlier | here
          · exact ih earlier
          · cases List.mem_singleton.mp here
            exact absurd ⟨rfl, nonempty⟩ elsewhere

end Bindings

section Keys

variable {trie children siblings : Trie} {bound : Option Command}
  {pattern first : Pattern} {key : Key} {keys : List Key}
  {steps later : List Pattern}

/-- Steps that begin with a key go the same way as the key. -/
theorem eq_of_taken (proper : pattern.isProper)
    (stepsProper : ∀ step ∈ first :: later, step.isProper)
    (taken : pattern.accepts key)
    (accepted : Pattern.Accept (first :: later) (key :: keys)) :
    pattern = first :=
  Pattern.eq_of_accepts proper (stepsProper _ List.mem_cons_self) taken
    (Pattern.accept_cons.mp accepted).1

theorem ne_of_passed (passed : ¬ pattern.accepts key)
    (accepted : Pattern.Accept (first :: later) (key :: keys)) :
    pattern ≠ first := by
  rintro rfl
  exact passed (Pattern.accept_cons.mp accepted).1

theorem bound?_of_passed (passed : ¬ pattern.accepts key)
    (accepted : Pattern.Accept steps (key :: keys)) :
    (branch pattern bound children siblings).bound? steps =
      siblings.bound? steps := by
  cases steps with
  | nil => cases siblings <;> rfl
  | cons first later => rw [bound?, if_neg (ne_of_passed passed accepted)]

theorem hasPath_of_passed (passed : ¬ pattern.accepts key)
    (accepted : Pattern.Accept steps (key :: keys)) :
    (branch pattern bound children siblings).hasPath steps =
      siblings.hasPath steps := by
  cases steps with
  | nil => cases siblings <;> rfl
  | cons first later => rw [hasPath, if_neg (ne_of_passed passed accepted)]

/-- What the keys miss is not bound. -/
theorem bound?_of_longest?
    (proper : ∀ pattern ∈ trie.patterns, pattern.isProper)
    (missed : trie.longest? keys = none)
    (stepsProper : ∀ step ∈ steps, step.isProper)
    (accepted : Pattern.Accept steps keys) : trie.bound? steps = none := by
  induction trie generalizing keys steps with
  | empty => cases steps <;> rfl
  | branch pattern bound children siblings childrenIh siblingsIh =>
      simp only [patterns, List.mem_append, List.mem_cons] at proper
      cases keys with
      | nil =>
          cases steps with
          | nil => rfl
          | cons => exact absurd accepted Pattern.not_accept_of_no_keys
      | cons key rest =>
          rw [longest?] at missed
          split at missed
          · next taken =>
              obtain ⟨missedBelow, unbound⟩ := Option.or_eq_none_iff.mp missed
              cases steps with
              | nil => rfl
              | cons first later =>
                  have same := eq_of_taken (proper _ (.inl (.inl rfl)))
                    stepsProper taken accepted
                  have below := childrenIh
                    (fun _ member => proper _ (.inl (.inr member)))
                    missedBelow
                    (fun _ member => stepsProper _ (.tail _ member))
                    (Pattern.accept_cons.mp accepted).2
                  rw [bound?, if_pos same, unbound, below, ite_self]
          · next passed =>
              rw [bound?_of_passed passed accepted]
              exact siblingsIh (fun _ member => proper _ (.inr member))
                missed stepsProper accepted

/-- The sequence is bound to the command, and the keys complete none that is
longer. -/
structure LongestBound (trie : Trie) (keys : List Key) (command : Command)
    (steps : List Pattern) : Prop where
  accepted : Pattern.Accept steps keys
  bound : trie.bound? steps = some command
  longest : ∀ {longer}, (∀ step ∈ longer, step.isProper) →
    Pattern.Accept longer keys → trie.bound? longer ≠ none →
      longer.length ≤ steps.length

theorem LongestBound.of_children {command : Command}
    (proper : pattern.isProper) (taken : pattern.accepts key)
    (below : children.LongestBound keys command steps) :
    (branch pattern bound children siblings).LongestBound (key :: keys)
      command (pattern :: steps) := by
  have nonempty : steps ≠ [] := by
    rintro rfl
    have bound := below.bound
    cases children <;> cases bound
  constructor
  · exact Pattern.accept_cons.mpr ⟨taken, below.accepted⟩
  · rw [bound?, if_pos rfl, if_neg nonempty, below.bound]
  · intro longer longerProper accepted isBound
    cases longer with
    | nil => exact Nat.zero_le _
    | cons first later =>
        rw [bound?, if_pos (eq_of_taken proper longerProper taken accepted)]
          at isBound
        split at isBound
        · next last =>
            rw [last]
            exact Nat.succ_le_succ (Nat.zero_le _)
        · exact Nat.succ_le_succ (below.longest
            (fun _ member => longerProper _ (.tail _ member))
            (Pattern.accept_cons.mp accepted).2 isBound)

theorem LongestBound.of_here {command : Command}
    (proper : pattern.isProper) (taken : pattern.accepts key)
    (childrenProper : ∀ pattern ∈ children.patterns, pattern.isProper)
    (missed : children.longest? keys = none) :
    (branch pattern (some command) children siblings).LongestBound
      (key :: keys) command [pattern] := by
  constructor
  · exact Pattern.accept_cons.mpr ⟨taken, Pattern.accept_nil keys⟩
  · rw [bound?, if_pos rfl, if_pos rfl]
  · intro longer longerProper accepted isBound
    cases longer with
    | nil => exact Nat.zero_le _
    | cons first later =>
        rw [bound?, if_pos (eq_of_taken proper longerProper taken accepted)]
          at isBound
        split at isBound
        · next last =>
            rw [last]
            exact Nat.le_refl _
        · exact absurd (bound?_of_longest? childrenProper missed
            (fun _ member => longerProper _ (.tail _ member))
            (Pattern.accept_cons.mp accepted).2) isBound

theorem LongestBound.of_siblings {command : Command}
    (passed : ¬ pattern.accepts key)
    (beside : siblings.LongestBound (key :: keys) command steps) :
    (branch pattern bound children siblings).LongestBound (key :: keys)
      command steps := by
  constructor
  · exact beside.accepted
  · rw [bound?_of_passed passed beside.accepted, beside.bound]
  · intro longer longerProper accepted isBound
    rw [bound?_of_passed passed accepted] at isBound
    exact beside.longest longerProper accepted isBound

theorem exists_longestBound
    (proper : ∀ pattern ∈ trie.patterns, pattern.isProper)
    {command : Command} (found : trie.longest? keys = some command) :
    ∃ steps, trie.LongestBound keys command steps := by
  induction trie generalizing keys with
  | empty => cases keys <;> cases found
  | branch pattern bound children siblings childrenIh siblingsIh =>
      simp only [patterns, List.mem_append, List.mem_cons] at proper
      have here := proper pattern (.inl (.inl rfl))
      have below : ∀ pattern ∈ children.patterns, pattern.isProper :=
        fun _ member => proper _ (.inl (.inr member))
      cases keys with
      | nil => cases found
      | cons key rest =>
          rw [longest?] at found
          split at found
          · next taken =>
              rcases Option.or_eq_some_iff.mp found with
                foundBelow | ⟨missed, rfl⟩
              · obtain ⟨steps, longest⟩ := childrenIh below foundBelow
                exact ⟨_, longest.of_children here taken⟩
              · exact ⟨_, .of_here here taken below missed⟩
          · next passed =>
              obtain ⟨steps, longest⟩ :=
                siblingsIh (fun _ member => proper _ (.inr member)) found
              exact ⟨steps, longest.of_siblings passed⟩

/-- Keys find a branch each just if they are accepted on the way down a
path. -/
theorem walksAll_iff
    (proper : ∀ pattern ∈ trie.patterns, pattern.isProper) :
    trie.walksAll keys ↔ ∃ steps, (∀ step ∈ steps, step.isProper) ∧
      steps.length = keys.length ∧ Pattern.Accept steps keys ∧
      trie.hasPath steps := by
  induction trie generalizing keys with
  | empty =>
      cases keys with
      | nil => simp [walksAll, hasPath]
      | cons key rest =>
          simp only [walksAll, Bool.false_eq_true, false_iff]
          rintro ⟨steps, _, lengths, _, path⟩
          cases steps <;> simp [hasPath] at lengths path
  | branch pattern bound children siblings childrenIh siblingsIh =>
      simp only [patterns, List.mem_append, List.mem_cons] at proper
      have here := proper pattern (.inl (.inl rfl))
      cases keys with
      | nil =>
          simp only [walksAll, true_iff]
          exact ⟨[], by simp, rfl, Pattern.accept_nil [], rfl⟩
      | cons key rest =>
          rw [walksAll]
          split
          · next taken =>
              rw [childrenIh fun _ member => proper _ (.inl (.inr member))]
              constructor
              · rintro ⟨steps, stepsProper, lengths, accepted, path⟩
                refine ⟨pattern :: steps, ?_, congrArg (· + 1) lengths,
                  Pattern.accept_cons.mpr ⟨taken, accepted⟩, ?_⟩
                · simpa [here] using stepsProper
                · rwa [hasPath, if_pos rfl]
              · rintro ⟨steps, stepsProper, lengths, accepted, path⟩
                cases steps with
                | nil => cases lengths
                | cons first later =>
                    rw [hasPath, if_pos
                      (eq_of_taken here stepsProper taken accepted)] at path
                    exact ⟨later,
                      fun _ member => stepsProper _ (.tail _ member),
                      Nat.succ.inj lengths,
                      (Pattern.accept_cons.mp accepted).2, path⟩
          · next passed =>
              rw [siblingsIh fun _ member => proper _ (.inr member)]
              refine exists_congr fun steps => ?_
              refine and_congr_right fun _ => and_congr_right fun _ =>
                and_congr_right fun accepted => ?_
              rw [hasPath_of_passed passed accepted]

end Keys

section Answers

variable {bindings : List Binding} {keys : List Key}
  (proper : ∀ binding ∈ bindings, ∀ pattern ∈ binding.sequence,
    pattern.isProper)

include proper

theorem isProper_of_mem_patterns :
    ∀ pattern ∈ (ofBindings bindings).patterns, pattern.isProper := by
  intro pattern member
  obtain ⟨binding, inBindings, inSequence⟩ := mem_patterns_ofBindings member
  exact proper binding inBindings pattern inSequence

/-- The command that the keys find is that of the deciding binding. -/
theorem exists_decides {command : Command}
    (found : (ofBindings bindings).longest? keys = some command) :
    ∃ binding, Binding.Decides bindings keys binding ∧
      binding.command = command := by
  obtain ⟨steps, longest⟩ :=
    exists_longestBound (isProper_of_mem_patterns proper) found
  obtain ⟨earlier, binding, later, rfl, rfl, nonempty, command, novel⟩ :=
    exists_of_bound? longest.bound
  have notLonger {other : Binding}
      (member : other ∈ earlier ++ binding :: later)
      (completed : other.CompletedBy keys) :
      other.sequence.length ≤ binding.sequence.length :=
    longest.longest (proper other member) completed.2
      (bound?_ne_none member completed.1)
  refine ⟨binding, ⟨earlier, later, rfl, ⟨nonempty, longest.accepted⟩, ?_, ?_⟩,
    command⟩
  · intro other member
    exact notLonger (List.mem_append_left _ member)
  · intro other member completed
    have inBindings : other ∈ earlier ++ binding :: later := by simp [member]
    refine Nat.lt_of_le_of_ne (notLonger inBindings completed) ?_
    intro lengths
    exact novel other member (Pattern.Accept.unique (proper other inBindings)
      (proper binding (by simp)) completed.2 longest.accepted lengths)

/-- Keys that find no command complete no binding. -/
theorem incomplete_of_missed
    (missed : (ofBindings bindings).longest? keys = none) :
    ∀ other ∈ bindings, ¬ other.CompletedBy keys := by
  rintro other member ⟨nonempty, accepted⟩
  exact bound?_ne_none member nonempty (bound?_of_longest?
    (isProper_of_mem_patterns proper) missed (proper other member) accepted)

/-- Keys that all find a branch and complete nothing have begun a binding. -/
theorem exists_begunBy (nonempty : keys ≠ [])
    (incomplete : ∀ other ∈ bindings, ¬ other.CompletedBy keys)
    (walks : (ofBindings bindings).walksAll keys) :
    ∃ binding ∈ bindings, binding.BegunBy keys := by
  obtain ⟨steps, _, lengths, accepted, path⟩ :=
    (walksAll_iff (isProper_of_mem_patterns proper)).mp walks
  have some : steps ≠ [] := by
    rintro rfl
    exact nonempty (List.eq_nil_of_length_eq_zero lengths.symm)
  rcases hasPath_ofBindings.mp path with empty | ⟨binding, member, start⟩
  · exact absurd empty some
  · have taken : steps = binding.sequence.take keys.length := by
      rw [← lengths]
      exact List.prefix_iff_eq_take.mp start
    refine ⟨binding, member, Nat.lt_of_not_le fun short => ?_,
      taken ▸ accepted⟩
    rw [List.take_of_length_le short] at taken
    subst taken
    exact incomplete binding member ⟨some, accepted⟩

theorem walksAll_of_begunBy {binding : Binding} (member : binding ∈ bindings)
    (begun : binding.BegunBy keys) : (ofBindings bindings).walksAll keys := by
  obtain ⟨shorter, accepted⟩ := begun
  refine (walksAll_iff (isProper_of_mem_patterns proper)).mpr
    ⟨_, ?_, ?_, accepted, ?_⟩
  · intro step inTaken
    exact proper binding member step (List.mem_of_mem_take inTaken)
  · rw [List.length_take, Nat.min_eq_left (Nat.le_of_lt shorter)]
  · exact hasPath_ofBindings.mpr
      (.inr ⟨binding, member, List.take_prefix _ _⟩)

theorem answers_resolve (keys : List Key) :
    Binding.Answers bindings keys ((ofBindings bindings).resolve keys) := by
  unfold resolve
  split
  · next command found =>
      obtain ⟨binding, decides, rfl⟩ := exists_decides proper found
      exact .matched binding decides
  · next missed =>
      have incomplete := incomplete_of_missed proper missed
      split
      · next walks =>
          obtain ⟨binding, member, begun⟩ :=
            exists_begunBy proper walks.1 incomplete walks.2
          exact .needMore binding member incomplete walks.1 begun
      · next stuck =>
          refine .noMatch incomplete ?_
          by_cases empty : keys = []
          · exact .inl empty
          · refine .inr fun other member begun => ?_
            exact stuck ⟨empty, walksAll_of_begunBy proper member begun⟩

end Answers

/-- A trie resolves keys to what its bindings answer, and to nothing else. -/
theorem resolve_iff {bindings : List Binding}
    (proper : ∀ binding ∈ bindings, ∀ pattern ∈ binding.sequence,
      pattern.isProper) (keys : List Key) (resolution : Resolution) :
    (ofBindings bindings).resolve keys = resolution ↔
      Binding.Answers bindings keys resolution := by
  constructor
  · rintro rfl
    exact answers_resolve proper keys
  · exact (answers_resolve proper keys).unique

/-- A sequence bound twice, beside a shorter and an empty one. -/
theorem last_binding_of_longest_answers :
    let bindings : List Binding :=
      [.typed ['d', 'd'] .deleteLine, .typed ['d'] .visualDelete,
        .typed ['d', 'd'] .yankLine, .typed [] .undo,
        .single (.bare .left) (.move .left)]
    let keys : List Key := [.char 'd', .char 'd', .char 'x']
    (∀ binding ∈ bindings, ∀ pattern ∈ binding.sequence,
      pattern.isProper) ∧
    (ofBindings bindings).resolve keys = .matched .yankLine ∧
    Binding.Answers bindings keys (.matched .yankLine) := by
  intro bindings keys
  have proper : ∀ binding ∈ bindings, ∀ pattern ∈ binding.sequence,
      pattern.isProper := by decide
  have found : (ofBindings bindings).resolve keys = .matched .yankLine := rfl
  exact ⟨proper, found,
    (resolve_iff proper keys (.matched .yankLine)).mp found⟩

end Trie

end ModalTutor
