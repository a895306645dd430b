import ModalTutor.Proofs.Permission

/-!
# Counting mistakes

`Session.demand?` is the command that a key has to be allowed for, if there is
one, and a key is refused if the rules forbid that command.  The mistakes of a
session are its refused keys, as `feed_mistakes` says of a whole run.
-/

namespace ModalTutor

/-- The command that has to be allowed for what a key comes to.  Escape needs
leave only to end a selection. -/
def Interpretation.demand? (mode : Mode) : Interpretation → Option Command
  | command found => some found
  | escape => if mode.isVisual then some .escape else none
  | withArgument _ _ | pending | cancelled | ignored => none

namespace Session

/-- The command that a key has to be allowed for. -/
def demand? (session : Session) (key : Key) : Option Command :=
  let mode := session.editor.mode
  match mode with
  | .normal | .visual | .visualLine =>
      (Interpretation.ofKey mode session.editor.pending key).1.demand? mode
  | .insert | .replace => if key.isEscape then some .escape else none
  | .search => none

def refuses (session : Session) (key : Key) : Bool :=
  match session.demand? key with
  | some command => !session.allows command
  | none => false

/-- How many of the keys of a run are refused. -/
def refusals (session : Session) : List Key → Nat
  | [] => 0
  | key :: rest =>
      (if session.refuses key then 1 else 0) +
        (session.dispatch key).2.refusals rest

/-- The mistakes after a key that demands a command, or nothing. -/
def mistakesAfter (session : Session) (demand : Option Command) : UInt32 :=
  match demand with
  | some command =>
      if session.allows command then session.mistakes
      else session.mistakes + 1
  | none => session.mistakes

theorem mistakesAfter_demand? (session : Session) (key : Key) :
    session.mistakesAfter (session.demand? key) =
      if session.refuses key then session.mistakes + 1
      else session.mistakes := by
  unfold refuses mistakesAfter
  cases session.demand? key with
  | none => rfl
  | some command => cases allowed : session.allows command <;> simp [allowed]

theorem guarded_mistakes (session : Session) (command : Command)
    (action : Editor → Response × Editor) :
    (session.guarded command action).2.mistakes =
      session.mistakesAfter (some command) := by
  unfold guarded mistakesAfter
  dsimp only
  split <;> rfl

theorem commandKey_mistakes (session : Session) (key : Key) :
    (session.commandKey key).2.mistakes =
      session.mistakesAfter
        ((Interpretation.ofKey session.editor.mode session.editor.pending
          key).1.demand? session.editor.mode) := by
  unfold commandKey
  dsimp only
  cases (Interpretation.ofKey session.editor.mode session.editor.pending
      key).1 with
  | command command => exact guarded_mistakes _ _ _
  | escape =>
      dsimp only [Interpretation.demand?]
      split
      · exact guarded_mistakes _ _ _
      · rfl
  | withArgument _ _ | pending | cancelled | ignored => rfl

/-- A key counts as a mistake just if it is refused. -/
theorem takeKey_mistakes (session : Session) (key : Key) :
    (session.takeKey key).2.mistakes =
      if session.refuses key then session.mistakes + 1
      else session.mistakes := by
  rw [← mistakesAfter_demand?, demand?]
  cases mode : session.editor.mode with
  | normal | visual | visualLine =>
      rw [takeKey_of_takesCommands key (by rw [mode]; rfl),
        commandKey_mistakes, mode]
  | search =>
      simp only [takeKey, mode]
      split <;> rfl
  | insert | replace =>
      simp only [takeKey, mode]
      split
      · exact guarded_mistakes _ _ _
      · rfl

theorem dispatch_mistakes (session : Session) (key : Key) :
    (session.dispatch key).2.mistakes =
      if session.refuses key then session.mistakes + 1
      else session.mistakes :=
  takeKey_mistakes { session with interacted := true } key

/-- As long as the count does not run over, the mistakes of a run are its
refused keys. -/
theorem feed_mistakes (session : Session) (keys : List Key)
    (countable : session.mistakes.toNat + keys.length < UInt32.size) :
    (session.feed keys).mistakes.toNat =
      session.mistakes.toNat + session.refusals keys := by
  induction keys generalizing session with
  | nil => rfl
  | cons key keys ih =>
      rw [List.length_cons] at countable
      have step : (session.dispatch key).2.mistakes.toNat =
          session.mistakes.toNat + (if session.refuses key then 1 else 0) := by
        rw [dispatch_mistakes]
        split
        · exact mistakes_add_one (by omega)
        · rfl
      have later := ih (session.dispatch key).2 (by
        rw [step]
        split <;> omega)
      rw [feed_cons, refusals, later, step, Nat.add_assoc]

end Session

end ModalTutor
