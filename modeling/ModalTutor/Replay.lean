import ModalTutor.Session
import ModalTutor.Key.Script
import ModalTutor.Text.Quoted

/-!
# Replays

A replay feeds the keys of a script to a lesson and checks the goal after each
of them.  All keys arrive at once, so the attempt takes no time.
-/

namespace ModalTutor

/-- What was being done when a script could not be read. -/
def KeyScript.readingMessage (script : Text) : String :=
  "parsing key script " ++ String.ofList (Quoted.quote script)

/-- The same with the reason why. -/
def KeyScript.failureMessage (script : Text) (error : KeyScriptError) :
    String :=
  readingMessage script ++ ": " ++ error.message

structure Replay where
  lessonId : UInt32
  keyCount : Nat
  /-- The number of keys taken when the goal was first met. -/
  completedAfter : Option Nat
  session : Session
  deriving DecidableEq

namespace Replay

/-- Feeds keys of which `count` have been taken already. -/
def feedFrom (lesson : Lesson) (count : Nat) (completedAfter : Option Nat)
    (session : Session) : List Key → Option Nat × Session
  | [] => (completedAfter, session)
  | key :: rest =>
      let checked := (session.dispatch key).2.evaluate lesson 0
      let completedAfter :=
        if checked.1.isSome then some (count + 1) else completedAfter
      feedFrom lesson (count + 1) completedAfter checked.2 rest

def ofKeys (lesson : Lesson) (depth : Nat) (keys : List Key) : Replay :=
  let outcome := feedFrom lesson 0 none (.ofLesson lesson depth) keys
  ⟨lesson.id, keys.length, outcome.1, outcome.2⟩

def ofScript (lesson : Lesson) (depth : Nat) (script : Text) :
    Except KeyScriptError Replay := do
  let keys ← KeyScript.parse script
  .ok (ofKeys lesson depth keys)

end Replay

end ModalTutor
