import ModalTutor.CommandLine.Program

/-!
# The command

Runs the program on the files of the disk.
-/

open ModalTutor

/-- Any failure to read a file counts as none. -/
def diskAccess : FileAccess IO where
  read? path := do
    match ← (IO.FS.readFile path).toBaseIO with
    | .ok content => pure (some content)
    | .error _ => pure none
  exists? path := do
    match ← (IO.FS.readFile path).toBaseIO with
    | .error (.noFileOrDirectory ..) => pure false
    | _ => pure true

/-- Only an absolute path replaces the usual place for settings. -/
def settingsDirectory : IO (Option String) := do
  match ← IO.getEnv "XDG_CONFIG_HOME" with
  | some path =>
      if path.startsWith "/" then return some path
  | none => pure ()
  return (← IO.getEnv "HOME").map (· ++ "/.config")

def main (arguments : List String) : IO UInt32 := do
  let outcome ← Program.run diskAccess (← settingsDirectory) arguments
  IO.print outcome.output
  IO.eprint outcome.errors
  return outcome.exitCode
