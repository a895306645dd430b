import ModalTutor.CommandLine.Arguments
import ModalTutor.CommandLine.FileTree
import ModalTutor.Json.Report
import ModalTutor.Lesson.Reading
import ModalTutor.Lesson.Tutorial
import ModalTutor.Settings

/-!
# The program

Lists lessons, shows one or replays keys against one.  The program only needs
to read files, so it runs alike on a disk and on a file tree.
-/

namespace ModalTutor

/-- How a program reads files. -/
structure FileAccess (m : Type → Type) where
  /-- The content of a file, if it can be read as text. -/
  read? : String → m (Option String)
  exists? : String → m Bool

def FileTree.access (tree : FileTree) : FileAccess Id where
  read? := tree.read?
  exists? := tree.contains

/-- What a program leaves behind. -/
structure Outcome where
  exitCode : UInt32
  output : String
  errors : String
  deriving DecidableEq, Repr

namespace Program

def name : String := "vimdojo"

def version : String := "0.0.1"

def settingsFile : String := "vimdojo.toml"

def usage : String :=
  "Modal editing tutorial\n\n" ++
    "Usage: " ++ name ++ " [--config FILE] list\n" ++
    "       " ++ name ++ " [--config FILE] show ID\n" ++
    "       " ++ name ++ " [--config FILE] play ID --keys SCRIPT\n"

inductive Failure where
  /-- The catalog in a file cannot be loaded. -/
  | catalogFile (path : String)
  | builtinCatalog
  | lesson (error : LessonError)
  | script (text : Text)

def Failure.message : Failure → String
  | catalogFile path => "loading lesson catalog " ++ path
  | builtinCatalog => "loading built-in lesson catalog"
  | lesson error => error.message
  | script text => KeyScript.readingMessage text

/-- A lesson in a list, with the id in a column of three. -/
def listing (lesson : Lesson) : String :=
  let id := toString lesson.id.toNat
  String.ofList (List.replicate (3 - id.length) ' ') ++ id ++ "  " ++
    lesson.title ++ "\n"

/-- Does what was asked for and gives what it prints. -/
def perform (catalog : Catalog) (depth : Nat) :
    Action → Except Failure String
  | .list => .ok (String.join (catalog.lessons.map listing))
  | .show id => do
      let lesson ← (catalog.get id).mapError .lesson
      .ok (lesson.toJson.render ++ "\n")
  | .play id script => do
      let lesson ← (catalog.get id).mapError .lesson
      let replay ← (Replay.ofScript lesson depth script.toList).mapError
        fun _ => .script script.toList
      .ok (replay.toJson.render ++ "\n")

/-- The catalog that the settings name. -/
def loadCatalog [Monad m] (files : FileAccess m) :
    Option String → m (Except Failure Catalog)
  | none => pure (Catalog.builtin.mapError fun _ => .builtinCatalog)
  | some path => do
      match ← files.read? path with
      | none => pure (.error (.catalogFile path))
      | some content =>
          pure ((Catalog.ofToml content.toList).mapError fun _ =>
            .catalogFile path)

/-- The settings file to use: the one that is named, or the one at hand, or
the one in the directory for settings. -/
def settingsPath [Monad m] (files : FileAccess m)
    (directory : Option String) : Option String → m String
  | some path => pure path
  | none => do
      if ← files.exists? settingsFile then pure settingsFile
      else
        match directory with
        | some directory =>
            pure (directory ++ "/" ++ name ++ "/" ++ settingsFile)
        | none => pure settingsFile

/-- Runs the program.  `directory` is where the user keeps settings. -/
def run [Monad m] (files : FileAccess m) (directory : Option String)
    (arguments : List String) : m Outcome :=
  match Request.ofArguments? arguments with
  | none => pure ⟨2, "", usage⟩
  | some .help => pure ⟨0, usage, ""⟩
  | some .version => pure ⟨0, name ++ " " ++ version ++ "\n", ""⟩
  | some (.run settings action) => do
      let path ← settingsPath files directory settings
      let settings := Settings.ofFile (← files.read? path)
      let catalog ← loadCatalog files settings.catalog
      match catalog.bind fun catalog =>
          perform catalog settings.depth action with
      | .ok output => pure ⟨0, output, ""⟩
      | .error failure => pure ⟨1, "", "Error: " ++ failure.message ++ "\n"⟩

end Program

end ModalTutor
