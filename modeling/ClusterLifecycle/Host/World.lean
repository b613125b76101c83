import ClusterLifecycle.Command.Basic
import ClusterLifecycle.FileSystem.Basic
import ClusterLifecycle.Host.Basic

/-!
A host as a value: its files, the directory that paths start from, and what has been printed.
-/

namespace ClusterLifecycle.Host

structure World where
  files : FileSystem
  working : Place
  printed : String
  deriving Repr, Inhabited

/-- How commands are run on the files of a host. -/
abbrev Execution := Command → Place → FileSystem → Attempt × FileSystem

namespace World

/-- The template of a name below a directory. Names with hidden steps lead nowhere. -/
def template (world : World) (directory name : String) : Except SystemError String :=
  let hidden := fun (step : List Char) => step.head? = some '.' || step.contains '\\'
  if (Path.split name.toList).any hidden then .error .notFound
  else world.files.read world.working ((Path.steps name).foldl Path.join directory)

def library? (world : World) (directory : String) : Option Manifest.Library :=
  if world.files.isDirectory world.working directory then some (world.template directory) else none

def changed (world : World) : Except SystemError FileSystem → Except SystemError Unit × World
  | .ok files => (.ok (), { world with files := files })
  | .error fault => (.error fault, world)

def answer (execute : Execution) : (request : Request) → World → request.Answer × World
  | .readText path, world => (world.files.read world.working path, world)
  | .makeDirectories path, world =>
    let (result, files) := world.files.makeDirectories world.working path
    (result, { world with files := files })
  | .writeText path text, world => world.changed (world.files.write world.working path text)
  | .moveFile source target, world => world.changed (world.files.moveFile world.working source target)
  | .openTemplates path, world => (world.library? path, world)
  | .run command, world =>
    let (attempt, files) := execute command world.working world.files
    (command.conclude attempt, { world with files := files })
  | .print text, world => ((), { world with printed := world.printed ++ text })

end World

end ClusterLifecycle.Host
