import ClusterLifecycle.Command.Basic
import ClusterLifecycle.CommandLine.Task
import ClusterLifecycle.Log.Filter

/-!
The program on the machine it runs on: its files, its environment and its output. No program is
started from here, so a run of a command is refused.
-/

namespace ClusterLifecycle

namespace Machine

def systemError : IO.Error → SystemError
  | .noFileOrDirectory .. => .notFound
  | .permissionDenied .. => .permissionDenied
  | .alreadyExists .. => .alreadyExists
  | .inappropriateType .. => .isADirectory
  | other => .other (toString other)

def attempt {α : Type} (action : IO α) : IO (Except SystemError α) := do
  match ← action.toBaseIO with
  | .ok value => return .ok value
  | .error fault => return .error (systemError fault)

def templates (path : String) : IO Manifest.Library := do
  let found ← Manifest.names.mapM fun name => do
    return (name, ← attempt (IO.FS.readFile (Path.join path name)))
  return fun name => (found.lookup name).getD (.error .notFound)

def answer : (request : Host.Request) → IO request.Answer
  | .readText path => attempt (IO.FS.readFile path)
  | .makeDirectories path => attempt (IO.FS.createDirAll path)
  | .writeText path text => attempt (IO.FS.writeFile path text)
  | .moveFile source target => attempt (IO.FS.rename source target)
  | .openTemplates path => do
    match ← attempt (IO.FS.readFile path) with
    | .error .isADirectory => return some (← templates path)
    | _ => return none
  | .run command => return command.conclude (.refused (.other "programs are not started from here"))
  | .print text => IO.print text

def run {α : Type} : HostProgram α → IO α
  | .done value => return value
  | .ask request next => do run (next (← answer request))

def environment : IO (String → Option String) := do
  let names := "CAPSTAN_CONFIG" :: Config.overrides.map Config.Override.name
  let found ← names.mapM fun name => return (name, ← IO.getEnv name)
  return fun name => (found.lookup name).join

end Machine

/-- A line that is not followed ends with 2, except where it asks for help, and a task that fails
with 1. -/
def program (words : List String) : IO UInt32 := do
  let lookup ← Machine.environment
  match CommandLine.Arguments.read (lookup "CAPSTAN_CONFIG") words with
  | .error fault =>
    if fault = .help ∨ fault = .version then
      IO.println fault.message
      return 0
    IO.eprintln fault.message
    return 2
  | .ok arguments =>
    match Log.setUp false none with
    | .error fault =>
      IO.eprintln fault.message
      return 1
    | .ok () =>
      match ← Machine.run (arguments.run lookup) with
      | .ok () => return 0
      | .error fault =>
        IO.eprintln fault.message
        return 1

end ClusterLifecycle

def main (words : List String) : IO UInt32 :=
  ClusterLifecycle.program words
