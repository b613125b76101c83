import ClusterLifecycle.Host.World
import ClusterLifecycle.Shell.Evaluation

/-!
A machine on which commands are shell scripts and everyday programs. It answers for the real one
wherever a run has to be a value: how a program is found, started, and cut off when its time is over.
-/

namespace ClusterLifecycle.Shell

open Text.Utf8

def programNames : List String :=
  ["cat", "echo", "false", "head", "printf", "sh", "sleep", "tr", "true", "wc"]

def programPlaces : List Place :=
  [["bin"], ["usr", "bin"]]

def bareFiles : FileSystem where
  nodes := [
    (["bin"], .directory),
    (["dev"], .directory),
    (["dev", "null"], .file "" false),
    (["etc"], .directory),
    (["etc", "passwd"], .file "root:x:0:0:root:/root:/bin/sh\n" false),
    (["home"], .directory),
    (["proc"], .directory),
    (["root"], .directory),
    (["tmp"], .directory),
    (["usr"], .directory),
    (["usr", "bin"], .directory),
    (["var"], .directory)] ++
    programPlaces.flatMap fun place => programNames.map fun name => (place ++ [name], .file "" true)

inductive Image where
  | shell
  | utility (name : String)
  | script (text : List Char)
  deriving DecidableEq, Repr

def installed (name : String) : Image :=
  if name = "sh" then .shell else .utility name

def programAt? (place : Place) : Option String := do
  let name ← place.getLast?
  if programPlaces.contains place.dropLast && programNames.contains name then some name else none

def interpreter? (text : List Char) : Option (List Char) := do
  let line := (← Text.after? ['#', '!'] text).takeWhile (· ≠ '\n')
  let path := (Text.trim line).takeWhile fun c => !Text.isBlank c
  if path.isEmpty then none else some path

def findFile (working : Place) (files : FileSystem) (path : String) :
    Except SystemError (Place × List Char) := do
  let place ← files.resolve working path
  match files.node? place with
  | none => .error .notFound
  | some .directory | some (.file _ false) => .error .permissionDenied
  | some (.file text true) => .ok (place, text.toList)

def findInterpreter (working : Place) (files : FileSystem) (text : List Char) : Except SystemError Image :=
  match interpreter? text with
  | none => .error (.other "Exec format error (os error 8)")
  | some path => do
    let (place, _) ← findFile working files (String.ofList path)
    if programAt? place = some "sh" then .ok (.script text) else .error .notFound

/-- What is behind a name: a program of the machine, or for a path a file that may be run. The
directories of programs hold themselves and those above them, which cannot be run. -/
def find (working : Place) (files : FileSystem) (program : String) : Except SystemError Image :=
  if ¬ program.toList.contains '/' then
    if Path.maxName < program.utf8ByteSize then .error .nameTooLong
    else if program = "." ∨ program = ".." then .error .permissionDenied
    else if programNames.contains program then .ok (installed program)
    else .error .notFound
  else do
    let (place, text) ← findFile working files program
    match programAt? place with
    | some name => .ok (installed name)
    | none => findInterpreter working files text

def maxArgument : Nat := 131071

/-- A script run in a session by a shell that runs other programs with `spawn`. -/
def runText (spawn : Spawn) (invocation : Invocation) (text : List Char) (session : Session) : Session :=
  match Step.ofText? text with
  | some step => step.run spawn invocation { session with status := 0 }
  | none => session.fail invocation 1 2 .stderr "Syntax error"

/-- The shell itself, which takes a script as an argument, from a file, or as its input. -/
def runShell (spawn : Spawn) (working : Place) (program : String) (arguments : List String)
    (session : Session) : Session :=
  let own : Invocation := ⟨program, [], working⟩
  match arguments with
  | "-c" :: text :: name :: rest => runText spawn ⟨name, rest, working⟩ text.toList session
  | ["-c", text] => runText spawn own text.toList session
  | ["-c"] => session.fail own 0 2 .stderr "-c requires an argument"
  | path :: rest =>
    match session.files.read working path with
    | .ok text => runText spawn ⟨path, rest, working⟩ text.toList session
    | .error cause => session.fail own 0 2 .stderr (openFault path false cause)
  | [] => runText spawn own (decodeLossy session.input) { session with input := [] }

/-- A program started by its name. Programs may start one another `depth` times over. -/
def start (working : Place) : Nat → Spawn
  | 0, _, _, _ => .error .permissionDenied
  | depth + 1, program, arguments, session => do
    let image ← find working session.files program
    if arguments.any fun argument => maxArgument < argument.utf8ByteSize then
      .error (.other "Argument list too long (os error 7)")
    match image with
    | .shell => .ok (runShell (start working depth) working program arguments session)
    | .script text => .ok (runText (start working depth) ⟨program, arguments, working⟩ text session)
    | .utility name =>
      match utility? (session.files.read working) name with
      | none => .error .notFound
      | some run => .ok (session.apply working ⟨.stdout, .stderr, none⟩ (run arguments session.input))

def startDepth : Nat := 16

/-- How a command runs. A text with a zero byte cannot be handed to a program, and a program that
has no time at all is cut off before it does anything. -/
def execute : Host.Execution := fun command working files =>
  if (command.program :: command.arguments).any fun text => text.toList.contains '\x00' then
    (.refused .nulByte, files)
  else
    let session : Session :=
      ⟨files, bytes (command.input.getD ""), [], [], command.limit.nanoseconds, 0, none⟩
    match start working startDepth command.program command.arguments session with
    | .error cause => (.refused cause, files)
    | .ok done =>
      if command.limit.nanoseconds = 0 then (.overdue, files)
      else match done.halted with
        | some .overdue => (.overdue, done.files)
        | some (.ending ending) => (.ended ending done.stdout done.stderr, done.files)
        | none => (.ended (.exited done.status) done.stdout done.stderr, done.files)

end ClusterLifecycle.Shell
