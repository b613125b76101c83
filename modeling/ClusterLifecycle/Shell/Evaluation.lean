import ClusterLifecycle.Command.Basic
import ClusterLifecycle.FileSystem.Basic
import ClusterLifecycle.Shell.Step
import ClusterLifecycle.Shell.Utility

/-!
What scripts do. A session is what they change: files, input that is left, output, and the time
that is left to them. Once a session has halted nothing more happens in it.
-/

namespace ClusterLifecycle.Shell

open Text.Utf8

/-- How a session comes to its end: by itself, or because its time is over. -/
inductive Halt where
  | ending (ending : Ending)
  | overdue
  deriving DecidableEq, Repr

structure Session where
  files : FileSystem
  input : Bytes
  stdout : Bytes
  stderr : Bytes
  budget : Nat
  status : Nat
  halted : Option Halt
  deriving Repr, Inhabited

structure Invocation where
  name : String
  arguments : List String
  working : Place
  deriving DecidableEq, Repr

/-- How a program that is no part of the shell is run: its name, its arguments and the session that
it runs in, whose status it leaves or which it halts as long as it is the only one in it. -/
abbrev Spawn := String → List String → Session → Except SystemError Session

def processNumber : List Char := ['1', '0', '0', '0']

/-! Words. -/

/-- Finished fields, the last one first, and one that is still open. -/
structure Fields where
  done : List (List Char)
  current : Option (List Char)
  deriving DecidableEq, Repr

namespace Fields

def push (content : List Char) (fields : Fields) : Fields :=
  { fields with current := some (fields.current.getD [] ++ content) }

def close (fields : Fields) : Fields :=
  match fields.current with
  | none => fields
  | some content => ⟨content :: fields.done, none⟩

def pushSplit (content : List Char) (fields : Fields) : Fields :=
  content.foldl (fun fields c =>
    if c = ' ' ∨ c = '\t' ∨ c = '\n' then fields.close else fields.push [c]) fields

/-- Values that each make a field, the first and the last joined with what is beside them. -/
def pushAll (push : List Char → Fields → Fields) : List (List Char) → Fields → Fields
  | [], fields => fields
  | [content], fields => push content fields
  | content :: rest, fields => pushAll push rest (push content fields).close

def toList (fields : Fields) : List String :=
  fields.close.done.reverse.map String.ofList

end Fields

namespace Invocation

def values (invocation : Invocation) (status : Nat) : Parameter → List (List Char)
  | .argument 0 => [invocation.name.toList]
  | .argument (n + 1) => [((invocation.arguments[n]?).getD "").toList]
  | .each | .joined => invocation.arguments.map String.toList
  | .count => [Text.decimal invocation.arguments.length]
  | .process => [processNumber]
  | .status => [Text.decimal status]

def expandPiece (invocation : Invocation) (status : Nat) (fields : Fields) : Piece → Fields
  | .text content _ => fields.push content
  | .parameter .joined true =>
    fields.push (List.intercalate [' '] (invocation.values status .joined))
  | .parameter parameter true => fields.pushAll Fields.push (invocation.values status parameter)
  | .parameter parameter false => fields.pushAll Fields.pushSplit (invocation.values status parameter)

def expand (invocation : Invocation) (status : Nat) (word : Word) : List String :=
  (word.foldl (invocation.expandPiece status) ⟨[], none⟩).toList

end Invocation

/-! Redirections. -/

inductive Sink where
  | stdout
  | stderr
  | file (path : String)
  | nowhere
  deriving DecidableEq, Repr

/-- Where output goes and, for input that does not come from the session, where it comes from. -/
structure Streams where
  out : Sink
  err : Sink
  input : Option Bytes
  deriving DecidableEq, Repr

namespace Session

def emit (working : Place) (sink : Sink) (output : Bytes) (session : Session) : Session :=
  match sink with
  | .stdout => { session with stdout := session.stdout ++ output }
  | .stderr => { session with stderr := session.stderr ++ output }
  | .nowhere => session
  | .file path =>
    match session.files.read working path with
    | .error _ => session
    | .ok text =>
      match session.files.write working path (text ++ readable output) with
      | .ok files => { session with files := files }
      | .error _ => session

def fail (invocation : Invocation) (line status : Nat) (sink : Sink) (message : String)
    (session : Session) : Session :=
  { session.emit invocation.working sink (bytes s!"{invocation.name}: {line}: {message}\n") with
    status := status }

end Session

def openSink (working : Place) (path : String) (append : Bool) (files : FileSystem) :
    Except SystemError (Sink × FileSystem) :=
  if path = "/dev/null" then .ok (.nowhere, files)
  else do
    let content ← match files.read working path with
      | .ok content => .ok (if append then content else "")
      | .error .notFound => .ok ""
      | .error cause => .error cause
    .ok (.file path, ← files.write working path content)

def openSource (working : Place) (path : String) (files : FileSystem) : Except SystemError Bytes :=
  if path = "/dev/null" then .ok [] else (files.read working path).map bytes

def openFault (path : String) (output : Bool) (cause : SystemError) : String :=
  let action := if output then "create" else "open"
  let why := match cause with
    | .notFound => if output then "Directory nonexistent" else "No such file"
    | cause => reason cause
  s!"cannot {action} {path}: {why}"

def redirect (invocation : Invocation) (streams : Streams) (session : Session) :
    Redirection → Except String (Streams × Session)
  | .read source =>
    let path := String.join (invocation.expand session.status source)
    match openSource invocation.working path session.files with
    | .ok input => .ok ({ streams with input := some input }, session)
    | .error cause => .error (openFault path false cause)
  | .write descriptor target append =>
    let path := String.join (invocation.expand session.status target)
    match openSink invocation.working path append session.files with
    | .ok (sink, files) =>
      let streams := if descriptor = 1 then { streams with out := sink }
        else if descriptor = 2 then { streams with err := sink } else streams
      .ok (streams, { session with files := files })
    | .error cause => .error (openFault path true cause)
  | .copy descriptor source =>
    let sink := if source = 2 then streams.err else streams.out
    .ok (if descriptor = 1 then { streams with out := sink }
      else if descriptor = 2 then { streams with err := sink } else streams, session)

def redirectAll (invocation : Invocation) : Streams → Session → List Redirection →
    Except (String × Session) (Streams × Session)
  | streams, session, [] => .ok (streams, session)
  | streams, session, redirection :: rest =>
    match redirect invocation streams session redirection with
    | .ok (streams, session) => redirectAll invocation streams session rest
    | .error message => .error (message, session)

/-! Commands. -/

def signals : List (String × Nat) :=
  [("HUP", 1), ("INT", 2), ("QUIT", 3), ("ABRT", 6), ("KILL", 9), ("USR1", 10), ("SEGV", 11),
    ("USR2", 12), ("PIPE", 13), ("ALRM", 14), ("TERM", 15)]

def signal? (text : String) : Option Nat :=
  match Text.natural? 10 text.toList with
  | some n => if n ≤ 64 then some n else none
  | none => signals.lookup text

def ownSignal? (arguments : List String) : Option Nat :=
  match arguments with
  | [target] => if target.toList = processNumber then some 15 else none
  | [option, target] =>
    if target.toList = processNumber ∧ option.toList.head? = some '-' then
      signal? (String.ofList (option.toList.drop 1))
    else none
  | ["-s", name, target] => if target.toList = processNumber then signal? name else none
  | _ => none

namespace Session

/-- The effect of a program, with its output sent where the streams say. -/
def apply (working : Place) (streams : Streams) (effect : Effect) (session : Session) : Session :=
  if session.budget ≤ effect.time ∧ 0 < effect.time then { session with halted := some .overdue }
  else
    let session := { session with
      status := effect.status
      budget := session.budget - effect.time
      input := if streams.input.isSome then session.input else effect.left }
    (session.emit working streams.out effect.out).emit working streams.err effect.err

/-- A program run by itself on the given streams; its output goes where they say. -/
def external (spawn : Spawn) (invocation : Invocation) (line : Nat) (streams : Streams)
    (program : String) (arguments : List String) (session : Session) : Session :=
  let own := { session with
    input := streams.input.getD session.input, stdout := [], stderr := [], status := 0, halted := none }
  match spawn program arguments own with
  | .error .permissionDenied =>
    session.fail invocation line 126 streams.err s!"{program}: Permission denied"
  | .error _ => session.fail invocation line 127 streams.err s!"{program}: not found"
  | .ok done =>
    let back := { session with
      files := done.files
      budget := done.budget
      input := if streams.input.isSome then session.input else done.input
      status := match done.halted with
        | some (.ending (.exited code)) => code
        | some (.ending (.killed signal)) => 128 + signal
        | _ => done.status
      halted := match done.halted with
        | some .overdue => some .overdue
        | _ => session.halted }
    (back.emit invocation.working streams.out done.stdout).emit invocation.working streams.err done.stderr

def halt (ending : Ending) (session : Session) : Session :=
  { session with halted := some (.ending ending) }

def exit (invocation : Invocation) (line : Nat) (streams : Streams) (arguments : List String)
    (session : Session) : Session :=
  match arguments with
  | [] => session.halt (.exited session.status)
  | code :: _ =>
    match Text.natural? 10 code.toList with
    | some n => session.halt (.exited (n % 256))
    | none => (session.fail invocation line 2 streams.err s!"exit: Illegal number: {code}").halt (.exited 2)

def replace (spawn : Spawn) (invocation : Invocation) (line : Nat) (streams : Streams)
    (arguments : List String) (session : Session) : Session :=
  match arguments with
  | [] => { session with status := 0 }
  | program :: rest =>
    let own := { session with input := streams.input.getD session.input, stdout := [], stderr := [] }
    match spawn program rest own with
    | .error .permissionDenied =>
      (session.fail invocation line 126 streams.err s!"exec: {program}: Permission denied").halt (.exited 126)
    | .error _ => (session.fail invocation line 127 streams.err s!"exec: {program}: not found").halt (.exited 127)
    | .ok done =>
      let output := { done with stdout := session.stdout, stderr := session.stderr }
      let output := output.emit invocation.working streams.out done.stdout
      let output := output.emit invocation.working streams.err done.stderr
      if done.halted.isSome then output else output.halt (.exited done.status)

/-- A command after its words and redirections have been worked out. -/
def command (spawn : Spawn) (invocation : Invocation) (line : Nat) (streams : Streams)
    (fields : List String) (session : Session) : Session :=
  let working := invocation.working
  let input := streams.input.getD session.input
  let test := fun name arguments =>
    match tested (session.files.read working) arguments with
    | .ok holds => { session with status := if holds then 0 else 1 }
    | .error message => session.fail invocation line 2 streams.err s!"{name}: {message}"
  match fields with
  | [] | ":" :: _ | "true" :: _ => { session with status := 0 }
  | "false" :: _ => { session with status := 1 }
  | "exit" :: arguments => session.exit invocation line streams arguments
  | "exec" :: arguments => session.replace spawn invocation line streams arguments
  | "echo" :: arguments => session.apply working streams (echo true arguments input)
  | "printf" :: arguments => session.apply working streams (printf arguments input)
  | "test" :: arguments => test "test" arguments
  | "[" :: arguments =>
    if arguments.getLast? = some "]" then test "[" arguments.dropLast
    else session.fail invocation line 2 streams.err "[: missing ]"
  | "kill" :: arguments =>
    match ownSignal? arguments with
    | some 0 => { session with status := 0 }
    | some signal => session.halt (.killed signal)
    | none => session.fail invocation line 1 streams.err "kill: No such process\n"
  | program :: arguments => session.external spawn invocation line streams program arguments

end Session

namespace Step

/-- What a script does in a session. The parts of a pipeline have sessions of their own, the first
of which feeds the second. -/
def run (spawn : Spawn) (invocation : Invocation) : Step → Session → Session
  | .nothing, session => { session with status := 0 }
  | .simple line words redirections, session =>
    let fields := words.flatMap (invocation.expand session.status)
    match redirectAll invocation ⟨.stdout, .stderr, none⟩ session redirections with
    | .error (message, session) => session.fail invocation line 2 .stderr message
    | .ok (streams, session) => session.command spawn invocation line streams fields
  | .next first second, session =>
    let session := first.run spawn invocation session
    if session.halted.isSome then session else second.run spawn invocation session
  | .both first second, session =>
    let session := first.run spawn invocation session
    if session.halted.isSome || session.status ≠ 0 then session else second.run spawn invocation session
  | .either first second, session =>
    let session := first.run spawn invocation session
    if session.halted.isSome || session.status = 0 then session else second.run spawn invocation session
  | .negate step, session =>
    let session := step.run spawn invocation session
    if session.halted.isSome then session
    else { session with status := if session.status = 0 then 1 else 0 }
  | .choose condition yes no, session =>
    let session := condition.run spawn invocation session
    if session.halted.isSome then session
    else if session.status = 0 then yes.run spawn invocation session
    else no.run spawn invocation session
  | .pipe source target, session =>
    let first := source.run spawn invocation { session with stdout := [] }
    let second := target.run spawn invocation
      { first with input := first.stdout, stdout := session.stdout, halted := none }
    let halted := if first.halted = some .overdue then first.halted else second.halted
    match halted with
    | some (.ending (.exited code)) => { second with input := first.input, status := code, halted := none }
    | halted => { second with input := first.input, halted := halted }

end Step

end ClusterLifecycle.Shell
