import ClusterLifecycle.Duration
import ClusterLifecycle.SystemError
import ClusterLifecycle.Text.Blank
import ClusterLifecycle.Text.Bytes

/-!
Runs of external programs: what is run, what a successful run leaves behind, and how a run fails.
Starting a program comes to bytes: output that counts has to be text, and output that only explains a
failure is made readable.
-/

namespace ClusterLifecycle

/-- A program with its arguments, the text it is fed and the time it may take. -/
structure Command where
  program : String
  arguments : List String
  input : Option String
  limit : Duration
  deriving DecidableEq, Repr

namespace Command

def line (command : Command) : String :=
  String.intercalate " " (command.program :: command.arguments)

end Command

structure Output where
  stdout : String
  stderr : String
  deriving DecidableEq, Repr, Inhabited

inductive OutputDefect where
  | notText
  | installNotJson
  | uninstallNotJson
  | unreadableRelease (release : String)
  | unreadableResource (kind name : String)
  | other (text : String)
  deriving DecidableEq, Repr

def OutputDefect.message : OutputDefect → String
  | .notText => "stdout is not valid UTF-8"
  | .installNotJson => "helm install output is not JSON"
  | .uninstallNotJson => "helm uninstall output is not JSON"
  | .unreadableRelease release => s!"failed to parse status of release {release}"
  | .unreadableResource kind name => s!"failed to parse {kind} {name}"
  | .other text => text

/-- How a run fails. The exit code is missing where a signal ended the program. -/
inductive RunFault where
  | spawn (program : String) (cause : SystemError)
  | timeout (program : String) (limit : Duration)
  | failed (program : String) (exitCode : Option Int) (stdout stderr : String)
  | invalidOutput (program : String) (defect : OutputDefect)
  deriving DecidableEq, Repr

namespace RunFault

def codeText : Option Int → String
  | none => "none"
  | some code => toString code

def message : RunFault → String
  | .spawn program cause => s!"failed to run {program}: {cause.message}"
  | .timeout program limit => s!"{program} timed out after {limit.text}"
  | .failed program exitCode _ stderr => s!"{program} exited with code {codeText exitCode}: {stderr}"
  | .invalidOutput program defect => s!"{program} produced unusable output: {defect.message}"

def exitCode : RunFault → Option Int
  | .failed _ code _ _ => code
  | _ => none

def stderr : RunFault → Option String
  | .failed _ _ _ text => some text
  | _ => none

/-- A missing object is reported by exit code 1 and a marker somewhere in the error text. -/
def isNotFound (marker : String) (fault : RunFault) : Bool :=
  fault.exitCode == some 1 && match fault.stderr with
    | some text => Text.occursIn marker.toList text.toList
    | none => false

end RunFault

abbrev RunResult := Except RunFault Output

structure Call (α : Type) where
  command : Command
  read : RunResult → Except RunFault α

open Text.Utf8

inductive Ending where
  | exited (code : Nat)
  | killed (signal : Nat)
  deriving DecidableEq, Repr

def Ending.code? : Ending → Option Int
  | .exited code => some code
  | .killed _ => none

/-- A program is refused by the system, takes too long, or ends by itself. -/
inductive Attempt where
  | refused (cause : SystemError)
  | overdue
  | ended (ending : Ending) (stdout stderr : Bytes)
  deriving DecidableEq, Repr

def readable (bytes : Bytes) : String :=
  String.ofList (decodeLossy bytes)

namespace Command

def conclude (command : Command) : Attempt → RunResult
  | .refused cause => .error (.spawn command.program cause)
  | .overdue => .error (.timeout command.program command.limit)
  | .ended (.exited 0) stdout stderr =>
    match decode? stdout with
    | some text => .ok ⟨String.ofList text, readable stderr⟩
    | none => .error (.invalidOutput command.program .notText)
  | .ended ending stdout stderr =>
    .error (.failed command.program ending.code? (readable stdout) (readable stderr))

end Command

end ClusterLifecycle
