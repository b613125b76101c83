import ClusterLifecycle.Lifecycle.Plan

/-!
A world that follows a script: commands and saves get the answers it lists, one after the other, and
succeed with nothing to say once it is used up. What was asked for is written down.
-/

namespace ClusterLifecycle

/-- What is to come of a command. A timeout without a length is the command's own limit. -/
inductive Scripted where
  | output (output : Output)
  | failed (exitCode : Option Int) (stdout stderr : String)
  | timeout (limit : Option Duration)
  | spawn (cause : SystemError)
  | invalid (defect : OutputDefect)
  deriving DecidableEq, Repr

def Scripted.result (scripted : Scripted) (command : Command) : RunResult :=
  match scripted with
  | .output given => .ok given
  | .failed exitCode stdout stderr => .error (.failed command.program exitCode stdout stderr)
  | .timeout limit => .error (.timeout command.program (limit.getD command.limit))
  | .spawn cause => .error (.spawn command.program cause)
  | .invalid defect => .error (.invalidOutput command.program defect)

/-- The answers still to be given and what has been asked for, the latest first. -/
structure Script where
  results : List Scripted
  saves : List (Option StorageFault)
  commands : List Command
  records : List Cluster
  deriving Repr

namespace Script

def start (results : List Scripted) (saves : List (Option StorageFault)) : Script :=
  ⟨results, saves, [], []⟩

def fresh (script : Script) : Script :=
  { script with commands := [], records := [] }

def runCommand (script : Script) (command : Command) : RunResult × Script :=
  let result := match script.results with
    | [] => .ok ⟨"", ""⟩
    | next :: _ => next.result command
  (result, { script with results := script.results.tail, commands := command :: script.commands })

def saveRecord (script : Script) (cluster : Cluster) : Except StorageFault Unit × Script :=
  let result := match script.saves with
    | some fault :: _ => .error fault
    | _ => .ok ()
  (result, { script with saves := script.saves.tail, records := cluster :: script.records })

def answer : (effect : Effect) → Script → effect.Answer × Script
  | .run command, script => script.runCommand command
  | .save cluster, script => script.saveRecord cluster

def call {α : Type} (script : Script) (call : Call α) : Except RunFault α × Script :=
  let (result, after) := script.runCommand call.command
  (call.read result, after)

end Script

end ClusterLifecycle
