import ClusterLifecycle.Config.Basic
import ClusterLifecycle.Command.Basic
import ClusterLifecycle.Json.Reader
import ClusterLifecycle.Json.Source
import ClusterLifecycle.Json.Value

/-!
The commands that manage releases of a chart. A release that is already gone is no fault when it is
uninstalled or asked about.
-/

namespace ClusterLifecycle

open Record Json

/-- What is known of a release: its state and the configuration it was deployed with. -/
structure Release where
  name : String
  state : String
  description : Option String
  config : Value
  version : UInt32
  deriving Repr

namespace Release

def readInfo (document : Document) : Option (String × Option String) := do
  let fields ← Document.source.record ["status", "description"] document
  let state ← required fields "status" Document.text?
  let description ← defaulted fields "description" none (Document.source.optional Document.text?)
  some (state, description)

def ofDocument? (document : Document) : Option Release := do
  let fields ← Document.source.record ["name", "info", "config", "version"] document
  let name ← required fields "name" Document.text?
  let (state, description) ← required fields "info" readInfo
  let config ← defaulted fields "config" .null (Value.ofDocument? (nestingLimit - 1))
  let version ← defaulted fields "version" 0 Document.source.unsigned32
  some { name, state, description, config, version }

def ofText? (text : String) : Option Release := do
  ofDocument? (← Document.ofText? text.toList)

def toDocument (release : Release) : Document :=
  .record [
    ("name", .text release.name),
    ("info", .record [("status", .text release.state), ("description", .optional release.description)]),
    ("config", release.config.toDocument),
    ("version", .natural release.version.toNat)]

end Release

namespace Helm

def notFoundMarker : String := "release: not found"

def command (config : Config) (arguments : List String) (input : Option String) (limit : Duration) : Command where
  program := config.helm
  arguments := arguments ++ config.connection
  input := input
  limit := limit

/-- The data in the output of a command; blank output is null. -/
def readOutput (config : Config) (defect : OutputDefect) (output : Output) : Except RunFault Value :=
  if (Text.trim output.stdout.toList).isEmpty then .ok .null
  else match Value.ofText? output.stdout with
    | some value => .ok value
    | none => .error (.invalidOutput config.helm defect)

def install (config : Config) (release values : String) : Call Value where
  command := command config
    ["install", release, config.chart, "--output", "json", "--timeout", config.releaseWait,
      "--values", "-"] (some values) config.releaseLimit
  read result := do readOutput config .installNotJson (← result)

/-- The data that uninstalling a release answers with, or nothing where there was no release. -/
def readUninstall (config : Config) : RunResult → Except RunFault (Option Value)
  | .error fault => if fault.isNotFound notFoundMarker then .ok none else .error fault
  | .ok output => do .ok (some (← readOutput config .uninstallNotJson output))

def uninstall (config : Config) (release : String) : Call (Option Value) where
  command := command config
    ["uninstall", release, "--output", "json", "--timeout", config.releaseWait] none
    config.releaseLimit
  read := readUninstall config

def readStatus (config : Config) (release : String) : RunResult → Except RunFault (Option Release)
  | .error fault => if fault.isNotFound notFoundMarker then .ok none else .error fault
  | .ok output =>
    match Release.ofText? output.stdout with
    | some found => .ok (some found)
    | none => .error (.invalidOutput config.helm (.unreadableRelease release))

def status (config : Config) (release : String) : Call (Option Release) where
  command := command config ["status", release, "--output", "json"] none config.applyLimit
  read := readStatus config release

end Helm

end ClusterLifecycle
