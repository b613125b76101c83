import ClusterLifecycle.Cluster.Status
import ClusterLifecycle.Config.Basic
import ClusterLifecycle.Log.Filter
import ClusterLifecycle.Uuid

/-!
The commands and options of the program, how the value of an option is read, and what can be wrong
with a command line.
-/

namespace ClusterLifecycle.CommandLine

inductive Verb where
  | render
  | perform (operation : Operation)
  | reconcile
  | adopt
  deriving DecidableEq, Repr

namespace Verb

def names : List (String × Verb) :=
  [("render", .render), ("create", .perform .create), ("update", .perform .update),
    ("delete", .perform .delete), ("reconcile", .reconcile), ("import", .adopt)]

def ofName? (name : String) : Option Verb :=
  names.lookup name

end Verb

inductive Switch where
  | config
  | backend
  | stateDirectory
  | kubeconfig
  | kubeNamespace
  | logFormat
  | cluster
  | file
  | withoutTemplate
  | help
  | version
  deriving DecidableEq, Repr

namespace Switch

def name : Switch → String
  | .config => "config"
  | .backend => "backend"
  | .stateDirectory => "state-dir"
  | .kubeconfig => "kubeconfig"
  | .kubeNamespace => "namespace"
  | .logFormat => "log-format"
  | .cluster => "cluster"
  | .file => "file"
  | .withoutTemplate => "without-template"
  | .help => "help"
  | .version => "version"

def common : List Switch :=
  [.config, .backend, .stateDirectory, .kubeconfig, .kubeNamespace, .logFormat, .help]

def all : Option Verb → List Switch
  | none => .version :: common
  | some .render => .cluster :: .withoutTemplate :: common
  | some (.perform _) | some .reconcile => .cluster :: common
  | some .adopt => .file :: common

def ofName? (part : Option Verb) (name : String) : Option Switch :=
  (all part).find? fun switch => switch.name == name

def takesValue : Switch → Bool
  | .withoutTemplate | .help | .version => false
  | _ => true

end Switch

/-- Why a command line is not followed: something is wrong with it, or it asks for help. -/
inductive UsageFault where
  | noValue (switch : Switch)
  | notAChoice (switch : Switch) (value : String)
  | notAccepted (switch : Switch) (value : String)
  | unwantedValue (switch : Switch) (value : String)
  | repeated (switch : Switch)
  | missing (switch : Switch)
  | unknown (word : String)
  | noSuchCommand (word : String)
  | noCommand
  | noWords
  | help
  | version
  deriving DecidableEq, Repr

def UsageFault.message : UsageFault → String
  | .noValue switch => s!"a value is required for --{switch.name}"
  | .notAChoice switch value | .notAccepted switch value =>
    s!"invalid value '{value}' for --{switch.name}"
  | .unwantedValue switch value => s!"unexpected value '{value}' for --{switch.name}"
  | .repeated switch => s!"--{switch.name} cannot be used multiple times"
  | .missing switch => s!"--{switch.name} is required"
  | .unknown word => s!"unexpected argument '{word}'"
  | .noSuchCommand word => s!"unrecognized subcommand '{word}'"
  | .noCommand => "a subcommand is required"
  | .noWords | .help => "usage: capstan [options] render|create|update|delete|reconcile|import [options]"
  | .version => "capstan 0.1.0"

inductive Value where
  | path (path : String)
  | text (text : String)
  | backend (backend : Backend)
  | format (format : Log.Format)
  | cluster (cluster : Uuid)
  | present
  deriving DecidableEq, Repr

namespace Switch

def readPath (switch : Switch) (text : String) : Except UsageFault Value :=
  if text = "" then .error (.noValue switch) else .ok (.path text)

/-- The value of an option. Rendering takes its cluster from a file, all else by identifier. -/
def read (part : Option Verb) (switch : Switch) (text : String) : Except UsageFault Value :=
  match switch with
  | .config | .stateDirectory | .kubeconfig | .file => switch.readPath text
  | .kubeNamespace => .ok (.text text)
  | .backend =>
    match Backend.ofName? text with
    | some found => .ok (.backend found)
    | none => .error (.notAChoice switch text)
  | .logFormat =>
    match Log.Format.ofName? text with
    | some found => .ok (.format found)
    | none => .error (.notAccepted switch text)
  | .cluster =>
    if part = some .render then switch.readPath text
    else match Uuid.ofString? text with
      | some found => .ok (.cluster found)
      | none => .error (.notAccepted switch text)
  | .withoutTemplate | .help | .version => .ok .present

end Switch

end ClusterLifecycle.CommandLine
