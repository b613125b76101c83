import ClusterLifecycle.Cluster.File
import ClusterLifecycle.CommandLine.Arguments
import ClusterLifecycle.Config.File
import ClusterLifecycle.Lifecycle.Plan
import ClusterLifecycle.Lifecycle.StatusPass

/-!
The tasks of the command line as programs over the host. The configuration comes first: a file, the
environment over it, and the options of the line over both. A task that fails prints nothing.
-/

namespace ClusterLifecycle.CommandLine

inductive TaskFault where
  | failure (cause : Failure)
  | unreadableFile (path : String) (cause : SystemError)
  | notACluster
  deriving DecidableEq, Repr

def TaskFault.message : TaskFault → String
  | .failure cause => cause.message
  | .unreadableFile path cause => s!"failed to read {path}: {cause.message}"
  | .notACluster => "yaml error"

abbrev Outcome (α : Type) := HostProgram (Except TaskFault α)

namespace Outcome

variable {α β : Type}

def andThen (outcome : Outcome α) (next : α → Outcome β) : Outcome β :=
  Program.bind outcome fun
    | .ok value => next value
    | .error fault => .done (.error fault)

def ofExcept (result : Except Failure α) : Outcome α :=
  .done (result.mapError .failure)

end Outcome

namespace Arguments

def override (arguments : Arguments) (config : Config) : Config :=
  { config with
    backend := arguments.backend.getD config.backend
    stateDirectory := arguments.stateDirectory.getD config.stateDirectory
    kubeconfig := arguments.kubeconfig <|> config.kubeconfig
    kubeNamespace := arguments.kubeNamespace <|> config.kubeNamespace }

def configuration (lookup : String → Option String) (arguments : Arguments) :
    HostProgram (Except ConfigFault Config) :=
  (Config.load lookup arguments.config).bind fun result => .done (result.map arguments.override)

end Arguments

def readCluster (path : String) : Outcome Cluster :=
  (Host.readText path).bind fun
    | .error cause => .done (.error (.unreadableFile path cause))
    | .ok text =>
      match Cluster.ofText? text with
      | some cluster => .done (.ok cluster)
      | none => .done (.error .notACluster)

def openRenderer (config : Config) : Outcome Manifest.Renderer :=
  match config.templatesDirectory with
  | none => .ofExcept (Driver.renderer? (fun _ => none) config)
  | some path => (Host.openTemplates path).bind fun library =>
    Outcome.ofExcept (Driver.renderer? (fun _ => library) config)

def openDriver (config : Config) : Outcome Driver :=
  (openRenderer config).andThen fun renderer => .done (.ok ⟨config, renderer⟩)

def loadCluster (config : Config) (uuid : Uuid) : Outcome Cluster :=
  (StateDirectory.load config.stateDirectory uuid).bind fun result =>
    Outcome.ofExcept (orFail (.persistence uuid) result)

def keepCluster (config : Config) (cluster : Cluster) : Outcome Unit :=
  (StateDirectory.save config.stateDirectory cluster).bind fun result =>
    Outcome.ofExcept (orFail (.persistence cluster.uuid) result)

def carryOut {α : Type} (config : Config) (plan : Plan (Except Failure α × Cluster)) : Outcome (α × Cluster) :=
  (plan.onHost config.stateDirectory).bind fun (result, cluster) =>
    Outcome.ofExcept (result.map (·, cluster))

def print (text : String) : Outcome Unit :=
  (Host.print text).bind fun () => .done (.ok ())

def submittedLine (cluster : Cluster) : String :=
  s!"{cluster.uuid} {cluster.status}\n"

/-- The line about a pass, with the reason where the pass has just written it. -/
def passLine (outcome : PassOutcome) (cluster : Cluster) : String :=
  match outcome.saved, cluster.statusReason with
  | true, some reason => s!"{cluster.uuid} {outcome.status} ({reason})\n"
  | _, _ => s!"{cluster.uuid} {outcome.status}\n"

/-- The text that a configuration calls for, with a template or without one. -/
def rendering (config : Config) (renderer : Manifest.Renderer) (cluster : Cluster)
    (template : Option ClusterTemplate) : Except Failure String :=
  match config.backend with
  | .manifests => renderer.manifests cluster template
  | .release =>
    match template with
    | none => .error (.validation cluster.uuid .valuesNeedTemplate)
    | some template => renderer.values cluster template

def renderFile (config : Config) (path : String) (withoutTemplate : Bool) : Outcome Unit :=
  (readCluster path).andThen fun cluster =>
    (openRenderer config).andThen fun renderer =>
      let template := if withoutTemplate then none else cluster.template
      (Outcome.ofExcept (rendering config renderer cluster template)).andThen print

def submit (config : Config) (operation : Operation) (uuid : Uuid) : Outcome Unit :=
  (openDriver config).andThen fun driver =>
    (loadCluster config uuid).andThen fun cluster =>
      (carryOut config (driver.perform operation cluster)).andThen fun ((), cluster) =>
        print (submittedLine cluster)

def pass (config : Config) (uuid : Uuid) : Outcome Unit :=
  (openDriver config).andThen fun driver =>
    (loadCluster config uuid).andThen fun cluster =>
      (carryOut config (driver.statusPass cluster)).andThen fun (outcome, cluster) =>
        print (passLine outcome cluster)

def adoptFile (config : Config) (path : String) : Outcome Unit :=
  (readCluster path).andThen fun cluster =>
    (Outcome.ofExcept (orFail (.validation cluster.uuid) cluster.validate)).andThen fun () =>
      (keepCluster config cluster).andThen fun () =>
        print s!"{cluster.uuid}\n"

def Task.run (config : Config) : Task → Outcome Unit
  | .render path withoutTemplate => renderFile config path withoutTemplate
  | .perform operation uuid => submit config operation uuid
  | .reconcile uuid => pass config uuid
  | .adopt path => adoptFile config path

namespace Arguments

def run (lookup : String → Option String) (arguments : Arguments) : Outcome Unit :=
  (arguments.configuration lookup).bind fun
    | .error fault => .done (.error (.failure (.config fault)))
    | .ok config => arguments.task.run config

end Arguments

end ClusterLifecycle.CommandLine
