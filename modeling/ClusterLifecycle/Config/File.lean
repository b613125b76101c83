import ClusterLifecycle.Config.Basic
import ClusterLifecycle.Config.Environment
import ClusterLifecycle.Host.Basic
import ClusterLifecycle.Json.Document
import ClusterLifecycle.Record.Source
import ClusterLifecycle.Yaml.Source

/-!
The configuration as a record, and the one that a host gives. What a file leaves out has its default
value, and the environment goes over the file.
-/

namespace ClusterLifecycle

open Record Json

namespace Backend

def read {δ : Type} (source : Source δ) (data : δ) : Option Backend := do
  ofName? (← source.variant data)

end Backend

namespace Config

def fieldNames : List String :=
  ["backend", "kubectl", "helm", "kubeconfig", "namespace", "apply_timeout_secs",
    "release_timeout_secs", "release_wait", "chart_ref", "cluster_resource_kind",
    "last_handled_annotation", "auth_url", "templates_dir", "state_dir"]

def read {δ : Type} (source : Source δ) (data : δ) : Option Config := do
  let fields ← source.record fieldNames data
  let text := fun name given => defaulted fields name given source.text
  let optional := fun name => defaulted fields name none (source.optional source.text)
  let backend ← defaulted fields "backend" initial.backend (Backend.read source)
  let kubectl ← text "kubectl" initial.kubectl
  let helm ← text "helm" initial.helm
  let kubeconfig ← optional "kubeconfig"
  let kubeNamespace ← optional "namespace"
  let applyTimeout ← defaulted fields "apply_timeout_secs" initial.applyTimeout source.unsigned64
  let releaseTimeout ← defaulted fields "release_timeout_secs" initial.releaseTimeout source.unsigned64
  let releaseWait ← text "release_wait" initial.releaseWait
  let chart ← text "chart_ref" initial.chart
  let resourceKind ← text "cluster_resource_kind" initial.resourceKind
  let handledKey ← text "last_handled_annotation" initial.handledKey
  let authUrl ← optional "auth_url"
  let templatesDirectory ← optional "templates_dir"
  let stateDirectory ← text "state_dir" initial.stateDirectory
  some { backend, kubectl, helm, kubeconfig, kubeNamespace, applyTimeout, releaseTimeout,
         releaseWait, chart, resourceKind, handledKey, authUrl, templatesDirectory, stateDirectory }

def toDocument (config : Config) : Document :=
  .record [
    ("backend", .text config.backend.name),
    ("kubectl", .text config.kubectl),
    ("helm", .text config.helm),
    ("kubeconfig", .optional config.kubeconfig),
    ("namespace", .optional config.kubeNamespace),
    ("apply_timeout_secs", .natural config.applyTimeout.toNat),
    ("release_timeout_secs", .natural config.releaseTimeout.toNat),
    ("release_wait", .text config.releaseWait),
    ("chart_ref", .text config.chart),
    ("cluster_resource_kind", .text config.resourceKind),
    ("last_handled_annotation", .text config.handledKey),
    ("auth_url", .optional config.authUrl),
    ("templates_dir", .optional config.templatesDirectory),
    ("state_dir", .text config.stateDirectory)]

def ofText (text : String) : Except ConfigFault Config :=
  match Yaml.Node.ofText? text >>= read Yaml.Node.source with
  | some config => .ok config
  | none => .error .invalid

def ofFile : Option String → HostProgram (Except ConfigFault Config)
  | none => .done (.ok initial)
  | some path => (Host.readText path).bind fun
    | .ok text => .done (ofText text)
    | .error cause => .done (.error (.unreadable path cause))

/-- The configuration under an environment, if all of the environment is understood. -/
def underEnvironment (lookup : String → Option String) (config : Config) : Except ConfigFault Config :=
  match config.withEnvironment lookup with
  | (config, none) => .ok config
  | (_, some fault) => .error fault

def load (lookup : String → Option String) (path : Option String) : HostProgram (Except ConfigFault Config) :=
  (ofFile path).bind fun result => .done (result.bind (underEnvironment lookup))

end Config

end ClusterLifecycle
