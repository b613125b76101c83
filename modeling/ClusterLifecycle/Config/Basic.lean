import ClusterLifecycle.Duration
import ClusterLifecycle.SystemError

/-!
The configuration of the driver, with a default for every value.
-/

namespace ClusterLifecycle

/-- The two ways in which a cluster is run: as manifests that are applied, or as a release of a chart. -/
inductive Backend where
  | manifests
  | release
  deriving DecidableEq, Repr

namespace Backend

instance : Inhabited Backend := ⟨.release⟩

def name : Backend → String
  | .manifests => "manifests"
  | .release => "release"

instance : ToString Backend := ⟨name⟩

def ofName? (name : String) : Option Backend :=
  [Backend.manifests, .release].find? fun backend => backend.name == name

def folded (name : String) : String :=
  String.ofList (name.toList.map Char.toLower)

theorem ofName?_name (backend : Backend) : ofName? backend.name = some backend := by
  cases backend <;> decide

end Backend

/-- Timeouts are in seconds; the wait is handed to the release tool as it is. -/
structure Config where
  backend : Backend
  kubectl : String
  helm : String
  kubeconfig : Option String
  kubeNamespace : Option String
  applyTimeout : UInt64
  releaseTimeout : UInt64
  releaseWait : String
  chart : String
  resourceKind : String
  handledKey : String
  authUrl : Option String
  templatesDirectory : Option String
  stateDirectory : String
  deriving DecidableEq, Repr

inductive ConfigFault where
  | unknownBackend (folded : String)
  | notSeconds (name value : String)
  | unreadable (path : String) (cause : SystemError)
  | invalid
  deriving DecidableEq, Repr

def ConfigFault.message : ConfigFault → String
  | .unknownBackend folded => s!"unknown backend '{folded}', expected 'manifests' or 'release'"
  | .notSeconds name value => s!"{name} must be a whole number of seconds, got '{value}'"
  | .unreadable path cause => s!"failed to read {path}: {cause.message}"
  | .invalid => "invalid configuration"

namespace Backend

def parse (name : String) : Except ConfigFault Backend :=
  match ofName? (folded name) with
  | some backend => .ok backend
  | none => .error (.unknownBackend (folded name))

end Backend

namespace Config

def initial : Config where
  backend := default
  kubectl := "kubectl"
  helm := "helm"
  kubeconfig := none
  kubeNamespace := none
  applyTimeout := 120
  releaseTimeout := 310
  releaseWait := "5m"
  chart := "https://stackhpc.github.io/capi-helm-charts/openstack-cluster-0.1.0.tgz"
  resourceKind := "clusters.azimuth.stackhpc.com"
  handledKey := "kopf.zalando.org/last-handled-configuration"
  authUrl := none
  templatesDirectory := none
  stateDirectory := ".capstan"

instance : Inhabited Config := ⟨initial⟩

def applyLimit (config : Config) : Duration :=
  .ofSeconds config.applyTimeout.toNat

def releaseLimit (config : Config) : Duration :=
  .ofSeconds config.releaseTimeout.toNat

def flag (name : String) : Option String → List String
  | none => []
  | some value => [name, value]

/-- The arguments with which both tools find the management cluster. -/
def connection (config : Config) : List String :=
  flag "--kubeconfig" config.kubeconfig ++ flag "--namespace" config.kubeNamespace

end Config

end ClusterLifecycle
