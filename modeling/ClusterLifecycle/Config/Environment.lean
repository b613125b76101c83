import ClusterLifecycle.Config.Basic
import ClusterLifecycle.Text.Blank
import ClusterLifecycle.Text.Digits

/-!
Overriding the configuration by environment variables. The variables are applied in a fixed order,
an empty one counts as unset, and the first value that is not understood ends the matter.
-/

namespace ClusterLifecycle

namespace Config

structure Override where
  name : String
  apply : String → Config → Except ConfigFault Config

def seconds (name value : String) : Except ConfigFault UInt64 :=
  let digits := (Text.after? ['+'] value.toList).getD value.toList
  match Text.natural? 10 digits with
  | some n => if n < UInt64.size then .ok (UInt64.ofNat n) else .error (.notSeconds name value)
  | none => .error (.notSeconds name value)

def textOverride (name : String) (set : String → Config → Config) : Override :=
  ⟨name, fun value config => .ok (set value config)⟩

def secondsOverride (name : String) (set : UInt64 → Config → Config) : Override :=
  ⟨name, fun value config => do .ok (set (← seconds name value) config)⟩

def overrides : List Override := [
  ⟨"CAPSTAN_BACKEND", fun value config => do
    .ok { config with backend := ← Backend.parse value }⟩,
  textOverride "CAPSTAN_KUBECTL" fun value config => { config with kubectl := value },
  textOverride "CAPSTAN_HELM" fun value config => { config with helm := value },
  textOverride "CAPSTAN_KUBECONFIG" fun value config => { config with kubeconfig := some value },
  textOverride "CAPSTAN_NAMESPACE" fun value config => { config with kubeNamespace := some value },
  secondsOverride "CAPSTAN_APPLY_TIMEOUT_SECS" fun value config => { config with applyTimeout := value },
  secondsOverride "CAPSTAN_RELEASE_TIMEOUT_SECS" fun value config => { config with releaseTimeout := value },
  textOverride "CAPSTAN_RELEASE_WAIT" fun value config => { config with releaseWait := value },
  textOverride "CAPSTAN_CHART_REF" fun value config => { config with chart := value },
  textOverride "CAPSTAN_CLUSTER_RESOURCE_KIND" fun value config => { config with resourceKind := value },
  textOverride "CAPSTAN_LAST_HANDLED_ANNOTATION" fun value config => { config with handledKey := value },
  textOverride "CAPSTAN_AUTH_URL" fun value config => { config with authUrl := some value },
  textOverride "CAPSTAN_TEMPLATES_DIR" fun value config => { config with templatesDirectory := some value },
  textOverride "CAPSTAN_STATE_DIR" fun value config => { config with stateDirectory := value }]

def nonempty (lookup : String → Option String) (name : String) : Option String :=
  (lookup name).filter (· ≠ "")

/-- The configuration after the overrides up to the first that fails, and its fault. -/
def applyOverrides (lookup : String → Option String) (config : Config) :
    List Override → Config × Option ConfigFault
  | [] => (config, none)
  | override :: rest =>
    match nonempty lookup override.name with
    | none => applyOverrides lookup config rest
    | some value =>
      match override.apply value config with
      | .ok changed => applyOverrides lookup changed rest
      | .error fault => (config, some fault)

/-- The configuration under an environment, together with the fault that cut it short. -/
def withEnvironment (lookup : String → Option String) (config : Config) : Config × Option ConfigFault :=
  applyOverrides lookup config overrides

end Config

end ClusterLifecycle
