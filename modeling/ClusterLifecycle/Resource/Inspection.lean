import ClusterLifecycle.Cluster.Basic
import ClusterLifecycle.Command.Helm
import ClusterLifecycle.Command.Kubectl
import ClusterLifecycle.Resource.Observation

/-!
Looking at the resource behind a cluster, which is named after the cluster's identifier. A release
is shown as a resource that has handled the very configuration it was deployed with.
-/

namespace ClusterLifecycle

open Json

namespace Release

def phase (release : Release) : String :=
  if release.state = "deployed" then "Ready"
  else if release.state = "failed" then "Failed"
  else release.state

def toResource (release : Release) (key : String) : Resource where
  types := none
  name := some release.name
  annotations := some (.ofList [(key, Value.print (.object [("spec", release.config)]))])
  data := [("spec", release.config), ("status", .object [("phase", .string release.phase)])]

end Release

namespace Call

variable {α β : Type}

def map (f : α → β) (call : Call α) : Call β where
  command := call.command
  read result := (call.read result).map f

end Call

namespace Resource

/-- The call that fetches a resource; releases have no kind. -/
def fetch (config : Config) (kind name : String) : Call (Option Resource) :=
  match config.backend with
  | .manifests => Kubectl.get config kind name
  | .release => (Helm.status config name).map (Option.map fun release => release.toResource config.handledKey)

end Resource

def Cluster.observe (config : Config) (cluster : Cluster) : Call Observation :=
  (Resource.fetch config config.resourceKind (toString cluster.uuid)).map
    (Observation.classify config.handledKey)

end ClusterLifecycle
