import ClusterLifecycle.Command.Helm
import ClusterLifecycle.Command.Kubectl
import ClusterLifecycle.Lifecycle.Plan
import ClusterLifecycle.Manifest.Render

/-!
Creating, updating and deleting clusters. An operation renders what it needs, hands it to the tool of
its backend, and only then marks the record and has it kept. None waits for the cluster to get
there. What an operation answers comes with the record as it stands in the caller's hands.
-/

namespace ClusterLifecycle

open Manifest

structure Driver where
  config : Config
  renderer : Renderer

namespace Driver

/-- The renderer of a configuration, given the template directories there are. -/
def renderer? (directory : String → Option Library) (config : Config) : Except Failure Renderer :=
  match config.templatesDirectory with
  | none => .ok ⟨builtIn, config.authUrl⟩
  | some path =>
    match directory path with
    | some library => .ok ⟨library, config.authUrl⟩
    | none => .error (.template (.noDirectory path))

def ofConfig (directory : String → Option Library) (config : Config) : Except Failure Driver := do
  .ok ⟨config, ← renderer? directory config⟩

/-- The kinds of machines, systems and orchestration that the driver handles. -/
def provides : List (String × String × String) :=
  [("vm", "ubuntu", "kubernetes")]

/-- What creating or updating a cluster from a template hands to the tool. -/
def render (driver : Driver) (cluster : Cluster) (template : Option ClusterTemplate) : Except Failure String :=
  match driver.config.backend, template with
  | .manifests, template => driver.renderer.manifests cluster template
  | .release, some template => driver.renderer.values cluster template
  | .release, none => .error (.validation cluster.uuid .valuesNeedTemplate)

/-- The template of a cluster, which some operations cannot do without. -/
def requiredTemplate (cluster : Cluster) : Except Failure ClusterTemplate :=
  match cluster.template with
  | some template => .ok template
  | none => .error (.validation cluster.uuid .noTemplate)

def carryOut {α : Type} (call : Call α) : Plan (Except Failure Unit) :=
  (Plan.perform call).andThen fun _ => .done (.ok ())

def handOver {α : Type} (rendered : Except Failure String) (call : String → Call α) : Plan (Except Failure Unit) :=
  match rendered with
  | .error failure => .done (.error failure)
  | .ok text => carryOut (call text)

def submitCreate (driver : Driver) (cluster : Cluster) : Plan (Except Failure Unit) :=
  match requiredTemplate cluster with
  | .error failure => .done (.error failure)
  | .ok template =>
    match driver.config.backend with
    | .manifests => handOver (driver.renderer.manifests cluster (some template)) (Kubectl.apply driver.config)
    | .release =>
      handOver (driver.renderer.values cluster template) (Helm.install driver.config (toString cluster.uuid))

def submitUpdate (driver : Driver) (cluster : Cluster) : Plan (Except Failure Unit) :=
  match driver.config.backend with
  | .release => .done (.error (.unsupported "update_cluster" .later))
  | .manifests =>
    match requiredTemplate cluster with
    | .error failure => .done (.error failure)
    | .ok template =>
      handOver (driver.renderer.manifests cluster (some template)) (Kubectl.apply driver.config)

/-- The outward part of deleting a cluster. The template stays, and so does the secret until the
cluster is gone. -/
def submitDelete (driver : Driver) (cluster : Cluster) : Plan (Except Failure Unit) :=
  match driver.config.backend with
  | .release => carryOut (Helm.uninstall driver.config (toString cluster.uuid))
  | .manifests => handOver (driver.renderer.manifests cluster none) (Kubectl.delete driver.config)

def submit (driver : Driver) (cluster : Cluster) : Operation → Plan (Except Failure Unit)
  | .create => driver.submitCreate cluster
  | .update => driver.submitUpdate cluster
  | .delete => driver.submitDelete cluster

/-- The record of a cluster for which an operation has been submitted. A new cluster belongs to no
other stack. -/
def submitted (cluster : Cluster) : Operation → Cluster
  | .create => { cluster with stack := none }.armed .create
  | operation => cluster.armed operation

/-- An operation: the outward part, and after its success the record. -/
def perform (driver : Driver) (operation : Operation) (cluster : Cluster) :
    Plan (Except Failure Unit × Cluster) :=
  (driver.submit cluster operation).bind fun
    | .error failure => .done (.error failure, cluster)
    | .ok () => (Plan.keep (submitted cluster operation)).bind fun result =>
      .done (result, submitted cluster operation)

end Driver

inductive Refused where
  | resizeCluster
  | upgradeCluster
  | createNodeGroup
  | updateNodeGroup
  | deleteNodeGroup
  | createFederation
  | updateFederation
  | deleteFederation
  deriving DecidableEq, Repr

namespace Refused

def name : Refused → String
  | .resizeCluster => "resize_cluster"
  | .upgradeCluster => "upgrade_cluster"
  | .createNodeGroup => "create_nodegroup"
  | .updateNodeGroup => "update_nodegroup"
  | .deleteNodeGroup => "delete_nodegroup"
  | .createFederation => "create_federation"
  | .updateFederation => "update_federation"
  | .deleteFederation => "delete_federation"

def support : Refused → Support
  | .createFederation | .updateFederation | .deleteFederation => .never
  | _ => .later

def failure (operation : Refused) : Failure :=
  .unsupported operation.name operation.support

end Refused

end ClusterLifecycle
