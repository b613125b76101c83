import ClusterLifecycle.Failure
import ClusterLifecycle.Template.Value

/-!
What templates see of a cluster. Groups of workers come in the order in which they are to be made,
the default group under the name `default` and every other group under its identifier. A view keeps its
fields in the order in which they are listed here, and so does what a template prints of the whole view:
they are not sorted by their names, as the keys of the labels are.
-/

namespace ClusterLifecycle

open Template (Value)

def projectSecret (project : String) : String :=
  s!"project-{project}"

namespace NodeGroup

def view (group : NodeGroup) (name : String) : Value :=
  .map [
    ("name", .string name),
    ("flavor", .string group.flavor),
    ("count", .int group.count.toNat),
    ("autoscale", .bool group.autoscale),
    ("min_count", .ofCount? group.minCount),
    ("max_count", .ofCount? group.maxCount)]

def externalName (group : NodeGroup) : String :=
  if group.isDefault then "default" else toString group.uuid

end NodeGroup

namespace Credentials

def view (credentials : Credentials) : Value :=
  .map [
    ("trust_id", .ofText? credentials.trust),
    ("trustee_user_id", .ofText? credentials.user),
    ("trustee_password", .ofText? credentials.password)]

end Credentials

namespace ClusterTemplate

def shown (template : ClusterTemplate) (version : String) : Value :=
  .map [
    ("uuid", .string (toString template.uuid)),
    ("name", .string template.name),
    ("image", .string template.image),
    ("kubernetes_version", .string version),
    ("deprecated", .bool template.deprecated),
    ("labels", .map (template.labels.entries.map fun (name, text) => (name, .string text)))]

def view (template : ClusterTemplate) : Except Failure Value :=
  match template.kubernetesVersion with
  | none => .error (.validation template.uuid .noVersion)
  | some version => .ok (template.shown version)

end ClusterTemplate

namespace Cluster

def credentialsSecret (cluster : Cluster) : String :=
  s!"{cluster.uuid}-cloud-credentials"

def shown (cluster : Cluster) (controlPlane : NodeGroup) : Value :=
  .map [
    ("uuid", .string (toString cluster.uuid)),
    ("name", .string cluster.name),
    ("project_id", .string cluster.project),
    ("template_name", .string (toString cluster.templateId)),
    ("credentials_secret", .string (projectSecret cluster.project)),
    ("cloud_credentials_secret", .string cluster.credentialsSecret),
    ("control_plane", controlPlane.view (toString controlPlane.uuid)),
    ("node_groups", .list (cluster.workerGroups.map fun group => group.view group.externalName)),
    ("credentials", cluster.credentials.view)]

def view (cluster : Cluster) : Except Failure Value := do
  orFail (.validation cluster.uuid) cluster.validate
  let controlPlane ← orFail (.validation cluster.uuid) cluster.controlPlane
  .ok (cluster.shown controlPlane)

/-- The variables of a template: the cluster, the template it is made from where one is given, and
the address of the identity service where it is known. -/
def context (cluster : Cluster) (template : Option ClusterTemplate) (authUrl : Option String) :
    Except Failure (List (String × Value)) := do
  let view ← cluster.view
  let bound ← match template with
    | none => .ok []
    | some template => do .ok [("template", ← template.view)]
  let address := match authUrl with
    | none => []
    | some url => [("auth_url", Value.string url)]
  .ok (("cluster", view) :: bound ++ address)

end Cluster

end ClusterLifecycle
