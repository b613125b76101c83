import ClusterLifecycle.Cluster.Basic
import ClusterLifecycle.Json.Printer
import ClusterLifecycle.Json.Reader
import ClusterLifecycle.Json.Source
import ClusterLifecycle.Yaml.Source

/-!
How the records are stored. A record prints as a JSON object of all its fields in a fixed order,
absent values as null; it is read from any source, fields with a default value being optional there.
The store keeps records as JSON; a record that is handed over in a file may be YAML.
-/

namespace ClusterLifecycle

open Record Json

namespace Status

def read {δ : Type} (source : Source δ) (data : δ) : Option Status := do
  ofName? (← source.variant data)

end Status

namespace StatusReason

def fieldNames : List String := ["kind", "message"]

def read {δ : Type} (source : Source δ) (data : δ) : Option StatusReason := do
  let fields ← source.record fieldNames data
  let kind ← required fields "kind" source.variant
  let kind ← ReasonKind.ofName? kind
  let message ← required fields "message" source.text
  some { kind, message }

end StatusReason

namespace Role

def read {δ : Type} (source : Source δ) (data : δ) : Option Role := do
  ofName? (← source.variant data)

end Role

namespace TextMap

def read {δ : Type} (source : Source δ) (data : δ) : Option TextMap := do
  let entries ← (← source.members data).mapM fun (name, value) => do
    let text ← source.text value
    some (name, text)
  some (ofList entries)

def toDocument (map : TextMap) : Document :=
  .record (map.entries.map fun (name, text) => (name, .text text))

end TextMap

def countDocument : Option UInt32 → Document
  | none => .null
  | some n => .natural n.toNat

namespace NodeGroup

def fieldNames : List String :=
  ["uuid", "name", "role", "flavor_id", "node_count", "min_node_count", "max_node_count",
    "is_default", "autoscale"]

def read {δ : Type} (source : Source δ) (data : δ) : Option NodeGroup := do
  let fields ← source.record fieldNames data
  let uuid ← required fields "uuid" source.uuid
  let name ← required fields "name" source.text
  let role ← defaulted fields "role" .worker (Role.read source)
  let flavor ← required fields "flavor_id" source.text
  let count ← required fields "node_count" source.unsigned32
  let minCount ← defaulted fields "min_node_count" none (source.optional source.unsigned32)
  let maxCount ← defaulted fields "max_node_count" none (source.optional source.unsigned32)
  let isDefault ← defaulted fields "is_default" false source.truth
  let autoscale ← defaulted fields "autoscale" false source.truth
  some { uuid, name, role, flavor, count, minCount, maxCount, isDefault, autoscale }

def toDocument (group : NodeGroup) : Document :=
  .record [
    ("uuid", .text (toString group.uuid)),
    ("name", .text group.name),
    ("role", .text group.role.name),
    ("flavor_id", .text group.flavor),
    ("node_count", .natural group.count.toNat),
    ("min_node_count", countDocument group.minCount),
    ("max_node_count", countDocument group.maxCount),
    ("is_default", .bool group.isDefault),
    ("autoscale", .bool group.autoscale)]

end NodeGroup

namespace ClusterTemplate

def fieldNames : List String :=
  ["uuid", "name", "image_id", "kube_version", "labels", "deprecated"]

def read {δ : Type} (source : Source δ) (data : δ) : Option ClusterTemplate := do
  let fields ← source.record fieldNames data
  let uuid ← required fields "uuid" source.uuid
  let name ← required fields "name" source.text
  let image ← required fields "image_id" source.text
  let kubeVersion ← defaulted fields "kube_version" none (source.optional source.text)
  let labels ← defaulted fields "labels" .empty (TextMap.read source)
  let deprecated ← defaulted fields "deprecated" false source.truth
  some { uuid, name, image, kubeVersion, labels, deprecated }

def toDocument (template : ClusterTemplate) : Document :=
  .record [
    ("uuid", .text (toString template.uuid)),
    ("name", .text template.name),
    ("image_id", .text template.image),
    ("kube_version", .optional template.kubeVersion),
    ("labels", template.labels.toDocument),
    ("deprecated", .bool template.deprecated)]

end ClusterTemplate

namespace Credentials

def fieldNames : List String := ["trust_id", "trustee_user_id", "trustee_password"]

def read {δ : Type} (source : Source δ) (data : δ) : Option Credentials := do
  let fields ← source.record fieldNames data
  let trust ← defaulted fields "trust_id" none (source.optional source.text)
  let user ← defaulted fields "trustee_user_id" none (source.optional source.text)
  let password ← defaulted fields "trustee_password" none (source.optional source.text)
  some { trust, user, password }

def toDocument (credentials : Credentials) : Document :=
  .record [
    ("trust_id", .optional credentials.trust),
    ("trustee_user_id", .optional credentials.user),
    ("trustee_password", .optional credentials.password)]

end Credentials

namespace Cluster

def fieldNames : List String :=
  ["uuid", "name", "project_id", "status", "status_reason", "stack_id", "cluster_template_id",
    "cluster_template", "node_groups", "credentials"]

def read {δ : Type} (source : Source δ) (data : δ) : Option Cluster := do
  let fields ← source.record fieldNames data
  let uuid ← required fields "uuid" source.uuid
  let name ← required fields "name" source.text
  let project ← required fields "project_id" source.text
  let status ← defaulted fields "status" default (Status.read source)
  let statusReason ← defaulted fields "status_reason" none (source.optional source.text)
  let stack ← defaulted fields "stack_id" none (source.optional source.text)
  let templateId ← required fields "cluster_template_id" source.uuid
  let template ←
    defaulted fields "cluster_template" none (source.optional (ClusterTemplate.read source))
  let nodeGroups ← defaulted fields "node_groups" [] (source.list (NodeGroup.read source))
  let credentials ← defaulted fields "credentials" default (Credentials.read source)
  some { uuid, name, project, status, statusReason, stack, templateId, template, nodeGroups,
         credentials }

def toDocument (cluster : Cluster) : Document :=
  .record [
    ("uuid", .text (toString cluster.uuid)),
    ("name", .text cluster.name),
    ("project_id", .text cluster.project),
    ("status", .text cluster.status.name),
    ("status_reason", .optional cluster.statusReason),
    ("stack_id", .optional cluster.stack),
    ("cluster_template_id", .text (toString cluster.templateId)),
    ("cluster_template", match cluster.template with
      | none => .null
      | some template => template.toDocument),
    ("node_groups", .array (cluster.nodeGroups.map NodeGroup.toDocument)),
    ("credentials", cluster.credentials.toDocument)]

def stored (cluster : Cluster) : String :=
  String.ofList cluster.toDocument.pretty

def ofStored? (text : String) : Option Cluster := do
  read Document.source (← Document.ofText? text.toList)

def ofText? (text : String) : Option Cluster :=
  Yaml.Node.ofText? text >>= read Yaml.Node.source

end Cluster

end ClusterLifecycle
