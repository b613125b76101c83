import ClusterLifecycle.SystemError

/-!
Templates by name, and those that come with the program.
-/

namespace ClusterLifecycle.Manifest

abbrev Library := String → Except SystemError String

def valuesName : String := "values.yaml.j2"

def secretName : String := "secret.yaml.j2"

def templateName : String := "template.yaml.j2"

def clusterName : String := "cluster.yaml.j2"

def names : List String := [valuesName, secretName, templateName, clusterName]

def valuesLines : List String := [
  "# Helm values for the Cluster API openstack-cluster chart,",
  "# or any chart that supports the same interface",
  "",
  "# From the template",
  "kubernetesVersion: \x7b\x7b template.kubernetes_version | tojson \x7d\x7d",
  "machineImage: \x7b\x7b template.image | tojson \x7d\x7d",
  "",
  "# Cluster specific, or inherited",
  "cloudCredentialsSecretName: \x7b\x7b cluster.credentials_secret | tojson \x7d\x7d",
  "",
  "controlPlane:",
  "  machineFlavor: \x7b\x7b cluster.control_plane.flavor | tojson \x7d\x7d",
  "  machineCount: \x7b\x7b cluster.control_plane.count \x7d\x7d",
  "",
  "nodeGroups:",
  "\x7b% for group in cluster.node_groups %\x7d",
  "  - name: \x7b\x7b group.name | tojson \x7d\x7d",
  "    machineFlavor: \x7b\x7b group.flavor | tojson \x7d\x7d",
  "    machineCount: \x7b\x7b group.count \x7d\x7d",
  "    autoscale: \x7b\x7b group.autoscale \x7d\x7d",
  "\x7b% if group.autoscale %\x7d",
  "    machineCountMin: \x7b\x7b group.min_count | default(group.count) \x7d\x7d",
  "    machineCountMax: \x7b\x7b group.max_count | default(group.count) \x7d\x7d",
  "\x7b% endif %\x7d",
  "\x7b% endfor %\x7d"]

def secretLines : List String := [
  "\x7b% set clouds %\x7d",
  "clouds:",
  "  openstack:",
  "    auth:",
  "      auth_url: \x7b\x7b auth_url | required | tojson \x7d\x7d",
  "      user_id: \x7b\x7b cluster.credentials.trustee_user_id | tojson \x7d\x7d",
  "      password: \x7b\x7b cluster.credentials.trustee_password | tojson \x7d\x7d",
  "      trust_id: \x7b\x7b cluster.credentials.trust_id | tojson \x7d\x7d",
  "    auth_type: password",
  "    identity_api_version: 3",
  "    interface: public",
  "\x7b% endset %\x7d",
  "apiVersion: v1",
  "kind: Secret",
  "metadata:",
  "  name: \x7b\x7b cluster.cloud_credentials_secret | tojson \x7d\x7d",
  "  labels:",
  "    capstan.io/cluster: \x7b\x7b cluster.uuid | tojson \x7d\x7d",
  "type: Opaque",
  "data:",
  "  clouds.yaml: \x7b\x7b clouds | base64_encode | tojson \x7d\x7d"]

def templateLines : List String := [
  "apiVersion: azimuth.stackhpc.com/v1alpha1",
  "kind: ClusterTemplate",
  "metadata:",
  "  name: \x7b\x7b template.uuid | tojson \x7d\x7d",
  "spec:",
  "  label: \x7b\x7b template.name | tojson \x7d\x7d",
  "  deprecated: \x7b\x7b template.deprecated \x7d\x7d",
  "  values:",
  "    kubernetesVersion: \x7b\x7b template.kubernetes_version | tojson \x7d\x7d",
  "    machineImage: \x7b\x7b template.image | tojson \x7d\x7d"]

def clusterLines : List String := [
  "apiVersion: azimuth.stackhpc.com/v1alpha1",
  "kind: Cluster",
  "metadata:",
  "  name: \x7b\x7b cluster.uuid | tojson \x7d\x7d",
  "  labels:",
  "    capstan.io/project: \x7b\x7b cluster.project_id | tojson \x7d\x7d",
  "spec:",
  "  label: \x7b\x7b cluster.name | tojson \x7d\x7d",
  "  templateName: \x7b\x7b cluster.template_name | tojson \x7d\x7d",
  "  cloudCredentialsSecretName: \x7b\x7b cluster.cloud_credentials_secret | tojson \x7d\x7d",
  "  controlPlaneMachineSize: \x7b\x7b cluster.control_plane.flavor | tojson \x7d\x7d",
  "  controlPlaneMachineCount: \x7b\x7b cluster.control_plane.count \x7d\x7d",
  "  nodeGroups:",
  "\x7b% for group in cluster.node_groups %\x7d",
  "    - name: \x7b\x7b group.name | tojson \x7d\x7d",
  "      machineSize: \x7b\x7b group.flavor | tojson \x7d\x7d",
  "      count: \x7b\x7b group.count \x7d\x7d",
  "      autoscale: \x7b\x7b group.autoscale \x7d\x7d",
  "\x7b% if group.autoscale %\x7d",
  "      minCount: \x7b\x7b group.min_count | default(group.count) \x7d\x7d",
  "      maxCount: \x7b\x7b group.max_count | default(group.count) \x7d\x7d",
  "\x7b% endif %\x7d",
  "\x7b% endfor %\x7d"]

def textOf (lines : List String) : String :=
  String.ofList (lines.flatMap fun line => line.toList ++ ['\n'])

def builtIn : Library := fun name =>
  if name = valuesName then .ok (textOf valuesLines)
  else if name = secretName then .ok (textOf secretLines)
  else if name = templateName then .ok (textOf templateLines)
  else if name = clusterName then .ok (textOf clusterLines)
  else .error .notFound

end ClusterLifecycle.Manifest
