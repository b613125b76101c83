import ClusterLifecycle.Proofs.BuiltInTemplates

/-!
What the templates that come with the program make of a record: documents whose lines are written
down here, with the texts, numbers and truth values of the record in them.
-/

namespace ClusterLifecycle.Manifest

open Template Text

/-! ### What templates see -/

def addressValues : Option String → Scope
  | none => []
  | some url => [("auth_url", .string url)]

section Context

variable {cluster : Cluster} {controlPlane : NodeGroup} {template : ClusterTemplate} {version : String}

theorem view_cluster (valid : cluster.validate = .ok ()) (plane : cluster.controlPlane = .ok controlPlane) :
    cluster.view = .ok (cluster.shown controlPlane) := by
  rw [Cluster.view, valid, plane]
  rfl

theorem view_of_invalid {defect : Defect} (invalid : cluster.validate = .error defect) :
    cluster.view = .error (.validation cluster.uuid defect) := by
  rw [Cluster.view, invalid]
  rfl

theorem view_template (versioned : template.kubernetesVersion = some version) :
    template.view = .ok (template.shown version) := by
  rw [ClusterTemplate.view, versioned]

theorem context_template (valid : cluster.validate = .ok ()) (plane : cluster.controlPlane = .ok controlPlane)
    (versioned : template.kubernetesVersion = some version) (url : Option String) :
    cluster.context (some template) url =
      .ok (("cluster", cluster.shown controlPlane) :: ("template", template.shown version) ::
        addressValues url) := by
  unfold Cluster.context
  rw [view_cluster valid plane, ok_bind]
  simp only [view_template versioned, ok_bind]
  cases url <;> rfl

theorem context_alone (valid : cluster.validate = .ok ()) (plane : cluster.controlPlane = .ok controlPlane)
    (url : Option String) :
    cluster.context none url = .ok (("cluster", cluster.shown controlPlane) :: addressValues url) := by
  unfold Cluster.context
  rw [view_cluster valid plane, ok_bind]
  cases url <;> rfl

end Context

/-! ### Documents -/

section Documents

variable (cluster : Cluster) (controlPlane : NodeGroup) (template : ClusterTemplate) (version url : String)

def groupFacts (names : GroupNames) (group : NodeGroup) : List (Line Content) := [
  .entry names.column true "name" (some (.text group.externalName)),
  .entry names.column false names.flavor (some (.text group.flavor)),
  .entry names.column false names.count (some (.count group.count)),
  .entry names.column false "autoscale" (some (.truth group.autoscale))]

def groupLimits (names : GroupNames) (group : NodeGroup) : List (Line Content) := [
  .entry names.column false names.lower (some (.count group.lower)),
  .entry names.column false names.upper (some (.count group.upper))]

/-- The lines on a group of workers, with its bounds if it scales by itself. -/
def groupDocument (names : GroupNames) (group : NodeGroup) : List (Line Content) :=
  groupFacts names group ++ if group.autoscale then groupLimits names group else []

def valuesFacts : List (Line Content) := [
  .remark "# Helm values for the Cluster API openstack-cluster chart,",
  .remark "# or any chart that supports the same interface",
  .remark "",
  .remark "# From the template",
  .entry 0 false "kubernetesVersion" (some (.text version)),
  .entry 0 false "machineImage" (some (.text template.image)),
  .remark "",
  .remark "# Cluster specific, or inherited",
  .entry 0 false "cloudCredentialsSecretName" (some (.text (projectSecret cluster.project))),
  .remark "",
  .entry 0 false "controlPlane" none,
  .entry 2 false "machineFlavor" (some (.text controlPlane.flavor)),
  .entry 2 false "machineCount" (some (.count controlPlane.count)),
  .remark "",
  .entry 0 false "nodeGroups" none]

def valuesDocument : List (Line Content) :=
  valuesFacts cluster controlPlane template version ++
    cluster.workerGroups.flatMap (groupDocument valuesNames)

def templateDocument : List (Line Content) := [
  .entry 0 false "apiVersion" (some (.word "azimuth.stackhpc.com/v1alpha1")),
  .entry 0 false "kind" (some (.word "ClusterTemplate")),
  .entry 0 false "metadata" none,
  .entry 2 false "name" (some (.text (toString template.uuid))),
  .entry 0 false "spec" none,
  .entry 2 false "label" (some (.text template.name)),
  .entry 2 false "deprecated" (some (.truth template.deprecated)),
  .entry 2 false "values" none,
  .entry 4 false "kubernetesVersion" (some (.text version)),
  .entry 4 false "machineImage" (some (.text template.image))]

def clusterFacts : List (Line Content) := [
  .entry 0 false "apiVersion" (some (.word "azimuth.stackhpc.com/v1alpha1")),
  .entry 0 false "kind" (some (.word "Cluster")),
  .entry 0 false "metadata" none,
  .entry 2 false "name" (some (.text (toString cluster.uuid))),
  .entry 2 false "labels" none,
  .entry 4 false "capstan.io/project" (some (.text cluster.project)),
  .entry 0 false "spec" none,
  .entry 2 false "label" (some (.text cluster.name)),
  .entry 2 false "templateName" (some (.text (toString cluster.templateId))),
  .entry 2 false "cloudCredentialsSecretName" (some (.text cluster.credentialsSecret)),
  .entry 2 false "controlPlaneMachineSize" (some (.text controlPlane.flavor)),
  .entry 2 false "controlPlaneMachineCount" (some (.count controlPlane.count)),
  .entry 2 false "nodeGroups" none]

def clusterDocument : List (Line Content) :=
  clusterFacts cluster controlPlane ++ cluster.workerGroups.flatMap (groupDocument clusterNames)

def cloudsDocument : List (Line Content) := [
  .entry 0 false "clouds" none,
  .entry 2 false "openstack" none,
  .entry 4 false "auth" none,
  .entry 6 false "auth_url" (some (.text url)),
  .entry 6 false "user_id" (some (.ofText? cluster.credentials.user)),
  .entry 6 false "password" (some (.ofText? cluster.credentials.password)),
  .entry 6 false "trust_id" (some (.ofText? cluster.credentials.trust)),
  .entry 4 false "auth_type" (some (.word "password")),
  .entry 4 false "identity_api_version" (some (.word "3")),
  .entry 4 false "interface" (some (.word "public"))]

def secretDocument : List (Line Content) := [
  .entry 0 false "apiVersion" (some (.word "v1")),
  .entry 0 false "kind" (some (.word "Secret")),
  .entry 0 false "metadata" none,
  .entry 2 false "name" (some (.text cluster.credentialsSecret)),
  .entry 2 false "labels" none,
  .entry 4 false "capstan.io/cluster" (some (.text (toString cluster.uuid))),
  .entry 0 false "type" (some (.word "Opaque")),
  .entry 0 false "data" none,
  .entry 2 false "clouds.yaml"
    (some (.text (Value.toBase64 (String.ofList (documentText (cloudsDocument cluster url))))))]

end Documents

/-! ### Rendering -/

section Rendering

variable {scope : Scope}

theorem renderAll_group (names : GroupNames) (line : Nat) (group : NodeGroup) (rest : Scope) :
    Statement.renderAll (("group", group.view group.externalName) :: rest) (groupBody names line) =
      .ok (("group", group.view group.externalName) :: rest, documentText (groupDocument names group)) := by
  have head : List.Forall₂ (Prints (("group", group.view group.externalName) :: rest))
      (groupHead names (line + 1)) (groupFacts names group) :=
    .cons (.text rfl _) <| .cons (.text rfl _) <| .cons (.count rfl _) <| .cons (.truth rfl _) .nil
  have bounds : List.Forall₂ (Prints (("group", group.view group.externalName) :: rest))
      (groupBounds names (line + 6)) (groupLimits names group) :=
    .cons (.bound rfl rfl _) <| .cons (.bound rfl rfl _) .nil
  have scales : (fields "group" (line + 5) ["autoscale"]).evaluate
      (("group", group.view group.externalName) :: rest) = .ok (.bool group.autoscale) :=
    evaluate_fields rfl _
  rw [groupDocument, documentText_append]
  refine renderAll_append_of_ok (renderAll_statements head []) ?_
  rw [renderAll_choose scales]
  cases group.autoscale with
  | true => exact renderAll_statements bounds []
  | false => rfl

theorem renderAll_groups (names : GroupNames) (line : Nat) (groups : List NodeGroup)
    (found : look scope "cluster" ["node_groups"] =
      some (.list (groups.map fun group => group.view group.externalName))) :
    Statement.renderAll scope [groupLoop names line] =
      .ok (scope, documentText (groups.flatMap (groupDocument names))) := by
  have each := renderAll_each "group" (evaluate_fields found line)
    fun group index => ⟨_, renderAll_group names line group _⟩
  rw [groupLoop, each, documentText, List.flatMap_assoc]
  rfl

theorem renderTemplate_of_ok {library : Library} {name source : String} {found : List Statement}
    {after : Scope} {text : List Char} (there : library name = .ok source)
    (read : Statement.ofText source.toList = .ok found)
    (rendered : Statement.renderAll scope found = .ok (after, text)) :
    renderTemplate library name scope = .ok text := by
  rw [renderTemplate, there]
  dsimp only
  rw [read]
  dsimp only
  rw [rendered]

theorem renderTemplate_of_error {library : Library} {name source : String} {found : List Statement}
    {fault : Fault} (there : library name = .ok source) (read : Statement.ofText source.toList = .ok found)
    (failed : Statement.renderAll scope found = .error fault) :
    renderTemplate library name scope = .error (.render name fault) := by
  rw [renderTemplate, there]
  dsimp only
  rw [read]
  dsimp only
  rw [failed]

variable (cluster : Cluster) (controlPlane : NodeGroup) (template : ClusterTemplate) (version url : String)
  (rest : Scope)

theorem renderTemplate_values :
    renderTemplate builtIn valuesName (("cluster", cluster.shown controlPlane) ::
      ("template", template.shown version) :: rest) =
      .ok (documentText (valuesDocument cluster controlPlane template version)) := by
  have head : List.Forall₂ (Prints (("cluster", cluster.shown controlPlane) ::
      ("template", template.shown version) :: rest)) valuesHead
      (valuesFacts cluster controlPlane template version) :=
    .cons (.remark _) <| .cons (.remark _) <| .cons (.remark _) <| .cons (.remark _) <|
    .cons (.text rfl _) <| .cons (.text rfl _) <| .cons (.remark _) <| .cons (.remark _) <|
    .cons (.text rfl _) <| .cons (.remark _) <| .cons (.name ..) <| .cons (.text rfl _) <|
    .cons (.count rfl _) <| .cons (.remark _) <| .cons (.name ..) .nil
  have rendered := renderAll_append_of_ok (renderAll_statements head [])
    (renderAll_groups valuesNames 16 cluster.workerGroups rfl)
  rw [List.nil_append, ← documentText_append] at rendered
  exact renderTemplate_of_ok rfl ofText_values rendered

theorem renderTemplate_cluster :
    renderTemplate builtIn clusterName (("cluster", cluster.shown controlPlane) :: rest) =
      .ok (documentText (clusterDocument cluster controlPlane)) := by
  have head : List.Forall₂ (Prints (("cluster", cluster.shown controlPlane) :: rest)) clusterHead
      (clusterFacts cluster controlPlane) :=
    .cons (.word ..) <| .cons (.word ..) <| .cons (.name ..) <| .cons (.text rfl _) <| .cons (.name ..) <|
    .cons (.text rfl _) <| .cons (.name ..) <| .cons (.text rfl _) <| .cons (.text rfl _) <|
    .cons (.text rfl _) <| .cons (.text rfl _) <| .cons (.count rfl _) <| .cons (.name ..) .nil
  have rendered := renderAll_append_of_ok (renderAll_statements head [])
    (renderAll_groups clusterNames 14 cluster.workerGroups rfl)
  rw [List.nil_append, ← documentText_append] at rendered
  exact renderTemplate_of_ok rfl ofText_cluster rendered

theorem renderTemplate_template :
    ∃ text, renderTemplate builtIn templateName (("cluster", cluster.shown controlPlane) ::
      ("template", template.shown version) :: rest) = .ok text ∧
      text ++ ['\n'] = documentText (templateDocument template version) := by
  have lines : List.Forall₂ (Prints (("cluster", cluster.shown controlPlane) ::
      ("template", template.shown version) :: rest)) templateHead
      (templateDocument template version) :=
    .cons (.word ..) <| .cons (.word ..) <| .cons (.name ..) <| .cons (.text rfl _) <| .cons (.name ..) <|
    .cons (.text rfl _) <| .cons (.truth rfl _) <| .cons (.name ..) <| .cons (.text rfl _) <|
    .cons (.text rfl _) .nil
  obtain ⟨text, rendered, whole⟩ := renderAll_dropLast rfl (renderAll_statements lines [])
  exact ⟨text, renderTemplate_of_ok rfl ofText_template rendered, whole⟩

theorem renderTemplate_secret :
    ∃ text, renderTemplate builtIn secretName (("cluster", cluster.shown controlPlane) ::
      ("template", template.shown version) :: addressValues (some url)) = .ok text ∧
      text ++ ['\n'] = documentText (secretDocument cluster url) := by
  have clouds : List.Forall₂ (Prints (("cluster", cluster.shown controlPlane) ::
      ("template", template.shown version) :: addressValues (some url))) cloudsLines
      (cloudsDocument cluster url) :=
    .cons (.name ..) <| .cons (.name ..) <| .cons (.name ..) <|
    .cons (.output _ _ _ rfl rfl (shown_toJson url)) <|
    .cons (.text? rfl _) <| .cons (.text? rfl _) <| .cons (.text? rfl _) <| .cons (.word ..) <|
    .cons (.word ..) <| .cons (.word ..) .nil
  have captured := renderAll_capture "clouds" (renderAll_statements clouds [])
  have lines : List.Forall₂ (Prints (("clouds", .string (String.ofList (documentText (cloudsDocument cluster url)))) ::
      ("cluster", cluster.shown controlPlane) :: ("template", template.shown version) ::
        addressValues (some url))) secretHead (secretDocument cluster url) :=
    .cons (.word ..) <| .cons (.word ..) <| .cons (.name ..) <| .cons (.text rfl _) <| .cons (.name ..) <|
    .cons (.text rfl _) <| .cons (.word ..) <| .cons (.name ..) <|
    .cons (.output _ _ _ rfl rfl (shown_toJson _)) .nil
  obtain ⟨text, rendered, whole⟩ := renderAll_dropLast rfl (renderAll_statements lines [])
  exact ⟨text, renderTemplate_of_ok rfl ofText_secret (renderAll_append_of_ok captured rendered), whole⟩

end Rendering

end ClusterLifecycle.Manifest
