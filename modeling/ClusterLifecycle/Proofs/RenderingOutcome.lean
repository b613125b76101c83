import ClusterLifecycle.Proofs.BundleDocuments
import ClusterLifecycle.Proofs.StoredRecords

/-!
When a record can be rendered, and what is said where it cannot. With the templates that come with the
program there are three obstacles, looked for in this order: a record that is not valid, a template
without a version, and no address of the identity service. None of them keeps a stored cluster from
being rendered for its deletion.
-/

namespace ClusterLifecycle.Manifest

open Template Text StateDirectory

/-! ### Obstacles -/

def failure? {α : Type} : Except Failure α → Option Failure
  | .ok _ => none
  | .error failure => some failure

def recordFault? (cluster : Cluster) : Option Failure :=
  match cluster.validate with
  | .ok () => none
  | .error defect => some (.validation cluster.uuid defect)

/-- What is wrong with a template of clusters: neither a label nor a field has its version. -/
def templateFault? (template : ClusterTemplate) : Option Failure :=
  if (template.labels.find? "kube_tag").isSome ∨ template.kubeVersion.isSome then none
  else some (.validation template.uuid .noVersion)

def unaddressed : Failure :=
  .template (.render secretName (.missingRequired 5))

def addressFault? (authUrl : Option String) : Option Failure :=
  if authUrl.isSome then none else some unaddressed

theorem failure?_eq_none_iff {α : Type} {result : Except Failure α} :
    failure? result = none ↔ ∃ value, result = .ok value := by
  cases result <;> simp [failure?]

theorem recordFault?_eq_none_iff {cluster : Cluster} : recordFault? cluster = none ↔ cluster.validate = .ok () := by
  unfold recordFault?
  cases cluster.validate with
  | ok value => simp
  | error defect => simp

theorem templateFault?_eq_none_iff {template : ClusterTemplate} : templateFault? template = none ↔
    (template.labels.find? "kube_tag").isSome ∨ template.kubeVersion.isSome := by
  rw [templateFault?, ite_eq_left_iff]
  constructor
  · intro faultless
    by_contra missing
    cases faultless missing
  · exact fun there missing => absurd there missing

theorem addressFault?_eq_none_iff {authUrl : Option String} : addressFault? authUrl = none ↔ authUrl.isSome := by
  cases authUrl <;> simp [addressFault?]

variable {renderer : Renderer} {cluster : Cluster} {controlPlane : NodeGroup} {template : ClusterTemplate}
  {defect : Defect} {version : String}

theorem kubernetesVersion_isSome : template.kubernetesVersion.isSome ↔
    (template.labels.find? "kube_tag").isSome ∨ template.kubeVersion.isSome := by
  unfold ClusterTemplate.kubernetesVersion ClusterTemplate.versionLabel
  cases template.labels.find? "kube_tag" <;> simp

theorem templateFault?_of_versioned (versioned : template.kubernetesVersion = some version) :
    templateFault? template = none := by
  have there : template.kubernetesVersion.isSome := by rw [versioned]; rfl
  exact templateFault?_eq_none_iff.2 (kubernetesVersion_isSome.1 there)

theorem templateFault?_of_unversioned (unversioned : template.kubernetesVersion = none) :
    templateFault? template = some (.validation template.uuid .noVersion) := by
  refine if_neg fun there => ?_
  have found := kubernetesVersion_isSome.2 there
  rw [unversioned] at found
  cases found

/-! ### Rendering in front of an obstacle -/

theorem context_of_invalid (invalid : cluster.validate = .error defect) (given : Option ClusterTemplate)
    (url : Option String) : cluster.context given url = .error (.validation cluster.uuid defect) := by
  unfold Cluster.context
  rw [view_of_invalid invalid]
  rfl

theorem context_of_unversioned (valid : cluster.validate = .ok ()) (plane : cluster.controlPlane = .ok controlPlane)
    (unversioned : template.kubernetesVersion = none) (url : Option String) :
    cluster.context (some template) url = .error (.validation template.uuid .noVersion) := by
  have unseen : template.view = .error (.validation template.uuid .noVersion) := by
    rw [ClusterTemplate.view, unversioned]
  unfold Cluster.context
  rw [view_cluster valid plane, ok_bind]
  simp only [unseen]
  rfl

/-- The first obstacle in a record or in its template ends the rendering before a text is looked for. -/
theorem context_of_obstacle {given : Option ClusterTemplate} {failure : Failure}
    (obstacle : (recordFault? cluster).or (given.bind templateFault?) = some failure) (url : Option String) :
    cluster.context given url = .error failure := by
  cases valid : cluster.validate with
  | error defect =>
    rw [recordFault?, valid] at obstacle
    obtain rfl := Option.some.inj obstacle
    exact context_of_invalid valid given url
  | ok value =>
    obtain ⟨controlPlane, plane⟩ := exists_controlPlane valid
    rw [recordFault?_eq_none_iff.2 valid, Option.none_or] at obstacle
    obtain ⟨template, rfl, missing⟩ := Option.bind_eq_some_iff.1 obstacle
    cases versioned : template.kubernetesVersion with
    | none =>
      rw [templateFault?_of_unversioned versioned] at missing
      obtain rfl := Option.some.inj missing
      exact context_of_unversioned valid plane versioned url
    | some version =>
      rw [templateFault?_of_versioned versioned] at missing
      cases missing

theorem versioned_of_faultless (faultless : templateFault? template = none) :
    ∃ version, template.kubernetesVersion = some version :=
  Option.isSome_iff_exists.1 (kubernetesVersion_isSome.2 (templateFault?_eq_none_iff.1 faultless))

theorem manifests_of_unaddressed (library : renderer.library = builtIn) (valid : cluster.validate = .ok ())
    (plane : cluster.controlPlane = .ok controlPlane) (versioned : template.kubernetesVersion = some version)
    (nowhere : renderer.authUrl = none) : renderer.manifests cluster (some template) = .error unaddressed := by
  have secret := renderTemplate_secret_unaddressed cluster controlPlane template version
  rw [Renderer.manifests, context_template valid plane versioned, ok_bind, nowhere, Renderer.documentNames,
    List.mapM_cons, Renderer.document, library, secret]
  rfl

/-! ### All that can come of it -/

/-- What comes of rendering with the templates of the program and this address: the first obstacle there is,
and a text where there is none. -/
structure RenderingOutcome (renderer : Renderer) (authUrl : Option String) : Prop where
  values_failure : ∀ cluster template, failure? (renderer.values cluster template) =
    (recordFault? cluster).or (templateFault? template)
  alone_failure : ∀ cluster, failure? (renderer.manifests cluster none) = recordFault? cluster
  bundle_failure : ∀ cluster template, failure? (renderer.manifests cluster (some template)) =
    (recordFault? cluster).or ((templateFault? template).or (addressFault? authUrl))
  values_ok_iff : ∀ cluster template, (∃ text, renderer.values cluster template = .ok text) ↔
    cluster.validate = .ok () ∧ ((template.labels.find? "kube_tag").isSome ∨ template.kubeVersion.isSome)
  alone_ok_iff : ∀ cluster, (∃ text, renderer.manifests cluster none = .ok text) ↔ cluster.validate = .ok ()
  bundle_ok_iff : ∀ cluster template, (∃ text, renderer.manifests cluster (some template) = .ok text) ↔
    cluster.validate = .ok () ∧ ((template.labels.find? "kube_tag").isSome ∨ template.kubeVersion.isSome) ∧
      authUrl.isSome
  /-- Whatever has been taken in, submitted and looked at before, a stored cluster can go. -/
  stored : ∀ {home : Place} {start files : Texts} {past : List CommandLine.Invocation},
    CommandLine.History home start past files → (∀ uuid, start (recordPlace home uuid) = none) →
    ∀ uuid text, files (recordPlace home uuid) = some text →
      ∃ record, Cluster.ofStored? text = some record ∧ record.uuid = uuid ∧
        ∃ bundle, renderer.manifests record none = .ok bundle

theorem failure?_values (library : renderer.library = builtIn) (cluster : Cluster) (template : ClusterTemplate) :
    failure? (renderer.values cluster template) = (recordFault? cluster).or (templateFault? template) := by
  cases obstacle : (recordFault? cluster).or (templateFault? template) with
  | some failure =>
    rw [Renderer.values, @context_of_obstacle _ (some template) _ obstacle]
    rfl
  | none =>
    obtain ⟨faultless, complete⟩ := Option.or_eq_none_iff.1 obstacle
    have valid := recordFault?_eq_none_iff.1 faultless
    obtain ⟨controlPlane, plane⟩ := exists_controlPlane valid
    obtain ⟨version, versioned⟩ := versioned_of_faultless complete
    rw [values_of_valid library valid plane versioned]
    rfl

theorem failure?_alone (library : renderer.library = builtIn) (cluster : Cluster) :
    failure? (renderer.manifests cluster none) = recordFault? cluster := by
  cases obstacle : recordFault? cluster with
  | some failure =>
    rw [Renderer.manifests, @context_of_obstacle _ none _ (by rw [obstacle]; rfl)]
    rfl
  | none =>
    have valid := recordFault?_eq_none_iff.1 obstacle
    obtain ⟨controlPlane, plane⟩ := exists_controlPlane valid
    have complete : Complete renderer "" "" none := trivial
    obtain ⟨_, _, -, -, rendered, -⟩ := manifests_of_valid library valid plane complete
    rw [rendered]
    rfl

theorem failure?_bundle (library : renderer.library = builtIn) (cluster : Cluster) (template : ClusterTemplate) :
    failure? (renderer.manifests cluster (some template)) =
      (recordFault? cluster).or ((templateFault? template).or (addressFault? renderer.authUrl)) := by
  rw [← Option.or_assoc]
  cases obstacle : (recordFault? cluster).or (templateFault? template) with
  | some failure =>
    rw [Renderer.manifests, @context_of_obstacle _ (some template) _ obstacle]
    rfl
  | none =>
    obtain ⟨faultless, complete⟩ := Option.or_eq_none_iff.1 obstacle
    have valid := recordFault?_eq_none_iff.1 faultless
    obtain ⟨controlPlane, plane⟩ := exists_controlPlane valid
    obtain ⟨version, versioned⟩ := versioned_of_faultless complete
    rw [Option.none_or]
    cases address : renderer.authUrl with
    | none =>
      rw [manifests_of_unaddressed library valid plane versioned address]
      rfl
    | some url =>
      have complete : Complete renderer version url (some template) := ⟨versioned, address⟩
      obtain ⟨_, _, -, -, rendered, -⟩ := manifests_of_valid library valid plane complete
      rw [rendered]
      rfl

theorem valid_of_stored {home : Place} {start files : Texts}
    {past : List CommandLine.Invocation} {uuid : Uuid} {text : String}
    (history : CommandLine.History home start past files)
    (fresh : ∀ uuid, start (recordPlace home uuid) = none)
    (found : files (recordPlace home uuid) = some text) :
    ∃ record, Cluster.ofStored? text = some record ∧ record.uuid = uuid ∧ record.validate = .ok () := by
  obtain ⟨record, rfl, known⟩ := history.known fresh found
  exact ⟨record, Cluster.ofStored?_stored record, known.own, known.valid⟩

/-- With a configuration that names no directory of templates, every rendering succeeds or fails just so. -/
theorem rendering_outcome (directory : String → Option Library) {config : Config}
    (standard : config.templatesDirectory = none) :
    ∃ renderer, Driver.renderer? directory config = .ok renderer ∧ RenderingOutcome renderer config.authUrl := by
  refine ⟨⟨builtIn, config.authUrl⟩, by rw [Driver.renderer?, standard], ?_⟩
  have values := @failure?_values ⟨builtIn, config.authUrl⟩ rfl
  have alone := @failure?_alone ⟨builtIn, config.authUrl⟩ rfl
  have bundle := @failure?_bundle ⟨builtIn, config.authUrl⟩ rfl
  have alone_ok_iff : ∀ cluster, (∃ text, (Renderer.mk builtIn config.authUrl).manifests cluster none = .ok text) ↔
      cluster.validate = .ok () := by
    intro cluster
    rw [← failure?_eq_none_iff, alone, recordFault?_eq_none_iff]
  constructor
  case values_failure => exact values
  case alone_failure => exact alone
  case bundle_failure => exact bundle
  case alone_ok_iff => exact alone_ok_iff
  case values_ok_iff =>
    intro cluster template
    rw [← failure?_eq_none_iff, values, Option.or_eq_none_iff, recordFault?_eq_none_iff, templateFault?_eq_none_iff]
  case bundle_ok_iff =>
    intro cluster template
    rw [← failure?_eq_none_iff, bundle, Option.or_eq_none_iff, Option.or_eq_none_iff, recordFault?_eq_none_iff,
      templateFault?_eq_none_iff, addressFault?_eq_none_iff]
  case stored =>
    intro home start files past history fresh uuid text found
    obtain ⟨record, decoded, own, valid⟩ := valid_of_stored history fresh found
    exact ⟨record, decoded, own, (alone_ok_iff record).2 valid⟩

theorem rendering_outcome_initial :
    Config.initial.templatesDirectory = none ∧
      ∃ renderer, Driver.renderer? (fun _ => none) .initial = .ok renderer ∧ RenderingOutcome renderer none :=
  ⟨rfl, rendering_outcome (fun _ => none) rfl⟩

end ClusterLifecycle.Manifest
