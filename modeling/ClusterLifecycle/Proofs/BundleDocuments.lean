import ClusterLifecycle.Proofs.RecordDocuments

/-!
Bundles of manifests. Whatever texts are in a record, its bundle falls into the documents it was made
of, and these are the ones that it is meant to have.
-/

namespace ClusterLifecycle.Manifest

open Text Template

/-! ### What is in a bundle -/

/-- The documents of a bundle; without a template there is only the cluster itself. -/
def bundleDocuments (cluster : Cluster) (controlPlane : NodeGroup) (version url : String) :
    Option ClusterTemplate → List (List (Line Content))
  | some template => [secretDocument cluster url, templateDocument template version,
      clusterDocument cluster controlPlane]
  | none => [clusterDocument cluster controlPlane]

def Complete (renderer : Renderer) (version url : String) : Option ClusterTemplate → Prop
  | some template => template.kubernetesVersion = some version ∧ renderer.authUrl = some url
  | none => True

variable {renderer : Renderer} {cluster : Cluster} {controlPlane : NodeGroup} {version url : String}
  {template : Option ClusterTemplate}

theorem isManifest_bundle : ∀ document ∈ bundleDocuments cluster controlPlane version url template,
    IsManifest document := by
  cases template with
  | none => simpa [bundleDocuments] using isManifest_cluster cluster controlPlane
  | some template =>
    simpa [bundleDocuments] using ⟨isManifest_secret cluster url, isManifest_template template version,
      isManifest_cluster cluster controlPlane⟩

theorem manifests_of_valid (library : renderer.library = builtIn) (valid : cluster.validate = .ok ())
    (plane : cluster.controlPlane = .ok controlPlane) (complete : Complete renderer version url template) :
    ∃ scope texts, cluster.context template renderer.authUrl = .ok scope ∧
      (Renderer.documentNames template).mapM (renderer.document scope) = .ok texts ∧
      renderer.manifests cluster template = .ok (String.ofList (bundle texts)) ∧
      List.Forall₂ Shows texts (bundleDocuments cluster controlPlane version url template) := by
  obtain ⟨scope, texts, context, rendered, shows⟩ : ∃ scope texts,
      cluster.context template renderer.authUrl = .ok scope ∧
      (Renderer.documentNames template).mapM (renderer.document scope) = .ok texts ∧
      List.Forall₂ Shows texts (bundleDocuments cluster controlPlane version url template) := by
    cases template with
    | none =>
      have only := document_of_ok library (renderTemplate_cluster cluster controlPlane
        (addressValues renderer.authUrl))
      exact ⟨_, _, context_alone valid plane renderer.authUrl,
        by rw [Renderer.documentNames, List.mapM_cons, only]; rfl, .cons (.inl rfl) .nil⟩
    | some template =>
      obtain ⟨versioned, address⟩ := complete
      obtain ⟨secret, first, secretShown⟩ := renderTemplate_secret cluster controlPlane template version url
      obtain ⟨middle, second, templateShown⟩ := renderTemplate_template cluster controlPlane template version
        (addressValues renderer.authUrl)
      have third := renderTemplate_cluster cluster controlPlane
        (("template", template.shown version) :: addressValues renderer.authUrl)
      rw [← address] at first
      refine ⟨_, [secret, middle, _], context_template valid plane versioned renderer.authUrl, ?_,
        .cons (.inr secretShown) (.cons (.inr templateShown) (.cons (.inl rfl) .nil))⟩
      rw [Renderer.documentNames, List.mapM_cons, document_of_ok library first, ok_bind, List.mapM_cons,
        document_of_ok library second, ok_bind, List.mapM_cons, document_of_ok library third]
      rfl
  refine ⟨scope, texts, context, rendered, ?_, shows⟩
  rw [Renderer.manifests, context, ok_bind, rendered, ok_bind]

theorem renderTemplate_secret_unaddressed (cluster : Cluster) (controlPlane : NodeGroup)
    (template : ClusterTemplate) (version : String) :
    renderTemplate builtIn secretName (("cluster", cluster.shown controlPlane) ::
      ("template", template.shown version) :: addressValues none) =
      .error (.render secretName (.missingRequired 5)) := by
  have missing : Expression.evaluate (("cluster", cluster.shown controlPlane) ::
      ("template", template.shown version) :: addressValues none)
      (.filter "tojson" (.filter "required" (.name "auth_url" 5) []) []) = .error (.missingRequired 5) := rfl
  obtain ⟨front, more, clouds⟩ : ∃ front more, statements [] cloudsLines =
      .plain front :: .output (.filter "tojson" (.filter "required" (.name "auth_url" 5) []) []) :: more :=
    ⟨_, _, rfl⟩
  have failed := renderAll_capture_error "clouds" (clouds ▸ renderAll_output_error front missing more)
    (statements [] secretHead).dropLast
  exact renderTemplate_of_error rfl ofText_secret failed

theorem valid_of_context {scope : Scope} {url? : Option String}
    (context : cluster.context template url? = .ok scope) : cluster.validate = .ok () := by
  unfold Cluster.context at context
  obtain ⟨view, viewed, -⟩ := bind_eq_ok.1 context
  unfold Cluster.view at viewed
  obtain ⟨_, valid, -⟩ := bind_eq_ok.1 viewed
  exact orFail_eq_ok.1 valid

theorem versioned_of_context {scope : Scope} {url? : Option String} {given : ClusterTemplate}
    (context : cluster.context (some given) url? = .ok scope) :
    ∃ version, given.kubernetesVersion = some version := by
  unfold Cluster.context at context
  obtain ⟨_, -, context⟩ := bind_eq_ok.1 context
  obtain ⟨_, viewed, -⟩ := bind_eq_ok.1 context
  unfold ClusterTemplate.view at viewed
  cases versioned : given.kubernetesVersion with
  | none =>
    rw [versioned] at viewed
    cases viewed
  | some version => exact ⟨version, rfl⟩

theorem complete_of_manifests {text : String} (library : renderer.library = builtIn)
    (rendered : renderer.manifests cluster template = .ok text) :
    cluster.validate = .ok () ∧ ∃ version url, Complete renderer version url template := by
  obtain ⟨scope, context, rendered⟩ := bind_eq_ok.1 rendered
  have valid := valid_of_context context
  refine ⟨valid, ?_⟩
  cases template with
  | none => exact ⟨"", "", trivial⟩
  | some given =>
    obtain ⟨version, versioned⟩ := versioned_of_context context
    cases address : renderer.authUrl with
    | some url => exact ⟨version, url, versioned, address⟩
    | none =>
      obtain ⟨controlPlane, plane⟩ := exists_controlPlane valid
      rw [context_template valid plane versioned, address] at context
      obtain ⟨_, rendered, -⟩ := bind_eq_ok.1 rendered
      obtain ⟨_, secret, -⟩ := bind_eq_ok.1 rendered
      rw [← Except.ok.inj context, Renderer.document, library,
        renderTemplate_secret_unaddressed cluster controlPlane given version] at secret
      cases secret

theorem shows_of_manifests {text : String} (library : renderer.library = builtIn)
    (rendered : renderer.manifests cluster template = .ok text) :
    ∃ controlPlane version url texts, text = String.ofList (bundle texts) ∧
      List.Forall₂ Shows texts (bundleDocuments cluster controlPlane version url template) := by
  obtain ⟨valid, version, url, complete⟩ := complete_of_manifests library rendered
  obtain ⟨controlPlane, plane⟩ := exists_controlPlane valid
  obtain ⟨_, texts, -, -, same, shows⟩ := manifests_of_valid library valid plane complete
  exact ⟨controlPlane, version, url, texts, Except.ok.inj (rendered.symm.trans same), shows⟩

theorem bundled?_manifests {text : String} (library : renderer.library = builtIn)
    (rendered : renderer.manifests cluster template = .ok text) :
    bundled? "Cluster" ["spec", "templateName"] text.toList = some (scalar (toString cluster.templateId)) ∧
      bundled? "Cluster" ["spec", "cloudCredentialsSecretName"] text.toList =
        some (scalar cluster.credentialsSecret) ∧
      ∀ given ∈ template,
        bundled? "Secret" ["metadata", "name"] text.toList = some (scalar cluster.credentialsSecret) ∧
          bundled? "ClusterTemplate" ["metadata", "name"] text.toList = some (scalar (toString given.uuid)) := by
  obtain ⟨controlPlane, version, url, texts, rfl, shows⟩ := shows_of_manifests library rendered
  simp only [String.toList_ofList, bundled?_bundle shows isManifest_bundle]
  cases template with
  | none => exact ⟨rfl, rfl, nofun⟩
  | some given =>
    refine ⟨rfl, rfl, ?_⟩
    rintro _ ⟨⟩
    exact ⟨rfl, rfl⟩

/-! ### The shape of a bundle -/

def bundleKinds : Option ClusterTemplate → List (List Char)
  | some _ => ["Secret".toList, "ClusterTemplate".toList, "Cluster".toList]
  | none => ["Cluster".toList]

/-- The lines on a cluster, given which of its groups scale by themselves. -/
def clusterLength (scaling : List Bool) : Nat :=
  13 + 4 * scaling.length + 2 * scaling.count true

def bundleLengths (scaling : List Bool) : Option ClusterTemplate → List Nat
  | some _ => [9, 10, clusterLength scaling]
  | none => [clusterLength scaling]

theorem length_groups (names : GroupNames) (found : List NodeGroup) :
    (found.flatMap (groupDocument names)).length =
      4 * found.length + 2 * (found.map (·.autoscale)).count true := by
  induction found with
  | nil => rfl
  | cons group rest ih =>
    have own : (groupDocument names group).length = if group.autoscale then 6 else 4 := by
      unfold groupDocument
      split_ifs <;> rfl
    rw [List.flatMap_cons, List.length_append, own, ih, List.map_cons, List.length_cons, List.count_cons]
    cases group.autoscale <;> simp <;> omega

theorem length_clusterDocument (cluster : Cluster) (controlPlane : NodeGroup) :
    (clusterDocument cluster controlPlane).length =
      clusterLength (cluster.workerGroups.map (·.autoscale)) := by
  have head : (clusterFacts cluster controlPlane).length = 13 := rfl
  rw [clusterDocument, List.length_append, head, length_groups, clusterLength, List.length_map, Nat.add_assoc]

theorem kinds_clusterDocument (cluster : Cluster) (controlPlane : NodeGroup) :
    ((clusterDocument cluster controlPlane).filterMap fun line => (line.map Content.shown).kind?) =
      ["Cluster".toList] := by
  have none : ((cluster.workerGroups.flatMap (groupDocument clusterNames)).filterMap fun line =>
      (line.map Content.shown).kind?) = [] := by
    refine List.filterMap_eq_nil_iff.2 fun line member => ?_
    obtain ⟨group, listed⟩ := exists_group member
    have silent : ((groupFacts clusterNames group ++ groupLimits clusterNames group).all fun line =>
      (line.map Content.shown).kind?.isNone) = true := rfl
    exact Option.isNone_iff_eq_none.1 (List.all_eq_true.1 silent line listed)
  rw [clusterDocument, List.filterMap_append, none]
  rfl

theorem kinds_bundleDocuments :
    ((bundleDocuments cluster controlPlane version url template).flatMap fun document =>
      document.filterMap fun line => (line.map Content.shown).kind?) = bundleKinds template := by
  cases template with
  | none => simp [bundleDocuments, kinds_clusterDocument, bundleKinds]
  | some given =>
    rw [bundleDocuments, List.flatMap_cons, List.flatMap_cons, List.flatMap_singleton,
      kinds_clusterDocument]
    rfl

theorem kinds_manifests_alone {text : String} (library : renderer.library = builtIn)
    (rendered : renderer.manifests cluster none = .ok text) : kinds text.toList = ["Cluster".toList] := by
  obtain ⟨_, _, _, texts, rfl, shows⟩ := shows_of_manifests library rendered
  rw [String.toList_ofList, kinds_bundle shows isManifest_bundle, kinds_bundleDocuments]
  rfl

theorem length_bundleDocuments :
    (bundleDocuments cluster controlPlane version url template).map List.length =
      bundleLengths (cluster.workerGroups.map (·.autoscale)) template := by
  cases template with
  | none => simp [bundleDocuments, length_clusterDocument, bundleLengths]
  | some given =>
    rw [bundleDocuments, List.map_cons, List.map_cons, List.map_singleton, length_clusterDocument]
    rfl

/-- Whatever texts are in a record, its bundle has one separator for each document, falls into these
documents when it is cut there, and names their kinds; no line has control characters, and how many
lines there are depends on the number of groups and on which of them scale. -/
theorem bundle_structure (library : renderer.library = builtIn) (valid : cluster.validate = .ok ())
    (complete : ∀ given ∈ template, given.kubernetesVersion.isSome ∧ renderer.authUrl.isSome) :
    ∃ scope texts, cluster.context template renderer.authUrl = .ok scope ∧
      (Renderer.documentNames template).mapM (renderer.document scope) = .ok texts ∧
      renderer.manifests cluster template = .ok (String.ofList (bundle texts)) ∧
      (lines (bundle texts)).count separatorLine = (bundleKinds template).length ∧
      cut (bundle texts) = [] :: texts.map lines ∧
      kinds (bundle texts) = bundleKinds template ∧
      (∀ line ∈ lines (bundle texts), Printable line) ∧
      texts.map (fun text => (lines text).length) =
        bundleLengths (cluster.workerGroups.map (·.autoscale)) template := by
  obtain ⟨controlPlane, plane⟩ := exists_controlPlane valid
  obtain ⟨version, url, complete⟩ : ∃ version url, Complete renderer version url template := by
    cases template with
    | none => exact ⟨"", "", trivial⟩
    | some given =>
      obtain ⟨version, versioned⟩ := Option.isSome_iff_exists.1 (complete given rfl).1
      obtain ⟨url, address⟩ := Option.isSome_iff_exists.1 (complete given rfl).2
      exact ⟨version, url, versioned, address⟩
  obtain ⟨scope, texts, context, rendered, bundled, shows⟩ := manifests_of_valid library valid plane complete
  have count : (bundleDocuments cluster controlPlane version url template).length =
      (bundleKinds template).length := by
    cases template <;> rfl
  have texts_eq := map_lines_texts shows isManifest_bundle
  have lengths : texts.map (fun text => (lines text).length) = (texts.map lines).map List.length := by
    rw [List.map_map]
    rfl
  refine ⟨scope, texts, context, rendered, bundled, ?_, ?_, ?_, printable_bundle shows isManifest_bundle, ?_⟩
  · rw [count_bundle shows isManifest_bundle, count]
  · rw [cut_bundle shows isManifest_bundle, texts_eq]
  · rw [kinds_bundle shows isManifest_bundle, kinds_bundleDocuments]
  · rw [lengths, texts_eq, ← length_bundleDocuments, List.map_map]
    exact List.map_congr_left fun document _ => List.length_map ..

theorem bundle_structure_awkward :
    awkward.validate = .ok () ∧
      (∀ given ∈ some awkwardTemplate, given.kubernetesVersion.isSome ∧ (some "identity").isSome) ∧
      ∃ texts, (Renderer.mk builtIn (some "identity")).manifests awkward (some awkwardTemplate) =
          .ok (String.ofList (bundle texts)) ∧
        (lines (bundle texts)).count separatorLine = 3 ∧ cut (bundle texts) = [] :: texts.map lines ∧
        kinds (bundle texts) = ["Secret".toList, "ClusterTemplate".toList, "Cluster".toList] ∧
        texts.map (fun text => (lines text).length) = [9, 10, 23] := by
  have valid : awkward.validate = .ok () := by decide
  have complete : ∀ given ∈ some awkwardTemplate,
      given.kubernetesVersion.isSome ∧ (some "identity").isSome := by decide
  obtain ⟨_, texts, -, -, rendered, count, parts, found, -, lengths⟩ :=
    @bundle_structure ⟨builtIn, some "identity"⟩ awkward (some awkwardTemplate) rfl valid complete
  exact ⟨valid, complete, texts, rendered, count, parts, found, lengths⟩

end ClusterLifecycle.Manifest
