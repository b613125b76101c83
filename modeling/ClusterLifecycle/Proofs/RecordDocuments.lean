import ClusterLifecycle.Proofs.OperationOutcome
import ClusterLifecycle.Proofs.NumberText
import ClusterLifecycle.Proofs.RenderedDocuments
import Mathlib.Data.List.TakeWhile

/-!
What the documents made of a record say when they are read. The values of a release and the manifests
name the same control plane, the same groups of workers, and the same version and image.
-/

namespace ClusterLifecycle.Manifest

open Text Template

/-! ### Documents are sound -/

theorem isSound_of_all {document : List (Line Content)} (all : document.all Line.isSound = true) :
    ∀ line ∈ document, line.isSound :=
  List.all_eq_true.1 all

theorem isSound_groupLines {names : GroupNames} {group : NodeGroup} {line : Line Content}
    (member : line ∈ groupFacts names group ++ groupLimits names group) : line.isSound ∧ line.isEntry := by
  have entry : ∀ (first : Bool) (name : String) (content : Content), Line.isPlainName name.toList →
      content.isPlain → (Line.entry names.column first name (some content)).isSound := by
    intro first name content plain whole
    simp [Line.isSound, Line.isPlain, Line.content?, plain, whole, names.deep]
  have plain := names.plain
  simp only [List.forall_mem_cons] at plain
  obtain ⟨flavor, count, lower, upper, -⟩ := plain
  simp only [groupFacts, groupLimits, List.cons_append, List.nil_append, List.mem_cons, List.not_mem_nil,
    or_false] at member
  rcases member with rfl | rfl | rfl | rfl | rfl | rfl
  · exact ⟨entry _ _ _ (by decide) rfl, rfl⟩
  · exact ⟨entry _ _ _ flavor rfl, rfl⟩
  · exact ⟨entry _ _ _ count rfl, rfl⟩
  · exact ⟨entry _ _ _ (by decide) rfl, rfl⟩
  · exact ⟨entry _ _ _ lower rfl, rfl⟩
  · exact ⟨entry _ _ _ upper rfl, rfl⟩

theorem exists_group {names : GroupNames} {groups : List NodeGroup} {line : Line Content}
    (member : line ∈ groups.flatMap (groupDocument names)) :
    ∃ group, line ∈ groupFacts names group ++ groupLimits names group := by
  obtain ⟨group, -, listed⟩ := List.mem_flatMap.1 member
  refine ⟨group, ?_⟩
  unfold groupDocument at listed
  split_ifs at listed
  · exact listed
  · exact List.mem_append_left _ (by simpa using listed)

theorem isSound_groups {names : GroupNames} {groups : List NodeGroup} {line : Line Content}
    (member : line ∈ groups.flatMap (groupDocument names)) : line.isSound ∧ line.isEntry := by
  obtain ⟨group, listed⟩ := exists_group member
  exact isSound_groupLines listed

section Documents

variable (cluster : Cluster) (controlPlane : NodeGroup) (template : ClusterTemplate) (version url : String)

theorem isSound_valuesDocument :
    ∀ line ∈ valuesDocument cluster controlPlane template version, line.isSound := by
  intro line member
  rcases List.mem_append.1 member with head | listed
  · have facts : (valuesFacts cluster controlPlane template version).all Line.isSound = true := rfl
    exact isSound_of_all facts line head
  · exact (isSound_groups listed).1

theorem isManifest_of_all {document : List (Line Content)} (some : document ≠ [])
    (all : (document.all fun line => line.isSound && line.isEntry) = true) : IsManifest document :=
  ⟨some, fun line member => by simpa using List.all_eq_true.1 all line member⟩

theorem isManifest_secret : IsManifest (secretDocument cluster url) :=
  isManifest_of_all nofun rfl

theorem isManifest_template : IsManifest (templateDocument template version) :=
  isManifest_of_all nofun rfl

theorem isManifest_cluster : IsManifest (clusterDocument cluster controlPlane) := by
  have head : IsManifest (clusterFacts cluster controlPlane) := isManifest_of_all nofun rfl
  refine ⟨nofun, fun line member => ?_⟩
  rcases List.mem_append.1 member with front | listed
  · exact head.2 line front
  · exact isSound_groups listed

end Documents

/-! ### What they say -/

def groupContents (group : NodeGroup) : List (Option Content) :=
  [some (.text group.externalName), some (.text group.flavor), some (.count group.count),
    some (.truth group.autoscale)] ++
  if group.autoscale then [some (.count group.lower), some (.count group.upper)] else [none, none]

def GroupNames.all (names : GroupNames) : List String :=
  ["name", names.flavor, names.count, "autoscale", names.lower, names.upper]

def groups {α : Type} (names : GroupNames) (path : List String) (document : List (Line α)) :
    List (List (Option α)) :=
  (items path document).map fun item => names.all.map (given? item)

def groupItem (names : GroupNames) (group : NodeGroup) : List (String × Option Content) :=
  (groupDocument names group).filterMap fun
    | .remark _ => none
    | .entry _ _ name content => some (name, content)

theorem itemsFrom_groupDocument (names : GroupNames) (group : NodeGroup) {rest : List (Line Content)}
    {found : List (List (String × Option Content))} (later : itemsFrom rest = ([], found)) :
    itemsFrom (groupDocument names group ++ rest) = ([], groupItem names group :: found) := by
  unfold groupItem groupDocument
  split_ifs <;> simp [groupFacts, groupLimits, itemsFrom, later]

theorem itemsFrom_groups (names : GroupNames) (found : List NodeGroup) :
    itemsFrom (found.flatMap (groupDocument names)) = ([], found.map (groupItem names)) := by
  induction found with
  | nil => rfl
  | cons group rest ih =>
    rw [List.flatMap_cons, itemsFrom_groupDocument names group ih, List.map_cons]

theorem takeWhile_groups {names : GroupNames} {column : Nat} (deeper : column < names.column)
    (found : List NodeGroup) :
    (found.flatMap (groupDocument names)).takeWhile (Line.isInside column) =
      found.flatMap (groupDocument names) := by
  refine List.takeWhile_eq_self_iff.2 fun line member => ?_
  obtain ⟨group, listed⟩ := exists_group member
  have inside : ((groupFacts names group ++ groupLimits names group).all (Line.isInside column)) = true := by
    simp [groupFacts, groupLimits, Line.isInside, deeper]
  exact List.all_eq_true.1 inside line listed

/-- Of names that are all different each is given its own, and the names that are left are given nothing. -/
theorem map_given?_zip {α : Type} {names : List String} (apart : names.Nodup) (contents : List (Option α))
    (enough : contents.length ≤ names.length) :
    names.map (given? (names.zip contents)) =
      contents ++ List.replicate (names.length - contents.length) none := by
  induction names generalizing contents with
  | nil =>
    rw [List.length_eq_zero_iff.1 (Nat.le_zero.1 enough)]
    rfl
  | cons name names ih =>
    obtain ⟨fresh, apart⟩ := List.nodup_cons.1 apart
    cases contents with
    | nil =>
      have nothing : given? ([] : List (String × Option α)) = Function.const String none := rfl
      rw [List.zip_nil_right, nothing, List.map_const, List.nil_append]
      rfl
    | cons content contents =>
      have others : ∀ other ∈ names, given? ((name, content) :: names.zip contents) other =
          given? (names.zip contents) other := by
        intro other member
        have differ : (other == name) = false := beq_false_of_ne fun same => fresh (same ▸ member)
        rw [given?, List.lookup_cons, differ, given?]
      rw [List.zip_cons_cons, List.map_cons, List.map_congr_left others,
        ih apart contents (Nat.le_of_succ_le_succ enough)]
      simp [given?]

theorem groupItem_eq_zip (names : GroupNames) (group : NodeGroup) :
    groupItem names group = names.all.zip ((groupContents group).takeWhile Option.isSome) := by
  unfold groupItem groupDocument groupFacts groupContents
  cases group.autoscale <;> rfl

theorem given?_groupItem (names : GroupNames) (group : NodeGroup) :
    names.all.map (given? (groupItem names group)) = groupContents group := by
  rw [groupItem_eq_zip]
  unfold groupContents
  cases group.autoscale with
  | true => exact map_given?_zip names.apart _ (Nat.le_refl 6)
  | false => exact map_given?_zip names.apart _ (Nat.le_add_right 4 2)

variable {cluster : Cluster} {controlPlane : NodeGroup} {template : ClusterTemplate} {version url : String}

theorem items_values : items ["nodeGroups"] (valuesDocument cluster controlPlane template version) =
    cluster.workerGroups.map (groupItem valuesNames) := by
  have within : inside 0 ["nodeGroups"] (valuesDocument cluster controlPlane template version) =
      (cluster.workerGroups.flatMap (groupDocument valuesNames)).takeWhile (Line.isInside 0) := rfl
  rw [items, within, takeWhile_groups (by decide), itemsFrom_groups]

theorem items_cluster : items ["spec", "nodeGroups"] (clusterDocument cluster controlPlane) =
    cluster.workerGroups.map (groupItem clusterNames) := by
  have within : inside 0 ["spec", "nodeGroups"] (clusterDocument cluster controlPlane) =
      ((cluster.workerGroups.flatMap (groupDocument clusterNames)).takeWhile (Line.isInside 0)).takeWhile
        (Line.isInside 2) := rfl
  rw [items, within, takeWhile_groups (by decide), takeWhile_groups (by decide), itemsFrom_groups]

theorem groups_of_items {names : GroupNames} {path : List String} {document : List (Line Content)}
    {found : List NodeGroup} (listed : items path document = found.map (groupItem names)) :
    groups names path document = found.map groupContents := by
  rw [groups, listed, List.map_map]
  exact List.map_congr_left fun group _ => given?_groupItem names group

theorem groups_map {α β : Type} (f : α → β) (names : GroupNames) (path : List String)
    (document : List (Line α)) :
    groups names path (document.map (Line.map f)) = (groups names path document).map (·.map (Option.map f)) := by
  rw [groups, items_map, groups, List.map_map, List.map_map]
  refine List.map_congr_left fun item _ => ?_
  rw [Function.comp_apply, Function.comp_apply, List.map_map]
  exact List.map_congr_left fun name _ => given?_itemMap f name item

/-! ### Rendering a record -/

/-- A text on one line, between double quotes, that is read back as JSON. -/
structure Quotes (shown : List Char) (s : String) : Prop where
  oneLine : Printable shown
  quotes : ∃ inner, shown = '"' :: inner ++ ['"']
  decoded : quotedText? shown = some s

theorem quotes_scalar (s : String) : Quotes (scalar s) s where
  oneLine := printable_scalar s
  quotes := ⟨_, rfl⟩
  decoded := quotedText?_scalar s

/-- The values of a release, and the documents of its template and of the cluster itself, carry the
record as it is and agree wherever they speak of the same thing. -/
structure Verbatim (cluster : Cluster) (controlPlane : NodeGroup) (template : ClusterTemplate)
    (version : String) (values templateText clusterText : List Char) : Prop where
  values_eq : values = documentText (valuesDocument cluster controlPlane template version)
  template_eq : templateText ++ ['\n'] = documentText (templateDocument template version)
  cluster_eq : clusterText = documentText (clusterDocument cluster controlPlane)
  texts : ∀ s, Quotes (Content.text s).shown s
  counts : ∀ n, natural? 10 (Content.count n).shown = some n.toNat
  flavor : field? 0 ["controlPlane", "machineFlavor"] (outline values) = some (scalar controlPlane.flavor) ∧
    field? 0 ["spec", "controlPlaneMachineSize"] (outline clusterText) = some (scalar controlPlane.flavor)
  count : field? 0 ["controlPlane", "machineCount"] (outline values) =
      some (decimal controlPlane.count.toNat) ∧
    field? 0 ["spec", "controlPlaneMachineCount"] (outline clusterText) =
      some (decimal controlPlane.count.toNat)
  groups : groups valuesNames ["nodeGroups"] (outline values) =
      cluster.workerGroups.map (fun group => (groupContents group).map (Option.map Content.shown)) ∧
    groups clusterNames ["spec", "nodeGroups"] (outline clusterText) =
      cluster.workerGroups.map (fun group => (groupContents group).map (Option.map Content.shown))
  version : field? 0 ["kubernetesVersion"] (outline values) = some (scalar version) ∧
    field? 0 ["spec", "values", "kubernetesVersion"] (outline templateText) = some (scalar version)
  image : field? 0 ["machineImage"] (outline values) = some (scalar template.image) ∧
    field? 0 ["spec", "values", "machineImage"] (outline templateText) = some (scalar template.image)

theorem verbatim {values templateText clusterText : List Char}
    (values_eq : values = documentText (valuesDocument cluster controlPlane template version))
    (template_eq : templateText ++ ['\n'] = documentText (templateDocument template version))
    (cluster_eq : clusterText = documentText (clusterDocument cluster controlPlane)) :
    Verbatim cluster controlPlane template version values templateText clusterText := by
  have valuesRead : outline values = _ :=
    values_eq ▸ outline_documentText (isSound_valuesDocument cluster controlPlane template version)
  have templateRead : outline templateText = _ :=
    Shows.outline_eq (.inr template_eq) (isManifest_template template version)
  have clusterRead : outline clusterText = _ :=
    Shows.outline_eq (.inl cluster_eq) (isManifest_cluster cluster controlPlane)
  constructor
  case values_eq => exact values_eq
  case template_eq => exact template_eq
  case cluster_eq => exact cluster_eq
  case texts => exact quotes_scalar
  case counts => exact fun n => natural?_decimal n.toNat
  case groups =>
    rw [valuesRead, clusterRead, groups_map, groups_map, groups_of_items items_values,
      groups_of_items items_cluster, List.map_map]
    exact ⟨rfl, rfl⟩
  all_goals
    simp only [valuesRead, templateRead, clusterRead, field?_map]
    exact ⟨rfl, rfl⟩

theorem exists_controlPlane (valid : cluster.validate = .ok ()) :
    ∃ controlPlane, cluster.controlPlane = .ok controlPlane := by
  obtain ⟨controlPlane, plane, -⟩ := bind_eq_ok.1 valid
  exact ⟨controlPlane, plane⟩

variable {renderer : Renderer}

theorem document_of_ok {scope : Scope} {name : String} {text : List Char} (library : renderer.library = builtIn)
    (rendered : renderTemplate builtIn name scope = .ok text) : renderer.document scope name = .ok text := by
  rw [Renderer.document, library, rendered]
  rfl

theorem values_of_valid (library : renderer.library = builtIn) (valid : cluster.validate = .ok ())
    (plane : cluster.controlPlane = .ok controlPlane) (versioned : template.kubernetesVersion = some version) :
    renderer.values cluster template =
      .ok (String.ofList (documentText (valuesDocument cluster controlPlane template version))) := by
  rw [Renderer.values, context_template valid plane versioned, ok_bind,
    document_of_ok library (renderTemplate_values ..), ok_bind]

/-- The documents that are rendered carry the record as it is. Texts stand on one line in double quotes
and are read back as JSON, counts are written in decimals, and truth values with a capital letter. -/
theorem rendered_verbatim (library : renderer.library = builtIn) (valid : cluster.validate = .ok ())
    (versioned : template.kubernetesVersion.isSome) :
    ∃ controlPlane version scope values templateText clusterText,
      cluster.controlPlane = .ok controlPlane ∧ template.kubernetesVersion = some version ∧
      cluster.context (some template) renderer.authUrl = .ok scope ∧
      renderer.values cluster template = .ok (String.ofList values) ∧
      renderer.document scope templateName = .ok templateText ∧
      renderer.document scope clusterName = .ok clusterText ∧
      Verbatim cluster controlPlane template version values templateText clusterText := by
  obtain ⟨controlPlane, plane⟩ := exists_controlPlane valid
  obtain ⟨version, versioned⟩ := Option.isSome_iff_exists.1 versioned
  obtain ⟨templateText, rendered, template_eq⟩ :=
    renderTemplate_template cluster controlPlane template version (addressValues renderer.authUrl)
  exact ⟨controlPlane, version, _, _, templateText, _, plane, versioned,
    context_template valid plane versioned renderer.authUrl,
    values_of_valid library valid plane versioned, document_of_ok library rendered,
    document_of_ok library (renderTemplate_cluster ..), verbatim rfl template_eq rfl⟩

/-- A template with texts that would be documents of their own if they were not quoted. -/
def awkwardTemplate : ClusterTemplate :=
  ⟨default, "\"\n---\nkind: Secret\n# ", "- ubuntu: \t", some "v1.29.0", .empty, false⟩

def awkward : Cluster :=
  { (default : Cluster) with
    name := "---\nkind: Cluster\r\n"
    project := "\"\\u0022\n  spec:"
    templateId := awkwardTemplate.uuid
    template := some awkwardTemplate
    nodeGroups := [
      ⟨default, "control plane", .controlPlane, "m1.small", 1, none, none, true, false⟩,
      ⟨⟨2⟩, "spare\n---", .worker, "<&'>", 2, some 1, none, false, true⟩,
      ⟨default, "workers", .worker, "m1.large", 3, none, none, true, false⟩] }

theorem rendered_verbatim_awkward :
    awkward.validate = .ok () ∧ awkwardTemplate.kubernetesVersion = some "v1.29.0" ∧
      ∃ controlPlane version scope values templateText clusterText,
        awkward.controlPlane = .ok controlPlane ∧ awkwardTemplate.kubernetesVersion = some version ∧
        awkward.context (some awkwardTemplate) Driver.initial.renderer.authUrl = .ok scope ∧
        Driver.initial.renderer.values awkward awkwardTemplate = .ok (String.ofList values) ∧
        Driver.initial.renderer.document scope templateName = .ok templateText ∧
        Driver.initial.renderer.document scope clusterName = .ok clusterText ∧
        Verbatim awkward controlPlane awkwardTemplate version values templateText clusterText := by
  have valid : awkward.validate = .ok () := by decide
  have versioned : awkwardTemplate.kubernetesVersion = some "v1.29.0" := by decide
  exact ⟨valid, versioned, rendered_verbatim rfl valid (by rw [versioned]; rfl)⟩

/-- Truth values are not written as they are in JSON. -/
theorem not_truths_as_json :
    ¬ ∀ (renderer : Renderer) (cluster : Cluster) (template : ClusterTemplate) (text : String),
      renderer.library = builtIn → cluster.validate = .ok () → template.kubernetesVersion.isSome →
        renderer.values cluster template = .ok text →
        ∀ item ∈ items ["nodeGroups"] (outline text.toList),
          ∃ b, given? item "autoscale" = some (Json.boolText b) := by
  intro claim
  have valid : awkward.validate = .ok () := by decide
  obtain ⟨controlPlane, plane⟩ := exists_controlPlane valid
  have versioned : awkwardTemplate.kubernetesVersion = some "v1.29.0" := by decide
  have rendered : Driver.initial.renderer.values awkward awkwardTemplate = _ :=
    values_of_valid rfl valid plane versioned
  have group := claim Driver.initial.renderer awkward awkwardTemplate _ rfl valid (by decide) rendered
  rw [String.toList_ofList, outline_documentText (isSound_valuesDocument _ _ _ _), items_map, items_values] at group
  obtain ⟨b, written⟩ := group _ (List.mem_cons_self ..)
  cases b <;> exact absurd written (by decide)

end ClusterLifecycle.Manifest
