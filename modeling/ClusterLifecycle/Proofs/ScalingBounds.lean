import ClusterLifecycle.Proofs.BundleDocuments
import Mathlib.Data.List.Forall2

/-!
The number of machines in a group and the bounds around it. A bound that is not set counts as the number
of machines itself, for the check of a record as for the two templates that print the bounds, so what is
printed always encloses what is asked for, and only records of which that could not be said are refused.
-/

namespace ClusterLifecycle

/-! ### The check of a record -/

theorem NodeGroup.withinBounds_iff {group : NodeGroup} : group.withinBounds = true ↔
    group.lower.toNat ≤ group.count.toNat ∧ group.count.toNat ≤ group.upper.toNat := by
  simp [withinBounds, UInt32.le_iff_toNat_le]

theorem exists_onlyOne {α : Type} (none many : Defect) {found : List α} (single : found.length = 1) :
    ∃ x, onlyOne none many found = .ok x := by
  obtain ⟨x, rfl⟩ := List.length_eq_one_iff.1 single
  exact ⟨x, rfl⟩

namespace Cluster

variable {cluster : Cluster} {groups : List NodeGroup} {defect : Defect}

theorem checkBounds_ok_iff : checkBounds groups = .ok () ↔ ∀ group ∈ groups, group.withinBounds = true := by
  induction groups with
  | nil => simp [checkBounds]
  | cons group rest ih =>
    rw [List.forall_mem_cons, ← ih, checkBounds, NodeGroup.checkBounds]
    by_cases within : group.withinBounds = true
    · rw [if_pos within]
      exact (and_iff_right within).symm
    · rw [if_neg within]
      exact ⟨nofun, fun both => absurd both.1 within⟩

theorem within_of_validate (valid : cluster.validate = .ok ()) {group : NodeGroup}
    (member : group ∈ cluster.nodeGroups) : group.withinBounds = true := by
  obtain ⟨_, -, valid⟩ := bind_eq_ok.1 valid
  obtain ⟨_, -, checked⟩ := bind_eq_ok.1 valid
  exact checkBounds_ok_iff.1 checked group member

theorem validate_eq_checkBounds
    (planes : cluster.nodeGroups.countP (·.role = .controlPlane) = 1)
    (defaults : cluster.nodeGroups.countP (fun group => group.role = .worker ∧ group.isDefault) = 1) :
    cluster.validate = checkBounds cluster.nodeGroups := by
  have plane : (cluster.nodeGroups.filter (!·.isWorker)).length = 1 := by
    rw [← List.countP_eq_length_filter, ← planes]
    refine List.countP_congr fun group _ => ?_
    cases role : group.role <;> simp [NodeGroup.isWorker, role]
  have workers : (cluster.nodeGroups.filter (·.isDefaultWorker)).length = 1 := by
    rw [← List.countP_eq_length_filter, ← defaults]
    refine List.countP_congr fun group _ => ?_
    simp [NodeGroup.isDefaultWorker, NodeGroup.isWorker]
  obtain ⟨_, one⟩ := exists_onlyOne .noControlPlane .manyControlPlanes plane
  obtain ⟨_, other⟩ := exists_onlyOne .noDefaultWorkers .manyDefaultWorkers workers
  rw [validate, controlPlane, one, defaultWorkerGroup, other]
  rfl

end Cluster

namespace Manifest

open Template Text

/-! ### Blocks -/

/-- A block on a group as it is read: names with what is given to them. -/
abbrev Block := List (String × Option (List Char))

def number? (block : Block) (name : String) : Option Nat :=
  (given? block name).bind (natural? 10)

/-- A block has bounds, and the number of machines in it lies between them. -/
def Encloses (names : GroupNames) (block : Block) : Prop :=
  ∃ lower count upper, number? block names.lower = some lower ∧ number? block names.count = some count ∧
    number? block names.upper = some upper ∧ lower ≤ count ∧ count ≤ upper

/-- What a block says about how a group scales. -/
structure Tells (names : GroupNames) (group : NodeGroup) (block : Block) : Prop where
  name : given? block "name" = some (scalar group.externalName)
  count : number? block names.count = some group.count.toNat
  lower : number? block names.lower = if group.autoscale then some group.lower.toNat else none
  upper : number? block names.upper = if group.autoscale then some group.upper.toNat else none

/-- The block that the body of a loop prints for a group, as it is read. -/
def block? (names : GroupNames) (line : Nat) (scope : Scope) (group : NodeGroup) : Option Block :=
  match Statement.renderAll (("group", group.view group.externalName) :: scope) (groupBody names line) with
  | .ok (_, text) => (items [] (outline text)).head?
  | .error _ => none

/-- The templates that print a block for every group of workers, with the names in it and the line of
the loop. -/
def groupLoops : List (String × GroupNames × Nat) :=
  [(valuesName, valuesNames, 16), (clusterName, clusterNames, 14)]

variable {renderer : Renderer} {cluster : Cluster} {names : GroupNames} {group : NodeGroup} {block : Block}
  {template : Option ClusterTemplate}

theorem Tells.encloses_iff (tells : Tells names group block) (scales : group.autoscale = true) :
    Encloses names block ↔ group.withinBounds = true := by
  obtain ⟨-, count, lower, upper⟩ := tells
  rw [if_pos scales] at lower upper
  simp [Encloses, NodeGroup.withinBounds_iff, count, lower, upper]

theorem number?_count {item : List (String × Option Content)} {name : String} {n : UInt32}
    (given : given? item name = some (.count n)) : number? (itemMap Content.shown item) name = some n.toNat := by
  rw [number?, given?_itemMap, given]
  exact natural?_decimal n.toNat

theorem number?_none {item : List (String × Option Content)} {name : String} (absent : given? item name = none) :
    number? (itemMap Content.shown item) name = none := by
  rw [number?, given?_itemMap, absent]
  rfl

theorem tells_groupItem (names : GroupNames) (group : NodeGroup) :
    Tells names group (itemMap Content.shown (groupItem names group)) := by
  have said := given?_groupItem names group
  simp only [GroupNames.all, List.map_cons, List.map_nil, groupContents, List.cons_append, List.nil_append,
    List.cons.injEq] at said
  obtain ⟨name, -, count, -, limits⟩ := said
  cases scales : group.autoscale with
  | true =>
    simp only [scales, if_true, List.cons.injEq, and_true] at limits
    exact ⟨by rw [given?_itemMap, name]; rfl, number?_count count, by simpa [scales] using number?_count limits.1,
      by simpa [scales] using number?_count limits.2⟩
  | false =>
    simp only [scales, Bool.false_eq_true, if_false, List.cons.injEq, and_true] at limits
    exact ⟨by rw [given?_itemMap, name]; rfl, number?_count count, by simpa [scales] using number?_none limits.1,
      by simpa [scales] using number?_none limits.2⟩

theorem block?_eq (names : GroupNames) (line : Nat) (scope : Scope) (group : NodeGroup) :
    block? names line scope group = some (itemMap Content.shown (groupItem names group)) := by
  have sound : ∀ line ∈ groupDocument names group, line.isSound := by
    intro line member
    have listed : line ∈ [group].flatMap (groupDocument names) := by simpa using member
    exact (isSound_groups listed).1
  have alone : itemsFrom (groupDocument names group) = ([], [groupItem names group]) := by
    simpa using itemsFrom_groups names [group]
  unfold block?
  rw [renderAll_group]
  dsimp only
  rw [outline_documentText sound, items_map, items, inside, alone]
  rfl

theorem forall₂_blocks (names : GroupNames) (groups : List NodeGroup) :
    List.Forall₂ (Tells names) groups ((groups.map (groupItem names)).map (itemMap Content.shown)) := by
  rw [List.map_map, List.forall₂_map_right_iff]
  exact List.forall₂_same.2 fun group _ => tells_groupItem names group

theorem blocks_values (library : renderer.library = builtIn) {template : ClusterTemplate} {text : String}
    (rendered : renderer.values cluster template = .ok text) :
    List.Forall₂ (Tells valuesNames) cluster.workerGroups (items ["nodeGroups"] (outline text.toList)) := by
  obtain ⟨scope, context, -⟩ := bind_eq_ok.1 rendered
  have valid := valid_of_context context
  obtain ⟨controlPlane, plane⟩ := exists_controlPlane valid
  obtain ⟨version, versioned⟩ := versioned_of_context context
  rw [values_of_valid library valid plane versioned] at rendered
  obtain rfl := Except.ok.inj rendered
  rw [String.toList_ofList, outline_documentText (isSound_valuesDocument cluster controlPlane template version),
    items_map, items_values]
  exact forall₂_blocks valuesNames cluster.workerGroups

theorem blocks_bundle (library : renderer.library = builtIn) {text : String}
    (rendered : renderer.manifests cluster template = .ok text) :
    ∃ document, document? "Cluster" text.toList = some document ∧
      List.Forall₂ (Tells clusterNames) cluster.workerGroups (items ["spec", "nodeGroups"] document) := by
  obtain ⟨controlPlane, version, url, texts, rfl, shows⟩ := shows_of_manifests library rendered
  have found : document? "Cluster" (bundle texts) =
      some ((clusterDocument cluster controlPlane).map (Line.map Content.shown)) := by
    rw [document?_bundle shows isManifest_bundle]
    cases template <;> rfl
  rw [String.toList_ofList]
  refine ⟨_, found, ?_⟩
  rw [items_map, items_cluster]
  exact forall₂_blocks clusterNames cluster.workerGroups

/-- The bounds that are printed and those that a record is checked against are the same. -/
structure ScalingBounds (renderer : Renderer) : Prop where
  /-- Blocks are printed by these loops and their bodies. -/
  loops : ∀ name names line, (name, names, line) ∈ groupLoops → ∃ source head, renderer.library name = .ok source ∧
    Statement.ofText source.toList = .ok (head ++ [groupLoop names line])
  /-- Values have a block on each group of workers, which encloses its count where the group scales. -/
  values : ∀ (cluster : Cluster) (template : ClusterTemplate) (text : String), renderer.values cluster template = .ok text →
    List.Forall₂ (fun group block => Tells valuesNames group block ∧
      (group.autoscale = true → Encloses valuesNames block)) cluster.workerGroups
      (items ["nodeGroups"] (outline text.toList))
  /-- So has the cluster in a bundle. -/
  bundle : ∀ (cluster : Cluster) (template : Option ClusterTemplate) (text : String), renderer.manifests cluster template = .ok text →
    ∃ document, document? "Cluster" text.toList = some document ∧
      List.Forall₂ (fun group block => Tells clusterNames group block ∧
        (group.autoscale = true → Encloses clusterNames block)) cluster.workerGroups
        (items ["spec", "nodeGroups"] document)
  /-- A record with the groups that it needs is refused for a count outside of the bounds that would be
  printed if its group scaled, and for nothing else. -/
  refused_iff : ∀ cluster : Cluster, cluster.nodeGroups.countP (·.role = .controlPlane) = 1 →
    cluster.nodeGroups.countP (fun group => group.role = .worker ∧ group.isDefault) = 1 →
    ∀ name names line, (name, names, line) ∈ groupLoops → ∀ scope,
      ((∃ defect, cluster.validate = .error defect) ↔ ∃ group ∈ cluster.nodeGroups, ∃ block,
        block? names line scope { group with autoscale := true } = some block ∧
          Tells names { group with autoscale := true } block ∧ ¬ Encloses names block)

theorem encloses_of_valid {blocks : List Block} (valid : cluster.validate = .ok ())
    (told : List.Forall₂ (Tells names) cluster.workerGroups blocks) :
    List.Forall₂ (fun group block => Tells names group block ∧ (group.autoscale = true → Encloses names block))
      cluster.workerGroups blocks := by
  have within : ∀ group ∈ cluster.workerGroups, group.withinBounds = true := by
    intro group member
    have worker : group ∈ cluster.workers := by
      rcases List.mem_append.1 member with first | later
      · exact (List.mem_filter.1 first).1
      · exact (List.mem_filter.1 later).1
    exact Cluster.within_of_validate valid (List.mem_filter.1 worker).1
  have both := (List.forall₂_and_left _ _).2 ⟨within, told⟩
  refine both.imp ?_
  intro group block pair
  exact ⟨pair.2, fun scales => (pair.2.encloses_iff scales).2 pair.1⟩

theorem exists_error_iff : (∃ defect, cluster.validate = .error defect) ↔ cluster.validate ≠ .ok () := by
  cases cluster.validate <;> simp

/-- With the templates of the program, what is printed encloses what is asked for. -/
theorem scaling_bounds (library : renderer.library = builtIn) : ScalingBounds renderer := by
  constructor
  case loops =>
    intro name names line listed
    rw [library]
    simp only [groupLoops, List.mem_cons, List.not_mem_nil, or_false] at listed
    rcases listed with same | same
    · cases same
      exact ⟨_, _, rfl, ofText_values⟩
    · cases same
      exact ⟨_, _, rfl, ofText_cluster⟩
  case values =>
    intro cluster template text rendered
    obtain ⟨_, context, -⟩ := bind_eq_ok.1 rendered
    exact encloses_of_valid (valid_of_context context) (blocks_values library rendered)
  case bundle =>
    intro cluster template text rendered
    obtain ⟨document, found, told⟩ := blocks_bundle library rendered
    exact ⟨document, found, encloses_of_valid (complete_of_manifests library rendered).1 told⟩
  case refused_iff =>
    intro cluster planes defaults name names line _ scope
    rw [exists_error_iff, Cluster.validate_eq_checkBounds planes defaults, ne_eq, Cluster.checkBounds_ok_iff]
    push Not
    refine exists_congr fun group => and_congr_right fun _ => ?_
    have told := tells_groupItem names { group with autoscale := true }
    have printed := block?_eq names line scope { group with autoscale := true }
    constructor
    · intro outside
      exact ⟨_, printed, told, fun encloses => outside ((told.encloses_iff rfl).1 encloses)⟩
    · intro shown
      obtain ⟨block, found, tells, outside⟩ := shown
      exact fun within => outside ((tells.encloses_iff rfl).2 within)

theorem scaling_bounds_awkward :
    Driver.initial.renderer.library = builtIn ∧
      ∃ text, Driver.initial.renderer.values awkward awkwardTemplate = .ok text ∧
        ∃ default spare, items ["nodeGroups"] (outline text.toList) = [default, spare] ∧
          number? default valuesNames.lower = none ∧
          number? spare valuesNames.lower = some 1 ∧ number? spare valuesNames.count = some 2 ∧
          number? spare valuesNames.upper = some 2 := by
  have valid : awkward.validate = .ok () := by decide
  have versioned : awkwardTemplate.kubernetesVersion = some "v1.29.0" := by decide
  obtain ⟨controlPlane, plane⟩ := exists_controlPlane valid
  have rendered := @values_of_valid _ _ _ _ Driver.initial.renderer rfl valid plane versioned
  refine ⟨rfl, _, rendered, ?_⟩
  have blocks := (@scaling_bounds Driver.initial.renderer rfl).values _ _ _ rendered
  generalize items ["nodeGroups"] _ = found at blocks ⊢
  cases blocks with
  | cons first rest =>
    cases rest with
    | cons second nothing =>
      cases nothing
      exact ⟨_, _, rfl, first.1.lower, second.1.lower, second.1.count, second.1.upper⟩

end Manifest

end ClusterLifecycle
