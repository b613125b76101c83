import ClusterLifecycle.Proofs.AppliedBundles
import ClusterLifecycle.Proofs.ScalingBounds
import Mathlib.Data.List.Lex
import Mathlib.Data.List.Nodup

/-!
The groups of machines of a record and what templates see of them. The control plane is the only group of
its role. The default group of workers comes first and the others follow as they stand in the record, so
no group is lost or seen twice. Groups are told apart by their names only as far as their identifiers differ.
-/

namespace ClusterLifecycle

open Template (Value)

/-! ### Sorting by a condition -/

section Sorting

variable {α : Type} {p : α → Bool} {elements : List α}

theorem filter_append_filter_of_pairwise (sorted : elements.Pairwise fun a b => (!p a) ≤ !p b) :
    elements.filter p ++ elements.filter (!p ·) = elements := by
  induction elements with
  | nil => rfl
  | cons a rest ih =>
    obtain ⟨first, sorted⟩ := List.pairwise_cons.1 sorted
    cases here : p a with
    | true => simp [here, ih sorted]
    | false =>
      have without : ∀ b ∈ rest, p b = false := by
        intro b member
        have order := first b member
        rw [here] at order
        cases there : p b with
        | false => rfl
        | true =>
          rw [there] at order
          exact absurd order (by decide)
      have some : rest.filter p = [] := List.filter_eq_nil_iff.2 fun b member => by simp [without b member]
      have others : rest.filter (!p ·) = rest := List.filter_eq_self.2 fun b member => by simp [without b member]
      simp [here, some, others]

/-- The order by a key that is false for the elements with a property. -/
def inFront (p : α → Bool) (a b : α) : Bool :=
  (!p a) ≤ !p b

theorem inFront_trans (a b c : α) (front : inFront p a b = true) (back : inFront p b c = true) : inFront p a c = true :=
  decide_eq_true (Bool.le_trans (of_decide_eq_true front) (of_decide_eq_true back))

theorem inFront_total (a b : α) : (inFront p a b || inFront p b a) = true := by
  unfold inFront
  cases p a <;> cases p b <;> rfl

theorem filter_mergeSort (q : α → Bool) (alike : ∀ a b, q a = true → q b = true → p a = p b) :
    (elements.mergeSort (inFront p)).filter q = elements.filter q := by
  have equal : (elements.filter q).Pairwise fun a b => inFront p a b = true := by
    refine List.pairwise_of_forall_mem_list fun a first b second => ?_
    rw [inFront, alike a b (List.mem_filter.1 first).2 (List.mem_filter.1 second).2]
    exact decide_eq_true (Bool.le_refl _)
  have kept := (List.sublist_mergeSort inFront_trans inFront_total equal List.filter_sublist).filter q
  simp only [List.filter_filter, Bool.and_self] at kept
  exact (kept.eq_of_length ((List.mergeSort_perm ..).filter q).length_eq.symm).symm

/-- Sorting by a property puts the elements that have it first and leaves all else in order. -/
theorem mergeSort_inFront (p : α → Bool) (elements : List α) :
    elements.mergeSort (inFront p) = elements.filter p ++ elements.filter (!p ·) := by
  have sorted : (elements.mergeSort (inFront p)).Pairwise fun a b => inFront p a b = true :=
    List.pairwise_mergeSort inFront_trans inFront_total elements
  rw [← filter_append_filter_of_pairwise (sorted.imp of_decide_eq_true),
    filter_mergeSort p fun _ _ first second => first.trans second.symm,
    filter_mergeSort (!p ·) fun _ _ first second => Bool.not_inj (first.trans second.symm)]

end Sorting

namespace Cluster

structure Shows (name : String) (group : NodeGroup) (view : Value) : Prop where
  name : view.field "name" = .string name
  flavor : view.field "flavor" = .string group.flavor
  count : view.field "count" = .int group.count.toNat
  autoscale : view.field "autoscale" = .bool group.autoscale
  lower : view.field "min_count" = .ofCount? group.minCount
  upper : view.field "max_count" = .ofCount? group.maxCount

/-- The groups of a record in what templates see of it. -/
structure ShowsGroups (cluster : Cluster) (view : Value) : Prop where
  /-- There is one group of the control plane, and it is shown. -/
  controlPlane : ∃ plane, cluster.nodeGroups.filter (·.role = .controlPlane) = [plane] ∧
    Shows (toString plane.uuid) plane (view.field "control_plane")
  /-- There is one default group of workers. It is shown first, and the others are shown in their order. -/
  workers : ∃ front first back views, cluster.nodeGroups.filter (·.role = .worker) = front ++ first :: back ∧
    first.isDefault = true ∧ (∀ group ∈ front ++ back, group.isDefault = false) ∧
    view.field "node_groups" = .list views ∧
    List.Forall₂ (fun shown => Shows shown.1 shown.2)
      (("default", first) :: (front ++ back).map fun group => (toString group.uuid, group)) views

/-- No group of workers is lost, seen twice or taken for another. -/
structure Arranged (cluster : Cluster) : Prop where
  /-- Templates see the valid records, which are those with one group of the control plane, one default group
  of workers and all counts within their bounds. -/
  shown_iff : (∃ view, cluster.view = .ok view) ↔ cluster.validate = .ok ()
  refused_iff : ∀ failure, cluster.view = .error failure ↔
    ∃ defect, cluster.validate = .error defect ∧ failure = .validation cluster.uuid defect
  valid_iff : cluster.validate = .ok () ↔ cluster.nodeGroups.countP (·.role = .controlPlane) = 1 ∧
    cluster.nodeGroups.countP (fun group => group.role = .worker ∧ group.isDefault) = 1 ∧
    ∀ group ∈ cluster.nodeGroups, group.lower.toNat ≤ group.count.toNat ∧ group.count.toNat ≤ group.upper.toNat
  shows : ∀ view, cluster.view = .ok view → ShowsGroups cluster view
  /-- Whether a record is valid or not, its workers are sorted with the default ones in front. -/
  workerGroups_eq : cluster.workerGroups =
    cluster.nodeGroups.filter (fun group => group.role = .worker ∧ group.isDefault = true) ++
      cluster.nodeGroups.filter (fun group => group.role = .worker ∧ group.isDefault = false)
  sorted : cluster.workerGroups = (cluster.nodeGroups.filter (·.role = .worker)).mergeSort (inFront (·.isDefault))
  perm : cluster.workerGroups.Perm (cluster.nodeGroups.filter (·.role = .worker))

variable {cluster : Cluster} {group : NodeGroup}

theorem workers_eq (cluster : Cluster) : cluster.workers = cluster.nodeGroups.filter (·.role = .worker) :=
  List.filter_congr fun _ _ => rfl

def otherWorkers (cluster : Cluster) : List NodeGroup :=
  cluster.nodeGroups.filter fun group => group.role = .worker ∧ group.isDefault = false

theorem otherWorkers_eq (cluster : Cluster) : cluster.otherWorkers = cluster.workers.filter (!·.isDefault) := by
  rw [otherWorkers, workers_eq, List.filter_filter]
  refine List.filter_congr fun group _ => ?_
  simp [and_comm]

theorem planes_eq (groups : List NodeGroup) : groups.filter (!·.isWorker) = groups.filter (·.role = .controlPlane) := by
  refine List.filter_congr fun group _ => ?_
  cases role : group.role <;> simp [NodeGroup.isWorker, role]

theorem shows_view (group : NodeGroup) (name : String) : Shows name group (group.view name) :=
  ⟨rfl, rfl, rfl, rfl, rfl, rfl⟩

theorem onlyOne_eq_ok_iff {α : Type} {none many : Defect} {found : List α} {x : α} :
    onlyOne none many found = .ok x ↔ found = [x] := by
  match found with
  | [] => simp [onlyOne]
  | [y] => simp [onlyOne]
  | _ :: _ :: _ => simp [onlyOne]

theorem groups_of_valid (valid : cluster.validate = .ok ()) : ∃ plane first,
    cluster.controlPlane = .ok plane ∧ cluster.nodeGroups.filter (·.role = .controlPlane) = [plane] ∧
      cluster.workers.filter (·.isDefault) = [first] := by
  obtain ⟨plane, control, valid⟩ := bind_eq_ok.1 valid
  obtain ⟨first, default, -⟩ := bind_eq_ok.1 valid
  refine ⟨plane, first, control, ?_, ?_⟩
  · rw [← planes_eq]
    exact onlyOne_eq_ok_iff.1 control
  · rw [workers, List.filter_filter]
    refine Eq.trans (List.filter_congr fun group _ => ?_) (onlyOne_eq_ok_iff.1 default)
    exact Bool.and_comm ..

theorem validate_eq_ok_iff : cluster.validate = .ok () ↔ cluster.nodeGroups.countP (·.role = .controlPlane) = 1 ∧
    cluster.nodeGroups.countP (fun group => group.role = .worker ∧ group.isDefault) = 1 ∧
    ∀ group ∈ cluster.nodeGroups, group.lower.toNat ≤ group.count.toNat ∧ group.count.toNat ≤ group.upper.toNat := by
  simp only [← NodeGroup.withinBounds_iff, ← checkBounds_ok_iff]
  constructor
  · intro valid
    obtain ⟨plane, first, -, planes, defaults⟩ := groups_of_valid valid
    have one : cluster.nodeGroups.countP (·.role = .controlPlane) = 1 := by
      rw [List.countP_eq_length_filter, planes, List.length_singleton]
    have other : cluster.nodeGroups.countP (fun group => group.role = .worker ∧ group.isDefault) = 1 := by
      have length : (cluster.workers.filter (·.isDefault)).length = 1 := by rw [defaults, List.length_singleton]
      rw [← length, workers_eq, List.filter_filter, ← List.countP_eq_length_filter]
      refine List.countP_congr fun group _ => ?_
      simp [and_comm]
    exact ⟨one, other, validate_eq_checkBounds one other ▸ valid⟩
  · intro way
    obtain ⟨one, other, within⟩ := way
    rw [validate_eq_checkBounds one other, within]

theorem workerGroups_of_valid (valid : cluster.validate = .ok ()) : ∃ front first back,
    cluster.workers = front ++ first :: back ∧ first.isDefault = true ∧
      (∀ group ∈ front ++ back, group.isDefault = false) ∧ cluster.otherWorkers = front ++ back ∧
      cluster.workerGroups = first :: (front ++ back) := by
  obtain ⟨_, first, -, -, defaults⟩ := groups_of_valid valid
  obtain ⟨front, back, split, before, default, after⟩ := List.filter_eq_cons_iff.1 defaults
  have others : ∀ group ∈ front ++ back, group.isDefault = false := by
    intro group member
    rcases List.mem_append.1 member with early | late
    · simpa using before group early
    · simpa using List.filter_eq_nil_iff.1 after group late
  have rest : cluster.otherWorkers = front ++ back := by
    have kept : (front ++ back).filter (!·.isDefault) = front ++ back :=
      List.filter_eq_self.2 fun group member => by rw [others group member]; rfl
    rw [otherWorkers_eq, split, ← kept, List.filter_append, List.filter_append, List.filter_cons, default]
    rfl
  refine ⟨front, first, back, split, default, others, rest, ?_⟩
  rw [workerGroups, defaults, ← otherWorkers_eq, rest]
  rfl

theorem exists_view_iff : (∃ view, cluster.view = .ok view) ↔ cluster.validate = .ok () := by
  constructor
  · intro way
    obtain ⟨view, shown⟩ := way
    cases valid : cluster.validate with
    | ok => rfl
    | error defect =>
      rw [Manifest.view_of_invalid valid] at shown
      cases shown
  · intro valid
    obtain ⟨plane, _, control, -⟩ := groups_of_valid valid
    exact ⟨_, Manifest.view_cluster valid control⟩

theorem externalName_of_default (default : group.isDefault = true) : group.externalName = "default" := by
  rw [NodeGroup.externalName, default]
  rfl

theorem externalName_of_other (other : group.isDefault = false) : group.externalName = toString group.uuid := by
  rw [NodeGroup.externalName, other]
  rfl

theorem showsGroups_of_view {view : Value} (shown : cluster.view = .ok view) : ShowsGroups cluster view := by
  have valid := exists_view_iff.1 ⟨view, shown⟩
  obtain ⟨plane, _, control, planes, -⟩ := groups_of_valid valid
  obtain ⟨front, first, back, split, default, others, -, order⟩ := workerGroups_of_valid valid
  rw [Manifest.view_cluster valid control] at shown
  obtain rfl := Except.ok.inj shown
  constructor
  case controlPlane => exact ⟨plane, planes, shows_view plane _⟩
  case workers =>
    refine ⟨front, first, back, _, workers_eq cluster ▸ split, default, others, rfl, ?_⟩
    rw [order, List.map_cons, externalName_of_default default]
    refine .cons (shows_view first _) ?_
    rw [List.forall₂_map_left_iff, List.forall₂_map_right_iff]
    refine List.forall₂_same.2 fun group member => ?_
    rw [externalName_of_other (others group member)]
    exact shows_view group _

theorem workerGroups_perm (cluster : Cluster) : cluster.workerGroups.Perm cluster.workers := by
  rw [workerGroups, ← mergeSort_inFront]
  exact List.mergeSort_perm ..

/-- Templates see the groups of a record in the order of `workerGroups`, each as it is. -/
theorem groups_arranged (cluster : Cluster) : Arranged cluster := by
  constructor
  case shown_iff => exact exists_view_iff
  case refused_iff =>
    intro failure
    cases valid : cluster.validate with
    | ok =>
      obtain ⟨view, shown⟩ := exists_view_iff.2 valid
      simp [shown]
    | error defect => simp [Manifest.view_of_invalid valid, eq_comm]
  case valid_iff => exact validate_eq_ok_iff
  case shows => exact fun view shown => showsGroups_of_view shown
  case workerGroups_eq =>
    rw [workerGroups, ← otherWorkers_eq, workers_eq, List.filter_filter]
    refine congrArg (· ++ cluster.otherWorkers) (List.filter_congr fun group _ => ?_)
    simp [and_comm]
  case sorted => rw [mergeSort_inFront, ← workers_eq, workerGroups]
  case perm => exact workers_eq cluster ▸ workerGroups_perm cluster

end Cluster

/-! ### Names -/

namespace Manifest

open Cluster Template Text Driver

/-- The names of groups as they are written in one place: the default group is the first and has its name for
itself, and the others have their identifiers for names, which differ where the identifiers do. -/
structure NamesApart {α : Type} (written : String → α) (others : List NodeGroup) (names : List α) : Prop where
  names_eq : names = written "default" :: others.map fun group => written (toString group.uuid)
  apart : written "default" ∉ others.map fun group => written (toString group.uuid)
  nodup_iff : names.Nodup ↔ (others.map (·.uuid)).Nodup

/-- A name as a block gives it, in double quotes. -/
def givenName (name : String) : Option (List Char) :=
  some (scalar name)

/-- The names of groups in what templates see, in rendered values and in a rendered bundle. -/
structure NamesGroups (renderer : Renderer) (cluster : Cluster) : Prop where
  view : ∃ view views, cluster.view = .ok view ∧ view.field "node_groups" = .list views ∧
    NamesApart Value.string cluster.otherWorkers (views.map (·.field "name"))
  values : ∀ template text, renderer.values cluster template = .ok text →
    NamesApart givenName cluster.otherWorkers
      ((items ["nodeGroups"] (outline text.toList)).map (given? · "name"))
  bundle : ∀ template text, renderer.manifests cluster template = .ok text →
    ∃ document, document? "Cluster" text.toList = some document ∧
      NamesApart givenName cluster.otherWorkers
        ((items ["spec", "nodeGroups"] document).map (given? · "name"))

variable {renderer : Renderer} {cluster : Cluster}

theorem toString_uuid_ne (uuid : Uuid) : toString uuid ≠ "default" := by
  intro same
  have length := Uuid.length_hyphenate (Uuid.length_digits uuid)
  rw [← Uuid.toText, ← Uuid.toList_toString, same] at length
  exact absurd length (by decide)

theorem externalNames_of_valid (valid : cluster.validate = .ok ()) : cluster.workerGroups.map (·.externalName) =
    "default" :: cluster.otherWorkers.map fun group => toString group.uuid := by
  obtain ⟨front, first, back, -, default, others, rest, order⟩ := workerGroups_of_valid valid
  rw [order, rest, List.map_cons, externalName_of_default default]
  exact congrArg _ (List.map_congr_left fun group member => externalName_of_other (others group member))

theorem namesApart_of_valid {α : Type} {written : String → α} (injective : Function.Injective written)
    (valid : cluster.validate = .ok ()) :
    NamesApart written cluster.otherWorkers ((cluster.workerGroups.map (·.externalName)).map written) := by
  have others : (cluster.otherWorkers.map fun group => written (toString group.uuid)) =
      (cluster.otherWorkers.map (·.uuid)).map fun uuid => written (toString uuid) := by
    rw [List.map_map]
    rfl
  have apart : written "default" ∉ cluster.otherWorkers.map fun group => written (toString group.uuid) := by
    intro member
    obtain ⟨group, -, same⟩ := List.mem_map.1 member
    exact toString_uuid_ne group.uuid (injective same)
  have names_eq : (cluster.workerGroups.map (·.externalName)).map written =
      written "default" :: cluster.otherWorkers.map fun group => written (toString group.uuid) := by
    rw [externalNames_of_valid valid, List.map_cons, List.map_map]
    rfl
  refine ⟨names_eq, apart, ?_⟩
  rw [names_eq, List.nodup_cons, and_iff_right apart, others]
  exact List.nodup_map_iff fun _ _ same => toString_injective (injective same)

theorem names_views (groups : List NodeGroup) :
    (groups.map fun group => group.view group.externalName).map (·.field "name") =
      (groups.map (·.externalName)).map .string := by
  rw [List.map_map, List.map_map]
  rfl

theorem given_names {names : GroupNames} {groups : List NodeGroup} {blocks : List Block}
    (told : List.Forall₂ (Tells names) groups blocks) :
    blocks.map (given? · "name") = (groups.map (·.externalName)).map givenName := by
  induction told with
  | nil => rfl
  | cons tells _ ih =>
    rw [List.map_cons, tells.name, ih]
    rfl

theorem givenName_injective : Function.Injective givenName :=
  fun _ _ same => scalar_injective (Option.some.inj same)

/-- The groups of a valid record have their identifiers for names, except for the default group. With the
templates of the program this is what is printed, too, and no name is given twice exactly where no two of the
other groups share an identifier. -/
theorem group_names_nodup_iff (valid : cluster.validate = .ok ()) (library : renderer.library = builtIn) :
    NamesGroups renderer cluster := by
  constructor
  case view =>
    obtain ⟨plane, _, control, -⟩ := groups_of_valid valid
    refine ⟨_, _, view_cluster valid control, rfl, ?_⟩
    rw [names_views]
    exact namesApart_of_valid (fun _ _ => Value.string.inj) valid
  case values =>
    intro template text rendered
    rw [given_names (blocks_values library rendered)]
    exact namesApart_of_valid givenName_injective valid
  case bundle =>
    intro template text rendered
    obtain ⟨document, found, told⟩ := blocks_bundle library rendered
    refine ⟨document, found, ?_⟩
    rw [given_names told]
    exact namesApart_of_valid givenName_injective valid

theorem group_names_nodup_iff_awkward :
    awkward.validate = .ok () ∧ Driver.initial.renderer.library = builtIn ∧
      ∃ text, Driver.initial.renderer.values awkward awkwardTemplate = .ok text ∧
        NamesApart givenName awkward.otherWorkers
          ((items ["nodeGroups"] (outline text.toList)).map (given? · "name")) ∧
        ((items ["nodeGroups"] (outline text.toList)).map (given? · "name")).Nodup := by
  have valid : awkward.validate = .ok () := by decide
  have versioned : awkwardTemplate.kubernetesVersion = some "v1.29.0" := by decide
  obtain ⟨controlPlane, plane⟩ := exists_controlPlane valid
  have rendered := @values_of_valid _ _ _ _ Driver.initial.renderer rfl valid plane versioned
  have names := (@group_names_nodup_iff Driver.initial.renderer _ valid rfl).values _ _ rendered
  exact ⟨valid, rfl, _, rendered, names, names.nodup_iff.2 (by decide)⟩

def twins : Cluster :=
  { awkward with
    nodeGroups := awkward.nodeGroups ++ [⟨⟨2⟩, "other", .worker, "m1.large", 7, none, some 9, false, false⟩] }

/-- Nothing in the check of a record keeps groups of one name apart. -/
theorem not_group_names_nodup :
    ¬ ∀ (cluster : Cluster) view views, cluster.validate = .ok () → cluster.view = .ok view →
      view.field "node_groups" = .list views → (views.map (·.field "name")).Nodup := by
  intro claim
  have valid : twins.validate = .ok () := by decide
  obtain ⟨controlPlane, plane⟩ := exists_controlPlane valid
  have distinct := claim twins _ _ valid (view_cluster valid plane) rfl
  rw [names_views, (namesApart_of_valid (fun _ _ => Value.string.inj) valid).nodup_iff] at distinct
  exact absurd distinct (by decide)

end Manifest

end ClusterLifecycle
