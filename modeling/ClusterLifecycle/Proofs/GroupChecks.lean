import ClusterLifecycle.Proofs.WorkerGroups

/-!
What the check of a record finds in its groups. There has to be one group of the control plane, one default
group of workers, and in every group a count within its bounds. Of the conditions that fail the first is told,
and of the groups out of bounds the one that stands first in the record.
-/

namespace ClusterLifecycle

/-- The count lies between the bounds. A bound that is not set is the count itself. -/
def NodeGroup.InBounds (group : NodeGroup) : Prop :=
  (group.minCount.getD group.count).toNat ≤ group.count.toNat ∧
    group.count.toNat ≤ (group.maxCount.getD group.count).toNat

instance (group : NodeGroup) : Decidable group.InBounds :=
  inferInstanceAs (Decidable (_ ∧ _))

structure Renderable (groups : List NodeGroup) : Prop where
  planes : groups.countP (·.role = .controlPlane) = 1
  defaults : groups.countP (fun group => group.role = .worker ∧ group.isDefault) = 1
  inBounds : ∀ group ∈ groups, group.InBounds

/-- What there is to say about groups: the first condition that fails, or nothing. -/
inductive Judged (groups : List NodeGroup) : Except Defect Unit → Prop where
  | noControlPlane (planes : groups.countP (·.role = .controlPlane) = 0) : Judged groups (.error .noControlPlane)
  | manyControlPlanes (planes : 2 ≤ groups.countP (·.role = .controlPlane)) :
      Judged groups (.error .manyControlPlanes)
  | noDefaultWorkers (planes : groups.countP (·.role = .controlPlane) = 1)
      (defaults : groups.countP (fun group => group.role = .worker ∧ group.isDefault) = 0) :
      Judged groups (.error .noDefaultWorkers)
  | manyDefaultWorkers (planes : groups.countP (·.role = .controlPlane) = 1)
      (defaults : 2 ≤ groups.countP fun group => group.role = .worker ∧ group.isDefault) :
      Judged groups (.error .manyDefaultWorkers)
  | countOutsideBounds {before after : List NodeGroup} {group : NodeGroup}
      (planes : groups.countP (·.role = .controlPlane) = 1)
      (defaults : groups.countP (fun group => group.role = .worker ∧ group.isDefault) = 1)
      (split : groups = before ++ group :: after) (first : ∀ other ∈ before, other.InBounds)
      (outside : ¬ group.InBounds) :
      Judged groups (.error (.countOutsideBounds group.name group.count (group.minCount.getD group.count)
        (group.maxCount.getD group.count)))
  | sound (renderable : Renderable groups) : Judged groups (.ok ())

/-- A group stands in a list and is the only one there with a property. -/
def IsOnly (p : NodeGroup → Prop) (group : NodeGroup) (groups : List NodeGroup) : Prop :=
  p group ∧ ∃ before after, groups = before ++ group :: after ∧ ∀ other ∈ before ++ after, ¬ p other

namespace Cluster

/-- The check of a record says what there is to say about its groups. -/
structure ChecksGroups (cluster : Cluster) : Prop where
  validate_iff : ∀ verdict, cluster.validate = verdict ↔ Judged cluster.nodeGroups verdict
  valid_iff : cluster.validate = .ok () ↔ Renderable cluster.nodeGroups
  /-- In a valid record, the groups that are asked for are there and the only ones of their kind. -/
  controlPlane : cluster.validate = .ok () → ∃ group, cluster.controlPlane = .ok group ∧
    IsOnly (·.role = .controlPlane) group cluster.nodeGroups
  defaultWorkerGroup : cluster.validate = .ok () → ∃ group, cluster.defaultWorkerGroup = .ok group ∧
    IsOnly (fun group => group.role = .worker ∧ group.isDefault) group cluster.nodeGroups

variable {cluster : Cluster} {groups : List NodeGroup} {verdict : Except Defect Unit}

theorem onlyOne_of_none {α : Type} {none many : Defect} {found : List α} (nothing : found.length = 0) :
    onlyOne none many found = .error none := by
  rw [List.length_eq_zero_iff.1 nothing]
  rfl

theorem onlyOne_of_many {α : Type} {none many : Defect} {found : List α} (several : 2 ≤ found.length) :
    onlyOne none many found = .error many := by
  match found with
  | [] => simp at several
  | [x] => simp at several
  | _ :: _ :: _ => rfl

theorem length_planes (groups : List NodeGroup) :
    (groups.filter (!·.isWorker)).length = groups.countP (·.role = .controlPlane) := by
  rw [planes_eq, List.countP_eq_length_filter]

theorem defaults_eq (groups : List NodeGroup) :
    groups.filter (·.isDefaultWorker) = groups.filter fun group => group.role = .worker ∧ group.isDefault := by
  refine List.filter_congr fun group _ => ?_
  cases role : group.role <;> simp [NodeGroup.isDefaultWorker, NodeGroup.isWorker, role]

theorem length_defaults (groups : List NodeGroup) : (groups.filter (·.isDefaultWorker)).length =
    groups.countP fun group => group.role = .worker ∧ group.isDefault := by
  rw [defaults_eq, List.countP_eq_length_filter]

theorem inBounds_iff {group : NodeGroup} : group.InBounds ↔ group.withinBounds = true :=
  NodeGroup.withinBounds_iff.symm

theorem checkBounds_split {before after : List NodeGroup} {group : NodeGroup}
    (first : ∀ other ∈ before, other.InBounds) (outside : ¬ group.InBounds) :
    checkBounds (before ++ group :: after) =
      .error (.countOutsideBounds group.name group.count group.lower group.upper) := by
  induction before with
  | nil =>
    rw [inBounds_iff] at outside
    rw [List.nil_append, checkBounds, NodeGroup.checkBounds, if_neg outside]
    rfl
  | cons other before ih =>
    obtain ⟨within, first⟩ := List.forall_mem_cons.1 first
    rw [List.cons_append, checkBounds, NodeGroup.checkBounds, if_pos (inBounds_iff.1 within)]
    exact ih first

theorem validate_of_plane (planes : cluster.nodeGroups.countP (·.role = .controlPlane) = 1) :
    cluster.validate = cluster.defaultWorkerGroup.bind fun _ => checkBounds cluster.nodeGroups := by
  obtain ⟨plane, one⟩ := exists_onlyOne .noControlPlane .manyControlPlanes
    ((length_planes cluster.nodeGroups).trans planes)
  rw [validate, Cluster.controlPlane, one]
  rfl

theorem validate_of_judged (judged : Judged cluster.nodeGroups verdict) : cluster.validate = verdict := by
  cases judged with
  | noControlPlane planes =>
    rw [validate, Cluster.controlPlane, onlyOne_of_none ((length_planes _).trans planes)]
    rfl
  | manyControlPlanes planes =>
    rw [validate, Cluster.controlPlane, onlyOne_of_many ((length_planes _).symm ▸ planes)]
    rfl
  | noDefaultWorkers planes defaults =>
    rw [validate_of_plane planes, Cluster.defaultWorkerGroup, onlyOne_of_none ((length_defaults _).trans defaults)]
    rfl
  | manyDefaultWorkers planes defaults =>
    rw [validate_of_plane planes, Cluster.defaultWorkerGroup, onlyOne_of_many ((length_defaults _).symm ▸ defaults)]
    rfl
  | countOutsideBounds planes defaults split first outside =>
    rw [validate_eq_checkBounds planes defaults, split, checkBounds_split first outside]
    rfl
  | sound renderable =>
    rw [validate_eq_checkBounds renderable.planes renderable.defaults, checkBounds_ok_iff]
    exact fun group member => inBounds_iff.1 (renderable.inBounds group member)

theorem exists_judged (groups : List NodeGroup) : ∃ verdict, Judged groups verdict := by
  rcases Nat.lt_trichotomy (groups.countP (·.role = .controlPlane)) 1 with none | planes | many
  · exact ⟨_, .noControlPlane (by omega)⟩
  · rcases Nat.lt_trichotomy (groups.countP fun group => group.role = .worker ∧ group.isDefault) 1 with
      none | defaults | many
    · exact ⟨_, .noDefaultWorkers planes (by omega)⟩
    · cases found : groups.find? fun group => !decide group.InBounds with
      | none =>
        refine ⟨_, .sound ⟨planes, defaults, fun group member => ?_⟩⟩
        simpa using List.find?_eq_none.1 found group member
      | some group =>
        obtain ⟨outside, before, after, split, first⟩ := List.find?_eq_some_iff_append.1 found
        exact ⟨_, .countOutsideBounds planes defaults split (by simpa using first) (by simpa using outside)⟩
    · exact ⟨_, .manyDefaultWorkers planes (by omega)⟩
  · exact ⟨_, .manyControlPlanes (by omega)⟩

theorem validate_eq_iff : cluster.validate = verdict ↔ Judged cluster.nodeGroups verdict := by
  constructor
  · intro checked
    obtain ⟨other, judged⟩ := exists_judged cluster.nodeGroups
    rwa [← checked, validate_of_judged judged]
  · exact validate_of_judged

theorem judged_ok_iff : Judged groups (.ok ()) ↔ Renderable groups := by
  constructor
  · intro judged
    cases judged with
    | sound renderable => exact renderable
  · exact .sound

theorem isOnly_of_filter {p : NodeGroup → Prop} [DecidablePred p] {group : NodeGroup}
    (single : groups.filter p = [group]) : IsOnly p group groups := by
  obtain ⟨before, after, split, none, holds, later⟩ := List.filter_eq_cons_iff.1 single
  refine ⟨by simpa using holds, before, after, split, fun other member => ?_⟩
  rcases List.mem_append.1 member with early | late
  · simpa using none other early
  · simpa using List.filter_eq_nil_iff.1 later other late

/-- The check of a record accepts the groups that can be rendered and tells of all others what is wrong. -/
theorem checks_groups (cluster : Cluster) : ChecksGroups cluster where
  validate_iff _ := validate_eq_iff
  valid_iff := validate_eq_iff.trans judged_ok_iff
  controlPlane valid := by
    obtain ⟨group, found, -⟩ := bind_eq_ok.1 valid
    refine ⟨group, found, isOnly_of_filter ?_⟩
    rw [← planes_eq]
    exact onlyOne_eq_ok_iff.1 found
  defaultWorkerGroup valid := by
    obtain ⟨_, -, valid⟩ := bind_eq_ok.1 valid
    obtain ⟨group, found, -⟩ := bind_eq_ok.1 valid
    refine ⟨group, found, isOnly_of_filter ?_⟩
    rw [← defaults_eq]
    exact onlyOne_eq_ok_iff.1 found

end Cluster

end ClusterLifecycle
