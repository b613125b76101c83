import ClusterLifecycle.Cluster.Basic

/-!
What a record has to satisfy before anything is rendered from it: one control plane group, one
default worker group, and a count within its bounds in every group. The first condition that fails
is the one reported.
-/

namespace ClusterLifecycle

inductive Defect where
  | noControlPlane
  | manyControlPlanes
  | noDefaultWorkers
  | manyDefaultWorkers
  | countOutsideBounds (group : String) (count lower upper : UInt32)
  | noTemplate
  | valuesNeedTemplate
  | noVersion
  deriving DecidableEq, Repr

def Defect.message : Defect → String
  | .noControlPlane => "cluster has no control plane node group"
  | .manyControlPlanes => "cluster has more than one control plane node group"
  | .noDefaultWorkers => "cluster has no default worker node group"
  | .manyDefaultWorkers => "cluster has more than one default worker node group"
  | .countOutsideBounds group count lower upper =>
    s!"node group {group} has node_count {count} outside its bounds {lower}..={upper}"
  | .noTemplate => "cluster has no cluster template"
  | .valuesNeedTemplate => "helm values need a cluster template"
  | .noVersion => "cluster template has neither a kube_tag label nor a kube_version"

def onlyOne {α : Type} (none many : Defect) : List α → Except Defect α
  | [] => .error none
  | [x] => .ok x
  | _ :: _ :: _ => .error many

namespace NodeGroup

def withinBounds (group : NodeGroup) : Bool :=
  group.lower ≤ group.count && group.count ≤ group.upper

def checkBounds (group : NodeGroup) : Except Defect Unit :=
  if group.withinBounds then .ok ()
  else .error (.countOutsideBounds group.name group.count group.lower group.upper)

end NodeGroup

namespace Cluster

def controlPlane (cluster : Cluster) : Except Defect NodeGroup :=
  onlyOne .noControlPlane .manyControlPlanes (cluster.nodeGroups.filter (!·.isWorker))

def defaultWorkerGroup (cluster : Cluster) : Except Defect NodeGroup :=
  onlyOne .noDefaultWorkers .manyDefaultWorkers (cluster.nodeGroups.filter (·.isDefaultWorker))

/-- The first group whose count is out of bounds. -/
def checkBounds : List NodeGroup → Except Defect Unit
  | [] => .ok ()
  | group :: rest => do
    group.checkBounds
    checkBounds rest

def validate (cluster : Cluster) : Except Defect Unit := do
  let _ ← cluster.controlPlane
  let _ ← cluster.defaultWorkerGroup
  checkBounds cluster.nodeGroups

end Cluster

end ClusterLifecycle
