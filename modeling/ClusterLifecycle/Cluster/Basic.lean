import ClusterLifecycle.Cluster.Status
import ClusterLifecycle.Record.TextMap
import ClusterLifecycle.Uuid

/-!
The record of a cluster: who owns it, what state it is in, the template it was made from, its pools
of machines and the credentials it acts with.
-/

namespace ClusterLifecycle

inductive Role where
  | controlPlane
  | worker
  deriving DecidableEq, Repr, Inhabited

namespace Role

def name : Role → String
  | .controlPlane => "control_plane"
  | .worker => "worker"

def ofName? (name : String) : Option Role :=
  [Role.controlPlane, .worker].find? fun role => role.name == name

end Role

/-- A pool of machines of one size. The bounds limit its automatic scaling. -/
structure NodeGroup where
  uuid : Uuid
  name : String
  role : Role
  flavor : String
  count : UInt32
  minCount : Option UInt32
  maxCount : Option UInt32
  isDefault : Bool
  autoscale : Bool
  deriving DecidableEq, Repr

namespace NodeGroup

def lower (group : NodeGroup) : UInt32 :=
  group.minCount.getD group.count

def upper (group : NodeGroup) : UInt32 :=
  group.maxCount.getD group.count

def isWorker (group : NodeGroup) : Bool :=
  group.role == .worker

def isDefaultWorker (group : NodeGroup) : Bool :=
  group.isWorker && group.isDefault

end NodeGroup

structure ClusterTemplate where
  uuid : Uuid
  name : String
  image : String
  kubeVersion : Option String
  labels : TextMap
  deprecated : Bool
  deriving DecidableEq, Repr

namespace ClusterTemplate

def versionLabel : String := "kube_tag"

def kubernetesVersion (template : ClusterTemplate) : Option String :=
  template.labels.find? versionLabel <|> template.kubeVersion

end ClusterTemplate

structure Credentials where
  trust : Option String
  user : Option String
  password : Option String
  deriving DecidableEq, Repr

instance : Inhabited Credentials := ⟨⟨none, none, none⟩⟩

structure Cluster where
  uuid : Uuid
  name : String
  project : String
  status : Status
  statusReason : Option String
  stack : Option String
  templateId : Uuid
  template : Option ClusterTemplate
  nodeGroups : List NodeGroup
  credentials : Credentials
  deriving DecidableEq, Repr

namespace Cluster

def transitioned (cluster : Cluster) (status : Status) (reason : StatusReason) : Cluster :=
  { cluster with status := status, statusReason := some reason.message }

/-- The record after an operation was submitted; an old reason no longer applies. -/
def armed (cluster : Cluster) (operation : Operation) : Cluster :=
  { cluster with status := ⟨operation, .inProgress⟩, statusReason := none }

def withStatus (cluster : Cluster) (status : Status) : Cluster :=
  { cluster with status := status, statusReason := none }

def workers (cluster : Cluster) : List NodeGroup :=
  cluster.nodeGroups.filter NodeGroup.isWorker

/-- The workers, default groups first and otherwise in the order of the record. -/
def workerGroups (cluster : Cluster) : List NodeGroup :=
  cluster.workers.filter (·.isDefault) ++ cluster.workers.filter (!·.isDefault)

end Cluster

end ClusterLifecycle
