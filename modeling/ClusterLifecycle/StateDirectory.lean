import ClusterLifecycle.Cluster.File
import ClusterLifecycle.Failure
import ClusterLifecycle.FileSystem.Basic
import ClusterLifecycle.Host.Basic

/-!
Records kept as files of a directory, one per cluster under the name of its identifier. A record is
written under another name first and then moved into place, so whoever reads finds the old record or
the new one.
-/

namespace ClusterLifecycle.StateDirectory

def recordPath (directory : String) (uuid : Uuid) : String :=
  Path.join directory s!"{uuid}.json"

/-- Where a record is written before it takes its place. -/
def draftPath (directory : String) (uuid : Uuid) : String :=
  recordPath directory uuid ++ ".tmp"

/-- The steps of keeping a record; the first that fails is the last. -/
def save (directory : String) (cluster : Cluster) : HostProgram (Except StorageFault Unit) := do
  match ← Host.makeDirectories directory with
  | .error cause => return .error (.makeDirectory directory cause)
  | .ok () =>
    let draft := draftPath directory cluster.uuid
    match ← Host.writeText draft cluster.stored with
    | .error cause => return .error (.write draft cause)
    | .ok () =>
      let path := recordPath directory cluster.uuid
      match ← Host.moveFile draft path with
      | .error cause => return .error (.write path cause)
      | .ok () => return .ok ()

/-- The record in a text that was read from a path, if it is that of the right cluster. -/
def check (path : String) (uuid : Uuid) (text : String) : Except StorageFault Cluster :=
  match Cluster.ofStored? text with
  | none => .error (.unreadable path)
  | some cluster => if cluster.uuid = uuid then .ok cluster else .error (.holdsOther path cluster.uuid)

def load (directory : String) (uuid : Uuid) : HostProgram (Except StorageFault Cluster) := do
  let path := recordPath directory uuid
  match ← Host.readText path with
  | .error cause => return .error (.read path cause)
  | .ok text => return check path uuid text

end ClusterLifecycle.StateDirectory
