import ClusterLifecycle.Config.Basic
import ClusterLifecycle.Command.Basic
import ClusterLifecycle.Resource.Basic

/-!
The commands that manage resources of the management cluster. Deleting what is already gone is no
fault, and neither is fetching it.
-/

namespace ClusterLifecycle.Kubectl

def notFoundMarker : String := "Error from server (NotFound)"

def command (config : Config) (arguments : List String) (input : Option String) : Command where
  program := config.kubectl
  arguments := arguments ++ config.connection
  input := input
  limit := config.applyLimit

def apply (config : Config) (manifests : String) : Call Output where
  command := command config ["apply", "-f", "-"] (some manifests)
  read := id

def delete (config : Config) (manifests : String) : Call Output where
  command := command config ["delete", "--ignore-not-found=true", "-f", "-"] (some manifests)
  read := id

def deleteNamed (config : Config) (kind name : String) : Call Output where
  command := command config ["delete", kind, name, "--ignore-not-found=true"] none
  read := id

def readResource (config : Config) (kind name : String) : RunResult → Except RunFault (Option Resource)
  | .error fault => if fault.isNotFound notFoundMarker then .ok none else .error fault
  | .ok output =>
    match Resource.ofText? output.stdout with
    | some resource => .ok (some resource)
    | none => .error (.invalidOutput config.kubectl (.unreadableResource kind name))

def get (config : Config) (kind name : String) : Call (Option Resource) where
  command := command config ["get", kind, name, "-o", "json"] none
  read := readResource config kind name

end ClusterLifecycle.Kubectl
