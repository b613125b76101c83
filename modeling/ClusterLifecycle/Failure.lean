import ClusterLifecycle.Cluster.Validation
import ClusterLifecycle.Command.Basic
import ClusterLifecycle.Config.Basic
import ClusterLifecycle.Template.Failure

/-!
How an operation of the driver fails, by cause. The wording of every cause is in one place.
-/

namespace ClusterLifecycle

inductive StorageFault where
  | makeDirectory (path : String) (cause : SystemError)
  | write (path : String) (cause : SystemError)
  | read (path : String) (cause : SystemError)
  | unreadable (path : String)
  | holdsOther (path : String) (found : Uuid)
  | other (text : String)
  deriving DecidableEq, Repr

def StorageFault.message : StorageFault → String
  | .makeDirectory path cause => s!"failed to create {path}: {cause.message}"
  | .write path cause => s!"failed to write {path}: {cause.message}"
  | .read path cause => s!"failed to read {path}: {cause.message}"
  | .unreadable path => s!"failed to parse {path}"
  | .holdsOther path found => s!"{path} holds cluster {found}"
  | .other text => text

/-- Whether an operation may be supported one day. -/
inductive Support where
  | later
  | never
  deriving DecidableEq, Repr

def Support.message : Support → String
  | .later => "not implemented yet"
  | .never => "will not be implemented"

inductive Failure where
  | template (cause : Template.Failure)
  | execution (cause : RunFault)
  | unsupported (operation : String) (support : Support)
  | validation (subject : Uuid) (defect : Defect)
  | persistence (cluster : Uuid) (cause : StorageFault)
  | config (cause : ConfigFault)
  deriving DecidableEq, Repr

def Failure.message : Failure → String
  | .template cause => s!"template error: {cause.message}"
  | .execution cause => s!"execution error: {cause.message}"
  | .unsupported operation support => s!"{operation} is not supported: {support.message}"
  | .validation subject defect => s!"validation error for {subject}: {defect.message}"
  | .persistence cluster cause => s!"persistence error for {cluster}: {cause.message}"
  | .config cause => s!"configuration error: {cause.message}"

/-- The result of a step, its fault put into a wider class of failures. -/
def orFail {ε α : Type} (wrap : ε → Failure) : Except ε α → Except Failure α
  | .ok value => .ok value
  | .error fault => .error (wrap fault)

end ClusterLifecycle
