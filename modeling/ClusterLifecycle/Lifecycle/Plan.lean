import ClusterLifecycle.Cluster.Basic
import ClusterLifecycle.Failure
import ClusterLifecycle.Program
import ClusterLifecycle.StateDirectory

/-!
What an operation on a cluster may ask for: that a command is run, and that a record is kept. On a host
commands are run as they are, and records are kept as files of a directory.
-/

namespace ClusterLifecycle

inductive Effect where
  | run (command : Command)
  | save (cluster : Cluster)
  deriving DecidableEq, Repr

def Effect.Answer : Effect → Type
  | .run _ => RunResult
  | .save _ => Except StorageFault Unit

abbrev Plan := Program Effect Effect.Answer

namespace Plan

variable {α : Type}

def perform (call : Call α) : Plan (Except Failure α) :=
  .ask (.run call.command) fun result => .done (orFail .execution (call.read result))

def keep (cluster : Cluster) : Plan (Except Failure Unit) :=
  .ask (.save cluster) fun result => .done (orFail (.persistence cluster.uuid) result)

def andThen {β : Type} (plan : Plan (Except Failure α)) (next : α → Plan (Except Failure β)) :
    Plan (Except Failure β) :=
  plan.bind fun
    | .ok value => next value
    | .error failure => .done (.error failure)

end Plan

def Effect.onHost (directory : String) : (effect : Effect) → HostProgram effect.Answer
  | .run command => Host.run command
  | .save cluster => StateDirectory.save directory cluster

def Plan.onHost {α : Type} (directory : String) (plan : Plan α) : HostProgram α :=
  plan.refine (Effect.onHost directory)

end ClusterLifecycle
