import ClusterLifecycle.Cluster.Status
import ClusterLifecycle.Lifecycle.Operation
import ClusterLifecycle.Resource.Inspection
import ClusterLifecycle.Resource.Observation

/-!
One pass over the status of a cluster. A record in progress is observed, where a failed observation
counts as an observed error; if the observation moves the record on, the record is kept. A deletion
that completes also takes the credentials of the cluster with it. An operation in progress is over when
the cluster has arrived where it was sent, or has failed; a status that is not in progress should not have
been observed at all.
-/

namespace ClusterLifecycle

def Operation.goal : Operation → Observation
  | .create | .update => .ready
  | .delete => .notFound

def Operation.success : Operation → StatusReason
  | .create | .update => .ready
  | .delete => .deleted

/-- The status that an observation leads to and the reason for it, or nothing where the status
stays as it is. -/
def Status.transition (current : Status) (observed : Observation) : Option (Status × StatusReason) :=
  match current.stage with
  | .inProgress =>
    if observed = current.operation.goal then
      some (⟨current.operation, .complete⟩, current.operation.success)
    else if observed = .error then some (⟨current.operation, .failed⟩, .externalError)
    else none
  | .complete | .failed => some (⟨.update, .failed⟩, .unexpectedState)

/-- What a pass did: the status before and after, what was observed if anything was, and whether the
record was kept. -/
structure PassOutcome where
  previous : Status
  status : Status
  observed : Option Observation
  saved : Bool
  deriving DecidableEq, Repr

namespace Driver

def observe (driver : Driver) (cluster : Cluster) : Plan Observation :=
  (Plan.perform (cluster.observe driver.config)).bind fun
    | .ok observed => .done observed
    | .error _ => .done .error

def advance (cluster : Cluster) (observed : Option Observation) :
    Plan (Except Failure PassOutcome × Cluster) :=
  match cluster.status.transition (observed.getD .error) with
  | none => .done (.ok ⟨cluster.status, cluster.status, observed, false⟩, cluster)
  | some (status, reason) =>
    let moved := cluster.transitioned status reason
    (Plan.keep moved).bind fun
      | .ok () => .done (.ok ⟨cluster.status, status, observed, true⟩, moved)
      | .error failure => .done (.error failure, moved)

def reconcile (driver : Driver) (cluster : Cluster) : Plan (Except Failure PassOutcome × Cluster) :=
  if cluster.status.isInProgress then
    (driver.observe cluster).bind fun observed => advance cluster (some observed)
  else advance cluster none

/-- Whether a pass has just completed a deletion of which the secret is left. -/
def leavesSecret (driver : Driver) (outcome : PassOutcome) : Bool :=
  driver.config.backend == .manifests && outcome.saved && outcome.status == ⟨.delete, .complete⟩

def statusPass (driver : Driver) (cluster : Cluster) : Plan (Except Failure PassOutcome × Cluster) :=
  (driver.reconcile cluster).bind fun
    | (.error failure, after) => .done (.error failure, after)
    | (.ok outcome, after) =>
      if driver.leavesSecret outcome then
        (carryOut (Kubectl.deleteNamed driver.config "secret" after.credentialsSecret)).bind fun
          | .ok () => .done (.ok outcome, after)
          | .error failure => .done (.error failure, after)
      else .done (.ok outcome, after)

end Driver

end ClusterLifecycle
