/-!
The lifecycle state stored with a cluster: which operation was last asked for and how far it got.
-/

namespace ClusterLifecycle

inductive Operation where
  | create
  | update
  | delete
  deriving DecidableEq, Repr, Inhabited

inductive Stage where
  | inProgress
  | complete
  | failed
  deriving DecidableEq, Repr, Inhabited

structure Status where
  operation : Operation
  stage : Stage
  deriving DecidableEq, Repr

namespace Operation

def name : Operation → String
  | .create => "CREATE"
  | .update => "UPDATE"
  | .delete => "DELETE"

end Operation

namespace Stage

def name : Stage → String
  | .inProgress => "IN_PROGRESS"
  | .complete => "COMPLETE"
  | .failed => "FAILED"

end Stage

namespace Status

instance : Inhabited Status := ⟨⟨.create, .inProgress⟩⟩

def all : List Status := [
  ⟨.create, .inProgress⟩, ⟨.create, .complete⟩, ⟨.create, .failed⟩,
  ⟨.update, .inProgress⟩, ⟨.update, .complete⟩, ⟨.update, .failed⟩,
  ⟨.delete, .inProgress⟩, ⟨.delete, .complete⟩, ⟨.delete, .failed⟩]

/-- The stored form, such as `CREATE_IN_PROGRESS`. -/
def name (status : Status) : String :=
  status.operation.name ++ "_" ++ status.stage.name

instance : ToString Status := ⟨name⟩

def ofName? (name : String) : Option Status :=
  all.find? fun status => status.name == name

def index (status : Status) : Nat :=
  all.idxOf status

/-- Only these can be advanced by observing the cluster. -/
def isInProgress (status : Status) : Bool :=
  status.stage == .inProgress

theorem ofName?_name (status : Status) : ofName? status.name = some status := by
  obtain ⟨operation, stage⟩ := status
  cases operation <;> cases stage <;> decide

end Status

inductive ReasonKind where
  | ready
  | deleted
  | externalError
  | unexpectedState
  deriving DecidableEq, Repr

namespace ReasonKind

def all : List ReasonKind := [.ready, .deleted, .externalError, .unexpectedState]

def name : ReasonKind → String
  | .ready => "ready"
  | .deleted => "deleted"
  | .externalError => "external_error"
  | .unexpectedState => "unexpected_state"

def ofName? (name : String) : Option ReasonKind :=
  all.find? fun kind => kind.name == name

end ReasonKind

/-- Why a cluster is in its state. Only the message is stored with the record. -/
structure StatusReason where
  kind : ReasonKind
  message : String
  deriving DecidableEq, Repr

namespace StatusReason

def ready : StatusReason := ⟨.ready, "cluster is ready"⟩

def deleted : StatusReason := ⟨.deleted, "cluster deleted"⟩

def externalError : StatusReason := ⟨.externalError, "cluster is in error state"⟩

def unexpectedState : StatusReason := ⟨.unexpectedState, "unexpected state!"⟩

end StatusReason

end ClusterLifecycle
