import ClusterLifecycle.Resource.Basic

/-!
What a fetched resource says about its cluster. Only a resource whose operator has handled the
configuration it holds now is taken at its word.
-/

namespace ClusterLifecycle

inductive Observation where
  | ready
  | pending
  | error
  | notFound
  deriving DecidableEq, Repr

namespace Observation

def all : List Observation := [.ready, .pending, .error, .notFound]

def name : Observation → String
  | .ready => "READY"
  | .pending => "PENDING"
  | .error => "ERROR"
  | .notFound => "NOT_FOUND"

def ofName? (name : String) : Option Observation :=
  all.find? fun observation => observation.name == name

/-- What a phase means. Phases that say neither success nor failure are on their way. -/
def ofPhase (phase : String) : Observation :=
  if phase = "Ready" then .ready
  else if phase = "Failed" ∨ phase = "Unhealthy" then .error
  else .pending

end Observation

namespace Resource

open Json

def phase? (resource : Resource) : Option String := do
  ((← (← resource.data.lookup "status").member? "phase")).text?

def desired (resource : Resource) : Value :=
  (resource.data.lookup "spec").getD .null

/-- The configuration that the operator says it has handled, in an annotation that holds JSON. -/
def handled? (resource : Resource) (key : String) : Option Value := do
  let record ← Value.ofText? (← (← resource.annotations).find? key)
  some ((record.member? "spec").getD .null)

def isHandled (resource : Resource) (key : String) : Bool :=
  match resource.handled? key with
  | some spec => spec.same resource.desired
  | none => false

end Resource

namespace Observation

def classify (key : String) : Option Resource → Observation
  | none => .notFound
  | some resource =>
    match resource.phase? with
    | none => .pending
    | some phase => if resource.isHandled key then ofPhase phase else .pending

end Observation

end ClusterLifecycle
