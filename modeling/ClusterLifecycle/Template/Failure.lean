/-!
What can go wrong with a template: it is not there, it is malformed, or it cannot be rendered.
-/

namespace ClusterLifecycle.Template

/-- Why a text is no template or a template does not render. A fault of an undefined value knows
its line. -/
inductive Fault where
  | undefined (line : Nat)
  | missingRequired (line : Nat)
  | malformed
  | badEscape
  | unknownFilter
  | unknownTest
  | invalidOperation
  | missingArgument
  | tooManyArguments
  deriving DecidableEq, Repr

def Fault.message (name : String) : Fault → String
  | .undefined line => s!"undefined value (in {name}:{line})"
  | .missingRequired line => s!"undefined value: required value is missing (in {name}:{line})"
  | .malformed => "syntax error"
  | .badEscape => "bad string escape"
  | .unknownFilter => "unknown filter"
  | .unknownTest => "unknown test"
  | .invalidOperation => "invalid operation"
  | .missingArgument => "missing argument"
  | .tooManyArguments => "too many arguments"

inductive Failure where
  | notFound (name : String)
  | noDirectory (path : String)
  | render (name : String) (fault : Fault)
  deriving DecidableEq, Repr

def Failure.message : Failure → String
  | .notFound name => s!"template not found: {name}"
  | .noDirectory path => s!"template directory not found: {path}"
  | .render name fault => s!"template render error: {fault.message name}"

end ClusterLifecycle.Template
