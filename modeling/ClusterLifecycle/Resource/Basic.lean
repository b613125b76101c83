import ClusterLifecycle.Cluster.File
import ClusterLifecycle.Json.Value
import ClusterLifecycle.Text.Timestamp

/-!
External resources as they are fetched: a type, metadata, and all other data as JSON. Of the
metadata only the name and the annotations are kept, yet all of it has to be well formed.
-/

namespace ClusterLifecycle

open Json

structure Resource where
  types : Option (String × String)
  name : Option String
  annotations : Option TextMap
  data : List (String × Value)
  deriving Repr

namespace Resource

inductive Shape where
  | text
  | texts
  | textMap
  | integer
  | truth
  | time
  | data
  | record (fields : List (String × Shape))
  | records (fields : List (String × Shape))

def managedFieldShapes : List (String × Shape) := [
  ("apiVersion", .text), ("fieldsType", .text), ("fieldsV1", .data), ("manager", .text),
  ("operation", .text), ("subresource", .text), ("time", .time)]

def ownerShapes : List (String × Shape) := [
  ("apiVersion", .text), ("blockOwnerDeletion", .truth), ("controller", .truth), ("kind", .text),
  ("name", .text), ("uid", .text)]

def metadataShapes : List (String × Shape) := [
  ("annotations", .textMap), ("creationTimestamp", .time), ("deletionGracePeriodSeconds", .integer),
  ("deletionTimestamp", .time), ("finalizers", .texts), ("generateName", .text),
  ("generation", .integer), ("labels", .textMap), ("managedFields", .records managedFieldShapes),
  ("name", .text), ("namespace", .text), ("ownerReferences", .records ownerShapes),
  ("resourceVersion", .text), ("selfLink", .text), ("uid", .text)]

def isInteger : Document → Bool
  | .number n => match n.integer? with
    | some i => i < (UInt64.size / 2 : Nat)
    | none => false
  | _ => false

mutual

/-- Whether a document has a shape, data nesting no deeper than `room`. -/
def fits (room : Nat) : Shape → Document → Bool
  | _, .null => true
  | .text, document => document.text?.isSome
  | .texts, .array items => items.all (·.text?.isSome)
  | .texts, _ => false
  | .textMap, document => (TextMap.read Document.source document).isSome
  | .integer, document => isInteger document
  | .truth, document => document.truth?.isSome
  | .time, document => match document.text? with
    | some text => Text.Timestamp.isTimestamp text.toList
    | none => false
  | .data, document => (Value.ofDocument? room document).isSome
  | .record fields, .object members => fitsMembers (room - 1) fields members
  | .record _, _ => false
  | .records fields, .array items => items.all fun item => match item with
    | .object members => fitsMembers (room - 2) fields members
    | _ => false
  | .records _, _ => false

/-- Known members have to fit however often they occur, the others need a name only. -/
def fitsMembers (room : Nat) (fields : List (String × Shape)) (members : List (Option String × Document)) : Bool :=
  members.all fun (name, value) => match name with
    | none => false
    | some name => fitsNamed room fields name value

def fitsNamed (room : Nat) (fields : List (String × Shape)) (name : String) (value : Document) : Bool :=
  match fields with
  | [] => true
  | (known, shape) :: rest => if known = name then fits room shape value else fitsNamed room rest name value

end

def lastMember? (name : String) (members : List (Option String × Document)) : Option Document :=
  members.reverse.lookup (some name)

/-- The type and the remaining data. Reading the type takes the members that belong to it out of
the data one after the other and stops at the first that is no text or a repetition; there is a
type only if nothing stopped it and both parts were found. -/
def takeTypes (version kind : Option String) :
    List (String × Value) → Option (String × String) × List (String × Value)
  | [] => (do some (← version, ← kind), [])
  | (name, value) :: rest =>
    if name = "apiVersion" then
      match version, value with
      | none, .string text => takeTypes (some text) kind rest
      | _, _ => (none, rest)
    else if name = "kind" then
      match kind, value with
      | none, .string text => takeTypes version (some text) rest
      | _, _ => (none, rest)
    else
      let (types, data) := takeTypes version kind rest
      (types, (name, value) :: data)

def metadataKey : Option String := some "metadata"

def ofDocument? : Document → Option Resource
  | .object members => do
    let room := nestingLimit - 1
    let data ← Value.ofMembers? room (members.filter (·.1 != metadataKey))
    let metadata ← match members.filter (·.1 == metadataKey) with
      | [] => some []
      | [(_, .object fields)] => if fitsMembers (room - 1) metadataShapes fields then some fields else none
      | _ => none
    let (types, data) := takeTypes none none data
    let annotations := do TextMap.read Document.source (← lastMember? "annotations" metadata)
    let name := do (← lastMember? "name" metadata).text?
    some { types, name, annotations, data := Value.sorted data }
  | _ => none

def ofText? (text : String) : Option Resource := do
  ofDocument? (← Document.ofText? text.toList)

end Resource

end ClusterLifecycle
