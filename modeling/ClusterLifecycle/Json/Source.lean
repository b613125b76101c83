import ClusterLifecycle.Json.Document
import ClusterLifecycle.Record.Source

/-!
JSON documents as a source of records. Nothing is converted: a number has to be written as a plain
unsigned integer, a text as a string. A record is an object, or an array of its fields in their
order without the names.
-/

namespace ClusterLifecycle.Json

open Record

namespace Document

def text? : Document → Option String
  | .string s => s
  | _ => none

def isNull : Document → Bool
  | .null => true
  | _ => false

def natural? (limit : Nat) : Document → Option Nat
  | .number ⟨false, whole, [], none⟩ => do
    let n ← Text.natural? 10 whole
    if n ≤ limit then some n else none
  | _ => none

def truth? : Document → Option Bool
  | .bool b => some b
  | _ => none

def items? : Document → Option (List Document)
  | .array items => some items
  | _ => none

def named (members : List (Option String × Document)) : Option (List (String × Document)) :=
  members.mapM fun (name, value) => name.map fun name => (name, value)

def members? : Document → Option (List (String × Document))
  | .object members => named members
  | _ => none

def fields? (names : List String) : Document → Option (List (String × Document))
  | .object members => named members
  | .array items => if items.length ≤ names.length then some (names.zip items) else none
  | _ => none

/-- The name of a variant: the string itself, or the only member of an object, with null for its
value. -/
def variant? : Document → Option String
  | .string s => s
  | .object [(name, .null)] => name
  | _ => none

def source : Source Document where
  text := text?
  absent := isNull
  natural := natural?
  truth := truth?
  items := items?
  members := members?
  fields := fields?
  variant := variant?

end Document

end ClusterLifecycle.Json
