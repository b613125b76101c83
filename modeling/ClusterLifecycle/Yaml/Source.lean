import ClusterLifecycle.Record.Source
import ClusterLifecycle.Text.Digits
import ClusterLifecycle.Yaml.Node

/-!
YAML nodes as a source of records. A text is any scalar as it stands; numbers, truth values and the
absence of a value are plain scalars only. A list, a map or a record may be left empty. Names have
to be scalars.
-/

namespace ClusterLifecycle.Yaml

open Record

namespace Node

def text? : Node → Option String
  | .scalar text _ => some text
  | _ => none

def isVacant : Node → Bool
  | .scalar text true => text.isEmpty
  | .void => true
  | _ => false

def nullWords : List String :=
  ["", "~", "null", "Null", "NULL"]

def isNull : Node → Bool
  | .scalar text true => nullWords.contains text
  | .void => true
  | _ => false

/-- The digits of a number behind the mark of their base, for hexadecimal, octal and binary. -/
def based? : List Char → Option (Nat × List Char)
  | '0' :: 'x' :: digits => some (16, digits)
  | '0' :: 'o' :: digits => some (8, digits)
  | '0' :: 'b' :: digits => some (2, digits)
  | _ => none

/-- An unsigned number, with or without a plus sign. Decimal digits have no leading zero. -/
def number? (text : List Char) : Option Nat :=
  let digits := match text with
    | '+' :: rest => rest
    | all => all
  match based? digits with
  | some (base, digits) => Text.natural? base digits
  | none =>
    if digits.length ≥ 2 ∧ digits.head? = some '0' then none else Text.natural? 10 digits

def natural? (limit : Nat) : Node → Option Nat
  | .scalar text true => do
    let n ← number? text.toList
    if n ≤ limit then some n else none
  | _ => none

def truth? : Node → Option Bool
  | .scalar text true =>
    if ["true", "True", "TRUE"].contains text then some true
    else if ["false", "False", "FALSE"].contains text then some false
    else none
  | _ => none

def items? : Node → Option (List Node)
  | .sequence items => some items
  | node => if node.isVacant then some [] else none

def members? : Node → Option (List (String × Node))
  | .mapping entries => entries.mapM fun (key, value) => key.text?.map (·, value)
  | node => if node.isVacant then some [] else none

def source : Source Node where
  text := text?
  absent := isNull
  natural := natural?
  truth := truth?
  items := items?
  members := members?
  fields := fun _ => members?
  variant := text?

end Node

end ClusterLifecycle.Yaml
