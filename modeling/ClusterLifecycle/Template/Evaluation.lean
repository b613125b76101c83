import ClusterLifecycle.Template.Statement
import ClusterLifecycle.Text.Bytes

/-!
What expressions evaluate to and what statements print. A missing value may be replaced by a default
and asked about, and is a fault wherever it is printed, compared, joined to a text, tested for truth,
looped over or asked for a field. Every round of a loop sees the variables from before the loop.

Of the filters of the template language there are `default`, `required`, `base64_encode` and `tojson`, and of
its tests `defined`, `undefined` and `none`. The others are left out, and their names are unknown here. So are
the global functions, and what `loop` tells besides where the round stands among all: how deep the loop is in
others, the elements next to the present one, `cycle` and `changed`. The templates of the program use none of
it.
-/

namespace ClusterLifecycle.Template

abbrev Scope := List (String × Value)

/-- A text with the characters that mean something in markup escaped. -/
def escapeMarkup (c : Char) : List Char :=
  if c = '<' then ['\\', 'u', '0', '0', '3', 'c']
  else if c = '>' then ['\\', 'u', '0', '0', '3', 'e']
  else if c = '&' then ['\\', 'u', '0', '0', '2', '6']
  else if c = '\'' then ['\\', 'u', '0', '0', '2', '7']
  else [c]

namespace Value

def toJson (value : Value) : String :=
  String.ofList (value.toDocument.compact.flatMap escapeMarkup)

def toBase64 (s : String) : String :=
  String.ofList (Text.Base64.encode (Text.Utf8.encode s.toList))

def filtered (name : String) (value : Value) (line : Nat) : Except Fault Value :=
  match name with
  | "required" => if value.isMissing then .error (.missingRequired line) else .ok value
  | "base64_encode" => match value with
    | .string s => .ok (.string (toBase64 s))
    | _ => .error .invalidOperation
  | "tojson" => .ok (.string value.toJson)
  | "default" => .error .missingArgument
  | _ => .error .unknownFilter

def filter (name : String) (value : Value) (arguments : List Value) (line : Nat) : Except Fault Value :=
  match name, arguments with
  | "default", [fallback] => .ok (if value.isMissing then fallback else value)
  | name, [] => filtered name value line
  | name, _ =>
    if ["default", "required", "base64_encode", "tojson"].contains name then .error .tooManyArguments
    else .error .unknownFilter

def test (name : String) (value : Value) (arguments : List Value) : Except Fault Bool := do
  let answer ← match name with
    | "defined" => .ok (!value.isUndefined)
    | "undefined" => .ok value.isUndefined
    | "none" => .ok (match value with | .none => true | _ => false)
    | _ => .error .unknownTest
  if arguments.isEmpty then .ok answer else .error .tooManyArguments

end Value

namespace Expression

def truth (value : Value) (line : Nat) : Except Fault Bool := do
  .ok (← value.known line).truth

mutual

def evaluate (scope : Scope) : Expression → Except Fault Value
  | .literal value _ => .ok value
  | .computed value _ => .ok value
  | .name word _ => .ok ((scope.lookup word).getD .undefined)
  | .list items _ => do .ok (.list (← evaluateAll scope items))
  | .field record word => do
    let value ← evaluate scope record
    .ok ((← value.known (line record)).field word)
  | .item record key => do
    let value ← evaluate scope record
    let index ← evaluate scope key
    .ok ((← value.known (line key)).item index)
  | .negate operand => do (← evaluate scope operand).negate
  | .not operand => do
    let value ← evaluate scope operand
    .ok (.bool (!(← truth value (line operand))))
  | .both left right => do
    let value ← evaluate scope left
    if ← truth value (line left) then evaluate scope right else .ok value
  | .either left right => do
    let value ← evaluate scope left
    if ← truth value (line left) then .ok value else evaluate scope right
  | .binary operator left right => do
    let a ← evaluate scope left
    let b ← evaluate scope right
    Value.operateAt operator a b (line right)
  | .choice condition yes no => do
    let value ← evaluate scope condition
    if ← truth value (line condition) then evaluate scope yes else evaluate scope no
  | .filter word operand arguments => do
    let value ← evaluate scope operand
    let given ← evaluateAll scope arguments
    value.filter word given (lastLine (line operand) arguments)
  | .test word operand arguments => do
    let value ← evaluate scope operand
    let given ← evaluateAll scope arguments
    .ok (.bool (← value.test word given))

def evaluateAll (scope : Scope) : List Expression → Except Fault (List Value)
  | [] => .ok []
  | e :: rest => do
    let first ← evaluate scope e
    let more ← evaluateAll scope rest
    .ok (first :: more)

end

end Expression

def counted : Option Nat → Value
  | none => .undefined
  | some n => .int n

/-- What a loop says about the round it is in; `length?` is the number of rounds if it is known. -/
def round (index : Nat) (length? : Option Nat) : Value :=
  .map [
    ("index", .int (index + 1)), ("index0", .int index),
    ("revindex", counted (length?.map (· - index))),
    ("revindex0", counted (length?.map (· - index - 1))),
    ("first", .bool (index = 0)), ("last", .bool (length? = some (index + 1))),
    ("length", counted length?)]

namespace Statement

def elements (value : Value) (line : Nat) : Except Fault (List Value) := do
  match (← value.known line).elements? with
  | some found => .ok found
  | none => .error .invalidOperation

mutual

def render (scope : Scope) : Statement → Except Fault (Scope × List Char)
  | .plain content => .ok (scope, content)
  | .output value => do
    let result ← value.evaluate scope
    .ok (scope, (← result.known value.line).text)
  | .assign name value => do
    .ok ((name, ← value.evaluate scope) :: scope, [])
  | .capture name body => do
    let (inner, text) ← renderAll scope body
    .ok ((name, .string (String.ofList text)) :: inner, [])
  | .refuse record => do
    let _ ← record.evaluate scope
    .error .invalidOperation
  | .choose condition yes no => do
    let value ← condition.evaluate scope
    if ← Expression.truth value condition.line then renderAll scope yes
    else renderAll scope no
  | .each name source body otherwise => do
    let value ← source.evaluate scope
    let found ← elements value source.line
    if found.isEmpty then renderAll scope otherwise
    else do
      let length? := if value.isCounted then some found.length else none
      let texts ← found.zipIdx.mapM fun (element, index) => do
        let (_, text) ← renderAll ((name, element) :: ("loop", round index length?) :: scope) body
        .ok text
      .ok (scope, texts.flatten)

def renderAll (scope : Scope) : List Statement → Except Fault (Scope × List Char)
  | [] => .ok (scope, [])
  | statement :: rest => do
    let (after, text) ← render scope statement
    let (final, more) ← renderAll after rest
    .ok (final, text ++ more)

end

end Statement

end ClusterLifecycle.Template
