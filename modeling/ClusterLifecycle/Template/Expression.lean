import ClusterLifecycle.Template.Operation
import ClusterLifecycle.Template.Token

/-!
Expressions of templates and how they are read from tokens. Operators of one level associate to the
left, comparisons in a row all have to hold, and filters and tests bind closer than any operator.
What is made of constants alone is calculated while it is read. Every expression knows the line to
which a fault in it is put down: that of the last name or literal in it, or of its beginning where
it has been calculated. Left out, and malformed here, are calls of functions and methods, arguments by name,
slices, maps in braces, fractions, `/` and `**`.
-/

namespace ClusterLifecycle.Template

inductive Expression where
  | literal (value : Value) (line : Nat)
  | computed (value : Value) (line : Nat)
  | name (name : String) (line : Nat)
  | list (items : List Expression) (line : Nat)
  | field (record : Expression) (name : String)
  | item (record key : Expression)
  | negate (operand : Expression)
  | not (operand : Expression)
  | both (left right : Expression)
  | either (left right : Expression)
  | binary (operator : Operator) (left right : Expression)
  | choice (condition yes no : Expression)
  | filter (name : String) (operand : Expression) (arguments : List Expression)
  | test (name : String) (operand : Expression) (arguments : List Expression)
  deriving Repr, Inhabited

namespace Expression

mutual

def line : Expression → Nat
  | .literal _ line => line
  | .computed _ line => line
  | .name _ line => line
  | .list items line => lastLine line items
  | .field record _ => line record
  | .item _ key => line key
  | .negate operand => line operand
  | .not operand => line operand
  | .both _ right => line right
  | .either _ right => line right
  | .binary _ _ right => line right
  | .choice _ _ no => line no
  | .filter _ operand arguments => lastLine (line operand) arguments
  | .test _ operand arguments => lastLine (line operand) arguments

def lastLine (given : Nat) : List Expression → Nat
  | [] => given
  | e :: rest => lastLine (line e) rest

end

/-! ### Constants -/

def value? : Expression → Option Value
  | .literal value _ | .computed value _ => some value
  | _ => none

def literal? : Expression → Option Value
  | .literal value _ => some value
  | _ => none

/-- An expression, or its value on the line where it begins, if there is one. -/
def orComputed (start : Nat) (value : Option Value) (expression : Expression) : Expression :=
  match value with
  | some value => .computed value start
  | none => expression

def listOf (start : Nat) (items : List Expression) : Expression :=
  orComputed start ((items.mapM literal?).map .list) (.list items start)

def negateOf (start : Nat) (operand : Expression) : Expression :=
  orComputed start (do (← operand.value?).negate.toOption) (.negate operand)

def notOf (start : Nat) (operand : Expression) : Expression :=
  orComputed start (do some (.bool (!(← operand.value?).truth))) (.not operand)

def bothOf (start : Nat) (left right : Expression) : Expression :=
  orComputed start (do some (.bool ((← left.value?).truth && (← right.value?).truth)))
    (.both left right)

def eitherOf (start : Nat) (left right : Expression) : Expression :=
  orComputed start (do some (.bool ((← left.value?).truth || (← right.value?).truth)))
    (.either left right)

def binaryOf (start : Nat) (operator : Operator) (left right : Expression) : Expression :=
  orComputed start (do (Value.operate operator (← left.value?) (← right.value?)).toOption)
    (.binary operator left right)

/-! ### Reading -/

abbrev Read (α : Type) := α × List Placed

/-- Where an expression is read: how deep inside of others, and the line of the token before it. -/
structure Setting where
  depth : Nat
  before : Nat
  deriving DecidableEq, Repr

/-- How deep expressions and statements may be inside of each other. -/
def deepest : Nat := 150

def deeper (depth : Nat) : Except Fault Nat :=
  if depth < deepest then .ok (depth + 1) else .error .malformed

def unexpected {α : Type} : List Placed → Except Fault α
  | (.unreadable why, _) :: _ => .error why
  | _ => .error .malformed

def startLine : List Placed → Nat
  | (_, line) :: _ => line
  | [] => 0

def expect (mark : String) : List Placed → Except Fault (List Placed)
  | (token, line) :: rest => if token = .mark mark then .ok rest else unexpected ((token, line) :: rest)
  | [] => .error .malformed

def isNext (mark : String) : List Placed → Bool
  | (token, _) :: _ => token = .mark mark
  | [] => false

/-- The levels of operators that only differ in how close they bind. -/
inductive Level where
  | sum
  | joining
  | product
  deriving DecidableEq, Repr

def Level.closer : Level → Option Level
  | .sum => some .joining
  | .joining => some .product
  | .product => none

def Level.operator? : Level → Token → Option Operator
  | .sum, .mark "+" => some .add
  | .sum, .mark "-" => some .subtract
  | .joining, .mark "~" => some .join
  | .product, .mark "*" => some .multiply
  | .product, .mark "//" => some .divide
  | .product, .mark "%" => some .remainder
  | _, _ => none

def nextOperator? (level : Level) : List Placed → Option (Operator × List Placed)
  | (token, _) :: rest => (level.operator? token).map fun operator => (operator, rest)
  | [] => none

def comparison? : Token → Option Operator
  | .mark "==" => some .equal
  | .mark "!=" => some .unequal
  | .mark "<" => some .less
  | .mark "<=" => some .lessOrEqual
  | .mark ">" => some .greater
  | .mark ">=" => some .greaterOrEqual
  | .name "in" => some .member
  | _ => none

/-- The comparison that comes next, whether it is negated, and what follows. -/
def nextComparison? : List Placed → Option (Operator × Bool × List Placed)
  | (.name "not", _) :: (.name "in", _) :: rest => some (.member, true, rest)
  | (token, _) :: rest => (comparison? token).map fun operator => (operator, false, rest)
  | [] => none

def named? : String → Option Value
  | "true" | "True" => some (.bool true)
  | "false" | "False" => some (.bool false)
  | "none" | "None" => some .none
  | _ => none

def strings : List Placed → String × List Placed
  | (.string s, _) :: rest => let (more, tokens) := strings rest; (s ++ more, tokens)
  | tokens => ("", tokens)

/-- Whether a token after the name of a test begins its only argument. -/
def beginsArgument : Token → Bool
  | .name word => !(["and", "or", "else", "is"].contains word)
  | .string _ | .int _ => true
  | .mark s => ["+", "-", "[", "\x7b"].contains s
  | _ => false

mutual

def read : Nat → Setting → List Placed → Except Fault (Read Expression)
  | 0, _, _ => .error .malformed
  | fuel + 1, setting, tokens => do
    chosen fuel { setting with depth := ← deeper setting.depth } tokens

def chosen : Nat → Setting → List Placed → Except Fault (Read Expression)
  | 0, _, _ => .error .malformed
  | fuel + 1, setting, tokens => do
    let (left, tokens) ← disjunction fuel setting tokens
    choices fuel setting left tokens

def choices : Nat → Setting → Expression → List Placed → Except Fault (Read Expression)
  | 0, _, _, _ => .error .malformed
  | fuel + 1, setting, yes, (.name "if", line) :: rest => do
    let (condition, tokens) ← disjunction fuel ⟨setting.depth, line⟩ rest
    match tokens with
    | (.name "else", line) :: rest => do
      let (no, tokens) ← chosen fuel ⟨setting.depth, line⟩ rest
      choices fuel setting (.choice condition yes no) tokens
    | tokens => choices fuel setting (.choice condition yes (.literal .undefined yes.line)) tokens
  | _ + 1, _, left, tokens => .ok (left, tokens)

def disjunction : Nat → Setting → List Placed → Except Fault (Read Expression)
  | 0, _, _ => .error .malformed
  | fuel + 1, setting, tokens => do
    let (left, rest) ← conjunction fuel setting tokens
    disjunctions fuel setting.depth (startLine tokens) left rest

def disjunctions : Nat → Nat → Nat → Expression → List Placed → Except Fault (Read Expression)
  | 0, _, _, _, _ => .error .malformed
  | fuel + 1, depth, start, left, (.name "or", line) :: rest => do
    let (right, tokens) ← conjunction fuel ⟨depth, line⟩ rest
    disjunctions fuel depth start (eitherOf start left right) tokens
  | _ + 1, _, _, left, tokens => .ok (left, tokens)

def conjunction : Nat → Setting → List Placed → Except Fault (Read Expression)
  | 0, _, _ => .error .malformed
  | fuel + 1, setting, tokens => do
    let (left, rest) ← negation fuel setting tokens
    conjunctions fuel setting.depth (startLine tokens) left rest

def conjunctions : Nat → Nat → Nat → Expression → List Placed → Except Fault (Read Expression)
  | 0, _, _, _, _ => .error .malformed
  | fuel + 1, depth, start, left, (.name "and", line) :: rest => do
    let (right, tokens) ← negation fuel ⟨depth, line⟩ rest
    conjunctions fuel depth start (bothOf start left right) tokens
  | _ + 1, _, _, left, tokens => .ok (left, tokens)

def negation : Nat → Setting → List Placed → Except Fault (Read Expression)
  | 0, _, _ => .error .malformed
  | fuel + 1, setting, (.name "not", line) :: rest => do
    let (operand, tokens) ← negation fuel ⟨setting.depth, line⟩ rest
    .ok (notOf line operand, tokens)
  | fuel + 1, setting, tokens => do
    let (first, tokens) ← operands fuel setting.depth .sum tokens
    comparisons fuel setting none first tokens

/-- The comparisons that follow an operand; `held` is what the comparisons before it say. -/
def comparisons : Nat → Setting → Option Expression → Expression → List Placed →
    Except Fault (Read Expression)
  | 0, _, _, _, _ => .error .malformed
  | fuel + 1, setting, held, last, tokens =>
    match nextComparison? tokens with
    | none => .ok (held.getD last, tokens)
    | some (operator, negated, rest) => do
      let (right, tokens) ← operands fuel setting.depth .sum rest
      let compared := binaryOf setting.before operator last right
      let compared := if negated then notOf setting.before compared else compared
      let all := match held with
        | some earlier => bothOf setting.before earlier compared
        | none => compared
      comparisons fuel setting (some all) right tokens

def operands : Nat → Nat → Level → List Placed → Except Fault (Read Expression)
  | 0, _, _, _ => .error .malformed
  | fuel + 1, depth, level, tokens => do
    let (left, rest) ← closer fuel depth level tokens
    operations fuel depth level (startLine tokens) left rest

def closer : Nat → Nat → Level → List Placed → Except Fault (Read Expression)
  | 0, _, _, _ => .error .malformed
  | fuel + 1, depth, level, tokens =>
    match level.closer with
    | some next => operands fuel depth next tokens
    | none => operand fuel depth tokens

def operations : Nat → Nat → Level → Nat → Expression → List Placed → Except Fault (Read Expression)
  | 0, _, _, _, _, _ => .error .malformed
  | fuel + 1, depth, level, start, left, tokens =>
    match nextOperator? level tokens with
    | none => .ok (left, tokens)
    | some (operator, rest) => do
      let (right, tokens) ← closer fuel depth level rest
      operations fuel depth level start (binaryOf start operator left right) tokens

/-- An operand with the fields, items, filters and tests that follow it. -/
def operand : Nat → Nat → List Placed → Except Fault (Read Expression)
  | 0, _, _ => .error .malformed
  | fuel + 1, depth, tokens => do
    let (inner, tokens) ← reference fuel depth tokens
    filters fuel depth inner tokens

def reference : Nat → Nat → List Placed → Except Fault (Read Expression)
  | 0, _, _ => .error .malformed
  | fuel + 1, depth, tokens => do
    let (inner, tokens) ← signed fuel depth tokens
    fields fuel depth inner tokens

def signed : Nat → Nat → List Placed → Except Fault (Read Expression)
  | 0, _, _ => .error .malformed
  | fuel + 1, depth, (.mark "-", line) :: rest => do
    let (inner, tokens) ← signed fuel depth rest
    .ok (negateOf line inner, tokens)
  | fuel + 1, depth, tokens => do primary fuel (← deeper depth) tokens

def primary : Nat → Nat → List Placed → Except Fault (Read Expression)
  | 0, _, _ => .error .malformed
  | _ + 1, _, (.name word, line) :: rest =>
    match named? word with
    | some value => .ok (.literal value line, rest)
    | none => .ok (.name word line, rest)
  | _ + 1, _, (.string s, line) :: rest =>
    let (more, tokens) := strings rest
    .ok (.literal (.string (s ++ more)) line, tokens)
  | _ + 1, _, (.int n, line) :: rest => .ok (.literal (.int n) line, rest)
  | fuel + 1, depth, (.mark "(", line) :: rest => parenthesised fuel depth line rest
  | fuel + 1, depth, (.mark "[", line) :: rest => do
    let (items, tokens) ← items fuel ⟨depth, line⟩ "]" rest
    .ok (listOf line items, tokens)
  | _ + 1, _, tokens => unexpected tokens

/-- What stands in parentheses: an expression, or the items of a list where there is none or a comma. -/
def parenthesised : Nat → Nat → Nat → List Placed → Except Fault (Read Expression)
  | 0, _, _, _ => .error .malformed
  | fuel + 1, depth, line, tokens =>
    if isNext ")" tokens then .ok (listOf line [], tokens.drop 1)
    else do
      let (first, tokens) ← read fuel ⟨depth, line⟩ tokens
      if isNext "," tokens then
        let (more, tokens) ← items fuel ⟨depth, startLine tokens⟩ ")" (tokens.drop 1)
        .ok (listOf line (first :: more), tokens)
      else .ok (first, ← expect ")" tokens)

/-- Expressions between commas up to a closing mark; a comma may stand before it. -/
def items : Nat → Setting → String → List Placed → Except Fault (Read (List Expression))
  | 0, _, _, _ => .error .malformed
  | fuel + 1, setting, close, tokens =>
    if isNext close tokens then .ok ([], tokens.drop 1)
    else do
      let (first, tokens) ← read fuel setting tokens
      if isNext close tokens then .ok ([first], tokens.drop 1)
      else do
        let comma := startLine tokens
        let (more, tokens) ← items fuel ⟨setting.depth, comma⟩ close (← expect "," tokens)
        .ok (first :: more, tokens)

def fields : Nat → Nat → Expression → List Placed → Except Fault (Read Expression)
  | 0, _, _, _ => .error .malformed
  | fuel + 1, depth, record, (.mark ".", _) :: (.name word, _) :: rest =>
    fields fuel depth (.field record word) rest
  | fuel + 1, depth, record, (.mark ".", _) :: (.int n, line) :: rest =>
    fields fuel depth (.item record (.literal (.int n) line)) rest
  | _ + 1, _, _, (.mark ".", _) :: rest => unexpected rest
  | fuel + 1, depth, record, (.mark "[", line) :: rest => do
    let (key, tokens) ← read fuel ⟨depth, line⟩ rest
    fields fuel depth (.item record key) (← expect "]" tokens)
  | _ + 1, _, _, (.mark "(", _) :: _ => .error .malformed
  | _ + 1, _, record, tokens => .ok (record, tokens)

def filters : Nat → Nat → Expression → List Placed → Except Fault (Read Expression)
  | 0, _, _, _ => .error .malformed
  | fuel + 1, depth, inner, (.mark "|", _) :: (.name word, _) :: rest => do
    let (arguments, tokens) ← arguments fuel depth rest
    filters fuel depth (.filter word inner arguments) tokens
  | _ + 1, _, _, (.mark "|", _) :: rest => unexpected rest
  | fuel + 1, depth, inner, (.name "is", _) :: (.name "not", _) :: (.name word, _) :: rest => do
    let (arguments, tokens) ← testArguments fuel depth rest
    filters fuel depth (.not (.test word inner arguments)) tokens
  | _ + 1, _, _, (.name "is", _) :: (.name "not", _) :: rest => unexpected rest
  | fuel + 1, depth, inner, (.name "is", _) :: (.name word, _) :: rest => do
    let (arguments, tokens) ← testArguments fuel depth rest
    filters fuel depth (.test word inner arguments) tokens
  | _ + 1, _, _, (.name "is", _) :: rest => unexpected rest
  | _ + 1, _, inner, tokens => .ok (inner, tokens)

def arguments : Nat → Nat → List Placed → Except Fault (Read (List Expression))
  | 0, _, _ => .error .malformed
  | fuel + 1, depth, (.mark "(", line) :: rest => items fuel ⟨depth, line⟩ ")" rest
  | _ + 1, _, tokens => .ok ([], tokens)

/-- The arguments of a test, of which a single one needs no parentheses. -/
def testArguments : Nat → Nat → List Placed → Except Fault (Read (List Expression))
  | 0, _, _ => .error .malformed
  | fuel + 1, depth, (token, line) :: rest =>
    if beginsArgument token then do
      let (argument, tokens) ← reference fuel depth ((token, line) :: rest)
      .ok ([argument], tokens)
    else arguments fuel depth ((token, line) :: rest)
  | _ + 1, _, [] => .ok ([], [])

end

def enough (tokens : List Placed) : Nat :=
  24 * (tokens.length + 1)

end Expression

end ClusterLifecycle.Template
