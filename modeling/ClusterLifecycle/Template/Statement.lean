import ClusterLifecycle.Template.Expression

/-!
Templates as trees of statements, read from their text. The statements are output, `if`, `for` and both
forms of `set`. Left out are macros and calls of them, blocks and the templates that a template extends,
includes or imports, `with`, `filter`, `autoescape`, `raw` and `do`, and in a loop conditions, `recursive` and
several variables; a template with one of these is malformed here. The templates of the program have none.
-/

namespace ClusterLifecycle.Template

inductive Statement where
  | plain (content : List Char)
  | output (value : Expression)
  | assign (name : String) (value : Expression)
  | capture (name : String) (body : List Statement)
  | refuse (record : Expression)
  | choose (condition : Expression) (yes no : List Statement)
  | each (name : String) (elements : Expression) (body otherwise : List Statement)
  deriving Repr, Inhabited

namespace Statement

open Expression (Read Setting deeper unexpected)

def reserved : List String :=
  ["true", "True", "false", "False", "none", "None", "loop", "self"]

def target (name : String) : Except Fault String :=
  if reserved.contains name then .error .malformed else .ok name

def closeStatement : List Placed → Except Fault (List Placed)
  | (.closeStatement, _) :: rest => .ok rest
  | tokens => unexpected tokens

def closeOutput : List Placed → Except Fault (List Placed)
  | (.closeOutput, _) :: rest => .ok rest
  | tokens => unexpected tokens

def expect (name : String) : List Placed → Except Fault (List Placed)
  | (.openStatement, _) :: (.name found, _) :: rest =>
    if found = name then closeStatement rest else .error .malformed
  | (.openStatement, _) :: rest => unexpected rest
  | tokens => unexpected tokens

def fieldsOf : Expression → List Placed → Except Fault (Read Expression)
  | record, (.mark ".", _) :: (.name word, _) :: rest => fieldsOf (.field record word) rest
  | _, (.mark ".", _) :: rest => unexpected rest
  | record, tokens => .ok (record, tokens)

/-- The variable that takes a value which is meant for a name or a field, and what follows. No field
takes a value, so that there the assignment is refused, after the value and the record are found. -/
def taker : Expression → String × List Statement
  | .name name _ => (name, [])
  | .field record _ => ("", [.refuse record])
  | _ => ("", [])

def expression (depth before : Nat) (tokens : List Placed) : Except Fault (Read Expression) :=
  Expression.read (Expression.enough tokens) ⟨depth, before⟩ tokens

mutual

/-- Statements up to the first that closes or divides what they are inside of. -/
def readBody : Nat → Nat → List Placed → Except Fault (Read (List Statement))
  | 0, _, _ => .error .malformed
  | fuel + 1, depth, (.plain content, _) :: rest => do
    let (more, tokens) ← readBody fuel depth rest
    .ok (.plain content :: more, tokens)
  | fuel + 1, depth, (.openOutput, line) :: rest => do
    let (value, tokens) ← expression depth line rest
    let (more, tokens) ← readBody fuel depth (← closeOutput tokens)
    .ok (.output value :: more, tokens)
  | fuel + 1, depth, (.openStatement, line) :: (.name name, nameLine) :: rest =>
    if ["if", "for", "set"].contains name then do
      let (statements, tokens) ← readStatement fuel (← deeper depth) name nameLine rest
      let (more, tokens) ← readBody fuel depth tokens
      .ok (statements ++ more, tokens)
    else .ok ([], (.openStatement, line) :: (.name name, nameLine) :: rest)
  | _ + 1, _, tokens => .ok ([], tokens)

def readStatement : Nat → Nat → String → Nat → List Placed → Except Fault (Read (List Statement))
  | 0, _, _, _, _ => .error .malformed
  | fuel + 1, depth, name, line, tokens =>
    match name with
    | "if" => do
      let (choice, tokens) ← readChoice fuel depth line tokens
      .ok ([choice], tokens)
    | "for" => do
      let (loop, tokens) ← readLoop fuel depth tokens
      .ok ([loop], tokens)
    | _ => readSet fuel depth tokens

/-- A choice after its `if` or `elif`, with everything that belongs to it. -/
def readChoice : Nat → Nat → Nat → List Placed → Except Fault (Read Statement)
  | 0, _, _, _ => .error .malformed
  | fuel + 1, depth, line, tokens => do
    let (condition, tokens) ← expression depth line tokens
    let (yes, tokens) ← readBody fuel depth (← closeStatement tokens)
    match tokens with
    | (.openStatement, _) :: (.name "elif", line) :: rest => do
      let (no, tokens) ← readChoice fuel depth line rest
      .ok (.choose condition yes [no], tokens)
    | (.openStatement, _) :: (.name "else", _) :: rest => do
      let (no, tokens) ← readBody fuel depth (← closeStatement rest)
      .ok (.choose condition yes no, ← expect "endif" tokens)
    | tokens => .ok (.choose condition yes [], ← expect "endif" tokens)

def readLoop : Nat → Nat → List Placed → Except Fault (Read Statement)
  | 0, _, _ => .error .malformed
  | fuel + 1, depth, (.name name, _) :: (.name "in", line) :: rest => do
    let name ← target name
    let (elements, tokens) ← Expression.disjunction (Expression.enough rest) ⟨depth, line⟩ rest
    let (body, tokens) ← readBody fuel depth (← closeStatement tokens)
    match tokens with
    | (.openStatement, _) :: (.name "else", _) :: rest => do
      let (otherwise, tokens) ← readBody fuel depth (← closeStatement rest)
      .ok (.each name elements body otherwise, ← expect "endfor" tokens)
    | tokens => .ok (.each name elements body [], ← expect "endfor" tokens)
  | _ + 1, _, (.name name, _) :: rest => do let _ ← target name; unexpected rest
  | _ + 1, _, tokens => unexpected tokens

/-- An assignment after its `set`: of a value, or of the text up to `endset`, which may go through
filters. -/
def readSet : Nat → Nat → List Placed → Except Fault (Read (List Statement))
  | 0, _, _ => .error .malformed
  | fuel + 1, depth, (.name name, line) :: rest => do
    let (place, rest) ← fieldsOf (.name (← target name) line) rest
    let (name, refusal) := taker place
    match rest with
    | (.mark "=", line) :: rest => do
      let (value, tokens) ← expression depth line rest
      .ok (.assign name value :: refusal, ← closeStatement tokens)
    | (.mark "|", pipeLine) :: rest => do
      let (value, tokens) ← Expression.filters (Expression.enough rest) depth (.name name line)
        ((.mark "|", pipeLine) :: rest)
      let (body, tokens) ← readBody fuel depth (← closeStatement tokens)
      .ok (.capture name body :: .assign name value :: refusal, ← expect "endset" tokens)
    | rest => do
      let (body, tokens) ← readBody fuel depth (← closeStatement rest)
      .ok (.capture name body :: refusal, ← expect "endset" tokens)
  | _ + 1, _, tokens => unexpected tokens

end

def ofText (source : List Char) : Except Fault (List Statement) := do
  let tokens := Token.ofText source
  match ← readBody (3 * (tokens.length + 1)) 0 tokens with
  | (statements, []) => .ok statements
  | (_, (.openStatement, _) :: rest) => unexpected rest
  | (_, tokens) => unexpected tokens

end Statement

end ClusterLifecycle.Template
