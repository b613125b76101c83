import ClusterLifecycle.Shell.Token

/-!
Small shell scripts: commands joined in pipelines, sequences and conditions, and choices between
them. There are no loops and no functions.
-/

namespace ClusterLifecycle.Shell

inductive Step where
  | nothing
  | simple (line : Nat) (words : List Word) (redirections : List Redirection)
  | next (first second : Step)
  | both (first second : Step)
  | either (first second : Step)
  | negate (step : Step)
  | pipe (source target : Step)
  | choose (condition yes no : Step)
  deriving Repr, Inhabited

abbrev Parsed := Option (Step × List Located)

namespace Step

def isNext (kind : Token → Bool) : List Located → Bool
  | [] => false
  | (token, _) :: _ => kind token

def skipMarks (marks : List Mark) (tokens : List Located) : List Located :=
  tokens.dropWhile fun token => Token.isMark marks token.1

def isClosed (tokens : List Located) : Bool :=
  tokens.isEmpty || ["then", "elif", "else", "fi"].any fun name => isNext (Token.isReserved name) tokens

/-- Whether a construct starts here that is no part of the language. -/
def isForeign (tokens : List Located) : Bool :=
  ["case", "do", "done", "esac", "for", "until", "while", "\x7b", "\x7d"].any fun name =>
    isNext (Token.isReserved name) tokens

def expect (name : String) (tokens : List Located) : Option (List Located) :=
  if isNext (Token.isReserved name) tokens then some tokens.tail else none

/-- A command without structure: its words and redirections in any order. -/
def simpleFrom (line : Nat) (words : List Word) (redirections : List Redirection) :
    List Located → Parsed
  | (.word word, _) :: rest => simpleFrom line (word :: words) redirections rest
  | (.redirect target, _) :: (.word word, _) :: rest =>
    simpleFrom line words (target word :: redirections) rest
  | (.duplicate descriptor, _) :: (.word word, _) :: rest => do
    let source ← Text.natural? 10 (← Token.bare? word)
    simpleFrom line words (.copy descriptor source :: redirections) rest
  | (.redirect _, _) :: _ | (.duplicate _, _) :: _ => none
  | rest =>
    if words.isEmpty && redirections.isEmpty then none
    else some (.simple line words.reverse redirections.reverse, rest)

mutual

def sequence : Nat → List Located → Parsed
  | 0, _ => none
  | fuel + 1, tokens => do
    let tokens := skipMarks [.newline] tokens
    if isClosed tokens then return (.nothing, tokens)
    let (first, rest) ← conditional fuel tokens
    if isNext (Token.isMark [.semicolon, .newline]) rest then
      let (second, rest) ← sequence fuel rest.tail
      return (match second with | .nothing => first | second => .next first second, rest)
    return (first, rest)

def conditional : Nat → List Located → Parsed
  | 0, _ => none
  | fuel + 1, tokens => do
    let (first, rest) ← pipeline fuel tokens
    conditionalFrom fuel first rest

def conditionalFrom : Nat → Step → List Located → Parsed
  | 0, _, _ => none
  | fuel + 1, first, tokens => do
    if isNext (Token.isMark [.both]) tokens then
      let (second, rest) ← pipeline fuel (skipMarks [.newline] tokens.tail)
      return ← conditionalFrom fuel (.both first second) rest
    if isNext (Token.isMark [.either]) tokens then
      let (second, rest) ← pipeline fuel (skipMarks [.newline] tokens.tail)
      return ← conditionalFrom fuel (.either first second) rest
    return (first, tokens)

def pipeline : Nat → List Located → Parsed
  | 0, _ => none
  | fuel + 1, tokens => do
    if isNext (Token.isReserved "!") tokens then
      let (step, rest) ← pipeline fuel tokens.tail
      return (.negate step, rest)
    let (first, rest) ← command fuel tokens
    if isNext (Token.isMark [.pipe]) rest then
      let (second, rest) ← pipeline fuel (skipMarks [.newline] rest.tail)
      return (.pipe first second, rest)
    return (first, rest)

def command : Nat → List Located → Parsed
  | 0, _ => none
  | fuel + 1, tokens =>
    if isClosed tokens || isForeign tokens then none
    else if isNext (Token.isReserved "if") tokens then choice fuel tokens.tail
    else simpleFrom ((tokens.head?.map Prod.snd).getD 1) [] [] tokens

/-- The rest of a choice behind the word that opens one of its branches. -/
def choice : Nat → List Located → Parsed
  | 0, _ => none
  | fuel + 1, tokens => do
    let (condition, rest) ← sequence fuel tokens
    let (yes, rest) ← sequence fuel (← expect "then" rest)
    if isNext (Token.isReserved "elif") rest then
      let (no, rest) ← choice fuel rest.tail
      return (.choose condition yes no, rest)
    if isNext (Token.isReserved "else") rest then
      let (no, rest) ← sequence fuel rest.tail
      return (.choose condition yes no, ← expect "fi" rest)
    return (.choose condition yes .nothing, ← expect "fi" rest)

end

def ofText? (text : List Char) : Option Step := do
  let tokens ← Token.read (text.length + 1) 1 text
  match ← sequence (6 * tokens.length + 6) tokens with
  | (step, []) => some step
  | _ => none

end Step

end ClusterLifecycle.Shell
