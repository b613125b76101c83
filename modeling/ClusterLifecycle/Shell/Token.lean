import ClusterLifecycle.Text.Digits

/-!
Shell scripts as tokens: words with the quoting of their parts, redirections, and the marks between
commands. Only parameters can be substituted; variables and output of commands cannot.
-/

namespace ClusterLifecycle.Shell

inductive Parameter where
  | argument (n : Nat)
  | each
  | joined
  | count
  | process
  | status
  deriving DecidableEq, Repr

inductive Piece where
  | text (content : List Char) (quoted : Bool)
  | parameter (parameter : Parameter) (quoted : Bool)
  deriving DecidableEq, Repr

abbrev Word := List Piece

inductive Redirection where
  | read (source : Word)
  | write (descriptor : Nat) (target : Word) (append : Bool)
  | copy (descriptor source : Nat)
  deriving DecidableEq, Repr

inductive Mark where
  | semicolon
  | newline
  | both
  | either
  | pipe
  deriving DecidableEq, Repr

inductive Token where
  | word (content : Word)
  | mark (kind : Mark)
  | redirect (target : Word → Redirection)
  | duplicate (descriptor : Nat)

abbrev Located := Token × Nat

namespace Token

def endsWord (c : Char) : Bool :=
  [' ', '\t', '\n', ';', '&', '|', '<', '>', '(', ')'].contains c

def isSpecial (c : Char) : Bool :=
  endsWord c || ['\'', '"', '\\', '$', '\x60'].contains c

def parameter? (c : Char) : Option Parameter :=
  match c with
  | '@' => some .each
  | '*' => some .joined
  | '#' => some .count
  | '$' => some .process
  | '?' => some .status
  | c => (Text.decimalDigit? c).map .argument

/-- What follows a dollar sign. A sign before anything else stands for itself, and what would need
a variable or a substitution is refused. -/
def dollar (quoted : Bool) : List Char → Option (Piece × List Char)
  | [] => some (.text ['$'] quoted, [])
  | c :: rest =>
    match parameter? c with
    | some found => some (.parameter found quoted, rest)
    | none =>
      if c.isAlpha || ['_', '{', '('].contains c then none
      else some (.text ['$'] quoted, c :: rest)

def doubleQuoted : Nat → List Char → Option (Word × List Char)
  | 0, _ | _, [] => none
  | _, '"' :: rest => some ([], rest)
  | fuel + 1, '\\' :: '\n' :: rest => doubleQuoted fuel rest
  | fuel + 1, '\\' :: c :: rest => do
    let content := if ['$', '\x60', '"', '\\'].contains c then [c] else ['\\', c]
    let (more, rest) ← doubleQuoted fuel rest
    some (.text content true :: more, rest)
  | fuel + 1, '$' :: rest => do
    let (piece, rest) ← dollar true rest
    let (more, rest) ← doubleQuoted fuel rest
    some (piece :: more, rest)
  | fuel + 1, c :: rest =>
    if c = '\x60' then none
    else do
      let (more, rest) ← doubleQuoted fuel rest
      some (.text [c] true :: more, rest)

def readWord : Nat → List Char → Option (Word × List Char)
  | 0, _ => none
  | _, [] => some ([], [])
  | fuel + 1, '\'' :: rest => do
    let content := rest.takeWhile (· ≠ '\'')
    let rest := rest.drop content.length
    if rest.isEmpty then none
    let (more, rest) ← readWord fuel (rest.drop 1)
    some (.text content true :: more, rest)
  | fuel + 1, '"' :: rest => do
    let (inside, rest) ← doubleQuoted (rest.length + 1) rest
    let (more, rest) ← readWord fuel rest
    some (.text [] true :: inside ++ more, rest)
  | fuel + 1, '\\' :: '\n' :: rest => readWord fuel rest
  | fuel + 1, '\\' :: c :: rest => do
    let (more, rest) ← readWord fuel rest
    some (.text [c] true :: more, rest)
  | fuel + 1, '$' :: rest => do
    let (piece, rest) ← dollar false rest
    let (more, rest) ← readWord fuel rest
    some (piece :: more, rest)
  | fuel + 1, c :: rest =>
    if c = '\x60' then none
    else if endsWord c then some ([], c :: rest)
    else do
      let content := (c :: rest).takeWhile fun c => !isSpecial c
      let content := if content.isEmpty then [c] else content
      let (more, rest) ← readWord fuel ((c :: rest).drop content.length)
      some (.text content false :: more, rest)

/-- A redirection behind its descriptor, which is given for input and output by default. -/
def redirection (given : Option Nat) : List Char → Option (Token × List Char)
  | '>' :: '>' :: rest => some (.redirect (.write (given.getD 1) · true), rest)
  | '>' :: '&' :: rest => some (.duplicate (given.getD 1), rest)
  | '>' :: rest => some (.redirect (.write (given.getD 1) · false), rest)
  | '<' :: rest =>
    if given.getD 0 = 0 ∧ ¬ ['<', '&', '>'].contains (rest.head?.getD ' ') then some (.redirect .read, rest)
    else none
  | _ => none

def read : Nat → Nat → List Char → Option (List Located)
  | 0, _, _ => none
  | _, _, [] => some []
  | fuel + 1, line, '\\' :: '\n' :: rest => read fuel (line + 1) rest
  | fuel + 1, line, '&' :: '&' :: rest => mark fuel line .both rest
  | fuel + 1, line, '|' :: '|' :: rest => mark fuel line .either rest
  | fuel + 1, line, c :: rest =>
    if c = ' ' ∨ c = '\t' then read fuel line rest
    else if c = '\n' then do some ((.mark .newline, line) :: (← read fuel (line + 1) rest))
    else if c = '#' then read fuel line (rest.dropWhile (· ≠ '\n'))
    else if c = ';' then mark fuel line .semicolon rest
    else if c = '|' then mark fuel line .pipe rest
    else if ['&', '(', ')'].contains c then none
    else do
      let digits := (c :: rest).takeWhile Text.isDecimal
      let behind := (c :: rest).drop digits.length
      match redirection (Text.natural? 10 digits) behind with
      | some (token, rest) => some ((token, line) :: (← read fuel line rest))
      | none =>
        if c = '<' ∨ c = '>' then none
        let (found, left) ← readWord (rest.length + 2) (c :: rest)
        let inside := ((c :: rest).take (rest.length + 1 - left.length)).count '\n'
        some ((.word found, line) :: (← read fuel (line + inside) left))
where
  mark (fuel line : Nat) (mark : Mark) (rest : List Char) : Option (List Located) := do
    some ((.mark mark, line) :: (← read fuel line rest))

def bare? (found : Word) : Option (List Char) :=
  found.foldr (fun piece rest => do
    match piece with
    | .text content false => some (content ++ (← rest))
    | _ => none) (some [])

def isReserved (name : String) : Token → Bool
  | .word found => bare? found == some name.toList
  | _ => false

def isMark (marks : List Mark) : Token → Bool
  | .mark found => marks.contains found
  | _ => false

end Token

end ClusterLifecycle.Shell
