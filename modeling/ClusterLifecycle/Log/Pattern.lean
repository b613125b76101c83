import ClusterLifecycle.Text.Property
import ClusterLifecycle.Text.Blank
import ClusterLifecycle.Text.Digits

/-!
Which texts are search patterns. A pattern is made of characters, classes in square brackets,
groups, alternatives, repetitions and anchors. There are no tables of scripts and of cases, so what
needs one (a class of letters or digits, a boundary of words, disregard of case) is refused as long
as the pattern is about characters and not about bytes.
-/

namespace ClusterLifecycle.Log.Pattern

open Text

/-- How a part of a pattern is meant: about characters, and without regard to case. -/
structure Mode where
  characters : Bool
  anyCase : Bool
  deriving DecidableEq, Repr

def Mode.isMatchable (mode : Mode) : Bool :=
  !(mode.characters && mode.anyCase)

inductive Escape where
  | character (c : Char)
  | members
  | others
  | anchor
  | boundary
  deriving DecidableEq, Repr

/-- The character with a code of a fixed number of hexadecimal digits. -/
def coded (width : Nat) (text : List Char) : Option (Escape × List Char) := do
  let n ← if text.length < width then none else natural? 16 (text.take width)
  if n ≤ 0x10FFFF ∧ ¬ (0xD800 ≤ n ∧ n ≤ 0xDFFF) then some (.character (Char.ofNat n), text.drop width)
  else none

def escape : List Char → Option (Escape × List Char)
  | [] => none
  | 'x' :: rest => coded 2 rest
  | 'u' :: rest => coded 4 rest
  | 'U' :: rest => coded 8 rest
  | c :: rest =>
    if ['d', 's', 'w'].contains c then some (.members, rest)
    else if ['D', 'S', 'W'].contains c then some (.others, rest)
    else if ['A', 'z'].contains c then some (.anchor, rest)
    else if ['b', 'B', '<', '>'].contains c then some (.boundary, rest)
    else match [('a', '\x07'), ('f', '\x0c'), ('t', '\t'), ('n', '\n'), ('r', '\r'), ('v', '\x0b')].lookup c with
      | some meant => some (.character meant, rest)
      | none => if c.toNat < 0x80 && !c.isAlphanum then some (.character c, rest) else none

/-! ### Classes -/

def classNames : List String :=
  ["alnum", "alpha", "ascii", "blank", "cntrl", "digit", "graph", "lower", "print", "punct", "space",
    "upper", "word", "xdigit"]

/-- What follows a named class, which stands between colons and brackets. -/
def namedClass? (text : List Char) : Option (List Char) := do
  let text ← after? ['[', ':'] text
  let text := (after? ['^'] text).getD text
  let name := text.takeWhile (· ≠ ':')
  let rest ← after? [':', ']'] (text.drop name.length)
  if classNames.contains (String.ofList name) then some rest else none

/-- What follows the opening of a class: hyphens at its start, and a closing bracket at its very
start, are characters like any other. -/
def openClass (text : List Char) : Option (List Char) :=
  let text := (after? ['^'] text).getD text
  let rest := text.dropWhile (· == '-')
  let rest := if rest.length = text.length then (after? [']'] rest).getD rest else rest
  if rest.isEmpty then none else some rest

/-- A member of a class, and the rest; a class within it is no character. -/
def member (mode : Mode) : List Char → Option (Option Char × List Char)
  | [] => none
  | '\\' :: rest => do
    match ← escape rest with
    | (.character c, rest) => some (some c, rest)
    | (.members, rest) => if mode.characters then none else some (none, rest)
    | _ => none
  | c :: rest => some (some c, rest)

/-- Whether a hyphen makes a range of what stands before it and after it. -/
def isRange : List Char → Bool
  | '-' :: c :: _ => c ≠ ']' && c ≠ '-'
  | _ => false

def members (mode : Mode) (text : List Char) : Option (List Char) := do
  let (first, rest) ← member mode text
  if isRange rest then
    let (last, rest) ← member mode (rest.drop 1)
    if (← first) ≤ (← last) then some rest else none
  else some rest

def afterClass (mode : Mode) : Nat → Nat → List Char → Option (List Char)
  | 0, _, _ => none
  | _, _, [] => none
  | fuel + 1, depth, c :: rest =>
    if c = '[' then
      match namedClass? (c :: rest) with
      | some rest => afterClass mode fuel depth rest
      | none => do afterClass mode fuel (depth + 1) (← openClass rest)
    else if c = ']' then
      if depth ≤ 1 then some rest else afterClass mode fuel (depth - 1) rest
    else if ['&', '-', '~'].contains c && rest.head? == some c then
      afterClass mode fuel depth (rest.drop 1)
    else do afterClass mode fuel depth (← members mode (c :: rest))

/-! ### Groups -/

def flags : List Char := ['i', 'm', 's', 'U', 'u', 'R', 'x']

/-- Whether flags may stand together: each once, and one hyphen with flags after it. -/
def areFlags (text : List Char) : Bool :=
  text.all (fun c => c = '-' || flags.contains c) && text.Nodup && text.getLast? ≠ some '-'

/-- The mode that flags leave behind; those after a hyphen are taken away. -/
def Mode.with (mode : Mode) (text : List Char) : Mode :=
  let given := text.takeWhile (· ≠ '-')
  let taken := text.drop given.length
  ⟨(mode.characters || given.contains 'u') && !taken.contains 'u',
    (mode.anyCase || given.contains 'i') && !taken.contains 'i'⟩

def isName : List Char → Bool
  | [] => false
  | c :: rest =>
    (c == '_' || (isAlphanumeric c && !isDecimal c)) &&
      rest.all fun c => ['_', '.', '[', ']'].contains c || isAlphanumeric c

/-- Where the reading of a pattern stands: whether what was read last can be repeated, the mode, the
modes of the groups around, innermost first, and the names of groups. -/
structure Reading where
  repeatable : Bool
  mode : Mode
  outer : List Mode
  names : List (List Char)
  deriving DecidableEq, Repr

namespace Reading

def start : Reading := ⟨false, ⟨true, false⟩, [], []⟩

def item (reading : Reading) : Reading :=
  { reading with repeatable := true }

def enter (reading : Reading) (mode : Mode) : Reading :=
  { reading with repeatable := false, mode, outer := reading.mode :: reading.outer }

def leave (reading : Reading) : Option Reading :=
  match reading.outer with
  | [] => none
  | mode :: outer => some { reading with repeatable := true, mode, outer }

def group (reading : Reading) (text : List Char) : Option (Reading × List Char) :=
  match (after? ['?', 'P', '<'] text).or (after? ['?', '<'] text) with
  | some rest =>
    let name := rest.takeWhile (· ≠ '>')
    if isName name && !reading.names.contains name && name.length < rest.length then
      some ({ reading with names := name :: reading.names }.enter reading.mode, rest.drop (name.length + 1))
    else none
  | none => match text with
    | '?' :: rest =>
      let given := rest.takeWhile fun c => c ≠ ':' && c ≠ ')'
      if !areFlags given then none
      else match rest.drop given.length with
        | ':' :: rest => some (reading.enter (reading.mode.with given), rest)
        | ')' :: rest =>
          if given.isEmpty then none
          else some ({ reading with repeatable := false, mode := reading.mode.with given }, rest)
        | _ => none
    | _ => some (reading.enter reading.mode, text)

def escaped (reading : Reading) (text : List Char) : Option (Reading × List Char) := do
  let (escape, rest) ← escape text
  let fits := match escape with
    | .character _ => reading.mode.isMatchable
    | .members | .boundary => !reading.mode.characters
    | .others => false
    | .anchor => true
  if fits then some (reading.item, rest) else none

def completes : Nat → Reading → List Char → Bool
  | 0, _, _ => false
  | _ + 1, reading, [] => reading.outer.isEmpty
  | fuel + 1, reading, c :: rest =>
    match c with
    | '(' => match reading.group rest with
      | some (reading, rest) => completes fuel reading rest
      | none => false
    | ')' => match reading.leave with
      | some reading => completes fuel reading rest
      | none => false
    | '|' => completes fuel { reading with repeatable := false } rest
    | '[' => match openClass rest with
      | some inside => match afterClass reading.mode (rest.length + 1) 1 inside with
        | some rest => reading.mode.isMatchable && completes fuel reading.item rest
        | none => false
      | none => false
    | '?' | '*' | '+' => reading.repeatable && completes fuel reading ((after? ['?'] rest).getD rest)
    | '\x7b' => false
    | '\\' => match reading.escaped rest with
      | some (reading, rest) => completes fuel reading rest
      | none => false
    | '.' => reading.mode.characters && completes fuel reading.item rest
    | '^' | '$' => completes fuel reading.item rest
    | _ => reading.mode.isMatchable && completes fuel reading.item rest

end Reading

/-- Whether a text without closing braces is a pattern. Without them no repetition can be counted. -/
def isPattern (text : List Char) : Bool :=
  Reading.start.completes (text.length + 1) text

end ClusterLifecycle.Log.Pattern
