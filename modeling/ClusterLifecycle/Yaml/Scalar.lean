import ClusterLifecycle.Text.Digits
import ClusterLifecycle.Yaml.Place

/-!
The scalars of YAML: plain, in single or double quotes, and as blocks of lines. Each reader starts
behind the mark that opens its scalar and returns the text and what follows. The first break
between two stretches of a plain or quoted scalar is folded into a space, or left out where empty
lines follow it.
-/

namespace ClusterLifecycle.Yaml

/-- The breaks of a stretch of blanks and breaks. A tab may not stand left of the column `floor`. -/
def breaks (floor : Nat) : List Place → Option (List Char × List Place)
  | [] => some ([], [])
  | p :: rest =>
    if isBreak p.char then do
      let (more, rest) ← breaks floor rest
      some (p.char :: more, rest)
    else if isBlank p.char then
      if p.char = '\t' ∧ p.column < floor then none else breaks floor rest
    else some ([], p :: rest)

/-- What separates two stretches of a scalar: the blanks up to the first break, and the breaks. -/
structure Gap where
  blanks : List Char
  breaks : List Char
  deriving DecidableEq, Repr

namespace Gap

def read (floor : Nat) (text : List Place) : Option (Gap × List Place) := do
  let blanks := text.takeWhile fun p => isBlank p.char
  let rest := text.drop blanks.length
  if startsWith isBreak rest then
    let (found, rest) ← Yaml.breaks floor rest
    some (⟨[], found⟩, rest)
  else some (⟨blanks.map Place.char, []⟩, rest)

def folded (gap : Gap) : List Char :=
  match gap.breaks with
  | [] => gap.blanks
  | ['\n'] => [' ']
  | '\n' :: more => more
  | other => other

end Gap

namespace Plain

def isFlowMark (c : Char) : Bool :=
  c == ',' || c == '[' || c == ']' || c == '{' || c == '}'

/-- A stretch without blanks. It ends before a colon that separates, and between brackets before
their marks. -/
def stretch (flow : Bool) : List Place → Option (List Char × List Place)
  | [] => some ([], [])
  | p :: rest =>
    if isBlank p.char || isBreak p.char then some ([], p :: rest)
    else if flow && p.char == ':' && startsWith (fun c => isFlowMark c || c == '?') rest then none
    else if (p.char == ':' && isSpaced rest) || (flow && isFlowMark p.char) then some ([], p :: rest)
    else do
      let (more, rest) ← stretch flow rest
      some (p.char :: more, rest)

/-- The text from here on, and whether the scalar ended with breaks. -/
def readFrom (flow : Bool) (floor : Nat) : Nat → List Place → Option (List Char × Bool × List Place)
  | 0, _ => none
  | fuel + 1, text => do
    if isBoundary text || startsWith (· == '#') text then return ([], false, text)
    let (found, rest) ← stretch flow text
    if found.isEmpty then return ([], false, text)
    let (gap, after) ← Gap.read floor rest
    let broken := !gap.breaks.isEmpty
    if !flow && broken && !startsWithin after then return (found, true, after)
    let (more, ended, rest) ← readFrom flow floor fuel after
    if more.isEmpty then return (found, broken, after)
    return (found ++ gap.folded ++ more, ended, rest)
where
  /-- Whether the text goes on at or right of the floor. -/
  startsWithin : List Place → Bool
    | [] => false
    | p :: _ => floor ≤ p.column

/-- A plain scalar. In a block its lines may not start left of `floor`. -/
def read (flow : Bool) (floor : Nat) (text : List Place) : Option (List Char × Bool × List Place) :=
  readFrom flow floor (text.length + 1) text

end Plain

namespace Quoted

def escapes : List (Char × Char) :=
  [('0', '\x00'), ('a', '\x07'), ('b', '\x08'), ('t', '\t'), ('\t', '\t'), ('n', '\n'),
    ('v', '\x0b'), ('f', '\x0c'), ('r', '\r'), ('e', '\x1b'), (' ', ' '), ('"', '"'), ('/', '/'),
    ('\\', '\\'), ('N', '\u0085'), ('_', '\u00a0'), ('L', '\u2028'), ('P', '\u2029')]

/-- How many hexadecimal digits name a character behind a backslash. -/
def width? : Char → Option Nat
  | 'x' => some 2
  | 'u' => some 4
  | 'U' => some 8
  | _ => none

def char? (n : Nat) : Option Char :=
  if n ≤ 0x10FFFF ∧ ¬ (0xD800 ≤ n ∧ n ≤ 0xDFFF) then some (Char.ofNat n) else none

def escape : List Place → Option (Char × List Place)
  | [] => none
  | p :: rest =>
    match width? p.char with
    | none => (escapes.lookup p.char).map (·, rest)
    | some width => do
      if rest.length < width then none
      let code ← Text.natural? 16 ((rest.take width).map Place.char)
      some (← char? code, rest.drop width)

def readFrom (quote : Char) : Nat → List Place → Option (List Char × List Place)
  | 0, _ => none
  | _, [] => none
  | fuel + 1, p :: rest => do
    if isBoundary (p :: rest) then none
    if isBlank p.char || isBreak p.char then
      let (gap, rest) ← Gap.read 0 (p :: rest)
      let (more, rest) ← readFrom quote fuel rest
      return (gap.folded ++ more, rest)
    if p.char = quote then
      if quote = '\'' ∧ startsWith (· == quote) rest then
        let (more, rest) ← readFrom quote fuel (rest.drop 1)
        return (quote :: more, rest)
      return ([], rest)
    if quote = '"' ∧ p.char = '\\' then
      if startsWith isBreak rest then
        let (found, rest) ← breaks 0 (rest.drop 1)
        let (more, rest) ← readFrom quote fuel rest
        return (found ++ more, rest)
      let (c, rest) ← escape rest
      let (more, rest) ← readFrom quote fuel rest
      return (c :: more, rest)
    let (more, rest) ← readFrom quote fuel rest
    return (p.char :: more, rest)

/-- A quoted scalar: in single quotes a quote is written twice, in double quotes a backslash
introduces what cannot be written as it is. -/
def read (quote : Char) (text : List Place) : Option (List Char × List Place) :=
  readFrom quote (text.length + 1) text

end Quoted

namespace Block

inductive Chomp where
  | strip
  | clip
  | keep
  deriving DecidableEq, Repr

def heading (text : List Place) : Option (List Place) :=
  match text.dropWhile fun p => isBlank p.char with
  | [] => some []
  | p :: rest =>
    if isBreak p.char then some rest
    else if p.char = '#' then some ((rest.dropWhile fun p => !isBreak p.char).drop 1)
    else none

def chomp? : List Place → Option (Chomp × List Place)
  | [] => none
  | p :: rest =>
    if p.char = '+' then some (.keep, rest)
    else if p.char = '-' then some (.strip, rest)
    else none

/-- An indentation of its own, from 1 to 9; zero spoils the block. -/
def width : List Place → Option (Option Nat × List Place)
  | [] => some (none, [])
  | p :: rest =>
    match Text.decimalDigit? p.char with
    | none => some (none, p :: rest)
    | some 0 => none
    | some n => some (some n, rest)

def options (text : List Place) : Option (Chomp × Option Nat × List Place) := do
  match chomp? text with
  | some (chomp, rest) =>
    let (width, rest) ← width rest
    some (chomp, width, rest)
  | none =>
    let (width, rest) ← width text
    match width, chomp? rest with
    | some _, some (chomp, rest) => some (chomp, width, rest)
    | _, _ => some (.clip, width, rest)

/-- Empty lines, up to the first character that is no indentation: their breaks and the widest
column that any of them reaches, that character included. -/
def emptyLines (indented : Nat → Bool) : List Place → Option (List Char × Nat × List Place)
  | [] => some ([], 0, [])
  | p :: rest =>
    if !indented p.column && p.char == ' ' then emptyLines indented rest
    else if !indented p.column && p.char == '\t' then none
    else if isBreak p.char then do
      let (more, widest, rest) ← emptyLines indented rest
      some (p.char :: more, max p.column widest, rest)
    else some ([], p.column, p :: rest)

/-- A line of a block: its text behind the indentation, its break, and the breaks of the empty
lines that follow. -/
structure Line where
  text : List Char
  ending : List Char
  after : List Char
  deriving DecidableEq, Repr

def Line.isBlank (line : Line) : Bool :=
  match line.text with
  | [] => false
  | c :: _ => Yaml.isBlank c

def lines (indent : Nat) : Nat → List Place → Option (List Line × List Place)
  | 0, _ => none
  | _, [] => some ([], [])
  | fuel + 1, p :: rest =>
    if p.column ≠ indent then some ([], p :: rest)
    else do
      let text := ((p :: rest).takeWhile fun p => !isBreak p.char).map Place.char
      match (p :: rest).drop text.length with
      | [] => some ([⟨text, [], []⟩], [])
      | ending :: rest =>
        let (after, _, rest) ← emptyLines (indent ≤ ·) rest
        let (more, rest) ← lines indent fuel rest
        some (⟨text, [ending.char], after⟩ :: more, rest)

/-- What stands between two lines. In a folded block a break becomes a space, or nothing before
empty lines, unless one of the two starts with a blank. -/
def joint (literal : Bool) (line next : Line) : List Char :=
  if !literal && line.ending == ['\n'] && !line.isBlank && !next.isBlank then
    if line.after.isEmpty then [' '] else line.after
  else line.ending ++ line.after

def tail (chomp : Chomp) (ending after : List Char) : List Char :=
  match chomp with
  | .strip => []
  | .clip => ending
  | .keep => ending ++ after

def join (literal : Bool) (chomp : Chomp) (line : Line) : List Line → List Char
  | [] => line.text ++ tail chomp line.ending line.after
  | next :: more => line.text ++ joint literal line next ++ join literal chomp next more

/-- A block of lines under a parent at the column before `floor`. Its indentation is given, or
that of its first line with text. -/
def read (literal : Bool) (floor : Nat) (text : List Place) : Option (List Char × List Place) := do
  let (chomp, width, rest) ← options text
  let rest ← heading rest
  let (first, indent, rest) ←
    match width with
    | some width => do
      let indent := (floor - 1) + width
      let (first, _, rest) ← emptyLines (indent ≤ ·) rest
      some (first, indent, rest)
    | none => do
      let (first, widest, rest) ← emptyLines (fun _ => false) rest
      some (first, max widest (max floor 1), rest)
  let (found, rest) ← lines indent (rest.length + 1) rest
  match found with
  | [] => some (tail chomp [] first, rest)
  | line :: more => some (first ++ join literal chomp line more, rest)

end Block

end ClusterLifecycle.Yaml
