import ClusterLifecycle.Yaml.Scalar

/-!
YAML as tokens. Indentation becomes tokens that open and close collections. That a scalar or a
bracket starts the key of a mapping is known only at the colon behind it, so each level of brackets
keeps the place at which such a key may have started. Left out are tags, which a text may have before any
node, and directives, which it may have before a document: a text with one of them is refused as a whole.
-/

namespace ClusterLifecycle.Yaml

inductive Token where
  | documentStart
  | documentEnd
  | openSequence
  | openMapping
  | close
  | openFlowSequence
  | closeFlowSequence
  | openFlowMapping
  | closeFlowMapping
  | entry
  | separator
  | key
  | value
  | alias (name : String)
  | anchor (name : String)
  | scalar (text : String) (plain : Bool)
  deriving DecidableEq, Repr

/-- Where a key may have started: its place and how many tokens stand before it. The first thing on
a line of a block mapping has to be a key. -/
structure Candidate where
  index : Nat
  line : Nat
  column : Nat
  position : Nat
  required : Bool
  deriving DecidableEq, Repr

/-- A reader inside a text. The tokens read so far are kept last one first, the columns of the open
blocks and the candidates innermost first; `outer` has one candidate for each open bracket. -/
structure Scan where
  rest : List Place
  tokens : List Token
  columns : List Nat
  candidate : Option Candidate
  outer : List (Option Candidate)
  keyAllowed : Bool
  deriving Repr

/-- How far behind the start of a key its colon may be. -/
def keyReach : Nat := 1024

def endsName (c : Char) : Bool :=
  ['?', ':', ',', ']', '}', '%', '@', '\x60'].contains c

def isNameChar (c : Char) : Bool :=
  c.isAlphanum || c == '_' || c == '-'

def isIndicator (c : Char) : Bool :=
  ['-', '?', ':', ',', '[', ']', '{', '}', '#', '&', '*', '!', '|', '>', '\'', '"', '%', '@', '\x60'].contains c

namespace Scan

def start (text : List Place) : Scan :=
  ⟨text, [], [], none, [], true⟩

def inFlow (scan : Scan) : Bool :=
  !scan.outer.isEmpty

def floor (scan : Scan) : Nat :=
  match scan.columns with
  | [] => 0
  | column :: _ => column + 1

def emit (token : Token) (scan : Scan) : Scan :=
  { scan with tokens := token :: scan.tokens }

def allowKey (allowed : Bool) (scan : Scan) : Scan :=
  { scan with keyAllowed := allowed }

def skip (count : Nat) (scan : Scan) : Scan :=
  { scan with rest := scan.rest.drop count }

/-- Blanks, comments and breaks before a token. A tab separates only where no key can start; a
break outside of brackets lets one start. A byte order mark at the start of a line takes up a column
and means nothing. -/
def separation (flow : Bool) : Bool → Bool → List Place → Bool × List Place
  | allowed, _, [] => (allowed, [])
  | allowed, comment, p :: rest =>
    if isBreak p.char then separation flow (allowed || !flow) false rest
    else if comment || p.char == '#' then separation flow allowed true rest
    else if p.char == ' ' || p.isOrderMark || (p.char == '\t' && (flow || !allowed)) then
      separation flow allowed false rest
    else (allowed, p :: rest)

def toToken (scan : Scan) : Scan :=
  let (allowed, rest) := separation scan.inFlow scan.keyAllowed false scan.rest
  { scan with keyAllowed := allowed, rest }

def isStale (p : Place) (candidate : Candidate) : Bool :=
  candidate.line < p.line || candidate.index + keyReach < p.index

/-- A candidate after a new place is reached. One that had to become a key spoils the text. -/
def refresh (p : Place) : Option Candidate → Option (Option Candidate)
  | none => some none
  | some candidate =>
    if isStale p candidate then if candidate.required then none else some none
    else some (some candidate)

def refreshAll (p : Place) (scan : Scan) : Option Scan := do
  let candidate ← refresh p scan.candidate
  let outer ← scan.outer.mapM (refresh p)
  some { scan with candidate, outer }

def closeBeyond (column : Nat) (tokens : List Token) : List Nat → List Token × List Nat
  | [] => (tokens, [])
  | c :: rest => if column < c then closeBeyond column (.close :: tokens) rest else (tokens, c :: rest)

def unroll (column : Nat) (scan : Scan) : Scan :=
  if scan.inFlow then scan
  else
    let (tokens, columns) := closeBeyond column scan.tokens scan.columns
    { scan with tokens, columns }

def unrollAll (scan : Scan) : Scan :=
  if scan.inFlow then scan
  else { scan with tokens := scan.columns.map (fun _ => Token.close) ++ scan.tokens, columns := [] }

/-- Puts tokens, given last one first, before those from a position on. -/
def insertAt (position : Nat) (added : List Token) (scan : Scan) : Scan :=
  let later := scan.tokens.length - position
  { scan with tokens := scan.tokens.take later ++ added ++ scan.tokens.drop later }

def roll (column position : Nat) (token : Token) (scan : Scan) : Scan :=
  if scan.inFlow || column < scan.floor then scan
  else { scan.insertAt position [token] with columns := column :: scan.columns }

def dropCandidate (scan : Scan) : Option Scan :=
  match scan.candidate with
  | some candidate => if candidate.required then none else some { scan with candidate := none }
  | none => some scan

def saveCandidate (p : Place) (scan : Scan) : Option Scan :=
  if scan.keyAllowed then do
    let scan ← scan.dropCandidate
    let required := !scan.inFlow && scan.columns.head? == some p.column
    some { scan with candidate := some ⟨p.index, p.line, p.column, scan.tokens.length, required⟩ }
  else some scan

/-- A mark of a block that opens a collection where none is open at its column. -/
def openBlock (p : Place) (token : Token) (scan : Scan) : Option Scan :=
  if scan.inFlow then some scan
  else if scan.keyAllowed then some (scan.roll p.column scan.tokens.length token)
  else none

def boundary (token : Token) (scan : Scan) : Option Scan := do
  let scan ← scan.unrollAll.dropCandidate
  some ((scan.allowKey false).skip 3 |>.emit token)

def openFlow (p : Place) (token : Token) (scan : Scan) : Option Scan := do
  let scan ← scan.saveCandidate p
  some ({ scan with candidate := none, outer := scan.candidate :: scan.outer, keyAllowed := true }.skip 1
    |>.emit token)

def closeFlow (token : Token) (scan : Scan) : Option Scan := do
  let scan ← scan.dropCandidate
  let (candidate, outer) := match scan.outer with
    | [] => (none, [])
    | candidate :: outer => (candidate, outer)
  some ({ scan with candidate, outer, keyAllowed := false }.skip 1 |>.emit token)

def separator (scan : Scan) : Option Scan := do
  let scan ← scan.dropCandidate
  some ((scan.allowKey true).skip 1 |>.emit .separator)

def entry (p : Place) (scan : Scan) : Option Scan := do
  let scan ← (← scan.openBlock p .openSequence).dropCandidate
  some ((scan.allowKey true).skip 1 |>.emit .entry)

def key (p : Place) (scan : Scan) : Option Scan := do
  let scan ← (← scan.openBlock p .openMapping).dropCandidate
  some ((scan.allowKey !scan.inFlow).skip 1 |>.emit .key)

/-- A colon. What the candidate started was a key, and the start of a mapping where none is open at
its column. -/
def value (p : Place) (scan : Scan) : Option Scan := do
  let scan ← match scan.candidate with
    | some found =>
      let scan := { scan with candidate := none }.insertAt found.position [.key]
      some ((scan.roll found.column found.position .openMapping).allowKey false)
    | none => do
      let scan ← scan.openBlock p .openMapping
      some (scan.allowKey !scan.inFlow)
  some (scan.skip 1 |>.emit .value)

def name (p : Place) (token : String → Token) (scan : Scan) : Option Scan := do
  let scan ← scan.saveCandidate p
  let text := scan.rest.drop 1
  let name := (text.takeWhile fun q => isNameChar q.char).map Place.char
  let rest := text.drop name.length
  if name.isEmpty then none
  if isSpaced rest || startsWith endsName rest then
    some ({ scan with rest, keyAllowed := false }.emit (token (String.ofList name)))
  else none

def block (literal : Bool) (scan : Scan) : Option Scan := do
  let scan ← scan.dropCandidate
  let (text, rest) ← Block.read literal scan.floor (scan.rest.drop 1)
  some ({ scan with rest, keyAllowed := true }.emit (.scalar (String.ofList text) false))

def quoted (p : Place) (scan : Scan) : Option Scan := do
  let scan ← scan.saveCandidate p
  let (text, rest) ← Quoted.read p.char (scan.rest.drop 1)
  some ({ scan with rest, keyAllowed := false }.emit (.scalar (String.ofList text) false))

def plain (p : Place) (scan : Scan) : Option Scan := do
  let scan ← scan.saveCandidate p
  let (text, broken, rest) ← Plain.read scan.inFlow scan.floor scan.rest
  some ({ scan with rest, keyAllowed := broken }.emit (.scalar (String.ofList text) true))

/-- Whether a plain scalar can start with a character before the given text. -/
def startsPlain (flow : Bool) (c : Char) (rest : List Place) : Bool :=
  !(isIndicator c || isBlank c) || (c == '-' && !startsWith isBlank rest) ||
    (!flow && (c == '?' || c == ':') && !isSpaced rest)

def token (p : Place) (scan : Scan) : Option Scan :=
  let rest := scan.rest.drop 1
  let flow := scan.inFlow
  let marks := flow || isSpaced rest
  if p.column = 0 ∧ p.char = '%' then none
  else if isMarker '-' scan.rest then scan.boundary .documentStart
  else if isMarker '.' scan.rest then scan.boundary .documentEnd
  else if p.char = '[' then scan.openFlow p .openFlowSequence
  else if p.char = '{' then scan.openFlow p .openFlowMapping
  else if p.char = ']' then scan.closeFlow .closeFlowSequence
  else if p.char = '}' then scan.closeFlow .closeFlowMapping
  else if p.char = ',' then scan.separator
  else if p.char = '-' ∧ isSpaced rest then scan.entry p
  else if p.char = '?' ∧ marks then scan.key p
  else if p.char = ':' ∧ marks then scan.value p
  else if p.char = '*' then scan.name p .alias
  else if p.char = '&' then scan.name p .anchor
  else if p.char = '|' ∧ !flow then scan.block true
  else if p.char = '>' ∧ !flow then scan.block false
  else if p.char = '\'' ∨ p.char = '"' then scan.quoted p
  else if startsPlain flow p.char rest then scan.plain p
  else none

def finish : Nat → Scan → Option (List Token)
  | 0, _ => none
  | fuel + 1, scan =>
    let scan := scan.toToken
    match scan.rest with
    | [] => do
      let scan ← scan.unrollAll.dropCandidate
      some scan.tokens.reverse
    | p :: _ => do
      let scan ← scan.refreshAll p
      finish fuel (← (scan.unroll p.column).token p)

end Scan

def tokens? (text : String) : Option (List Token) := do
  let places ← Place.ofText? text
  (Scan.start places).finish (places.length + 1)

end ClusterLifecycle.Yaml
