import ClusterLifecycle.Template.Failure
import ClusterLifecycle.Text.Blank
import ClusterLifecycle.Text.Digits

/-!
Template texts as tokens. Text between tags is one token; tags are `{{ … }}` for output and
`{% … %}` for statements, and comments leave no token. A statement or a comment that stands alone
at the start of its line takes the blanks before it and the line break after it with it; a minus
sign at either end of a tag takes all blanks on that side. Where a text cannot be read any further,
the last token says why.
-/

namespace ClusterLifecycle.Template

open Text

inductive Token where
  | plain (content : List Char)
  | openOutput
  | closeOutput
  | openStatement
  | closeStatement
  | name (s : String)
  | string (s : String)
  | int (n : Nat)
  | mark (s : String)
  | unreadable (why : Fault)
  deriving DecidableEq, Repr

abbrev Placed := Token × Nat

inductive Tag where
  | output
  | statement
  | comment
  deriving DecidableEq, Repr

def isSeparator (c : Char) : Bool :=
  c.isWhitespace || c == '\x0c'

def isBreak (c : Char) : Bool :=
  c == '\n' || c == '\r'

def breaks (text : List Char) : Nat :=
  text.count '\n'

namespace Token

def tag? : Char → Option Tag
  | '{' => some .output
  | '%' => some .statement
  | '#' => some .comment
  | _ => none

/-- The text up to the first tag, the tag, and what follows its opening. -/
def cut : List Char → List Char × Option (Tag × List Char)
  | [] => ([], none)
  | [c] => ([c], none)
  | c :: d :: rest =>
    match if c = '{' then tag? d else none with
    | some tag => ([], some (tag, rest))
    | none =>
      let (text, found) := cut (d :: rest)
      (c :: text, found)

inductive Trim where
  | usual
  | all
  | nothing
  deriving DecidableEq, Repr

def trim? : Char → Option Trim
  | '-' => some .all
  | '+' => some .nothing
  | _ => none

/-- The trimming sign at the start of a tag and the rest of the tag. -/
def leading : List Char → Trim × List Char
  | c :: rest => match trim? c with
    | some trim => (trim, rest)
    | none => (.usual, c :: rest)
  | [] => (.usual, [])

/-- Whether only blanks stand on the line before a place that a text leads up to; `alone` says the
same of the place where the text starts. -/
def standsAlone (alone : Bool) (text : List Char) : Bool :=
  let tail := text.reverse.takeWhile (!isBreak ·)
  tail.all isBlank && (alone || tail.length < text.length)

/-- Text before a tag without the blanks that the tag takes with it. -/
def trimBefore (tag : Tag) (trim : Trim) (alone : Bool) (text : List Char) : List Char :=
  match trim with
  | .all => trimEnd text
  | .nothing => text
  | .usual =>
    if tag ≠ .output ∧ standsAlone alone text then
      (text.reverse.dropWhile fun c => isBlank c && !isBreak c).reverse
    else text

def dropBreak : List Char → List Char
  | '\r' :: '\n' :: rest => rest
  | '\n' :: rest => rest
  | '\r' :: rest => rest
  | text => text

/-- What is left after a tag; output keeps the line break that follows it. -/
def afterTag (tag : Tag) (trim : Trim) (text : List Char) : List Char :=
  match trim with
  | .all => trimStart text
  | .nothing => text
  | .usual => if tag = .output then text else dropBreak text

def isNameStart (c : Char) : Bool :=
  c.isAlpha || c == '_'

def isNamePart (c : Char) : Bool :=
  c.isAlphanum || c == '_'

def stringEnd (quote : Char) : List Char → Option (List Char × List Char)
  | [] => none
  | '\\' :: c :: rest => do
    let (content, rest) ← stringEnd quote rest
    some ('\\' :: c :: content, rest)
  | c :: rest =>
    if c = quote then some ([], rest)
    else do
      let (content, rest) ← stringEnd quote rest
      some (c :: content, rest)

def escaped? : Char → Option Char
  | '"' => some '"'
  | '\\' => some '\\'
  | '/' => some '/'
  | '\'' => some '\''
  | 'b' => some '\x08'
  | 'f' => some '\x0c'
  | 'n' => some '\n'
  | 'r' => some '\r'
  | 't' => some '\t'
  | _ => none

/-- A code of some hexadecimal digits, which a plus sign may precede. -/
def code? : List Char → Option Nat
  | '+' :: digits => natural? 16 digits
  | digits => natural? 16 digits

/-- What an escape stands for: a character, half of a character that takes two codes, or itself
where it means nothing. -/
inductive Escape where
  | character (c : Char)
  | half (code : Nat)
  | nothing (c : Char)
  deriving DecidableEq, Repr

def isOctal (c : Char) : Bool :=
  '0' ≤ c && c ≤ '7'

def escape? : List Char → Option (Escape × List Char)
  | [] => none
  | 'u' :: rest => do
    let code ← if rest.length < 4 then none else code? (rest.take 4)
    let escape := if 0xD800 ≤ code ∧ code ≤ 0xDFFF then .half code else .character (Char.ofNat code)
    some (escape, rest.drop 4)
  | 'x' :: rest => do
    let code ← if rest.length < 2 then none else code? (rest.take 2)
    some (.character (Char.ofNat code), rest.drop 2)
  | c :: rest =>
    match escaped? c with
    | some c => some (.character c, rest)
    | none =>
      if isOctal c then do
        let digits := c :: (rest.take 2).takeWhile isOctal
        let code ← natural? 8 digits
        if code < 256 then some (.character (Char.ofNat code), rest.drop (digits.length - 1)) else none
      else some (.nothing c, rest)

def whole? (first second : Nat) : Option Char :=
  if first < 0xDC00 ∧ 0xDC00 ≤ second then
    some (Char.ofNat (0x10000 + (first - 0xD800) * 0x400 + (second - 0xDC00)))
  else none

/-- The content of a string with its escapes resolved; `pending` is half of a character that the
other half has to follow. -/
def unescape? : Nat → Option Nat → List Char → Option (List Char)
  | 0, _, _ => none
  | _ + 1, pending, [] => if pending.isSome then none else some []
  | fuel + 1, pending, '\\' :: text => do
    let (escape, rest) ← escape? text
    match escape, pending with
    | .half second, some first => do some ((← whole? first second) :: (← unescape? fuel none rest))
    | .half first, none => unescape? fuel (some first) rest
    | _, some _ => none
    | .character c, none => do some (c :: (← unescape? fuel none rest))
    | .nothing c, none => do some ('\\' :: c :: (← unescape? fuel none rest))
  | fuel + 1, pending, c :: rest =>
    if pending.isSome then none else do some (c :: (← unescape? fuel none rest))

def base? : Char → Option Nat
  | 'b' | 'B' => some 2
  | 'o' | 'O' => some 8
  | 'x' | 'X' => some 16
  | _ => none

def isNumberPart (base : Nat) (c : Char) : Bool :=
  isDecimal c || c == '_' || (base = 16 && (hexDigit? c).isSome)

/-- The number that digits of a base make up; underscores between them do not count. -/
def numberOf (base : Nat) (text : List Char) : Except Fault (Token × List Char) :=
  let written := text.takeWhile (isNumberPart base)
  match if written.getLast? = some '_' then none else natural? base (written.filter (· ≠ '_')) with
  | some n => if n < Nat.pow 2 128 then .ok (.int n, text.drop written.length) else .error .malformed
  | none => .error .malformed

def number (text : List Char) : Except Fault (Token × List Char) :=
  match text with
  | '0' :: c :: rest => match base? c with
    | some base => numberOf base rest
    | none => numberOf 10 text
  | _ => numberOf 10 text

/-- Whether a number goes on with a fraction or an exponent, which no number here has. -/
def hasFraction : List Char → Bool
  | '.' :: c :: _ => isDecimal c
  | _ => false

def doubleMarks : List (List Char) :=
  [['/', '/'], ['*', '*'], ['=', '='], ['!', '='], ['>', '='], ['<', '=']]

def singleMarks : List Char :=
  ['+', '-', '*', '/', '%', '!', '.', ',', ':', '~', '|', '=', '>', '<', '(', ')', '[', ']', '{', '}']

/-- The token at the start of a text that is not blank, and the rest; `dotted` says that a dot comes
before it. -/
def next (dotted : Bool) (text : List Char) : Except Fault (Token × List Char) :=
  match text with
  | [] => .error .malformed
  | c :: rest =>
    if doubleMarks.contains (text.take 2) then .ok (.mark (String.ofList (text.take 2)), text.drop 2)
    else if singleMarks.contains c then .ok (.mark (String.singleton c), rest)
    else if c = '"' ∨ c = '\'' then
      match stringEnd c rest with
      | none => .error .malformed
      | some (content, rest) => match unescape? (content.length + 1) none content with
        | none => .error .badEscape
        | some content => .ok (.string (String.ofList content), rest)
    else if isDecimal c then do
      let (token, rest) ← number text
      if !dotted && hasFraction rest then .error .malformed else .ok (token, rest)
    else if isNameStart c then
      .ok (.name (String.ofList (text.takeWhile isNamePart)), text.dropWhile isNamePart)
    else .error .malformed

def closing : Tag → List Char
  | .output => ['}', '}']
  | .statement => ['%', '}']
  | .comment => ['#', '}']

/-- The trimming sign of a tag that ends here, and what follows the tag. -/
def tagEnd? (tag : Tag) (text : List Char) : Option (Trim × List Char) :=
  match after? (closing tag) text with
  | some rest => some (.usual, rest)
  | none => match text with
    | c :: rest => do
      let trim ← trim? c
      let rest ← after? (closing tag) rest
      some (trim, rest)
    | [] => none

def opensBracket (s : String) : Bool :=
  [['('], ['['], ['{']].contains s.toList

def closesBracket (s : String) : Bool :=
  [[')'], [']'], ['}']].contains s.toList

def nesting (depth : Nat) : Token → Nat
  | .mark s => if opensBracket s then depth + 1 else if closesBracket s then depth - 1 else depth
  | _ => depth

/-- The tokens of a tag up to its end, and the trimming sign there, the line and the rest. A tag does
not end inside brackets. -/
def inside (tag : Tag) : Nat → Bool → Nat → Nat → List Char →
    List Placed × Except Fault (Trim × Nat × List Char)
  | 0, _, _, _, _ => ([], .error .malformed)
  | fuel + 1, dotted, depth, line, text =>
    let blanks := text.takeWhile isSeparator
    let line := line + breaks blanks
    let text := text.drop blanks.length
    match if depth = 0 then tagEnd? tag text else none with
    | some (trim, rest) => ([], .ok (trim, line, rest))
    | none => match next dotted text with
      | .error fault => ([], .error fault)
      | .ok (token, rest) =>
        let used := text.take (text.length - rest.length)
        let (tokens, ending) :=
          inside tag fuel (token = .mark ".") (nesting depth token) (line + breaks used) rest
        ((token, line) :: tokens, ending)

/-- The end of a comment: the character before its closing and what follows it. -/
def commentEnd : Char → List Char → Option (Char × List Char)
  | _, [] => none
  | before, c :: rest =>
    match after? (closing .comment) (c :: rest) with
    | some rest => some (before, rest)
    | none => commentEnd c rest

def textToken (content : List Char) (line : Nat) : List Placed :=
  if content.isEmpty then [] else [(.plain content, line)]

def opening (tag : Tag) (line : Nat) : List Placed :=
  match tag with
  | .output => [(.openOutput, line)]
  | .statement => [(.openStatement, line)]
  | .comment => []

def closed (tag : Tag) (line : Nat) : List Placed :=
  match tag with
  | .output => [(.closeOutput, line)]
  | .statement => [(.closeStatement, line)]
  | .comment => []

/-- The tokens of a tag that has just been opened, the trimming sign at its end and the rest. -/
def tagTokens (tag : Tag) (line : Nat) (text : List Char) :
    List Placed × Except Fault (Trim × List Char) :=
  match tag with
  | .comment => match commentEnd '#' text with
    | none => ([], .error .malformed)
    | some (before, rest) => ([], .ok ((trim? before).getD .usual, rest))
  | _ => match inside tag (text.length + 1) false 0 line text with
    | (tokens, .error fault) => (opening tag line ++ tokens, .error fault)
    | (tokens, .ok (trim, last, rest)) =>
      (opening tag line ++ tokens ++ closed tag last, .ok (trim, rest))

/-- The tokens of a text; `alone` says whether only blanks precede it on its line. -/
def scan : Nat → Nat → Bool → List Char → List Placed
  | 0, line, _, _ => [(.unreadable .malformed, line)]
  | fuel + 1, line, alone, source =>
    match cut source with
    | (text, none) => textToken text line
    | (text, some (tag, rest)) =>
      let (trim, rest) := leading rest
      let content := textToken (trimBefore tag trim alone text) line
      match tagTokens tag (line + breaks text) rest with
      | (tokens, .error fault) => content ++ tokens ++ [(.unreadable fault, line)]
      | (tokens, .ok (trimAfter, after)) =>
        let left := afterTag tag trimAfter after
        let skipped := after.take (after.length - left.length)
        let used := source.take (source.length - left.length)
        content ++ tokens ++ scan fuel (line + breaks used) (skipped.any isBreak) left

def withoutLastBreak (source : List Char) : List Char :=
  match source.reverse with
  | '\n' :: '\r' :: rest => rest.reverse
  | '\n' :: rest => rest.reverse
  | '\r' :: rest => rest.reverse
  | _ => source

def ofText (source : List Char) : List Placed :=
  scan (source.length + 1) 1 true (withoutLastBreak source)

end Token

end ClusterLifecycle.Template
