/-!
The characters of a YAML text, each with its place. A break counts as one character however it is
written; the text from any place on is the list that starts there.
-/

namespace ClusterLifecycle.Yaml

/-- A character, how many bytes stand before it, and its line and column. -/
structure Place where
  char : Char
  index : Nat
  line : Nat
  column : Nat
  deriving DecidableEq, Repr

def isBreak (c : Char) : Bool :=
  c == '\n' || c == '\u2028' || c == '\u2029'

def isBlank (c : Char) : Bool :=
  c == ' ' || c == '\t'

def isAllowed (c : Char) : Bool :=
  let n := c.toNat
  n == 9 || n == 10 || n == 13 || (0x20 ≤ n && n ≤ 0x7E) || n == 0x85 || (0xA0 ≤ n && n ≤ 0xD7FF) ||
    (0xE000 ≤ n && n ≤ 0xFFFD) || 0x10000 ≤ n

namespace Place

/-- The places of a text. A carriage return, the two together and a next-line character all become
a line feed. -/
def ofChars (index line column : Nat) : List Char → List Place
  | [] => []
  | '\r' :: '\n' :: rest => ⟨'\n', index, line, column⟩ :: ofChars (index + 2) (line + 1) 0 rest
  | c :: rest =>
    let after := index + c.utf8Size
    let c := if c = '\r' ∨ c = '\u0085' then '\n' else c
    if isBreak c then ⟨c, index, line, column⟩ :: ofChars after (line + 1) 0 rest
    else ⟨c, index, line, column⟩ :: ofChars after line (column + 1) rest

def ofText? (text : String) : Option (List Place) :=
  if text.toList.all isAllowed then some (ofChars 0 0 0 text.toList) else none

def isOrderMark (p : Place) : Bool :=
  p.column == 0 && p.char == '\uFEFF'

end Place

def startsWith (kind : Char → Bool) : List Place → Bool
  | [] => false
  | p :: _ => kind p.char

def isSpaced : List Place → Bool
  | [] => true
  | p :: _ => isBlank p.char || isBreak p.char

/-- Whether a line starts here with the mark that opens or closes a document. -/
def isMarker (mark : Char) : List Place → Bool
  | a :: b :: c :: rest =>
    a.column == 0 && a.char == mark && b.char == mark && c.char == mark && isSpaced rest
  | _ => false

def isBoundary (text : List Place) : Bool :=
  isMarker '-' text || isMarker '.' text

end ClusterLifecycle.Yaml
