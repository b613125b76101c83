import ClusterLifecycle.Json.Document
import ClusterLifecycle.Text.Digits

/-!
JSON texts of documents: on one line without spaces, or with one member or item per line and two
spaces of indentation per level. Empty arrays and objects stay on one line in both.
-/

namespace ClusterLifecycle.Json

/-- A character inside quotes: the quote, the backslash and the control characters below a space
are escaped, and nothing else is. -/
def escape (c : Char) : List Char :=
  if c = '"' then ['\\', '"']
  else if c = '\\' then ['\\', '\\']
  else if c = '\x08' then ['\\', 'b']
  else if c = '\x0c' then ['\\', 'f']
  else if c = '\n' then ['\\', 'n']
  else if c = '\r' then ['\\', 'r']
  else if c = '\t' then ['\\', 't']
  else if c.toNat < 0x20 then ['\\', 'u', '0', '0', Text.hexDigit (c.toNat / 16), Text.hexDigit (c.toNat % 16)]
  else [c]

def quoted (s : String) : List Char :=
  '"' :: s.toList.flatMap escape ++ ['"']

/-- A string that is no text is shown as half of a surrogate pair. -/
def quotedOrBroken : Option String → List Char
  | some s => quoted s
  | none => ['"', '\\', 'u', 'd', '8', '0', '0', '"']

def Numeral.print (n : Numeral) : List Char :=
  (if n.negative then ['-'] else []) ++ n.whole ++
    (if n.fraction.isEmpty then [] else '.' :: n.fraction) ++
    match n.exponent with
    | none => []
    | some (negative, digits) => 'e' :: (if negative then '-' else '+') :: digits

def boolText (b : Bool) : List Char :=
  if b then ['t', 'r', 'u', 'e'] else ['f', 'a', 'l', 's', 'e']

namespace Document

mutual

def compact : Document → List Char
  | .null => ['n', 'u', 'l', 'l']
  | .bool b => boolText b
  | .number n => n.print
  | .string s => quotedOrBroken s
  | .array items => '[' :: compactItems items ++ [']']
  | .object members => '{' :: compactMembers members ++ ['}']

def compactItems : List Document → List Char
  | [] => []
  | [item] => compact item
  | item :: next :: rest => compact item ++ ',' :: compactItems (next :: rest)

def compactMembers : List (Option String × Document) → List Char
  | [] => []
  | [(name, value)] => quotedOrBroken name ++ ':' :: compact value
  | (name, value) :: next :: rest =>
    quotedOrBroken name ++ ':' :: compact value ++ ',' :: compactMembers (next :: rest)

end

def newline (level : Nat) : List Char :=
  '\n' :: List.replicate (2 * level) ' '

mutual

/-- The text with one item or member per line, the document itself standing at a level. -/
def prettyAt (level : Nat) : Document → List Char
  | .null => ['n', 'u', 'l', 'l']
  | .bool b => boolText b
  | .number n => n.print
  | .string s => quotedOrBroken s
  | .array [] => ['[', ']']
  | .array (item :: rest) => '[' :: prettyItems (level + 1) (item :: rest) ++ newline level ++ [']']
  | .object [] => ['{', '}']
  | .object (member :: rest) =>
    '{' :: prettyMembers (level + 1) (member :: rest) ++ newline level ++ ['}']

def prettyItems (level : Nat) : List Document → List Char
  | [] => []
  | [item] => newline level ++ prettyAt level item
  | item :: next :: rest =>
    newline level ++ prettyAt level item ++ ',' :: prettyItems level (next :: rest)

def prettyMembers (level : Nat) : List (Option String × Document) → List Char
  | [] => []
  | [(name, value)] => newline level ++ quotedOrBroken name ++ ':' :: ' ' :: prettyAt level value
  | (name, value) :: next :: rest =>
    newline level ++ quotedOrBroken name ++ ':' :: ' ' :: prettyAt level value ++
      ',' :: prettyMembers level (next :: rest)

end

def pretty (document : Document) : List Char :=
  prettyAt 0 document

end Document

end ClusterLifecycle.Json
