import ClusterLifecycle.Json.Document
import ClusterLifecycle.Text.Digits

/-!
Reading JSON texts. Every reader returns what is left of the text. Values nest to any depth here;
each step into one uses up two units of fuel and at least one character, so twice the length of the
text is always enough.
-/

namespace ClusterLifecycle.Json

open Text

def isSpace (c : Char) : Bool :=
  c == ' ' || c == '\t' || c == '\n' || c == '\r'

def skipSpace (text : List Char) : List Char :=
  text.dropWhile isSpace

/-- A piece of a string: a character, or a code unit written as an escape. -/
inductive Piece where
  | char (c : Char)
  | unit (n : Nat)
  deriving DecidableEq, Repr

def escaped? : Char → Option Char
  | '"' => some '"'
  | '\\' => some '\\'
  | '/' => some '/'
  | 'b' => some '\x08'
  | 'f' => some '\x0c'
  | 'n' => some '\n'
  | 'r' => some '\r'
  | 't' => some '\t'
  | _ => none

def readPieces : List Char → Option (List Piece × List Char)
  | [] => none
  | '"' :: rest => some ([], rest)
  | '\\' :: 'u' :: a :: b :: c :: d :: rest => do
    let unit ← natural? 16 [a, b, c, d]
    let (pieces, rest) ← readPieces rest
    some (.unit unit :: pieces, rest)
  | '\\' :: e :: rest => do
    let c ← escaped? e
    let (pieces, rest) ← readPieces rest
    some (.char c :: pieces, rest)
  | c :: rest =>
    if c.toNat < 0x20 then none
    else do
      let (pieces, rest) ← readPieces rest
      some (.char c :: pieces, rest)

def isHigh (n : Nat) : Bool := 0xD800 ≤ n && n ≤ 0xDBFF

def isLow (n : Nat) : Bool := 0xDC00 ≤ n && n ≤ 0xDFFF

/-- The characters of the pieces: a high surrogate needs a low one right after it, and a low one
needs a high one before it. -/
def characters? : List Piece → Option (List Char)
  | [] => some []
  | .char c :: rest => do
    let more ← characters? rest
    some (c :: more)
  | .unit high :: .unit low :: rest =>
    if isHigh high then
      if isLow low then do
        let more ← characters? rest
        some (Char.ofNat (0x10000 + (high - 0xD800) * 0x400 + (low - 0xDC00)) :: more)
      else none
    else if isLow high then none
    else do
      let more ← characters? (.unit low :: rest)
      some (Char.ofNat high :: more)
  | .unit n :: rest =>
    if isHigh n || isLow n then none
    else do
      let more ← characters? rest
      some (Char.ofNat n :: more)

def readString (text : List Char) : Option (Option String × List Char) := do
  let (pieces, rest) ← readPieces text
  some ((characters? pieces).map String.ofList, rest)

def digits (text : List Char) : List Char × List Char :=
  text.span isDecimal

def readWhole : List Char → Option (List Char × List Char)
  | '0' :: rest => some (['0'], rest)
  | text =>
    let (whole, rest) := digits text
    if whole.isEmpty then none else some (whole, rest)

def readFraction : List Char → Option (List Char × List Char)
  | '.' :: text =>
    let (fraction, rest) := digits text
    if fraction.isEmpty then none else some (fraction, rest)
  | text => some ([], text)

def readExponentDigits (negative : Bool) (text : List Char) :
    Option (Option (Bool × List Char) × List Char) :=
  let (exponent, rest) := digits text
  if exponent.isEmpty then none else some (some (negative, exponent), rest)

def readExponent : List Char → Option (Option (Bool × List Char) × List Char)
  | c :: text =>
    if c = 'e' ∨ c = 'E' then
      match text with
      | '+' :: rest => readExponentDigits false rest
      | '-' :: rest => readExponentDigits true rest
      | rest => readExponentDigits false rest
    else some (none, c :: text)
  | [] => some (none, [])

def readMagnitude (negative : Bool) (text : List Char) : Option (Numeral × List Char) := do
  let (whole, rest) ← readWhole text
  let (fraction, rest) ← readFraction rest
  let (exponent, rest) ← readExponent rest
  some (⟨negative, whole, fraction, exponent⟩, rest)

def readNumeral : List Char → Option (Numeral × List Char)
  | '-' :: text => readMagnitude true text
  | text => readMagnitude false text

mutual

def readValue : Nat → List Char → Option (Document × List Char)
  | 0, _ => none
  | fuel + 1, text =>
    match skipSpace text with
    | 'n' :: 'u' :: 'l' :: 'l' :: rest => some (.null, rest)
    | 't' :: 'r' :: 'u' :: 'e' :: rest => some (.bool true, rest)
    | 'f' :: 'a' :: 'l' :: 's' :: 'e' :: rest => some (.bool false, rest)
    | '"' :: rest => (readString rest).map fun (s, rest) => (.string s, rest)
    | '[' :: rest =>
      match skipSpace rest with
      | ']' :: rest => some (.array [], rest)
      | rest => (readItems fuel rest).map fun (items, rest) => (.array items, rest)
    | '{' :: rest =>
      match skipSpace rest with
      | '}' :: rest => some (.object [], rest)
      | rest => (readMembers fuel rest).map fun (members, rest) => (.object members, rest)
    | rest => (readNumeral rest).map fun (numeral, rest) => (.number numeral, rest)

def readItems : Nat → List Char → Option (List Document × List Char)
  | 0, _ => none
  | fuel + 1, text =>
    match readValue fuel text with
    | none => none
    | some (item, rest) =>
      match skipSpace rest with
      | ',' :: rest => (readItems fuel rest).map fun (items, rest) => (item :: items, rest)
      | ']' :: rest => some ([item], rest)
      | _ => none

def readMembers : Nat → List Char → Option (List (Option String × Document) × List Char)
  | 0, _ => none
  | fuel + 1, text =>
    match skipSpace text with
    | '"' :: rest =>
      match readString rest with
      | none => none
      | some (name, rest) =>
        match skipSpace rest with
        | ':' :: rest =>
          match readValue fuel rest with
          | none => none
          | some (value, rest) =>
            match skipSpace rest with
            | ',' :: rest =>
              (readMembers fuel rest).map fun (members, rest) => ((name, value) :: members, rest)
            | '}' :: rest => some ([(name, value)], rest)
            | _ => none
        | _ => none
    | _ => none

end

/-- The document of a text that holds one value and nothing but spaces around it. -/
def Document.ofText? (text : List Char) : Option Document := do
  let (document, rest) ← readValue (2 * text.length + 1) text
  if (skipSpace rest).isEmpty then some document else none

end ClusterLifecycle.Json
