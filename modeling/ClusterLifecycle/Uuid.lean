import ClusterLifecycle.Text.Digits

/-!
Identifiers of 128 bits. The written form is 32 lower-case hexadecimal digits in groups of
8, 4, 4, 4 and 12 with hyphens between them. Reading takes digits of either case, and also the bare
32 digits, or the hyphenated form in braces or behind `urn:uuid:`.
-/

namespace ClusterLifecycle

structure Uuid where
  value : BitVec 128
  deriving DecidableEq, Repr, Inhabited

namespace Uuid

open Text

def fixedHex : Nat → Nat → List Char
  | 0, _ => []
  | width + 1, n => fixedHex width (n / 16) ++ [hexDigit (n % 16)]

def digits (u : Uuid) : List Char :=
  fixedHex 32 u.value.toNat

def hyphenate (digits : List Char) : List Char :=
  digits.take 8 ++ '-' :: (digits.drop 8).take 4 ++ '-' :: (digits.drop 12).take 4 ++
    '-' :: (digits.drop 16).take 4 ++ '-' :: digits.drop 20

def toText (u : Uuid) : List Char :=
  hyphenate u.digits

instance : ToString Uuid where
  toString u := String.ofList u.toText

def ofDigits? (digits : List Char) : Option Uuid :=
  if digits.length = 32 then (natural? 16 digits).map fun n => ⟨BitVec.ofNat 128 n⟩ else none

def ungrouped? (text : List Char) : Option (List Char) :=
  let digits := text.take 8 ++ (text.drop 9).take 4 ++ (text.drop 14).take 4 ++
    (text.drop 19).take 4 ++ text.drop 24
  if text.length = 36 ∧ text[8]? = some '-' ∧ text[13]? = some '-' ∧ text[18]? = some '-' ∧
      text[23]? = some '-' then some digits
  else none

def ofHyphenated? (text : List Char) : Option Uuid := do
  ofDigits? (← ungrouped? text)

def scheme : List Char := ['u', 'r', 'n', ':', 'u', 'u', 'i', 'd', ':']

def ofText? (text : List Char) : Option Uuid :=
  if text.length = 32 then ofDigits? text
  else if text.length = 38 ∧ text.head? = some '{' ∧ text.getLast? = some '}' then
    ofHyphenated? ((text.drop 1).take 36)
  else if text.length = 45 ∧ (text.take 9).map Char.toLower = scheme then
    ofHyphenated? (text.drop 9)
  else ofHyphenated? text

def ofString? (s : String) : Option Uuid :=
  ofText? s.toList

end Uuid

end ClusterLifecycle
