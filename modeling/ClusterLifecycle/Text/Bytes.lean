/-!
Texts as bytes. The decoder of UTF-8 walks the bytes one at a time and remembers how many continuation
bytes the character it is in still needs and between which bounds the next one must lie. A sequence that
cannot be continued is cut at its longest beginning that could, and counts as one broken piece.

Base64 with the standard alphabet makes four characters of three bytes, and an incomplete last group is
filled up with equals signs.
-/

namespace ClusterLifecycle.Text.Utf8

abbrev Bytes := List UInt8

def encode (text : List Char) : Bytes :=
  text.flatMap String.utf8EncodeChar

/-- What a stretch of bytes stands for: a character, or nothing that UTF-8 allows. -/
inductive Piece where
  | char (c : Char)
  | broken
  deriving DecidableEq, Repr

/-- Between characters, or inside one: the bytes still owed, the bounds of the next byte, and the
bits gathered so far. -/
inductive Position where
  | between
  | inside (owed : Nat) (low high : UInt8) (bits : Nat)
  deriving DecidableEq, Repr

def start (b : UInt8) : Position × List Piece :=
  let n := b.toNat
  if n ≤ 0x7F then (.between, [.char (Char.ofNat n)])
  else if n < 0xC2 then (.between, [.broken])
  else if n ≤ 0xDF then (.inside 1 0x80 0xBF (n - 0xC0), [])
  else if n = 0xE0 then (.inside 2 0xA0 0xBF 0, [])
  else if n = 0xED then (.inside 2 0x80 0x9F 0xD, [])
  else if n ≤ 0xEF then (.inside 2 0x80 0xBF (n - 0xE0), [])
  else if n = 0xF0 then (.inside 3 0x90 0xBF 0, [])
  else if n ≤ 0xF3 then (.inside 3 0x80 0xBF (n - 0xF0), [])
  else if n = 0xF4 then (.inside 3 0x80 0x8F 4, [])
  else (.between, [.broken])

/-- The effect of one byte: the new position and the pieces that it completes. -/
def step : Position → UInt8 → Position × List Piece
  | .between, b => start b
  | .inside owed low high bits, b =>
    if low ≤ b ∧ b ≤ high then
      let bits := bits * 64 + b.toNat % 64
      if owed ≤ 1 then (.between, [.char (Char.ofNat bits)])
      else (.inside (owed - 1) 0x80 0xBF bits, [])
    else
      let (position, pieces) := start b
      (position, .broken :: pieces)

/-- A sequence that the bytes end inside of is broken. -/
def finish : Position → List Piece
  | .between => []
  | .inside .. => [.broken]

def pieces (bytes : Bytes) : List Piece :=
  let (position, found) := bytes.foldl
    (fun (position, found) b =>
      let (next, completed) := step position b
      (next, completed.reverse ++ found)) (Position.between, [])
  found.reverse ++ finish position

def Piece.char? : Piece → Option Char
  | .char c => some c
  | .broken => none

def decode? (bytes : Bytes) : Option (List Char) :=
  (pieces bytes).mapM Piece.char?

/-- The text of any bytes, each broken piece read as the replacement character. -/
def decodeLossy (bytes : Bytes) : List Char :=
  (pieces bytes).map (fun piece => piece.char?.getD '\uFFFD')

end ClusterLifecycle.Text.Utf8

namespace ClusterLifecycle.Text.Base64

open Utf8 (Bytes)

def alphabet : List Char :=
  "ABCDEFGHIJKLMNOPQRSTUVWXYZabcdefghijklmnopqrstuvwxyz0123456789+/".toList

def symbol (n : Nat) : Char :=
  alphabet.getD (n % 64) '='

def encode : Bytes → List Char
  | [] => []
  | [a] =>
    let n := a.toNat * 65536
    [symbol (n / 262144), symbol (n / 4096), '=', '=']
  | [a, b] =>
    let n := a.toNat * 65536 + b.toNat * 256
    [symbol (n / 262144), symbol (n / 4096), symbol (n / 64), '=']
  | a :: b :: c :: rest =>
    let n := a.toNat * 65536 + b.toNat * 256 + c.toNat
    symbol (n / 262144) :: symbol (n / 4096) :: symbol (n / 64) :: symbol n :: encode rest

end ClusterLifecycle.Text.Base64
