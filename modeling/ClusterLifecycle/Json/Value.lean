import ClusterLifecycle.Json.Printer
import ClusterLifecycle.Json.Reader
import ClusterLifecycle.Number.Shortest

/-!
JSON as data: numerals become integers of 64 bits or doubles, of a repeated member the last one
counts, and members are kept sorted by name. Going back to a document, an integer prints as its
digits and a double as the shortest decimal that is nearest to it.
-/

namespace ClusterLifecycle.Json

inductive Value where
  | null
  | bool (b : Bool)
  | int (n : Int)
  | float (x : Binary64)
  | string (s : String)
  | array (items : List Value)
  | object (members : List (String × Value))
  deriving Repr, Inhabited

/-- How many arrays and objects may stand inside one another. -/
def nestingLimit : Nat := 127

def maxUnsigned : Nat := UInt64.size - 1

/-- Digits taken into a significand of at most 64 bits: the significand so far and whether a digit
has already been left out, with the count of digits left out. -/
def gatherWhole (digits : List Nat) : Nat × Nat :=
  digits.foldl (fun (significand, dropped) d =>
    if dropped = 0 ∧ significand * 10 + d ≤ maxUnsigned then (significand * 10 + d, 0)
    else (significand, dropped + 1)) (0, 0)

/-- Digits after the point, up to the first that does not fit; the rest is ignored. -/
def gatherFraction (significand : Nat) : List Nat → Nat × Nat
  | [] => (significand, 0)
  | d :: rest =>
    if significand * 10 + d ≤ maxUnsigned then
      let (final, used) := gatherFraction (significand * 10 + d) rest
      (final, used + 1)
    else (significand, 0)

def digitValues (digits : List Char) : List Nat :=
  digits.filterMap Text.decimalDigit?

def numberOf (digits : List Char) : Nat :=
  (digitValues digits).foldl (fun sum d => sum * 10 + d) 0

/-- The largest exponent that is not treated as unbounded. -/
def maxExponent : Nat := UInt32.size / 2 - 1

/-- The magnitude of a numeral in ticks; nothing where it is too large for a double. -/
def Numeral.ticks? (n : Numeral) : Option Nat :=
  let (whole, dropped) := gatherWhole (digitValues n.whole)
  let (significand, used) := gatherFraction whole (digitValues n.fraction)
  let shift : Int := (dropped : Int) - used
  match n.exponent with
  | none => Binary64.scaled significand shift
  | some (negative, digits) =>
    let size := numberOf digits
    if size > maxExponent then
      if significand ≠ 0 ∧ negative = false then none else some 0
    else Binary64.scaled significand (if negative then shift - size else shift + size)

/-- A numeral without point and exponent is an integer where 64 bits can hold it, and `-0` is none. -/
def Numeral.integer? (n : Numeral) : Option Int :=
  if n.fraction.isEmpty ∧ n.exponent.isNone then
    let size := numberOf n.whole
    if n.negative then
      if 1 ≤ size ∧ size ≤ UInt64.size / 2 then some (- (size : Int)) else none
    else if size ≤ maxUnsigned then some size else none
  else none

def Numeral.value? (n : Numeral) : Option Value :=
  match n.integer? with
  | some i => some (.int i)
  | none => n.ticks?.map fun ticks => .float ⟨n.negative, ticks⟩

namespace Value

/-- A member put into sorted members in place of one of the same name. -/
def insert (name : String) (value : Value) : List (String × Value) → List (String × Value)
  | [] => [(name, value)]
  | (other, kept) :: rest =>
    if name < other then (name, value) :: (other, kept) :: rest
    else if name = other then (name, value) :: rest
    else (other, kept) :: insert name value rest

def sorted (members : List (String × Value)) : List (String × Value) :=
  members.foldl (fun done (name, value) => insert name value done) []

mutual

def ofDocument? (room : Nat) : Document → Option Value
  | .null => some .null
  | .bool b => some (.bool b)
  | .number n => n.value?
  | .string s => s.map .string
  | .array items =>
    if room = 0 then none else (ofItems? (room - 1) items).map .array
  | .object members =>
    if room = 0 then none else (ofMembers? (room - 1) members).map fun found => .object (sorted found)

def ofItems? (room : Nat) : List Document → Option (List Value)
  | [] => some []
  | item :: rest => do
    let first ← ofDocument? room item
    let more ← ofItems? room rest
    some (first :: more)

def ofMembers? (room : Nat) : List (Option String × Document) → Option (List (String × Value))
  | [] => some []
  | (name, value) :: rest => do
    let name ← name
    let first ← ofDocument? room value
    let more ← ofMembers? room rest
    some ((name, first) :: more)

end

def ofText? (text : String) : Option Value := do
  ofDocument? nestingLimit (← Document.ofText? text.toList)

def zeros (n : Nat) : List Char :=
  List.replicate n '0'

/-- How a double is laid out: positional from 0.00001 up to below 10^16, always with a point, and
otherwise as one digit, the rest of the digits behind a point, and a signed exponent. -/
def numeralOf (x : Binary64) : Numeral :=
  if x.ticks = 0 then ⟨x.negative, ['0'], ['0'], none⟩
  else
    let decimal := Binary64.shortest x.ticks
    let digits := Text.decimal decimal.digits
    let point : Int := digits.length + decimal.exponent
    if 0 ≤ decimal.exponent ∧ point ≤ 16 then
      ⟨x.negative, digits ++ zeros decimal.exponent.toNat, ['0'], none⟩
    else if 0 < point ∧ point ≤ 16 then
      ⟨x.negative, digits.take point.toNat, digits.drop point.toNat, none⟩
    else if -5 < point ∧ point ≤ 0 then
      ⟨x.negative, ['0'], zeros (-point).toNat ++ digits, none⟩
    else
      ⟨x.negative, digits.take 1, digits.drop 1, some (point - 1 < 0, Text.decimal (point - 1).natAbs)⟩

mutual

def toDocument : Value → Document
  | .null => .null
  | .bool b => .bool b
  | .int n => .integer n
  | .float x => .number (numeralOf x)
  | .string s => .text s
  | .array items => .array (toItems items)
  | .object members => .object (toMembers members)

def toItems : List Value → List Document
  | [] => []
  | item :: rest => toDocument item :: toItems rest

def toMembers : List (String × Value) → List (Option String × Document)
  | [] => []
  | (name, value) :: rest => (some name, toDocument value) :: toMembers rest

end

def print (value : Value) : String :=
  String.ofList value.toDocument.compact

mutual

/-- Sameness of data: an integer is never a double, zeros of either sign are the same double, and
members are compared in their sorted order. -/
def same : Value → Value → Bool
  | .null, .null => true
  | .bool a, .bool b => a == b
  | .int a, .int b => a == b
  | .float a, .float b => a.numEq b
  | .string a, .string b => a == b
  | .array a, .array b => sameItems a b
  | .object a, .object b => sameMembers a b
  | _, _ => false

def sameItems : List Value → List Value → Bool
  | [], [] => true
  | a :: as, b :: bs => same a b && sameItems as bs
  | _, _ => false

def sameMembers : List (String × Value) → List (String × Value) → Bool
  | [], [] => true
  | (m, a) :: as, (n, b) :: bs => m == n && same a b && sameMembers as bs
  | _, _ => false

end

/-- The member of an object, or nothing for a value that has no such member. -/
def member? (name : String) : Value → Option Value
  | .object members => members.lookup name
  | _ => none

def text? : Value → Option String
  | .string s => some s
  | _ => none

end Value

end ClusterLifecycle.Json
