import ClusterLifecycle.Json.Printer
import ClusterLifecycle.Text.Property

/-!
The values that templates compute with. A missing field is a value of its own, which nothing
may be done with except to ask whether it is there. Lists put together are a kind of their own,
which differs from that of lists only in the order of kinds.
-/

namespace ClusterLifecycle.Template

open Json (Document)

inductive Value where
  | undefined
  | none
  | bool (b : Bool)
  | int (n : Int)
  | string (s : String)
  | list (items : List Value)
  | joined (items : List Value)
  | map (entries : List (String × Value))
  deriving Repr, Inhabited

namespace Value

def ofText? : Option String → Value
  | Option.none => .none
  | some s => .string s

def ofCount? : Option UInt32 → Value
  | Option.none => .none
  | some n => .int n.toNat

def isMissing : Value → Bool
  | .undefined | .none => true
  | _ => false

def isUndefined : Value → Bool
  | .undefined => true
  | _ => false

def items? : Value → Option (List Value)
  | .list items | .joined items => some items
  | _ => Option.none

def int? : Value → Option Int
  | .int n => some n
  | .bool b => some (if b then 1 else 0)
  | _ => Option.none

mutual

def quoted : Value → List Char
  | .undefined => "undefined".toList
  | .none => "None".toList
  | .bool true => "True".toList
  | .bool false => "False".toList
  | .int n => (toString n).toList
  | .string s => Text.shownText s.toList
  | .list items | .joined items => '[' :: quotedItems items ++ [']']
  | .map entries => '{' :: quotedEntries entries ++ ['}']

def quotedItems : List Value → List Char
  | [] => []
  | [item] => quoted item
  | item :: rest => quoted item ++ ", ".toList ++ quotedItems rest

def quotedEntries : List (String × Value) → List Char
  | [] => []
  | [(name, value)] => Text.shownText name.toList ++ ": ".toList ++ quoted value
  | (name, value) :: rest =>
    Text.shownText name.toList ++ ": ".toList ++ quoted value ++ ", ".toList ++ quotedEntries rest

end

def text : Value → List Char
  | .undefined => []
  | .string s => s.toList
  | value => quoted value

mutual

def toDocument : Value → Document
  | .undefined | .none => .null
  | .bool b => .bool b
  | .int n => .integer n
  | .string s => .text s
  | .list items | .joined items => .array (toItems items)
  | .map entries => .object (toMembers entries)

def toItems : List Value → List Document
  | [] => []
  | item :: rest => toDocument item :: toItems rest

def toMembers : List (String × Value) → List (Option String × Document)
  | [] => []
  | (name, value) :: rest => (some name, toDocument value) :: toMembers rest

end

mutual

/-- Equality; a truth value equals its number. -/
def same : Value → Value → Bool
  | .undefined, .undefined => true
  | .none, .none => true
  | .string a, .string b => a == b
  | .list a, .list b | .list a, .joined b | .joined a, .list b | .joined a, .joined b => sameItems a b
  | .map a, .map b => a.length == b.length && sameEntries a b
  | a, b => match a.int?, b.int? with
    | some m, some n => m == n
    | _, _ => false

def sameItems : List Value → List Value → Bool
  | [], [] => true
  | a :: as, b :: bs => same a b && sameItems as bs
  | _, _ => false

def sameEntries : List (String × Value) → List (String × Value) → Bool
  | [], _ => true
  | (name, a) :: rest, entries => (match entries.lookup name with
    | some b => same a b
    | Option.none => false) && sameEntries rest entries

end

def field (name : String) : Value → Value
  | .map entries => (entries.lookup name).getD .undefined
  | _ => .undefined

/-- The element at an index, counted from the end where it is negative. -/
def nth {α : Type} (elements : List α) (index : Int) : Option α :=
  if 0 ≤ index then elements[index.toNat]?
  else if index.natAbs ≤ elements.length then elements[elements.length - index.natAbs]?
  else Option.none

/-- The element of a list or a text at an index, or the entry of a map. -/
def item (container key : Value) : Value :=
  match container, key with
  | .map entries, .string name => (entries.lookup name).getD .undefined
  | .list items, key | .joined items, key => match key.int? with
    | some index => (nth items index).getD .undefined
    | Option.none => .undefined
  | .string s, key => match key.int? with
    | some index => match nth s.toList index with
      | some c => .string (String.singleton c)
      | Option.none => .undefined
    | Option.none => .undefined
  | _, _ => .undefined

def truth : Value → Bool
  | .undefined | .none => false
  | .bool b => b
  | .int n => n ≠ 0
  | .string s => s ≠ ""
  | .list items | .joined items => !items.isEmpty
  | .map entries => !entries.isEmpty

/-- What a loop over a value that is not undefined runs through: the items of a list, the names of
a map, the characters of a text. -/
def elements? : Value → Option (List Value)
  | .none => some []
  | .list items | .joined items => some items
  | .map entries => some (entries.map fun (name, _) => .string name)
  | .string s => some (s.toList.map fun c => .string (String.singleton c))
  | _ => Option.none

/-- Whether it is known before the end how many elements a loop runs through; it is not for texts. -/
def isCounted : Value → Bool
  | .string _ => false
  | _ => true

def rank : Value → Nat
  | .undefined => 0
  | .none => 1
  | .bool _ => 2
  | .int _ => 3
  | .string _ => 4
  | .list _ => 5
  | .map _ => 6
  | .joined _ => 7

/-- The numbers that two numbers are compared and calculated with: two that do not fit 64 bits count
as signed numbers of 128 bits, and beside any other number there has to be one that fits those. -/
def paired? (m n : Int) : Option (Int × Int) :=
  if Int.pow 2 64 ≤ m ∧ Int.pow 2 64 ≤ n then some (m.bmod (Nat.pow 2 128), n.bmod (Nat.pow 2 128))
  else if Int.pow 2 127 ≤ m ∨ Int.pow 2 127 ≤ n then Option.none
  else some (m, n)

def orderInts (m n : Int) : Ordering :=
  match paired? m n with
  | some (m, n) => compare m n
  | Option.none => compare m n

mutual

/-- The order of values: by kind, and of one kind by number or text, and item by item. -/
def order : Value → Value → Ordering
  | .bool a, .bool b => compare a.toNat b.toNat
  | .int m, .int n => orderInts m n
  | .string s, .string t => compare s t
  | .list a, .list b => orderItems a b
  | .joined a, .joined b => orderItems a b
  | .map a, .map b => orderEntries a b
  | a, b => compare a.rank b.rank

def orderItems : List Value → List Value → Ordering
  | [], [] => .eq
  | [], _ :: _ => .lt
  | _ :: _, [] => .gt
  | a :: as, b :: bs => (order a b).then (orderItems as bs)

def orderEntries : List (String × Value) → List (String × Value) → Ordering
  | [], [] => .eq
  | [], _ :: _ => .lt
  | _ :: _, [] => .gt
  | (name, a) :: as, (other, b) :: bs => (compare name other).then ((order a b).then (orderEntries as bs))

end

def less (a b : Value) : Bool :=
  order a b == .lt

end Value

end ClusterLifecycle.Template
