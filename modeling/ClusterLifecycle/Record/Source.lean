import ClusterLifecycle.Uuid

/-!
Reading records from data in any format. A format says how its data is read as a text, a number, a
list and so on; the record readers are written once over that and know nothing else of the format.
-/

namespace ClusterLifecycle.Record

/-- What a format has to offer. `fields` gives the named parts of a record whose field names are
given in their order; `absent` says which data stands for a missing optional value. -/
structure Source (δ : Type) where
  text : δ → Option String
  absent : δ → Bool
  natural : Nat → δ → Option Nat
  truth : δ → Option Bool
  items : δ → Option (List δ)
  members : δ → Option (List (String × δ))
  fields : List String → δ → Option (List (String × δ))
  variant : δ → Option String

def hasRepeat : List String → Bool
  | [] => false
  | name :: rest => rest.contains name || hasRepeat rest

/-- The known fields of a record. Unknown ones are left out however often they occur; a known one
that occurs twice spoils the record. -/
def known? {δ : Type} (names : List String) (fields : List (String × δ)) : Option (List (String × δ)) :=
  let kept := fields.filter fun field => names.contains field.1
  if hasRepeat (kept.map Prod.fst) then none else some kept

namespace Source

variable {δ α : Type} (source : Source δ)

def record (names : List String) (data : δ) : Option (List (String × δ)) := do
  known? names (← source.fields names data)

def optional (read : δ → Option α) (data : δ) : Option (Option α) :=
  if source.absent data then some none else (read data).map some

def unsigned32 (data : δ) : Option UInt32 :=
  (source.natural (UInt32.size - 1) data).map UInt32.ofNat

def unsigned64 (data : δ) : Option UInt64 :=
  (source.natural (UInt64.size - 1) data).map UInt64.ofNat

def uuid (data : δ) : Option Uuid := do
  Uuid.ofString? (← source.text data)

def list (read : δ → Option α) (data : δ) : Option (List α) := do
  (← source.items data).mapM read

end Source

variable {δ α : Type}

def required (fields : List (String × δ)) (name : String) (read : δ → Option α) : Option α := do
  read (← fields.lookup name)

def defaulted (fields : List (String × δ)) (name : String) (default : α) (read : δ → Option α) : Option α :=
  match fields.lookup name with
  | none => some default
  | some data => read data

end ClusterLifecycle.Record
