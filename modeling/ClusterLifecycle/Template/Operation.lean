import ClusterLifecycle.Template.Failure
import ClusterLifecycle.Template.Value
import ClusterLifecycle.Text.Blank

/-!
What operators make of values. Numbers have 128 bits, a sign included, and a calculation that leaves
that range is refused.
-/

namespace ClusterLifecycle.Template

inductive Operator where
  | equal
  | unequal
  | less
  | lessOrEqual
  | greater
  | greaterOrEqual
  | member
  | add
  | subtract
  | join
  | multiply
  | divide
  | remainder
  deriving DecidableEq, Repr

def Operator.isStrict : Operator → Bool
  | .equal | .unequal | .less | .lessOrEqual | .greater | .greaterOrEqual | .join => true
  | _ => false

namespace Value

def known (value : Value) (line : Nat) : Except Fault Value :=
  if value.isUndefined then .error (.undefined line) else .ok value

def ofResult (n : Int) : Except Fault Value :=
  if -Int.pow 2 127 ≤ n ∧ n < Int.pow 2 127 then .ok (.int n) else .error .invalidOperation

def numbers? (a b : Value) : Option (Int × Int) := do
  paired? (← a.int?) (← b.int?)

def arithmetic (operation : Int → Int → Int) (a b : Value) : Except Fault Value :=
  match numbers? a b with
  | some (m, n) => ofResult (operation m n)
  | Option.none => .error .invalidOperation

def add (a b : Value) : Except Fault Value :=
  match a.items?, b.items?, a, b with
  | some first, some second, _, _ => .ok (.joined (first ++ second))
  | _, _, .string s, .string t => .ok (.string (s ++ t))
  | _, _, a, b => arithmetic (· + ·) a b

def division (operation : Int → Int → Int) (a b : Value) : Except Fault Value :=
  if b.int? = some 0 then .error .invalidOperation else arithmetic operation a b

def member (a b : Value) : Except Fault Bool :=
  match b with
  | .string s => .ok (Text.occursIn a.text s.toList)
  | .list items | .joined items => .ok (items.any (same a))
  | .map entries => .ok (match a with
    | .string name => (entries.lookup name).isSome
    | _ => false)
  | _ => .error .invalidOperation

def operate (operator : Operator) (a b : Value) : Except Fault Value :=
  match operator with
  | .equal => .ok (.bool (same a b))
  | .unequal => .ok (.bool (!same a b))
  | .less => .ok (.bool (less a b))
  | .lessOrEqual => .ok (.bool (!less b a))
  | .greater => .ok (.bool (less b a))
  | .greaterOrEqual => .ok (.bool (!less a b))
  | .member => do .ok (.bool (← member a b))
  | .add => add a b
  | .subtract => arithmetic (· - ·) a b
  | .join => .ok (.string (String.ofList (a.text ++ b.text)))
  | .multiply => arithmetic (· * ·) a b
  | .divide => division (· / ·) a b
  | .remainder => division (· % ·) a b

/-- The result of an operator on a line, where an operand may be missing. -/
def operateAt (operator : Operator) (a b : Value) (line : Nat) : Except Fault Value := do
  if operator.isStrict then
    let _ ← a.known line
  if operator.isStrict || operator = .member then
    let _ ← b.known line
  operate operator a b

/-- A number with the other sign; the least number has none, except where it was written without
one. -/
def negate (value : Value) : Except Fault Value :=
  match value with
  | .int n => if n = Int.pow 2 127 then .ok (.int n)
    else if Int.pow 2 127 < n then .error .invalidOperation
    else ofResult (-n)
  | _ => .error .invalidOperation

end Value

end ClusterLifecycle.Template
