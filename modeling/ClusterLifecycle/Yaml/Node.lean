import ClusterLifecycle.Yaml.Token

/-!
YAML as nodes. A part that is left out is an empty plain scalar; an alias stands for the node that
was last given its name.
-/

namespace ClusterLifecycle.Yaml

/-- `void` is the text without any document, `cycle` an alias inside the node that it names. -/
inductive Node where
  | scalar (text : String) (plain : Bool)
  | sequence (items : List Node)
  | mapping (entries : List (Node × Node))
  | void
  | cycle
  deriving Repr, Inhabited

namespace Node

def empty : Node := .scalar "" true

end Node

structure Remaining where
  tokens : List Token
  anchors : List (String × Node)

namespace Remaining

def next? (left : Remaining) : Option Token :=
  left.tokens.head?

def skip (left : Remaining) : Remaining :=
  { left with tokens := left.tokens.drop 1 }

def isNext (left : Remaining) (kinds : List Token) : Bool :=
  match left.tokens with
  | [] => false
  | token :: _ => kinds.contains token

def bind (name : String) (node : Node) (left : Remaining) : Remaining :=
  { left with anchors := (name, node) :: left.anchors }

end Remaining

open Remaining

abbrev Reader (α : Type) := Remaining → Option (α × Remaining)

/-- Where a node stands: in a block, where a mapping may have a sequence for its part that starts at
its own column, or between brackets. -/
inductive Standing where
  | block
  | part
  | flow
  deriving DecidableEq, Repr

def Standing.admits : Standing → Token → Bool
  | _, .scalar _ _ | _, .openFlowSequence | _, .openFlowMapping => true
  | .part, .entry => true
  | .block, .openSequence | .block, .openMapping | .part, .openSequence | .part, .openMapping => true
  | _, _ => false

namespace Node

mutual

def read (standing : Standing) : Nat → Reader Node
  | 0, _ => none
  | fuel + 1, left =>
    match left.next? with
    | some (.alias name) => do some (← left.anchors.lookup name, left.skip)
    | some (.anchor name) => do
      let left := left.skip
      let (node, left) ←
        if (left.next?.map standing.admits).getD false then
          content standing fuel (left.bind name .cycle)
        else some (empty, left)
      some (node, left.bind name node)
    | _ => content standing fuel left

def content (standing : Standing) : Nat → Reader Node
  | 0, _ => none
  | fuel + 1, left =>
    match left.next?.filter standing.admits with
    | some (.scalar text plain) => some (.scalar text plain, left.skip)
    | some .openFlowSequence => do
      let (found, left) ← flowItems true fuel left.skip
      some (.sequence found, left)
    | some .openFlowMapping => do
      let (found, left) ← flowEntries true fuel left.skip
      some (.mapping found, left)
    | some .entry => do
      let (found, left) ← items false fuel left
      some (.sequence found, left)
    | some .openSequence => do
      let (found, left) ← items true fuel left.skip
      some (.sequence found, left)
    | some .openMapping => do
      let (found, left) ← entries fuel left.skip
      some (.mapping found, left)
    | _ => none

def part (standing : Standing) (followers : List Token) : Nat → Reader Node
  | 0, _ => none
  | fuel + 1, left =>
    if left.isNext followers then some (empty, left) else read standing fuel left

/-- The items of a sequence in a block; one at the column of its mapping ends without a token. -/
def items (closed : Bool) : Nat → Reader (List Node)
  | 0, _ => none
  | fuel + 1, left =>
    if left.isNext [.entry] then do
      let followers := if closed then [.entry, .close] else [.entry, .key, .value, .close]
      let (first, left) ← part .block followers fuel left.skip
      let (more, left) ← items closed fuel left
      some (first :: more, left)
    else if !closed then some ([], left)
    else if left.isNext [.close] then some ([], left.skip)
    else none

def entries : Nat → Reader (List (Node × Node))
  | 0, _ => none
  | fuel + 1, left =>
    if left.isNext [.close] then some ([], left.skip)
    else if left.isNext [.key] then do
      let (key, left) ← part .part [.key, .value, .close] fuel left.skip
      let (value, left) ←
        if left.isNext [.value] then part .part [.key, .value, .close] fuel left.skip
        else some (empty, left)
      let (more, left) ← entries fuel left
      some ((key, value) :: more, left)
    else none

/-- The items between square brackets. A single pair makes a mapping without brackets of its own. -/
def flowItems (first : Bool) : Nat → Reader (List Node)
  | 0, _ => none
  | fuel + 1, left =>
    if left.isNext [.closeFlowSequence] then some ([], left.skip)
    else do
      let left ← if first then some left else if left.isNext [.separator] then some left.skip else none
      if left.isNext [.closeFlowSequence] then some ([], left.skip)
      else do
        let (item, left) ← if left.isNext [.key] then pair fuel left.skip else read .flow fuel left
        let (more, left) ← flowItems false fuel left
        some (item :: more, left)

def pair : Nat → Reader Node
  | 0, _ => none
  | fuel + 1, left => do
    let (key, left) ←
      if left.isNext [.value, .separator, .closeFlowSequence] then some (empty, left.skip)
      else read .flow fuel left
    let (value, left) ←
      if left.isNext [.value] then part .flow [.separator, .closeFlowSequence] fuel left.skip
      else some (empty, left)
    some (.mapping [(key, value)], left)

def flowEntries (first : Bool) : Nat → Reader (List (Node × Node))
  | 0, _ => none
  | fuel + 1, left =>
    if left.isNext [.closeFlowMapping] then some ([], left.skip)
    else do
      let left ← if first then some left else if left.isNext [.separator] then some left.skip else none
      if left.isNext [.closeFlowMapping] then some ([], left.skip)
      else if left.isNext [.key] then do
        let (key, left) ← part .flow [.value, .separator, .closeFlowMapping] fuel left.skip
        let (value, left) ←
          if left.isNext [.value] then part .flow [.separator, .closeFlowMapping] fuel left.skip
          else some (empty, left)
        let (more, left) ← flowEntries false fuel left
        some ((key, value) :: more, left)
      else do
        let (key, left) ← read .flow fuel left
        let (more, left) ← flowEntries false fuel left
        some ((key, empty) :: more, left)

end

def ofTokens? (tokens : List Token) : Option Node := do
  if tokens.isEmpty then return .void
  let marked := tokens.head? == some .documentStart
  let left : Remaining := ⟨tokens.drop marked.toNat, []⟩
  let (node, left) ←
    if marked && (left.tokens.isEmpty || left.isNext [.documentStart, .documentEnd]) then
      some (empty, left)
    else read .block (4 * tokens.length + 4) left
  if left.tokens.all (· == .documentEnd) then some node else none

def ofText? (text : String) : Option Node := do
  ofTokens? (← tokens? text)

end Node

end ClusterLifecycle.Yaml
