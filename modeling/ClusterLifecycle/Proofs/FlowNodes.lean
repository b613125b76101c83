import ClusterLifecycle.Proofs.FlowDocuments
import ClusterLifecycle.Yaml.Node

/-!
The nodes of a printed document. They follow the document, with its texts read anew; a name that does not fit spoils
all of it.
-/

namespace ClusterLifecycle.Yaml

open Json

mutual

def nodeOf : Document → Node
  | .null => .scalar "null" true
  | .bool b => .scalar (String.ofList (boolText b)) true
  | .number n => .scalar (String.ofList n.print) true
  | .string s => .scalar (reread (s.getD "")) false
  | .array items => .sequence (nodesOf items)
  | .object members => .mapping (entriesOf members)

def nodesOf : List Document → List Node
  | [] => []
  | item :: rest => nodeOf item :: nodesOf rest

def entriesOf : List (Option String × Document) → List (Node × Node)
  | [] => []
  | (name, value) :: rest => (.scalar (reread (name.getD "")) false, nodeOf value) :: entriesOf rest

end

abbrev Named (document : Document) : Prop :=
  Each (fun _ => True) Fits document

def Token.begins : Token → Bool
  | .scalar _ _ | .openFlowSequence | .openFlowMapping => true
  | _ => false

theorem exists_begins (document : Document) :
    ∃ first more, tokensOf document = first :: more ∧ first.begins = true := by
  cases document <;> exact ⟨_, _, by rw [tokensOf], rfl⟩

theorem exists_begins_items (item : Document) (rest : List Document) :
    ∃ first more, itemTokens (item :: rest) = first :: more ∧ first.begins = true := by
  obtain ⟨first, more, same, begins⟩ := exists_begins item
  cases rest with
  | nil => exact ⟨first, more, by rw [itemTokens, same], begins⟩
  | cons next rest => exact ⟨first, _, by rw [itemTokens, same, List.cons_append], begins⟩

theorem exists_starts_members (member : Option String × Document) (rest : List (Option String × Document)) :
    ∃ first more, memberTokens (member :: rest) = first :: more ∧ (first = .key ∨ first.begins = true) := by
  obtain ⟨name, value⟩ := member
  have starts : ∃ first more, nameTokens (name.getD "") = first :: more ∧ (first = .key ∨ first.begins = true) := by
    unfold nameTokens
    split_ifs
    · exact ⟨_, _, rfl, .inl rfl⟩
    · exact ⟨_, _, rfl, .inr rfl⟩
  obtain ⟨first, more, same, starts⟩ := starts
  cases rest with
  | nil => exact ⟨first, _, by rw [memberTokens, same, List.cons_append], starts⟩
  | cons next rest => exact ⟨first, _, by rw [memberTokens, same, List.cons_append, List.cons_append], starts⟩

variable {tokens rest : List Token} {anchors : List (String × Node)} {first : Token}

theorem isNext_begins {kinds : List Token} (begins : first.begins = true)
    (others : ∀ kind ∈ kinds, kind.begins = false) : Remaining.isNext ⟨first :: tokens, anchors⟩ kinds = false := by
  by_contra found
  rw [Bool.not_eq_false, Remaining.isNext, List.contains_iff_mem] at found
  rw [others first found] at begins
  cases begins

namespace Node

theorem read_scalar (standing : Standing) (text : String) (plain : Bool) (fuel : Nat) :
    read standing (fuel + 2) ⟨.scalar text plain :: rest, anchors⟩ = some (.scalar text plain, ⟨rest, anchors⟩) := by
  rw [read, content]
  rfl

theorem read_openSequence (standing : Standing) (fuel : Nat) :
    read standing (fuel + 2) ⟨.openFlowSequence :: tokens, anchors⟩ =
      (flowItems true fuel ⟨tokens, anchors⟩).map fun (found, left) => (.sequence found, left) := by
  rw [read, content, Option.map_eq_bind]
  rfl

theorem read_openMapping (standing : Standing) (fuel : Nat) :
    read standing (fuel + 2) ⟨.openFlowMapping :: tokens, anchors⟩ =
      (flowEntries true fuel ⟨tokens, anchors⟩).map fun (found, left) => (.mapping found, left) := by
  rw [read, content, Option.map_eq_bind]
  rfl

theorem flowItems_first (item : Document) (fuel : Nat) :
    flowItems true (fuel + 1) ⟨tokensOf item ++ tokens, anchors⟩ =
      (read .flow fuel ⟨tokensOf item ++ tokens, anchors⟩).bind fun (item, left) =>
        (flowItems false fuel left).map fun (more, left) => (item :: more, left) := by
  obtain ⟨first, more, same, begins⟩ := exists_begins item
  rw [same, List.cons_append]
  have close : Remaining.isNext ⟨first :: (more ++ tokens), anchors⟩ [.closeFlowSequence] = false :=
    isNext_begins begins (by decide)
  have key : Remaining.isNext ⟨first :: (more ++ tokens), anchors⟩ [.key] = false := isNext_begins begins (by decide)
  rw [flowItems]
  simp only [close, key, Bool.false_eq_true, if_false, if_true, Option.bind_eq_bind, Option.bind_some,
    Option.map_eq_bind]
  rfl

theorem flowItems_separator (item : Document) (others : List Document) (fuel : Nat) :
    flowItems false (fuel + 1) ⟨.separator :: (itemTokens (item :: others) ++ tokens), anchors⟩ =
      flowItems true (fuel + 1) ⟨itemTokens (item :: others) ++ tokens, anchors⟩ := by
  obtain ⟨first, more, same, begins⟩ := exists_begins_items item others
  rw [same, List.cons_append]
  have close : Remaining.isNext ⟨first :: (more ++ tokens), anchors⟩ [.closeFlowSequence] = false :=
    isNext_begins begins (by decide)
  rw [flowItems, flowItems]
  simp only [close]
  rfl

theorem flowItems_close (keep : Bool) (fuel : Nat) :
    flowItems keep (fuel + 1) ⟨.closeFlowSequence :: rest, anchors⟩ = some ([], ⟨rest, anchors⟩) := by
  rw [flowItems]
  rfl

theorem flowEntries_named (text : String) (value : Document) (fuel : Nat) :
    flowEntries true (fuel + 4) ⟨.key :: .scalar text false :: .value :: (tokensOf value ++ tokens), anchors⟩ =
      (read .flow (fuel + 2) ⟨tokensOf value ++ tokens, anchors⟩).bind fun (value, left) =>
        (flowEntries false (fuel + 3) left).map fun (more, left) => ((.scalar text false, value) :: more, left) := by
  obtain ⟨first, more, same, begins⟩ := exists_begins value
  rw [same, List.cons_append]
  have named : part .flow [.value, .separator, .closeFlowMapping] (fuel + 3)
      ⟨.scalar text false :: .value :: first :: (more ++ tokens), anchors⟩ =
        some (.scalar text false, ⟨.value :: first :: (more ++ tokens), anchors⟩) := by
    rw [part, isNext_begins rfl (by decide), if_neg Bool.false_ne_true, read_scalar]
  have valued : part .flow [.separator, .closeFlowMapping] (fuel + 3) ⟨first :: (more ++ tokens), anchors⟩ =
      read .flow (fuel + 2) ⟨first :: (more ++ tokens), anchors⟩ := by
    rw [part, isNext_begins begins (by decide), if_neg Bool.false_ne_true]
  have key : (Remaining.mk (.key :: .scalar text false :: .value :: first :: (more ++ tokens)) anchors).skip =
      ⟨.scalar text false :: .value :: first :: (more ++ tokens), anchors⟩ := rfl
  have colon : (Remaining.mk (.value :: first :: (more ++ tokens)) anchors).skip =
      ⟨first :: (more ++ tokens), anchors⟩ := rfl
  rw [flowEntries]
  simp only [key, named, Option.bind_eq_bind, Option.bind_some, Option.map_eq_bind]
  simp only [colon, valued]
  rfl

/-- A name that does not fit stands alone, and its colon is out of place. -/
theorem flowEntries_unnamed (text : String) (fuel : Nat) :
    flowEntries true (fuel + 3) ⟨.scalar text false :: .value :: tokens, anchors⟩ = none := by
  have stuck : flowEntries false (fuel + 2) ⟨.value :: tokens, anchors⟩ = none := by
    rw [flowEntries]
    rfl
  have scalar : read .flow (fuel + 2) ⟨.scalar text false :: .value :: tokens, anchors⟩ =
      some (.scalar text false, ⟨.value :: tokens, anchors⟩) := read_scalar ..
  have close : Remaining.isNext ⟨.scalar text false :: .value :: tokens, anchors⟩ [.closeFlowMapping] = false :=
    isNext_begins rfl (by decide)
  have key : Remaining.isNext ⟨.scalar text false :: .value :: tokens, anchors⟩ [.key] = false :=
    isNext_begins rfl (by decide)
  rw [flowEntries]
  simp only [close, key, Bool.false_eq_true, if_false, if_true, Option.bind_eq_bind, Option.bind_some, scalar, stuck,
    Option.bind_none]

theorem flowEntries_separator (member : Option String × Document) (others : List (Option String × Document))
    (fuel : Nat) :
    flowEntries false (fuel + 1) ⟨.separator :: (memberTokens (member :: others) ++ tokens), anchors⟩ =
      flowEntries true (fuel + 1) ⟨memberTokens (member :: others) ++ tokens, anchors⟩ := by
  obtain ⟨first, more, same, starts⟩ := exists_starts_members member others
  rw [same, List.cons_append]
  have close : Remaining.isNext ⟨first :: (more ++ tokens), anchors⟩ [.closeFlowMapping] = false := by
    rcases starts with rfl | begins
    · rfl
    · exact isNext_begins begins (by decide)
  rw [flowEntries, flowEntries]
  simp only [close]
  rfl

theorem flowEntries_close (keep : Bool) (fuel : Nat) :
    flowEntries keep (fuel + 1) ⟨.closeFlowMapping :: rest, anchors⟩ = some ([], ⟨rest, anchors⟩) := by
  rw [flowEntries]
  rfl

theorem gives_item {item : Document} {ok okay : Prop} {node : Node} {left : Remaining} {others : List Node × Remaining}
    {fuel : Nat} (inner : Gives ok (node, left) (read .flow fuel ⟨tokensOf item ++ tokens, anchors⟩))
    (later : Gives okay others (flowItems false fuel left)) :
    Gives (ok ∧ okay) (node :: others.1, others.2) (flowItems true (fuel + 1) ⟨tokensOf item ++ tokens, anchors⟩) := by
  rw [flowItems_first]
  exact inner.bind (later.map _)

theorem fits_getD (name : Option String) : Fits (name.getD "") ↔ ∀ t ∈ name, Fits t := by
  cases name with
  | none => exact iff_of_true (by decide) nofun
  | some s => simp

/-- What a member takes of the fuel. -/
theorem exists_room (name : String) (value : Document) {length fuel : Nat}
    (within : (nameTokens name ++ tokensOf value).length ≤ length) (enough : 2 * length + 2 ≤ fuel) :
    ∃ less, fuel = less + 4 ∧ 2 * (tokensOf value).length ≤ less + 2 := by
  have two : 2 ≤ (nameTokens name).length := by
    unfold nameTokens
    split_ifs <;> simp
  rw [List.length_append] at within
  exact ⟨fuel - 4, by omega, by omega⟩

theorem gives_member {name : String} {value : Document} {ok okay : Prop} {node : Node} {left : Remaining}
    {others : List (Node × Node) × Remaining} {fuel : Nat}
    (inner : Gives ok (node, left) (read .flow (fuel + 2) ⟨tokensOf value ++ tokens, anchors⟩))
    (later : Gives okay others (flowEntries false (fuel + 3) left)) :
    Gives (Fits name ∧ ok ∧ okay) ((.scalar (reread name) false, node) :: others.1, others.2)
      (flowEntries true (fuel + 4) ⟨nameTokens name ++ (tokensOf value ++ tokens), anchors⟩) := by
  rw [nameTokens]
  by_cases fits : Fits name
  · rw [if_pos fits, List.cons_append, List.cons_append, List.cons_append, List.nil_append, flowEntries_named]
    exact (inner.bind (later.map _)).congr (by simp [fits])
  · rw [if_neg fits, List.cons_append, List.cons_append, List.nil_append, flowEntries_unnamed]
    exact (gives_none _).congr (by simp [fits])

theorem gives_scalar (standing : Standing) (text : String) (plain : Bool) {fuel : Nat} (enough : 2 ≤ fuel) :
    Gives True (.scalar text plain, ⟨rest, anchors⟩) (read standing fuel ⟨[.scalar text plain] ++ rest, anchors⟩) := by
  obtain ⟨fuel, rfl⟩ := Nat.exists_eq_add_of_le' enough
  rw [List.singleton_append, read_scalar]
  exact gives_some _

end Node

open ClusterLifecycle.Yaml.Node

-- by recursion on the document; two units of fuel for each token are enough, since every reader leaves one behind
mutual

theorem gives_read (standing : Standing) : (document : Document) → ∀ {fuel : Nat} {rest : List Token}
    {anchors : List (String × Node)}, 2 * (tokensOf document).length ≤ fuel →
    Gives (Named document) (nodeOf document, ⟨rest, anchors⟩)
      (read standing fuel ⟨tokensOf document ++ rest, anchors⟩)
  | .null, _, _, _, enough => by
    rw [tokensOf] at enough ⊢
    exact (gives_scalar standing _ _ enough).congr (by simp [Named, Each])
  | .bool b, _, _, _, enough => by
    rw [tokensOf] at enough ⊢
    exact (gives_scalar standing _ _ enough).congr (by simp [Named, Each])
  | .number n, _, _, _, enough => by
    rw [tokensOf] at enough ⊢
    exact (gives_scalar standing _ _ enough).congr (by simp [Named, Each])
  | .string s, _, _, _, enough => by
    rw [tokensOf] at enough ⊢
    exact (gives_scalar standing _ _ enough).congr (by simp [Named, Each])
  | .array items, fuel, rest, anchors, enough => by
    rw [tokensOf] at enough ⊢
    obtain ⟨fuel, rfl⟩ : ∃ n, fuel = n + 2 := ⟨fuel - 2, by simp at enough; omega⟩
    have room : 2 * (itemTokens items).length + 2 ≤ fuel := by
      simp at enough
      omega
    rw [List.cons_append, List.append_assoc, List.singleton_append, read_openSequence]
    exact (gives_items items room).map _
  | .object members, fuel, rest, anchors, enough => by
    rw [tokensOf] at enough ⊢
    obtain ⟨fuel, rfl⟩ : ∃ n, fuel = n + 2 := ⟨fuel - 2, by simp at enough; omega⟩
    have room : 2 * (memberTokens members).length + 2 ≤ fuel := by
      simp at enough
      omega
    rw [List.cons_append, List.append_assoc, List.singleton_append, read_openMapping]
    exact (gives_entries members room).map _

theorem gives_items : (items : List Document) → ∀ {fuel : Nat} {rest : List Token} {anchors : List (String × Node)},
    2 * (itemTokens items).length + 2 ≤ fuel →
    Gives (EachItem (fun _ => True) Fits items) (nodesOf items, ⟨rest, anchors⟩)
      (flowItems true fuel ⟨itemTokens items ++ .closeFlowSequence :: rest, anchors⟩)
  | [], fuel, rest, anchors, enough => by
    obtain ⟨fuel, rfl⟩ : ∃ n, fuel = n + 1 := ⟨fuel - 1, by omega⟩
    rw [itemTokens, List.nil_append, flowItems_close]
    exact gives_some _
  | [item], fuel, rest, anchors, enough => by
    rw [itemTokens] at enough ⊢
    obtain ⟨fuel, rfl⟩ : ∃ n, fuel = n + 2 := ⟨fuel - 2, by omega⟩
    have closed : Gives True ([], ⟨rest, anchors⟩)
        (flowItems false (fuel + 1) ⟨.closeFlowSequence :: rest, anchors⟩) := by
      rw [flowItems_close]
      exact gives_some _
    exact (gives_item (gives_read .flow item (by omega)) closed).congr (by simp [EachItem])
  | item :: next :: others, fuel, rest, anchors, enough => by
    rw [itemTokens] at enough ⊢
    rw [List.append_assoc, List.cons_append]
    obtain ⟨fuel, rfl⟩ : ∃ n, fuel = n + 1 := ⟨fuel - 1, by omega⟩
    obtain ⟨room, more⟩ : 2 * (tokensOf item).length ≤ fuel ∧ 2 * (itemTokens (next :: others)).length + 2 ≤ fuel := by
      simp at enough
      omega
    obtain ⟨fuel, rfl⟩ : ∃ n, fuel = n + 1 := ⟨fuel - 1, by omega⟩
    have later : Gives _ (nodesOf (next :: others), Remaining.mk rest anchors) _ := gives_items (next :: others) more
    rw [← flowItems_separator] at later
    exact gives_item (gives_read .flow item room) later

theorem gives_entries : (members : List (Option String × Document)) → ∀ {fuel : Nat} {rest : List Token}
    {anchors : List (String × Node)}, 2 * (memberTokens members).length + 2 ≤ fuel →
    Gives (EachMember (fun _ => True) Fits members) (entriesOf members, ⟨rest, anchors⟩)
      (flowEntries true fuel ⟨memberTokens members ++ .closeFlowMapping :: rest, anchors⟩)
  | [], fuel, rest, anchors, enough => by
    obtain ⟨fuel, rfl⟩ : ∃ n, fuel = n + 1 := ⟨fuel - 1, by omega⟩
    rw [memberTokens, List.nil_append, flowEntries_close]
    exact gives_some _
  | [(name, value)], fuel, rest, anchors, enough => by
    rw [memberTokens] at enough ⊢
    rw [List.append_assoc]
    obtain ⟨fuel, rfl, room⟩ := exists_room (name.getD "") value (Nat.le_of_eq rfl) enough
    have closed : Gives True ([], ⟨rest, anchors⟩)
        (flowEntries false (fuel + 3) ⟨.closeFlowMapping :: rest, anchors⟩) := by
      rw [flowEntries_close]
      exact gives_some _
    exact (gives_member (gives_read .flow value room) closed).congr (by simp [EachMember, fits_getD])
  | (name, value) :: next :: others, fuel, rest, anchors, enough => by
    rw [memberTokens] at enough ⊢
    rw [List.append_assoc, List.append_assoc, List.cons_append]
    obtain ⟨fuel, rfl, room⟩ := exists_room (name.getD "") value (by simp) enough
    have more : 2 * (memberTokens (next :: others)).length + 2 ≤ fuel + 3 := by
      simp at enough
      omega
    have later : Gives _ (entriesOf (next :: others), Remaining.mk rest anchors) _ :=
      gives_entries (next :: others) more
    rw [← flowEntries_separator] at later
    exact (gives_member (gives_read .flow value room) later).congr (by simp [EachMember, fits_getD])

end

def ReadableName (s : String) : Prop :=
  Readable s ∧ Fits s

theorem gives_tokens (members : List (Option String × Document)) :
    Gives (Named (.object members)) (nodeOf (.object members)) (Node.ofTokens? (tokensOf (.object members))) := by
  have read : Gives (Named (.object members)) (nodeOf (.object members), Remaining.mk [] [])
      (read .block (4 * (tokensOf (.object members)).length + 4) ⟨tokensOf (.object members) ++ [], []⟩) :=
    gives_read .block (.object members) (by omega)
  have whole : Node.ofTokens? (tokensOf (.object members)) =
      (Node.read .block (4 * (tokensOf (.object members)).length + 4) ⟨tokensOf (.object members) ++ [], []⟩).bind
        fun (node, left) => if left.tokens.all (· == .documentEnd) then some node else none := by
    rw [tokensOf, Node.ofTokens?, List.append_nil]
    rfl
  rw [whole]
  exact (read.bind (gives_some (nodeOf (.object members)))).congr (by simp)

/-- A printed object is read as its nodes, if its texts and names are readable and its names fit. -/
theorem ofText?_pretty_object {members : List (Option String × Document)} (sound : (Document.object members).Sound) :
    Gives (Each Readable ReadableName (.object members)) (nodeOf (.object members))
      (Node.ofText? (String.ofList (Document.object members).pretty)) := by
  refine ((tokens?_pretty sound).bind (gives_tokens members)).congr ?_
  rw [Named, ← each_and]
  simp only [and_true]
  rfl

end ClusterLifecycle.Yaml
