import ClusterLifecycle.Json.Source
import ClusterLifecycle.Json.Value
import ClusterLifecycle.Proofs.SortedEntries
import Mathlib.Data.List.Perm.Basic

/-!
When two JSON documents hold the same data. Arrays are compared item by item and objects name by
name, so neither the order of members makes a difference nor what a repeated name meant before its
last occurrence.
-/

namespace ClusterLifecycle.Json

/-! ### Data -/

namespace Value

theorem insert_eq_put (name : String) (value : Value) (entries : List (String × Value)) :
    insert name value entries = put name value entries := by
  induction entries with
  | nil => rfl
  | cons entry rest ih => rw [insert, put, ih]

theorem sorted_eq_gathered (entries : List (String × Value)) : sorted entries = gathered entries := by
  unfold sorted gathered
  simp only [insert_eq_put]

variable {room : Nat}

theorem ofItems?_eq_some {items : List Document} {values : List Value} :
    ofItems? room items = some values ↔
      List.Forall₂ (fun item value => ofDocument? room item = some value) items values := by
  induction items generalizing values with
  | nil => simp [ofItems?, eq_comm]
  | cons item rest ih =>
    rw [List.forall₂_cons_left_iff]
    simp only [ofItems?, Option.bind_eq_bind, Option.bind_eq_some_iff, Option.some.injEq, ih]
    constructor
    · intro found
      obtain ⟨first, here, more, later, rfl⟩ := found
      exact ⟨first, more, here, later, rfl⟩
    · intro found
      obtain ⟨first, more, here, later, rfl⟩ := found
      exact ⟨first, here, more, later, rfl⟩

def Carries (room : Nat) (member : Option String × Document) (entry : String × Value) : Prop :=
  member.1 = some entry.1 ∧ ofDocument? room member.2 = some entry.2

theorem ofMembers?_eq_some {members : List (Option String × Document)} {entries : List (String × Value)} :
    ofMembers? room members = some entries ↔ List.Forall₂ (Carries room) members entries := by
  induction members generalizing entries with
  | nil => simp [ofMembers?, eq_comm]
  | cons member rest ih =>
    obtain ⟨name, document⟩ := member
    rw [List.forall₂_cons_left_iff]
    simp only [ofMembers?, Option.bind_eq_bind, Option.bind_eq_some_iff, Option.some.injEq, ih]
    constructor
    · intro found
      obtain ⟨key, named, first, here, more, later, rfl⟩ := found
      exact ⟨(key, first), more, ⟨named, here⟩, later, rfl⟩
    · intro found
      obtain ⟨⟨key, first⟩, more, ⟨named, here⟩, later, rfl⟩ := found
      exact ⟨key, named, first, here, more, later, rfl⟩

theorem sameItems_iff {left right : List Value} :
    sameItems left right = true ↔ List.Forall₂ (fun value other => same value other = true) left right := by
  induction left generalizing right with
  | nil => cases right <;> simp [sameItems]
  | cons value left ih =>
    cases right with
    | nil => simp [sameItems]
    | cons other right => simp [sameItems, ih]

theorem sameMembers_iff {left right : List (String × Value)} :
    sameMembers left right = true ↔
      List.Forall₂ (fun entry other => entry.1 = other.1 ∧ same entry.2 other.2 = true) left right := by
  induction left generalizing right with
  | nil => cases right <;> simp [sameMembers]
  | cons entry left ih =>
    cases right with
    | nil => simp [sameMembers]
    | cons other right => simp [sameMembers, ih, and_assoc]

end Value

/-! ### Agreement of documents -/

/-- Two numerals write the same number: the same integer, or doubles that are equal. -/
def SameNumber (n m : Numeral) : Prop :=
  (∃ i, n.value? = some (.int i) ∧ m.value? = some (.int i)) ∨
    ∃ x y, n.value? = some (.float x) ∧ m.value? = some (.float y) ∧ x.numEq y = true

inductive Agrees : Document → Document → Prop where
  | null : Agrees .null .null
  | bool (b : Bool) : Agrees (.bool b) (.bool b)
  | number {n m : Numeral} (same : SameNumber n m) : Agrees (.number n) (.number m)
  | string (s : Option String) : Agrees (.string s) (.string s)
  | array {items others : List Document} (each : List.Forall₂ Agrees items others) :
      Agrees (.array items) (.array others)
  | object {members others : List (Option String × Document)}
      (each : ∀ name : String, Option.Rel Agrees (lastOf (some name) members) (lastOf (some name) others)) :
      Agrees (.object members) (.object others)

def Document.kind : Document → Nat
  | .null => 0
  | .bool _ => 1
  | .number _ => 2
  | .string _ => 3
  | .array _ => 4
  | .object _ => 5

def Value.kind : Value → Nat
  | .null => 0
  | .bool _ => 1
  | .int _ | .float _ => 2
  | .string _ => 3
  | .array _ => 4
  | .object _ => 5

theorem Agrees.kind {document other : Document} (agrees : Agrees document other) : document.kind = other.kind := by
  cases agrees <;> rfl

namespace Value

theorem kind_of_same {value other : Value} (alike : same value other = true) : value.kind = other.kind := by
  cases value <;> cases other <;> simp_all [same, kind]

section Documents

variable {room : Nat} {document : Document} {value : Value} {n : Numeral} {s : Option String}
  {items : List Document} {members : List (Option String × Document)}

theorem int_or_float_of_value? (found : n.value? = some value) : (∃ i, value = .int i) ∨ ∃ x, value = .float x := by
  unfold Numeral.value? at found
  split at found
  · exact .inl ⟨_, (Option.some.inj found).symm⟩
  · obtain ⟨ticks, -, rfl⟩ := Option.map_eq_some_iff.1 found
    exact .inr ⟨_, rfl⟩

theorem ofDocument?_number (found : ofDocument? room (.number n) = some value) : n.value? = some value := found

theorem ofDocument?_string (found : ofDocument? room (.string s) = some value) :
    ∃ text, s = some text ∧ value = .string text := by
  obtain ⟨text, rfl, rfl⟩ := Option.map_eq_some_iff.1 found
  exact ⟨text, rfl, rfl⟩

theorem ofDocument?_array (found : ofDocument? room (.array items) = some value) :
    ∃ less values, room = less + 1 ∧ value = .array values ∧
      List.Forall₂ (fun item value => ofDocument? less item = some value) items values := by
  rw [ofDocument?] at found
  cases room with
  | zero => cases found
  | succ less =>
    obtain ⟨values, each, rfl⟩ := Option.map_eq_some_iff.1 found
    exact ⟨less, values, rfl, rfl, ofItems?_eq_some.1 each⟩

theorem ofDocument?_object (found : ofDocument? room (.object members) = some value) :
    ∃ less entries, room = less + 1 ∧ value = .object (gathered entries) ∧
      List.Forall₂ (Carries less) members entries := by
  rw [ofDocument?] at found
  cases room with
  | zero => cases found
  | succ less =>
    obtain ⟨entries, each, rfl⟩ := Option.map_eq_some_iff.1 found
    exact ⟨less, entries, rfl, by rw [sorted_eq_gathered], ofMembers?_eq_some.1 each⟩

theorem kind_of_ofDocument? (found : ofDocument? room document = some value) : value.kind = document.kind := by
  cases document with
  | null => rw [← Option.some.inj found]; rfl
  | bool b => rw [← Option.some.inj found]; rfl
  | number n =>
    obtain ⟨i, rfl⟩ | ⟨x, rfl⟩ := int_or_float_of_value? (ofDocument?_number found)
    · rfl
    · rfl
  | string s =>
    obtain ⟨text, -, rfl⟩ := ofDocument?_string found
    rfl
  | array items =>
    obtain ⟨_, _, -, rfl, -⟩ := ofDocument?_array found
    rfl
  | object members =>
    obtain ⟨_, _, -, rfl, -⟩ := ofDocument?_object found
    rfl

theorem lastOf_carries {entries : List (String × Value)} (each : List.Forall₂ (Carries room) members entries)
    (name : String) :
    Option.Rel (fun document value => ofDocument? room document = some value) (lastOf (some name) members)
      (lastOf name entries) :=
  lastOf_rel (fun _ _ => Option.some.inj) each name

theorem lookup_gathered_rel {entries : List (String × Value)} (each : List.Forall₂ (Carries room) members entries)
    (name : String) :
    Option.Rel (fun document value => ofDocument? room document = some value) (lastOf (some name) members)
      ((gathered entries).lookup name) := by
  rw [lookup_gathered]
  exact lastOf_carries each name

end Documents

end Value

section Transport

variable {α β γ δ : Type} {R : α → β → Prop} {S : γ → δ → Prop} {T : β → δ → Prop} {U : α → γ → Prop}

theorem forall₂_transport {as : List α} {bs : List β} {cs : List γ} {ds : List δ} (first : List.Forall₂ R as bs)
    (second : List.Forall₂ S cs ds) (each : ∀ a b c d, R a b → S c d → (T b d ↔ U a c)) :
    List.Forall₂ T bs ds ↔ List.Forall₂ U as cs := by
  induction first generalizing cs ds with
  | nil => cases second <;> simp
  | cons here _ ih =>
    cases second with
    | nil => simp
    | cons there later => simp [each _ _ _ _ here there, ih later]

theorem rel_transport {a : Option α} {b : Option β} {c : Option γ} {d : Option δ} (first : Option.Rel R a b)
    (second : Option.Rel S c d) (each : ∀ a b c d, R a b → S c d → (T b d ↔ U a c)) :
    Option.Rel T b d ↔ Option.Rel U a c := by
  cases first with
  | none => cases second <;> simp
  | some here =>
    cases second with
    | none => simp
    | some there => simp [each _ _ _ _ here there]

end Transport

section Related

variable {α β γ δ : Type} {R : α → β → Prop} {S : γ → δ → Prop} {a : Option α} {b : Option β}

theorem rel_bind {f : α → Option γ} {g : β → Option δ} (related : Option.Rel R a b)
    (each : ∀ x y, R x y → Option.Rel S (f x) (g y)) : Option.Rel S (a.bind f) (b.bind g) := by
  cases related with
  | none => exact .none
  | some here => exact each _ _ here

theorem bind_eq_of_rel {f : α → Option γ} {g : β → Option γ} (related : Option.Rel R a b)
    (each : ∀ x y, R x y → f x = g y) : a.bind f = b.bind g := by
  cases related with
  | none => rfl
  | some here => exact each _ _ here

theorem rel_getD {x : α} {y : β} (related : Option.Rel R a b) (default : R x y) : R (a.getD x) (b.getD y) := by
  cases related with
  | none => exact default
  | some here => exact here

end Related

/-! ### Sameness of data -/

theorem agrees_number_iff {n m : Numeral} : Agrees (.number n) (.number m) ↔ SameNumber n m := by
  constructor
  · intro agrees
    cases agrees with
    | number same => exact same
  · exact .number

theorem agrees_string_iff {s t : Option String} : Agrees (.string s) (.string t) ↔ s = t := by
  constructor
  · intro agrees
    cases agrees
    rfl
  · rintro rfl
    exact .string s

theorem agrees_array_iff {items others : List Document} :
    Agrees (.array items) (.array others) ↔ List.Forall₂ Agrees items others := by
  constructor
  · intro agrees
    cases agrees with
    | array each => exact each
  · exact .array

theorem agrees_object_iff {members others : List (Option String × Document)} :
    Agrees (.object members) (.object others) ↔
      ∀ name : String, Option.Rel Agrees (lastOf (some name) members) (lastOf (some name) others) := by
  constructor
  · intro agrees
    cases agrees with
    | object each => exact each
  · exact .object

theorem same_number_iff {n m : Numeral} {value value' : Value} (here : n.value? = some value)
    (there : m.value? = some value') : value.same value' = true ↔ Agrees (.number n) (.number m) := by
  rw [agrees_number_iff, SameNumber, here, there]
  obtain ⟨i, rfl⟩ | ⟨x, rfl⟩ := Value.int_or_float_of_value? here
  · obtain ⟨j, rfl⟩ | ⟨y, rfl⟩ := Value.int_or_float_of_value? there
    · simp only [Value.same, beq_iff_eq, Option.some.injEq, Value.int.injEq, reduceCtorEq, false_and,
        exists_false, or_false, exists_eq_left']
      exact eq_comm
    · simp [Value.same]
  · obtain ⟨j, rfl⟩ | ⟨y, rfl⟩ := Value.int_or_float_of_value? there
    · simp [Value.same]
    · simp [Value.same]

section Nested

variable {room room' : Nat} {value value' : Value} (inner : ∀ less < room, ∀ {less' document other value value'},
  Value.ofDocument? less document = some value → Value.ofDocument? less' other = some value' →
    (Value.same value value' = true ↔ Agrees document other))

include inner

theorem same_array_iff {items others : List Document} (here : Value.ofDocument? room (.array items) = some value)
    (there : Value.ofDocument? room' (.array others) = some value') :
    value.same value' = true ↔ Agrees (.array items) (.array others) := by
  obtain ⟨less, values, rfl, rfl, each⟩ := Value.ofDocument?_array here
  obtain ⟨less', values', rfl, rfl, each'⟩ := Value.ofDocument?_array there
  rw [Value.same, Value.sameItems_iff, agrees_array_iff]
  exact forall₂_transport each each' fun _ _ _ _ => inner less (Nat.lt_succ_self less)

theorem same_object_iff {members others : List (Option String × Document)}
    (here : Value.ofDocument? room (.object members) = some value)
    (there : Value.ofDocument? room' (.object others) = some value') :
    value.same value' = true ↔ Agrees (.object members) (.object others) := by
  obtain ⟨less, entries, rfl, rfl, each⟩ := Value.ofDocument?_object here
  obtain ⟨less', entries', rfl, rfl, each'⟩ := Value.ofDocument?_object there
  have by_name := @forall₂_iff_lookup _ _ (fun value other => Value.same value other = true) _ _
    (pairwise_gathered entries) (pairwise_gathered entries')
  rw [Value.same, Value.sameMembers_iff, by_name, agrees_object_iff]
  exact forall_congr' fun name =>
    rel_transport (Value.lookup_gathered_rel each name) (Value.lookup_gathered_rel each' name)
      fun _ _ _ _ => inner less (Nat.lt_succ_self less)

end Nested

theorem same_kind {room room' : Nat} {document other : Document} {value value' : Value}
    (here : Value.ofDocument? room document = some value) (there : Value.ofDocument? room' other = some value')
    (alike : value.same value' = true) : document.kind = other.kind := by
  rw [← Value.kind_of_ofDocument? here, ← Value.kind_of_ofDocument? there]
  exact Value.kind_of_same alike

/-- Data is the same where the documents agree. -/
theorem same_iff_agrees {room room' : Nat} {document other : Document} {value value' : Value}
    (here : Value.ofDocument? room document = some value) (there : Value.ofDocument? room' other = some value') :
    value.same value' = true ↔ Agrees document other := by
  -- what is inside of an array or an object nests less deeply
  induction room using Nat.strongRecOn generalizing room' document other value value' with
  | ind room ih =>
    by_cases kinds : document.kind = other.kind
    case neg =>
      constructor
      · intro alike
        exact absurd (same_kind here there alike) kinds
      · intro agrees
        exact absurd agrees.kind kinds
    cases document with
    | null =>
      cases other with
      | null =>
        rw [← Option.some.inj here, ← Option.some.inj there]
        exact ⟨fun _ => .null, fun _ => rfl⟩
      | _ => cases kinds
    | bool b =>
      cases other with
      | bool c =>
        rw [← Option.some.inj here, ← Option.some.inj there, Value.same, beq_iff_eq]
        constructor
        · rintro rfl
          exact .bool b
        · intro agrees
          cases agrees
          rfl
      | _ => cases kinds
    | number n =>
      cases other with
      | number m => exact same_number_iff here there
      | _ => cases kinds
    | string s =>
      cases other with
      | string t =>
        obtain ⟨text, rfl, rfl⟩ := Value.ofDocument?_string here
        obtain ⟨text', rfl, rfl⟩ := Value.ofDocument?_string there
        rw [Value.same, beq_iff_eq, agrees_string_iff, Option.some_inj]
      | _ => cases kinds
    | array items =>
      cases other with
      | array others => exact same_array_iff ih here there
      | _ => cases kinds
    | object members =>
      cases other with
      | object others => exact same_object_iff ih here there
      | _ => cases kinds

/-! ### Texts and members of documents -/

theorem text?_of_ofDocument? {room : Nat} {document : Document} {value : Value}
    (found : Value.ofDocument? room document = some value) : document.text? = value.text? := by
  have kinds := Value.kind_of_ofDocument? found
  cases document with
  | string s =>
    obtain ⟨text, rfl, rfl⟩ := Value.ofDocument?_string found
    rfl
  | _ =>
    cases value with
    | string s => cases kinds
    | _ => rfl

/-- The value of the last member with a name; nothing but an object has members. -/
def Document.member? (name : String) : Document → Option Document
  | .object members => lastOf (some name) members
  | _ => none

theorem member?_rel {room : Nat} {document : Document} {value : Value}
    (found : Value.ofDocument? room document = some value) (name : String) :
    Option.Rel (fun document value => Value.ofDocument? (room - 1) document = some value) (document.member? name)
      (value.member? name) := by
  have kinds := Value.kind_of_ofDocument? found
  cases document with
  | object members =>
    obtain ⟨less, entries, rfl, rfl, each⟩ := Value.ofDocument?_object found
    exact Value.lookup_gathered_rel each name
  | _ =>
    cases value with
    | object entries => cases kinds
    | _ => exact .none

/-! ### Members in another order -/

/-- Members may stand in another order at any depth, where no name is repeated. -/
inductive Rearranged : Document → Document → Prop where
  | refl (document : Document) : Rearranged document document
  | array {items others : List Document} (each : List.Forall₂ Rearranged items others) :
      Rearranged (.array items) (.array others)
  | object {members middle others : List (Option String × Document)} (distinct : (members.map Prod.fst).Nodup)
      (perm : members.Perm middle) (names : middle.map Prod.fst = others.map Prod.fst)
      (each : List.Forall₂ Rearranged (middle.map Prod.snd) (others.map Prod.snd)) :
      Rearranged (.object members) (.object others)

theorem forall₂_pairs {κ α β : Type} {R : α → β → Prop} {left : List (κ × α)} {right : List (κ × β)}
    (names : left.map Prod.fst = right.map Prod.fst) (each : List.Forall₂ R (left.map Prod.snd) (right.map Prod.snd)) :
    List.Forall₂ (fun entry other => entry.1 = other.1 ∧ R entry.2 other.2) left right := by
  induction left generalizing right with
  | nil =>
    obtain rfl := List.map_eq_nil_iff.1 names.symm
    exact .nil
  | cons entry left ih =>
    cases right with
    | nil => cases names
    | cons other right =>
      obtain ⟨same, names⟩ := List.cons.inj names
      cases each with
      | cons here later => exact .cons ⟨same, here⟩ (ih names later)

theorem forall₂_carry {α β γ : Type} {R : α → β → Prop} {S : α → γ → Prop} {T : β → γ → Prop} {as : List α}
    {bs : List β} {cs : List γ} (first : List.Forall₂ R as bs) (second : List.Forall₂ S as cs)
    (each : ∀ a b c, R a b → S a c → T b c) : List.Forall₂ T bs cs := by
  induction first generalizing cs with
  | nil =>
    cases second
    exact .nil
  | cons here _ ih =>
    cases second with
    | cons there later => exact .cons (each _ _ _ here there) (ih later)

theorem gathered_perm {α : Type} {entries others : List (String × α)} (distinct : (entries.map Prod.fst).Nodup)
    (perm : entries.Perm others) : gathered entries = gathered others := by
  have by_name := @forall₂_iff_lookup _ _ (fun value other : α => value = other) _ _ (pairwise_gathered entries)
    (pairwise_gathered others)
  have equal : List.Forall₂ (· = ·) (gathered entries) (gathered others) := by
    refine (by_name.2 fun name => ?_).imp fun entry other same => Prod.ext same.1 same.2
    rw [lookup_gathered, lookup_gathered, lastOf_perm distinct perm]
    cases lastOf name others with
    | none => exact .none
    | some value => exact .some rfl
  rwa [List.forall₂_eq_eq_eq] at equal

theorem nodup_names {room : Nat} {members : List (Option String × Document)} {entries : List (String × Value)}
    (each : List.Forall₂ (Value.Carries room) members entries) (distinct : (members.map Prod.fst).Nodup) :
    (entries.map Prod.fst).Nodup := by
  have names : members.map Prod.fst = (entries.map Prod.fst).map some := by
    clear distinct
    induction each with
    | nil => rfl
    | cons here _ ih => rw [List.map_cons, List.map_cons, List.map_cons, here.1, ih]
  rw [names] at distinct
  exact distinct.of_map some

theorem ofDocument?_rearranged {room : Nat} {document other : Document} {value : Value}
    (found : Value.ofDocument? room document = some value) (rearranged : Rearranged document other) :
    Value.ofDocument? room other = some value := by
  induction room using Nat.strongRecOn generalizing document other value with
  | ind room ih =>
    cases rearranged with
    | refl => exact found
    | array each =>
      obtain ⟨less, values, rfl, rfl, items⟩ := Value.ofDocument?_array found
      have others := forall₂_carry each items fun _ _ _ rearranged found =>
        ih less (Nat.lt_succ_self less) found rearranged
      rw [Value.ofDocument?, if_neg (Nat.succ_ne_zero less), Nat.add_sub_cancel, Value.ofItems?_eq_some.2 others]
      rfl
    | object distinct perm names each =>
      obtain ⟨less, entries, rfl, rfl, members⟩ := Value.ofDocument?_object found
      obtain ⟨moved, middle, order⟩ := List.perm_comp_forall₂ perm.symm members
      have others : List.Forall₂ (Value.Carries less) _ moved :=
        forall₂_carry (forall₂_pairs names each) middle fun _ _ _ rearranged found =>
          ⟨rearranged.1.symm.trans found.1, ih less (Nat.lt_succ_self less) found.2 rearranged.2⟩
      rw [Value.ofDocument?, if_neg (Nat.succ_ne_zero less), Nat.add_sub_cancel, Value.ofMembers?_eq_some.2 others,
        gathered_perm (nodup_names members distinct) order.symm, Option.map_some, Value.sorted_eq_gathered]

theorem member?_rearranged {document other : Document} (rearranged : Rearranged document other) (name : String) :
    Option.Rel Rearranged (document.member? name) (other.member? name) := by
  cases rearranged with
  | refl =>
    cases document.member? name with
    | none => exact .none
    | some found => exact .some (.refl found)
  | array each => exact .none
  | object distinct perm names each =>
    have moved := lastOf_rel Function.injective_id (forall₂_pairs names each) (some name)
    rw [id, ← lastOf_perm distinct perm] at moved
    exact moved

theorem text?_rearranged {document document' : Document} (rearranged : Rearranged document document') : document.text? = document'.text? := by
  cases rearranged with
  | refl => rfl
  | array => rfl
  | object => rfl

theorem agrees_rearranged {room room' : Nat} {document document' other other' : Document} {value value' : Value}
    (here : Value.ofDocument? room document = some value) (there : Value.ofDocument? room' other = some value')
    (moved : Rearranged document document') (moved' : Rearranged other other') :
    Agrees document other ↔ Agrees document' other' :=
  (same_iff_agrees here there).symm.trans
    (same_iff_agrees (ofDocument?_rearranged here moved) (ofDocument?_rearranged there moved'))

end ClusterLifecycle.Json
