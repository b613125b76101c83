import ClusterLifecycle.Record.TextMap
import Mathlib.Data.List.Forall2
import Mathlib.Data.List.Nodup
import Mathlib.Data.String.Basic

/-!
Entries with names. What a name has is decided by the last entry of that name; putting entries in the
order of their names keeps just that, and sorted entries are the same where they say the same of each
name.
-/

namespace ClusterLifecycle.Json

/-! ### Members by name -/

section Lookup

variable {κ ν α β : Type} [BEq κ] [BEq ν] {R : α → β → Prop} {f : ν → κ}

def lastOf (name : κ) (entries : List (κ × α)) : Option α :=
  entries.reverse.lookup name

theorem lastOf_cons (name key : κ) (value : α) (entries : List (κ × α)) :
    lastOf name ((key, value) :: entries) =
      (lastOf name entries).or (if name == key then some value else none) := by
  rw [lastOf, List.reverse_cons, List.lookup_append, lastOf, List.lookup_cons, List.lookup_nil]
  cases name == key <;> rfl

variable [LawfulBEq κ] [LawfulBEq ν]

theorem lookup_rel (injective : Function.Injective f) {left : List (κ × α)} {right : List (ν × β)}
    (each : List.Forall₂ (fun entry other => entry.1 = f other.1 ∧ R entry.2 other.2) left right) (name : ν) :
    Option.Rel R (left.lookup (f name)) (right.lookup name) := by
  induction each with
  | nil => exact .none
  | @cons entry other left right head _ ih =>
    obtain ⟨key, x⟩ := entry
    obtain ⟨key', y⟩ := other
    obtain ⟨rfl, related⟩ := head
    rw [List.lookup_cons, List.lookup_cons]
    by_cases same : name = key'
    · subst same
      rw [beq_self_eq_true, beq_self_eq_true]
      exact .some related
    · have here : (name == key') = false := by simpa using same
      have there : (f name == f key') = false := by simpa using injective.ne same
      rw [here, there]
      exact ih

theorem lastOf_rel (injective : Function.Injective f) {left : List (κ × α)} {right : List (ν × β)}
    (each : List.Forall₂ (fun entry other => entry.1 = f other.1 ∧ R entry.2 other.2) left right) (name : ν) :
    Option.Rel R (lastOf (f name) left) (lastOf name right) :=
  lookup_rel injective (List.forall₂_reverse_iff.2 each) name

theorem lookup_filter {p : κ × α → Bool} {name : κ} (stays : ∀ value, p (name, value) = true)
    (entries : List (κ × α)) : (entries.filter p).lookup name = entries.lookup name := by
  induction entries with
  | nil => rfl
  | cons entry rest ih =>
    obtain ⟨key, value⟩ := entry
    by_cases same : name = key
    · subst same
      rw [List.filter_cons_of_pos (stays value), List.lookup_cons_self, List.lookup_cons_self]
    · have other : (name == key) = false := by simpa using same
      rw [List.filter_cons, List.lookup_cons, other, ← ih]
      split
      · rw [List.lookup_cons, other]
      · rfl

theorem lastOf_filter {p : κ × α → Bool} {name : κ} (stays : ∀ value, p (name, value) = true)
    (entries : List (κ × α)) : lastOf name (entries.filter p) = lastOf name entries := by
  rw [lastOf, lastOf, ← List.filter_reverse, lookup_filter stays]

theorem lookup_eq_some_iff_mem {entries : List (κ × α)} (distinct : (entries.map Prod.fst).Nodup) (name : κ)
    (value : α) : entries.lookup name = some value ↔ (name, value) ∈ entries := by
  induction entries with
  | nil => simp
  | cons entry rest ih =>
    obtain ⟨key, x⟩ := entry
    obtain ⟨fresh, distinct⟩ := List.nodup_cons.1 distinct
    rw [List.lookup_cons]
    by_cases same : name = key
    · subst same
      have absent : (name, value) ∉ rest := by
        intro member
        exact fresh (List.mem_map.2 ⟨(name, value), member, rfl⟩)
      simp [absent, eq_comm]
    · have other : (name == key) = false := by simpa using same
      rw [other]
      simp [ih distinct, same]

theorem lookup_perm {entries others : List (κ × α)} (distinct : (entries.map Prod.fst).Nodup)
    (perm : entries.Perm others) (name : κ) : entries.lookup name = others.lookup name := by
  have distinct' : (others.map Prod.fst).Nodup := (perm.map Prod.fst).nodup_iff.1 distinct
  refine Option.ext fun value => ?_
  rw [lookup_eq_some_iff_mem distinct, lookup_eq_some_iff_mem distinct', perm.mem_iff]

theorem lastOf_perm {entries others : List (κ × α)} (distinct : (entries.map Prod.fst).Nodup)
    (perm : entries.Perm others) (name : κ) : lastOf name entries = lastOf name others := by
  have first : (entries.reverse.map Prod.fst).Nodup := by rwa [List.map_reverse, List.nodup_reverse]
  exact lookup_perm first (entries.reverse_perm.trans (perm.trans others.reverse_perm.symm)) name

end Lookup

/-! ### Sorted entries -/

section Sorted

variable {α β : Type} {R : α → β → Prop}

theorem lookup_eq_none_of_lt {name : String} {entries : List (String × α)} (below : ∀ entry ∈ entries, name < entry.1) :
    entries.lookup name = none := by
  rw [List.lookup_eq_none_iff]
  intro entry member
  simpa using (below entry member).ne

theorem lt_of_mem_cons {name key : String} {value : α} {rest : List (String × α)} (lower : name < key)
    (above : ∀ entry ∈ rest, key < entry.1) : ∀ entry ∈ (key, value) :: rest, name < entry.1 := by
  intro entry member
  rcases List.mem_cons.1 member with rfl | later
  · exact lower
  · exact lower.trans (above entry later)

/-- Sorted entries that go together name by name go together one by one. -/
theorem forall₂_of_lookup {left : List (String × α)} {right : List (String × β)}
    (sorted : left.Pairwise (·.1 < ·.1)) (sorted' : right.Pairwise (·.1 < ·.1))
    (each : ∀ name, Option.Rel R (left.lookup name) (right.lookup name)) :
    List.Forall₂ (fun entry other => entry.1 = other.1 ∧ R entry.2 other.2) left right := by
  induction left generalizing right with
  | nil =>
    cases right with
    | nil => exact .nil
    | cons other right =>
      have here := each other.1
      rw [List.lookup_nil, List.lookup_cons_self] at here
      cases here
  | cons entry left ih =>
    obtain ⟨key, x⟩ := entry
    obtain ⟨above, sorted⟩ := List.pairwise_cons.1 sorted
    have here := each key
    rw [List.lookup_cons_self] at here
    cases right with
    | nil => cases here
    | cons other right =>
      obtain ⟨key', y⟩ := other
      obtain ⟨above', others⟩ := List.pairwise_cons.1 sorted'
      have there := each key'
      rw [List.lookup_cons_self] at there
      -- the smaller of the two first names would have nothing to go with
      rcases lt_trichotomy key key' with lower | rfl | higher
      · rw [lookup_eq_none_of_lt (lt_of_mem_cons lower above')] at here
        cases here
      · rw [List.lookup_cons_self] at here
        cases here with
        | some related =>
          refine .cons ⟨rfl, related⟩ (ih sorted others fun name => ?_)
          by_cases same : name = key
          · subst same
            rw [lookup_eq_none_of_lt above, lookup_eq_none_of_lt above']
            exact .none
          · have further := each name
            have other : (name == key) = false := by simpa using same
            rw [List.lookup_cons, List.lookup_cons, other] at further
            exact further
      · rw [lookup_eq_none_of_lt (lt_of_mem_cons higher above)] at there
        cases there

theorem forall₂_iff_lookup {left : List (String × α)} {right : List (String × β)}
    (sorted : left.Pairwise (·.1 < ·.1)) (sorted' : right.Pairwise (·.1 < ·.1)) :
    List.Forall₂ (fun entry other => entry.1 = other.1 ∧ R entry.2 other.2) left right ↔
      ∀ name, Option.Rel R (left.lookup name) (right.lookup name) :=
  ⟨lookup_rel Function.injective_id, forall₂_of_lookup sorted sorted'⟩

/-- An entry put into sorted entries in place of one of the same name. -/
def put (name : String) (value : α) : List (String × α) → List (String × α)
  | [] => [(name, value)]
  | (other, kept) :: rest =>
    if name < other then (name, value) :: (other, kept) :: rest
    else if name = other then (name, value) :: rest
    else (other, kept) :: put name value rest

theorem lookup_put (name other : String) (value : α) (entries : List (String × α)) :
    (put name value entries).lookup other = if other = name then some value else entries.lookup other := by
  induction entries with
  | nil =>
    rw [put, List.lookup_cons, List.lookup_nil]
    by_cases same : other = name
    · simp [same]
    · have there : (other == name) = false := by simpa using same
      rw [there, if_neg same]
  | cons entry rest ih =>
    obtain ⟨key, kept⟩ := entry
    rw [put]
    split_ifs <;> simp_all [List.lookup_cons] <;> grind

theorem mem_put {name : String} {value : α} {entries : List (String × α)} {entry : String × α}
    (member : entry ∈ put name value entries) : entry = (name, value) ∨ entry ∈ entries := by
  induction entries with
  | nil => exact .inl (List.mem_singleton.1 member)
  | cons first rest ih =>
    obtain ⟨key, kept⟩ := first
    rw [put] at member
    split_ifs at member <;> grind

theorem pairwise_put (name : String) (value : α) {entries : List (String × α)}
    (sorted : entries.Pairwise (·.1 < ·.1)) : (put name value entries).Pairwise (·.1 < ·.1) := by
  induction entries with
  | nil => exact List.pairwise_singleton ..
  | cons entry rest ih =>
    obtain ⟨key, kept⟩ := entry
    obtain ⟨above, rest_sorted⟩ := List.pairwise_cons.1 sorted
    rw [put]
    split_ifs with lower same
    · exact List.pairwise_cons.2 ⟨lt_of_mem_cons lower above, sorted⟩
    · subst same
      exact List.pairwise_cons.2 ⟨above, rest_sorted⟩
    · refine List.pairwise_cons.2 ⟨?_, ih rest_sorted⟩
      intro entry member
      rcases mem_put member with rfl | later
      · exact lt_of_le_of_ne (not_lt.1 lower) (Ne.symm same)
      · exact above entry later

def gathered (entries : List (String × α)) : List (String × α) :=
  entries.foldl (fun done entry => put entry.1 entry.2 done) []

theorem foldl_put (entries done : List (String × α)) :
    (done.Pairwise (·.1 < ·.1) →
      (entries.foldl (fun done entry => put entry.1 entry.2 done) done).Pairwise (·.1 < ·.1)) ∧
    ∀ name, (entries.foldl (fun done entry => put entry.1 entry.2 done) done).lookup name =
      (lastOf name entries).or (done.lookup name) := by
  induction entries generalizing done with
  | nil => exact ⟨id, fun name => rfl⟩
  | cons entry rest ih =>
    obtain ⟨key, value⟩ := entry
    rw [List.foldl_cons]
    refine ⟨fun sorted => (ih _).1 (pairwise_put key value sorted), fun name => ?_⟩
    rw [(ih _).2, lookup_put, lastOf_cons, Option.or_assoc]
    by_cases same : name = key
    · simp [same]
    · simp [same]

theorem pairwise_gathered (entries : List (String × α)) : (gathered entries).Pairwise (·.1 < ·.1) :=
  (foldl_put entries []).1 .nil

theorem lookup_gathered (name : String) (entries : List (String × α)) :
    (gathered entries).lookup name = lastOf name entries := by
  rw [gathered, (foldl_put entries []).2, List.lookup_nil, Option.or_none]

theorem mem_gathered {entries : List (String × α)} {entry : String × α} (member : entry ∈ gathered entries) :
    entry ∈ entries := by
  have nodup : ((gathered entries).map Prod.fst).Nodup :=
    List.pairwise_map.2 ((pairwise_gathered entries).imp fun lower => lower.ne)
  have found := (lookup_eq_some_iff_mem nodup entry.1 entry.2).2 member
  rw [lookup_gathered, lastOf] at found
  obtain ⟨front, rest, split, -⟩ := List.lookup_eq_some_iff.1 found
  have listed : entry ∈ entries.reverse := by simp [split]
  exact List.mem_reverse.1 listed

theorem gathered_of_pairwise {entries : List (String × α)} (sorted : entries.Pairwise (·.1 < ·.1)) :
    gathered entries = entries := by
  have nodup : (entries.map Prod.fst).Nodup := List.pairwise_map.2 (sorted.imp fun lower => lower.ne)
  have alike : ∀ name, (gathered entries).lookup name = entries.lookup name := by
    intro name
    rw [lookup_gathered, lastOf_perm nodup (List.reverse_perm entries).symm, lastOf, List.reverse_reverse]
  have each : List.Forall₂ (fun entry other => entry.1 = other.1 ∧ entry.2 = other.2) (gathered entries) entries := by
    refine forall₂_of_lookup (pairwise_gathered entries) sorted fun name => ?_
    rw [alike]
    cases entries.lookup name with
    | none => exact .none
    | some value => exact .some rfl
  exact List.forall₂_eq_eq_eq ▸ each.imp fun entry other same => Prod.ext same.1 same.2

end Sorted

end ClusterLifecycle.Json

namespace ClusterLifecycle

theorem insertEntry_eq_put (name text : String) (entries : List (String × String)) :
    insertEntry name text entries = Json.put name text entries := by
  induction entries with
  | nil => rfl
  | cons entry rest ih => rw [insertEntry, Json.put, ih]

namespace TextMap

theorem entries_foldl_insert (entries : List (String × String)) (map : TextMap) :
    (entries.foldl (fun map entry => map.insert entry.1 entry.2) map).entries =
      entries.foldl (fun done entry => Json.put entry.1 entry.2 done) map.entries := by
  induction entries generalizing map with
  | nil => rfl
  | cons entry rest ih =>
    have inserted : (map.insert entry.1 entry.2).entries = Json.put entry.1 entry.2 map.entries :=
      insertEntry_eq_put entry.1 entry.2 map.entries
    rw [List.foldl_cons, List.foldl_cons, ih, inserted]

theorem find?_ofList (entries : List (String × String)) (name : String) :
    (ofList entries).find? name = Json.lastOf name entries := by
  have gathered : (ofList entries).entries = Json.gathered entries := entries_foldl_insert entries empty
  rw [find?, gathered, Json.lookup_gathered]

end TextMap

end ClusterLifecycle
