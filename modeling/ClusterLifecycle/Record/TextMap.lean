/-!
Texts by name, kept in the order of their names. The order is part of the type, so two maps with
the same entries are equal.
-/

namespace ClusterLifecycle

/-- Entries put in order, an entry replacing one of the same name. -/
def insertEntry (name text : String) : List (String × String) → List (String × String)
  | [] => [(name, text)]
  | (other, kept) :: rest =>
    if name < other then (name, text) :: (other, kept) :: rest
    else if name = other then (name, text) :: rest
    else (other, kept) :: insertEntry name text rest

theorem mem_insertEntry {name text : String} {entries : List (String × String)} {entry : String × String}
    (member : entry ∈ insertEntry name text entries) : entry = (name, text) ∨ entry ∈ entries := by
  induction entries with
  | nil => simpa [insertEntry] using member
  | cons first rest ih =>
    obtain ⟨other, kept⟩ := first
    simp only [insertEntry] at member
    split at member
    · simpa using member
    · split at member
      · rcases List.mem_cons.1 member with same | later
        · exact .inl same
        · exact .inr (List.mem_cons_of_mem _ later)
      · rcases List.mem_cons.1 member with same | later
        · exact .inr (same ▸ List.mem_cons_self ..)
        · rcases ih later with new | old
          · exact .inl new
          · exact .inr (List.mem_cons_of_mem _ old)

theorem lt_of_not_lt_of_ne {a b : String} (notBelow : ¬ a < b) (ne : a ≠ b) : b < a := by
  rcases String.le_total a b with le | le
  · exact absurd (String.le_antisymm le (String.not_lt.1 notBelow)) ne
  · exact String.not_le.1 fun back => ne (String.le_antisymm back le)

theorem pairwise_insertEntry (name text : String) {entries : List (String × String)}
    (sorted : entries.Pairwise (·.1 < ·.1)) : (insertEntry name text entries).Pairwise (·.1 < ·.1) := by
  induction entries with
  | nil => simp [insertEntry]
  | cons first rest ih =>
    obtain ⟨other, kept⟩ := first
    have later := (List.pairwise_cons.1 sorted).1
    have tail := (List.pairwise_cons.1 sorted).2
    simp only [insertEntry]
    split
    · rename_i below
      refine List.pairwise_cons.2 ⟨?_, sorted⟩
      intro entry member
      rcases List.mem_cons.1 member with same | further
      · exact same ▸ below
      · exact String.lt_trans below (later entry further)
    · rename_i notBelow
      split
      · rename_i same
        exact List.pairwise_cons.2 ⟨fun entry member => same ▸ later entry member, tail⟩
      · rename_i ne
        refine List.pairwise_cons.2 ⟨?_, ih tail⟩
        intro entry member
        rcases mem_insertEntry member with new | old
        · exact new ▸ lt_of_not_lt_of_ne notBelow ne
        · exact later entry old

structure TextMap where
  entries : List (String × String)
  sorted : entries.Pairwise (·.1 < ·.1)
  deriving DecidableEq

namespace TextMap

def empty : TextMap := ⟨[], .nil⟩

instance : Inhabited TextMap := ⟨empty⟩

instance : Repr TextMap where
  reprPrec map _ := repr map.entries

def insert (map : TextMap) (name text : String) : TextMap :=
  ⟨insertEntry name text map.entries, pairwise_insertEntry name text map.sorted⟩

/-- Of entries with the same name the last one counts. -/
def ofList (entries : List (String × String)) : TextMap :=
  entries.foldl (fun map (name, text) => map.insert name text) empty

def find? (map : TextMap) (name : String) : Option String :=
  map.entries.lookup name

end TextMap

end ClusterLifecycle
